import Scout.Proofs.Run.Rules
import Scout.Proofs.Run.Visits

/-!
# Reports of runs

A run always gives a report.  It is one of success exactly when no error was
noted, and that is exactly when the page opened, every action of the playbook
returned, and the rules were applied and their fields assembled.  A run that was
cut short reports an error and no opportunity, and keeps what it had gathered.
-/

namespace Scout

open Relation Exec

/-! ## Actions that return -/

/-- The results that an action returns with: it succeeded, was skipped, or failed though it may. -/
def Step.Settles (s : Step) (r : ActionResult) : Prop :=
  r.success = true ∧ r.skipped = false ∨ r.success = true ∧ r.skipped = true ∨
    r.success = false ∧ s.optional = true

theorem execute_settles {g : Setting} {a : Action} {depth : Int} {w w' : World}
    {r : ActionResult} (h : execute g a depth w = (.done r, w')) : a.step.Settles r := by
  have executed := execution_execute g a depth w
  rw [h] at executed
  cases executed with
  | skipped => exact .inr (.inl ⟨rfl, rfl⟩)
  | succeeded => exact .inl ⟨rfl, rfl⟩
  | excused _ _ _ _ optional => exact .inr (.inr ⟨rfl, optional⟩)

/-! ## The actions of a run -/

namespace Run

/-- Every action returns, one after another, and the world after the last one. -/
inductive Returns (g : Setting) : List Action → World → World → Prop
  | nil (w : World) : Returns g [] w w
  | cons {a : Action} {rest : List Action} {r : ActionResult} {w w₁ w' : World}
      (returned : execute g a 1 w = (.done r, w₁)) (settled : a.step.Settles r)
      (others : Returns g rest (credit r w₁) w') : Returns g (a :: rest) w w'

theorem errors_credit (r : ActionResult) (w : World) :
    (credit r w).context.errors = w.context.errors := by
  unfold credit
  split <;> rfl

theorem Returns.runActions {g : Setting} {actions : List Action} {w w' : World}
    (h : Returns g actions w w') :
    runActions g actions w = (.done none, w') ∧ w'.context.errors = w.context.errors := by
  induction h with
  | nil w => exact ⟨rfl, rfl⟩
  | @cons a rest r w w₁ w' returned _ _ ih =>
    obtain ⟨done, errors⟩ := ih
    refine ⟨by rw [runActions_cons, returned]; exact done, ?_⟩
    rw [errors, errors_credit, (keeps_of_execute returned).errors]

/-- Actions add errors, never take one back; an abort has added one, and without any the
actions have all returned. -/
theorem errors_runActions (g : Setting) (actions : List Action) {w w' : World}
    {out : Outcome (Option String)} (h : runActions g actions w = (out, w')) :
    w.context.errors.length ≤ w'.context.errors.length ∧
      (∀ m, out = .done (some m) → w.context.errors.length < w'.context.errors.length) ∧
      (out = .done none → w'.context.errors.length = w.context.errors.length →
        Returns g actions w w') := by
  induction actions generalizing w with
  | nil =>
    cases h
    exact ⟨Nat.le_refl _, by simp, fun _ _ => .nil _⟩
  | cons a rest ih =>
    rw [runActions_cons] at h
    rcases he : execute g a 1 w with ⟨r | e | _, w₁⟩ <;> simp only [he] at h
    · have before : (credit r w₁).context.errors.length = w.context.errors.length := by
        rw [errors_credit, (keeps_of_execute he).errors]
      obtain ⟨grows, aborts, returns⟩ := ih h
      rw [before] at grows aborts returns
      exact ⟨grows, aborts, fun done same =>
        .cons he (execute_settles he) (returns done same)⟩
    · -- a failure that is excused adds its error all the same, so the rest cannot be clean
      have before : (blame a e w₁).context.errors.length = w.context.errors.length + 1 := by
        simp [blame, (keeps_of_execute he).errors]
      split at h
      · split at h
        · obtain ⟨grows, aborts, -⟩ := ih h
          rw [show (excuse a e w₁).context.errors = (blame a e w₁).context.errors from rfl,
            before] at grows aborts
          refine ⟨by omega, fun m hm => ?_, by omega⟩
          have := aborts m hm
          omega
        · cases h
          exact ⟨by omega, fun _ _ => by omega, by simp⟩
      · cases h
        exact ⟨by simp [(keeps_of_execute he).errors], by simp, by simp⟩
    · cases h
      exact ⟨by simp [(keeps_of_execute he).errors], by simp, by simp⟩

/-! ## Runs that get through and runs that are cut short -/

section Visit

variable (g : Setting) (p : Playbook) (now : Moment)

/-- The page opens, every action returns, and the pipeline returns opportunities. -/
def Completes (w : World) (found : List Opportunity) : Prop :=
  ∃ w₁ w₂ w₃, Browse.openPage w = (.done (), w₁) ∧
    Returns g p.actions (underLimit g.options.budget w₁) w₂ ∧
    Harvest.run p now w₂ = (.done found, w₃)

/-- The ways in which a run is cut short, each with the world at that moment. -/
inductive CutShort (w : World) : World → Prop
  | unopened {e : Fault} {cut : World} (failed : Browse.openPage w = (.failed e, cut)) :
      CutShort w cut
  | aborted {m : String} {w₁ cut : World} (opened : Browse.openPage w = (.done (), w₁))
      (stopped : runActions g p.actions (underLimit g.options.budget w₁) =
        (.done (some m), cut)) : CutShort w cut
  | failed {e : Fault} {w₁ cut : World} (opened : Browse.openPage w = (.done (), w₁))
      (stopped : body g p now (underLimit g.options.budget w₁) = (.failed e, cut)) :
      CutShort w cut
  | expired {w₁ cut : World} (opened : Browse.openPage w = (.done (), w₁))
      (stopped : body g p now (underLimit g.options.budget w₁) = (.cancelled, cut)) :
      CutShort w cut

variable {g p now} {w w₁ cut : World}

theorem body_of_finished {w₂ w₃ : World} {found : List Opportunity}
    (returned : runActions g p.actions w = (.done none, w₂))
    (harvested : Harvest.run p now w₂ = (.done found, w₃)) :
    body g p now w = (.done (.finished found), w₃) :=
  (bind_done returned _).trans (bind_done harvested _)

theorem body_of_aborted {m : String}
    (aborted : runActions g p.actions w = (.done (some m), cut)) :
    body g p now w = (.done (.aborted m), cut) :=
  bind_done aborted _

theorem Completes.body {found : List Opportunity}
    (opened : Browse.openPage w = (.done (), w₁)) (h : Completes g p now w found) :
    ∃ w₂ w₃, runActions g p.actions (underLimit g.options.budget w₁) = (.done none, w₂) ∧
      w₂.context.errors = w₁.context.errors ∧
      body g p now (underLimit g.options.budget w₁) = (.done (.finished found), w₃) := by
  obtain ⟨w₁', w₂, w₃, opened', returned, harvested⟩ := h
  rw [opened] at opened'
  cases opened'
  obtain ⟨done, errors⟩ := returned.runActions
  exact ⟨w₂, w₃, done, errors, body_of_finished done harvested⟩

theorem CutShort.body {end_ : World} (opened : Browse.openPage w = (.done (), w₁))
    (h : CutShort g p now w end_) :
    (∃ m, body g p now (underLimit g.options.budget w₁) = (.done (.aborted m), end_)) ∨
      (∃ e, body g p now (underLimit g.options.budget w₁) = (.failed e, end_)) ∨
      body g p now (underLimit g.options.budget w₁) = (.cancelled, end_) := by
  cases h with
  | unopened failed =>
    rw [opened] at failed
    cases failed
  | aborted opened' stopped =>
    rw [opened] at opened'
    cases opened'
    exact .inl ⟨_, body_of_aborted stopped⟩
  | failed opened' stopped =>
    rw [opened] at opened'
    cases opened'
    exact .inr (.inl ⟨_, stopped⟩)
  | expired opened' stopped =>
    rw [opened] at opened'
    cases opened'
    exact .inr (.inr stopped)

/-- How the part under the deadline can end, with what the actions had done by then. -/
theorem body_cases {out : Outcome Ending} (ran : body g p now w = (out, cut)) :
    (∃ found w₂, out = .done (.finished found) ∧
      runActions g p.actions w = (.done none, w₂) ∧
      Harvest.run p now w₂ = (.done found, cut)) ∨
    (∃ m, out = .done (.aborted m) ∧ runActions g p.actions w = (.done (some m), cut)) ∨
    (∃ e, out = .failed e) ∨ out = .cancelled := by
  rcases ha : runActions g p.actions w with ⟨(_ | m) | e | _, w₂⟩
  · rcases hh : Harvest.run p now w₂ with ⟨found | e | _, w₃⟩
    · rw [body_of_finished ha hh] at ran
      cases ran
      exact .inl ⟨found, w₂, rfl, rfl, hh⟩
    · rw [show body g p now w = (.failed e, w₃) from
        (bind_done ha _).trans (bind_failed hh _)] at ran
      cases ran
      exact .inr (.inr (.inl ⟨e, rfl⟩))
    · rw [show body g p now w = (.cancelled, w₃) from
        (bind_done ha _).trans (bind_cancelled hh _)] at ran
      cases ran
      exact .inr (.inr (.inr rfl))
  · rw [body_of_aborted ha] at ran
    cases ran
    exact .inr (.inl ⟨m, rfl, rfl⟩)
  · rw [show body g p now w = (.failed e, w₂) from bind_failed ha _] at ran
    cases ran
    exact .inr (.inr (.inl ⟨e, rfl⟩))
  · rw [show body g p now w = (.cancelled, w₂) from bind_cancelled ha _] at ran
    cases ran
    exact .inr (.inr (.inr rfl))

/-- A visit that ended otherwise than with opportunities was cut short once, where it ended. -/
theorem cut_of_unfinished {out : Outcome Ending}
    (opened : Browse.openPage w = (.done (), w₁))
    (ran : body g p now (underLimit g.options.budget w₁) = (out, cut))
    (unfinished : ∀ found, out ≠ .done (.finished found)) :
    (∀ found, ¬ Completes g p now w found) ∧ CutShort g p now w cut ∧
      (∀ end_, CutShort g p now w end_ → end_ = cut) ∧ (endingOf out).found = [] := by
  refine ⟨?_, ?_, ?_, ?_⟩
  · intro found completes
    obtain ⟨-, w₃, -, -, finished⟩ := completes.body opened
    rw [ran] at finished
    cases finished
    exact unfinished found rfl
  · rcases body_cases ran with ⟨found, -, rfl, -⟩ | ⟨m, rfl, aborted⟩ | ⟨e, rfl⟩ | rfl
    · exact absurd rfl (unfinished found)
    · exact .aborted opened aborted
    · exact .failed opened ran
    · exact .expired opened ran
  · intro end_ short
    rcases short.body opened with ⟨m, h⟩ | ⟨e, h⟩ | h <;> rw [ran] at h <;>
      exact (Prod.mk.inj h).2.symm
  · rcases out with (found | m | e | _) | e | _
    · exact absurd rfl (unfinished found)
    all_goals rfl

theorem report_of_ran {out : Outcome Ending} {added : List String}
    (opened : Browse.openPage w = (.done (), w₁)) (clean : w₁.context.errors = [])
    (ran : body g p now (underLimit g.options.budget w₁) = (out, cut))
    (reported : added = [] ↔ (endingOf out).isUnreported = false) :
    (cut.context.errors ++ added = [] ↔
        ∃ found, Completes g p now w found ∧ (endingOf out).found = found) ∧
      (∀ end_, CutShort g p now w end_ →
        cut.context.errors ++ added ≠ [] ∧ (endingOf out).found = [] ∧ end_ = cut) ∧
      ((∃ end_, CutShort g p now w end_) ∨ ∃ w₂,
        runActions g p.actions (underLimit g.options.budget w₁) = (.done none, w₂) ∧
        Harvest.run p now w₂ = (.done (endingOf out).found, cut)) := by
  rcases body_cases ran with ⟨found, w₂, rfl, returned, harvested⟩ | ⟨m, rfl, aborted⟩ |
    ⟨e, rfl⟩ | rfl
  · obtain rfl : added = [] := reported.mpr rfl
    have errors : cut.context.errors = w₂.context.errors := by
      have course := Harvest.ordinary_run p now w₂
      rw [harvested] at course
      exact (keeps_of_course course).errors
    rw [List.append_nil, errors]
    refine ⟨⟨fun h => ?_, ?_⟩, ?_, .inr ⟨w₂, returned, harvested⟩⟩
    · have all := (errors_runActions g p.actions returned).2.2 rfl (by
        rw [h, show (underLimit _ w₁).context.errors = [] from clean])
      exact ⟨found, ⟨w₁, w₂, cut, opened, all, harvested⟩, rfl⟩
    · rintro ⟨found', completes, -⟩
      obtain ⟨w₂', w₃, returned', kept, -⟩ := completes.body opened
      rw [returned] at returned'
      cases returned'
      rw [kept, clean]
    · intro end_ short
      rcases short.body opened with ⟨m, h⟩ | ⟨e, h⟩ | h <;> rw [ran] at h <;> cases h
  · have noted : cut.context.errors ++ added ≠ [] := by
      have grown := (errors_runActions g p.actions aborted).2.1 m rfl
      intro none
      rw [List.append_eq_nil_iff.mp none |>.1] at grown
      simp at grown
    obtain ⟨incomplete, short, unique, found⟩ := cut_of_unfinished opened ran (by simp)
    exact ⟨⟨fun h => absurd h noted, fun ⟨_, h, _⟩ => absurd h (incomplete _)⟩,
      fun end_ h => ⟨noted, found, unique end_ h⟩, .inl ⟨cut, short⟩⟩
  -- faults and the deadline are told by the report alone
  all_goals
    have noted : cut.context.errors ++ added ≠ [] := by
      intro none
      have unreported := reported.mp (List.append_eq_nil_iff.mp none).2
      cases unreported
    obtain ⟨incomplete, short, unique, found⟩ := cut_of_unfinished opened ran (by simp)
    exact ⟨⟨fun h => absurd h noted, fun ⟨_, h, _⟩ => absurd h (incomplete _)⟩,
      fun end_ h => ⟨noted, found, unique end_ h⟩, .inl ⟨cut, short⟩⟩

end Visit

/-! ## Whole runs -/

/-- Every run gives a report, and never anything else.  The report is one of success exactly
when it has no error, and it has none exactly when the page opened, every action returned
and the pipeline returned; it then has the opportunities of the pipeline.  When the run was
cut short the report has an error, no opportunity, and the variables and fields that the
run had at that moment; when it was not, the pipeline was reached and returned. -/
theorem start_reports (o : RunOptions) (at_ : Stamp) (p : Playbook) (vars : Members Value)
    (w : World) :
    let g := settingOf o at_ p
    let w₀ := outset p vars w
    let r := (start o at_ p vars w).1
    session g p at_.moment
        { w with context := RunContext.starting (p.vars.overlay vars), deadline := none } =
      (.done r, (start o at_ p vars w).2) ∧
    (r.success = true ↔ r.errors = []) ∧
    (r.errors = [] ↔
      ∃ found, Completes g p at_.moment w₀ found ∧ r.opportunities = found) ∧
    (∀ cut, CutShort g p at_.moment w₀ cut → r.errors ≠ [] ∧ r.opportunities = [] ∧
      r.context.vars = cut.context.vars ∧ r.context.extracted = cut.context.extracted) ∧
    ((∃ cut, CutShort g p at_.moment w₀ cut) ∨ ∃ w₁ w₂ w₃,
      Browse.openPage w₀ = (.done (), w₁) ∧
      runActions g p.actions (underLimit o.budget w₁) = (.done none, w₂) ∧
      Harvest.run p at_.moment w₂ = (.done r.opportunities, w₃)) := by
  intro g w₀ r
  obtain ⟨agent, t, page, first⟩ := openPage_world w₀
  rcases ho : Browse.openPage w₀ with ⟨a | e | _, w₁⟩
  · rw [ho] at first
    have clean : w₁.context.errors = [] :=
      congrArg (fun w => w.context.errors) first
    rcases ran : body g p at_.moment (underLimit o.budget w₁) with ⟨out, cut⟩
    obtain ⟨warnings, t', page', log, visited⟩ := visit_opened g p at_.moment ho ran
    obtain ⟨t'', log', session, started⟩ := start_of_visit visited
    obtain ⟨complete, short, through⟩ := report_of_ran ho clean ran Ending.reports_eq_nil_iff
    have hr : r = _ := congrArg Prod.fst started
    refine ⟨session, ?_, ?_, ?_, ?_⟩
    · rw [hr]
      simp [report]
    · rw [hr]
      exact complete
    · intro end_ h
      obtain ⟨errors, found, rfl⟩ := short end_ h
      rw [hr]
      exact ⟨errors, found, rfl, rfl⟩
    · refine through.imp id ?_
      rintro ⟨w₂, returned, harvested⟩
      refine ⟨w₁, w₂, cut, rfl, returned, ?_⟩
      rw [hr]
      exact harvested
  · obtain ⟨w', visited, log, reported⟩ := visit_unopened g p at_.moment ho
    obtain ⟨t', log', session, started⟩ := start_of_visit visited
    have hr : r = _ := congrArg Prod.fst started
    have noted : r.errors ≠ [] := by
      rw [hr, reported]
      simp [report]
    refine ⟨session, ?_, ⟨fun h => absurd h noted, ?_⟩, ?_, .inl ⟨w₁, .unopened ho⟩⟩
    · rw [hr]
      simp [report]
    · rintro ⟨found, ⟨w₁', _, _, opened, -⟩, -⟩
      rw [ho] at opened
      cases opened
    · intro cut short
      refine ⟨noted, by rw [hr]; rfl, ?_⟩
      cases short with
      | unopened failed =>
        rw [ho] at failed
        cases failed
        rw [hr, reported]
        exact ⟨rfl, rfl⟩
      | aborted opened _ | failed opened _ | expired opened _ =>
        rw [ho] at opened
        cases opened
  · exact absurd (congrArg Prod.fst ho) (openPage_ne_cancelled rfl)

end Run

end Scout
