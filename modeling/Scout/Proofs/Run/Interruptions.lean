import Scout.Proofs.Run.Accounts
import Scout.Proofs.Run.Filling
import Scout.Proofs.Run.Journal
import Scout.Proofs.Run.Records

/-!
# Runs that are cut

The deadline of a run cuts an operation or a pause, in the course of an action or in the
query of a rule.  No attempt, round, condition or screenshot around the cut takes it for
a fault: every action in progress ends there, without a result, and so does the run.
-/

namespace Scout

open Relation Exec

/-! ## Actions in progress -/

/-- The deadline cuts an operation or a pause of an action itself, or of one that the action has
called last.  The executions called before have come to their ends, and what they have added to
the results is listed, from the outside to the inside.  Nothing follows the cut, but that the count
of the retries around it is mended. -/
inductive Struck (g : Setting) : Action → Int → World → List ActionResult → World → Prop
  | own {a : Action} {depth : Int} {calls : List Nested} {w v w' : World}
      (way : Passes g (a.program.getD []) (depth + 1) w calls v)
      (comes : v.ComesToCut World.Timely w') :
      Struck g a depth w (calls.flatMap (Nested.added g (depth + 1))) w'
  | inner {a b : Action} {depth : Int} {calls : List Nested} {added : List ActionResult}
      {w v v' : World} (way : Passes g (a.program.getD []) (depth + 1) w calls v)
      (mem : b ∈ a.program.getD []) (struck : Struck g b (depth + 1) v added v') (n : Nat) :
      Struck g a depth w (calls.flatMap (Nested.added g (depth + 1)) ++ added)
        { v' with retryDepth := n }

section Striking

variable {g : Setting} {a : Action} {depth : Int} {w w' : World} {added : List ActionResult}

theorem Struck.results (h : Struck g a depth w added w') :
    w'.context.results = w.context.results ++ added := by
  induction h with
  | own way comes => exact (Breaks.own way comes).results
  | inner way _ _ _ ih =>
    rw [← List.append_assoc, ← way.results]
    exact ih

theorem struck_of_below
    (below : ∀ b ∈ a.program.getD [], ∀ {v v' : World},
      execute g b (depth + 1) v = (.cancelled, v') → ∃ added, Struck g b (depth + 1) v added v')
    (h : execute g a depth w = (.cancelled, w')) : ∃ added, Struck g a depth w added w' := by
  rcases lt_or_ge g.options.maxDepth depth with deep | allowed
  · rw [execute_tooDeep deep] at h
    cases h
  · have concluded := concludes_execute g a allowed w
    rw [h] at concluded
    generalize nestedCalls g a depth w = calls at concluded
    cases concluded with
    | cut breaks =>
      cases breaks with
      | own way comes => exact ⟨_, .own way comes⟩
      | inner way mem cut n =>
        obtain ⟨added, struck⟩ := below _ mem cut
        exact ⟨_, .inner way mem struck n⟩

mutual

/-- An execution that is cut is struck, however deep in it the cut is. -/
theorem struck_execute : ∀ (a : Action) (depth : Int) {w w' : World},
    execute g a depth w = (.cancelled, w') → ∃ added, Struck g a depth w added w'
  | ⟨s, none⟩, _, _, _, h =>
    struck_of_below (a := ⟨s, none⟩) (fun _ mem => absurd mem List.not_mem_nil) h
  | ⟨s, some program⟩, depth, _, _, h =>
    struck_of_below (a := ⟨s, some program⟩)
      (fun b mem => struck_program program b mem (depth + 1)) h

theorem struck_program : ∀ (program : List Action), ∀ b ∈ program, ∀ (depth : Int)
    {w w' : World}, execute g b depth w = (.cancelled, w') → ∃ added, Struck g b depth w added w'
  | [], _, mem, _, _, _, _ => absurd mem List.not_mem_nil
  | a :: rest, b, mem, depth, _, _, h => by
    rcases List.mem_cons.mp mem with same | others
    · rw [same] at h ⊢
      exact struck_execute a depth h
    · exact struck_program rest b others depth h

end

end Striking

namespace Run

/-! ## The place of the cut -/

/-- Where the deadline cuts a run: in an execution of an action, after those before it were
invoked, or in the query of a rule, after all the actions were invoked and the rules before it
applied.  What is in progress there adds no result of its own. -/
inductive CutIn (g : Setting) (p : Playbook) (begun : World) : List Invoked → World → Prop
  | action {invoked : List Invoked} {a : Action} {rest : List Action}
      {added : List ActionResult} {v w : World}
      (order : p.actions = invoked.map Invoked.action ++ a :: rest)
      (invokes : Invokes g begun invoked v) (executed : execute g a 1 v = (.cancelled, w))
      (struck : Struck g a 1 v added w)
      (results : w.context.results = v.context.results ++ added) : CutIn g p begun invoked w
  | rule {invoked : List Invoked} {served : List Harvest.Served} {r : ExtractionRule}
      {rest : List ExtractionRule} {u v w : World}
      (all : invoked.map Invoked.action = p.actions) (invokes : Invokes g begun invoked u)
      (acted : runActions g p.actions begun = (.done none, u))
      (order : p.rules = served.map Harvest.Served.rule ++ r :: rest)
      (applied : Harvest.Applied served u v)
      (asked : Browse.queryAll r.selector v = (.cancelled, w)) (cut : v.Cut w)
      (results : w.context.results = u.context.results) : CutIn g p begun invoked w

variable {g : Setting} {p : Playbook} {now : Moment} {w w' : World} {invoked : List Invoked}

theorem invokes_of_cancelled {actions : List Action}
    (h : runActions g actions w = (.cancelled, w')) :
    ∃ invoked a rest v, actions = invoked.map Invoked.action ++ a :: rest ∧
      Invokes g w invoked v ∧ execute g a 1 v = (.cancelled, w') := by
  induction actions generalizing w with
  | nil => cases h
  | cons a rest ih =>
    rw [runActions_cons] at h
    rcases he : execute g a 1 w with ⟨r | e | _, w₁⟩ <;> simp only [he] at h
    · obtain ⟨invoked, b, later, v, rfl, invokes, cut⟩ := ih h
      exact ⟨⟨a, .ok r⟩ :: invoked, b, later, v, rfl, .cons he invokes, cut⟩
    · split at h
      · split at h
        -- the next action is invoked after a failure only with leave to continue
        · next goesOn =>
          obtain ⟨invoked, b, later, v, rfl, invokes, cut⟩ := ih h
          refine ⟨⟨a, .error e⟩ :: invoked, b, later, v, rfl, .cons he ?_, cut⟩
          simp only [Invoked.settle, goesOn, if_true]
          exact invokes
        · cases h
      · cases h
    · cases h
      exact ⟨[], a, rest, w, rfl, .nil w, he⟩

theorem cut_of_queryAll {selector : String} (h : Browse.queryAll selector w = (.cancelled, w')) :
    w.Cut w' := by
  rw [queryAll_eq, bind_eq_cancelled_iff, perform_apply] at h
  rcases h with asked | ⟨_, _, _, read⟩
  · split at asked
    · next slow =>
      rcases pass_cases (w.latency (.queryAll selector) / 1000.0)
          (w.listed (.queryAll selector)) with
        ⟨-, passed⟩ | ⟨d, limit, late, cut⟩
      · rw [bind_done passed] at asked
        exact absurd (congrArg Prod.fst asked) (failing_ne_cancelled _ _)
      · rw [bind_cancelled cut] at asked
        cases asked
        exact .operation rfl slow limit late
    · exact absurd (congrArg Prod.fst asked) (failing_ne_cancelled _ _)
  · cases read

theorem keeps_of_applied {served : List Harvest.Served} (h : Harvest.Applied served w w') :
    w'.context.results = w.context.results ∧ w'.context.errors = w.context.errors := by
  induction h with
  | none => exact ⟨rfl, rfl⟩
  | first asked _ ih =>
    rw [ih.1, ih.2, ← (Harvest.world_of_answer asked).2]
    exact ⟨rfl, rfl⟩

theorem assemble_ne_cancelled (p : Playbook) (now : Moment) (w : World) :
    (Harvest.assemble p now w).1 ≠ .cancelled := by
  obtain ⟨_, _, _, -, assembled⟩ | ⟨_, _, -, failed⟩ := Harvest.assemble_cases p now w
  · simp [assembled]
  · simp [failed]

theorem cutIn_of_body (h : body g p now w = (.cancelled, w')) :
    ∃ invoked, CutIn g p w invoked w' := by
  rcases bind_eq_cancelled_iff.mp h with acting | ⟨aborted, u, acted, h⟩
  -- cut among the actions
  · obtain ⟨invoked, a, rest, v, order, invokes, executed⟩ := invokes_of_cancelled acting
    obtain ⟨added, struck⟩ := struck_execute a 1 executed
    exact ⟨invoked, .action order invokes executed struck struck.results⟩
  -- cut after them: the rules are applied only if no action aborted the run, and only a query
  -- takes time, so that assembling the records is never cut
  · obtain ⟨invoked, invokes, covers⟩ := invokes_of_runActions g p.actions acted
    cases aborted with
    | some message => cases h
    | none =>
      rcases bind_eq_cancelled_iff.mp h with harvested | ⟨_, _, _, ended⟩
      · rcases bind_eq_cancelled_iff.mp harvested with applying | ⟨_, v, _, assembled⟩
        · have ends := Harvest.rulesEnd_applyRules p.rules u
          rw [applying] at ends
          cases ends with
          | cut order applied asked =>
            have cut := cut_of_queryAll asked
            exact ⟨invoked, .rule (covers.unaborted rfl) invokes acted order applied asked cut
              (cut.results.trans (keeps_of_applied applied).1)⟩
        · exact absurd (congrArg Prod.fst assembled) (assemble_ne_cancelled p now v)
      · cases ended

theorem CutIn.errors (h : CutIn g p w invoked w') :
    w'.context.errors = w.context.errors ++ invoked.filterMap Invoked.error? := by
  cases h with
  | action _ invokes executed => rw [(keeps_of_execute executed).errors, invokes.errors]
  | rule _ invokes _ _ applied _ cut =>
    rw [cut.keeps.errors, (keeps_of_applied applied).2, invokes.errors]

/-- A run whose page has opened is cut exactly when the clock comes to the deadline.  The cut has
its place in the actions and rules of the playbook: the actions before it were invoked, and what is
in progress adds no result.  The page is closed, and nothing else is done.  The errors are those of
the actions invoked, and last the deadline; nothing is found. -/
theorem start_cut (o : RunOptions) (at_ : Stamp) (p : Playbook) (vars : Members Value)
    {w w₁ w₂ : World} {out : Outcome Ending} (positive : 0.0 < o.budget)
    (opened : Browse.openPage (outset p vars w) = (.done (), w₁))
    (ran : body (settingOf o at_ p) p at_.moment (underLimit o.budget w₁) = (out, w₂)) :
    let begun := underLimit o.budget w₁
    let r := (start o at_ p vars w).1
    let after := (start o at_ p vars w).2
    begun.deadline = some (w₁.clock + o.budget) ∧
    (begun.InTime → (out = .cancelled ↔ w₁.clock + o.budget ≤ w₂.clock)) ∧
    (out ≠ .cancelled → ReflTransGen Change begun w₂) ∧
    (out = .cancelled → ∃ invoked, CutIn (settingOf o at_ p) p begun invoked w₂ ∧
      after.calls = w₂.calls.push .closePage ∧
      r.context.results = w₂.context.results ∧
      r.errors = invoked.filterMap Invoked.error? ++ [overrunMessage o.budget] ∧
      r.opportunities = []) := by
  intro begun r after
  refine ⟨deadline_underLimit positive w₁,
    cut_iff_late (settingOf o at_ p) p at_.moment positive ran, fun uncut => ?_, ?_⟩
  · have course := follows_body (settingOf o at_ p) p at_.moment begun
    rw [ran] at course
    exact course.changes uncut
  · rintro rfl
    obtain ⟨invoked, place⟩ := cutIn_of_body ran
    obtain ⟨warnings, t, page, log, visited⟩ :=
      visit_opened (settingOf o at_ p) p at_.moment opened ran
    obtain ⟨t', log', -, started⟩ := start_of_visit visited
    have fresh : begun.context.errors = [] :=
      congrArg RunContext.errors (context_of_opened opened)
    have errors := place.errors
    rw [fresh, List.nil_append] at errors
    refine ⟨invoked, place, ?_, ?_, ?_, ?_⟩
    · simp only [after, started]
    · simp only [r, started]
      rfl
    · simp only [r, started, ← errors]
      rfl
    · simp only [r, started]
      rfl

theorem start_cut_lingering :
    let begun := underLimit brief.budget lingered
    0.0 < brief.budget ∧
    Browse.openPage (outset lingering [] (.opening .blank [])) = (.done (), lingered) ∧
    ∃ w₂ invoked, body (settingOf brief newYear lingering) lingering newYear.moment begun =
        (.cancelled, w₂) ∧
      CutIn (settingOf brief newYear lingering) lingering begun invoked w₂ ∧
      (start brief newYear lingering [] (.opening .blank [])).1.errors =
        invoked.filterMap Invoked.error? ++ [overrunMessage brief.budget] ∧
      (start brief newYear lingering [] (.opening .blank [])).1.context.results =
        w₂.context.results := by
  intro begun
  have positive : 0.0 < brief.budget := by decide +kernel
  have opened : Browse.openPage (outset lingering [] (.opening .blank [])) =
    (.done (), lingered) := rfl
  have cut : (body (settingOf brief newYear lingering) lingering newYear.moment begun).1 =
      .cancelled :=
    Outcome.isCancelled_iff.mp (by decide +kernel)
  rcases ran : body (settingOf brief newYear lingering) lingering newYear.moment begun with
    ⟨out, w₂⟩
  rw [ran] at cut
  obtain rfl : out = .cancelled := cut
  obtain ⟨-, -, -, ends⟩ := start_cut brief newYear lingering [] positive opened ran
  obtain ⟨invoked, place, -, results, errors, -⟩ := ends rfl
  exact ⟨positive, opened, w₂, invoked, rfl, place, errors, results⟩

end Run

end Scout
