import Scout.Proofs.Run.Faults
import Scout.Proofs.Run.Reports

/-!
# The deadline of a run

The part of a run that the deadline governs either comes to its end before the deadline,
or is cut at it.  The report names the deadline when the run was cut, and also when the page
could not be opened or its address not be read in the time the page gave itself.
-/

namespace Scout

open Relation Exec

/-! ## Clocks -/

theorem le_self_of_le {d x : Float} (h : d ≤ x) : d ≤ d := by
  have unpacked (a b : Float.Model.UnpackedFloat) (h : a.le b = true) : a.le a = true := by
    unfold Float.Model.UnpackedFloat.le at *
    match a with
    | .notANumber => simp [Float.Model.UnpackedFloat.compare] at h
    | .infinity s => cases s <;> rfl
    | .zero s => rfl
    | .finite .positive m e v => simp [Float.Model.UnpackedFloat.compare]
    | .finite .negative m e v => simp [Float.Model.UnpackedFloat.compare]
  exact decide_eq_true (unpacked _ _ (of_decide_eq_true h))

namespace World

theorem deadline_listedPause (w : World) (seconds : Float) :
    (w.listedPause seconds).deadline = w.deadline := by
  unfold listedPause
  split <;> rfl

/-- No deadline has come. -/
def InTime (w : World) : Prop :=
  w.IsEarly w.clock

theorem Timely.inTime {w w' : World} (h : w.Timely w') (early : w.InTime) : w'.InTime := by
  cases h with
  | lasting _ _ later => exact later
  | paused seconds later =>
    unfold InTime IsEarly
    rw [show World.deadline { w.listedPause seconds with clock := w.clock + seconds } =
      w.deadline from w.deadline_listedPause seconds]
    exact later
  | _ => exact early

theorem Ordinary.inTime {w w' : World} (h : w.Ordinary w') (early : w.InTime) : w'.InTime := by
  cases h with
  | timely change => exact change.inTime early
  | _ => exact early

theorem Cut.clock {w w' : World} {d : Float} (h : w.Cut w') (limit : w.deadline = some d) :
    w'.clock = d ∧ d ≤ d := by
  cases h with
  | operation _ _ limit' late =>
    rw [limit] at limit'
    cases limit'
    exact ⟨rfl, le_self_of_le late⟩
  | pause _ limit' late =>
    rw [limit] at limit'
    cases limit'
    exact ⟨rfl, le_self_of_le late⟩

end World

/-! ## The part under the deadline -/

namespace Run

/-- What changes under the deadline: what the actions and the rules change, the count of the
actions that succeeded, and the errors of those that failed. -/
inductive Change (w : World) : World → Prop
  | ordinary {w' : World} (change : w.Ordinary w') : Change w w'
  | credited (r : ActionResult) : Change w (credit r w)
  | blamed (a : Action) (e : Fault) : Change w (blame a e w)

theorem ordinary_le_change : World.Ordinary ≤ Change :=
  fun _ _ change => .ordinary change

theorem follows_runActions (g : Setting) (actions : List Action) :
    (runActions g actions).Follows Change := by
  induction actions with
  | nil => exact follows_pure _
  | cons a rest ih =>
    intro w
    have executed := (ordinary_execute g a 1 w).mono ordinary_le_change
    rw [runActions_cons]
    rcases h : execute g a 1 w with ⟨r | e | _, w₁⟩ <;> rw [h] at executed
    · exact (ih _).after ((executed.changes (by simp)).tail (.credited r))
    · have blamed := (executed.changes (by simp)).tail (.blamed a e)
      dsimp only
      split
      · split
        · exact (ih _).after (blamed.tail (.ordinary (.timely (.logged _ _))))
        · exact .through (by simp) blamed
      · exact executed.retype (by simp)
    · exact .cut executed.comes

theorem follows_body (g : Setting) (p : Playbook) (now : Moment) :
    (body g p now).Follows Change := by
  refine (follows_runActions g p.actions).bind fun aborted => ?_
  cases aborted with
  | some m => exact follows_pure _
  | none =>
    exact ((Harvest.ordinary_run p now).mono ordinary_le_change).bind fun _ => follows_pure _

theorem Change.deadline {w w' : World} (h : Change w w') : w'.deadline = w.deadline := by
  cases h with
  | ordinary change => exact change.keeps.deadline
  | credited r =>
    unfold credit
    split <;> rfl
  | blamed => rfl

theorem Change.inTime {w w' : World} (h : Change w w') (early : w.InTime) : w'.InTime := by
  cases h with
  | ordinary change => exact change.inTime early
  | credited r =>
    unfold credit
    split <;> exact early
  | blamed => exact early

theorem deadline_of_changes {w w' : World} (h : ReflTransGen Change w w') :
    w'.deadline = w.deadline := by
  induction h with
  | refl => rfl
  | tail _ last ih => exact last.deadline.trans ih

theorem inTime_of_changes {w w' : World} (h : ReflTransGen Change w w') (early : w.InTime) :
    w'.InTime := by
  induction h with
  | refl => exact early
  | tail _ last ih => exact last.inTime ih

section Limit

variable (g : Setting) (p : Playbook) (now : Moment) {w₁ w₂ : World} {out : Outcome Ending}

theorem deadline_underLimit {budget : Float} (positive : 0.0 < budget) (w : World) :
    (underLimit budget w).deadline = some (w.clock + budget) := by
  simp [underLimit, if_pos positive]

/-- Under a deadline that lies ahead the run is cut exactly when the clock comes to it. -/
theorem cut_iff_late (positive : 0.0 < g.options.budget)
    (ran : body g p now (underLimit g.options.budget w₁) = (out, w₂))
    (early : (underLimit g.options.budget w₁).InTime) :
    out = .cancelled ↔ w₁.clock + g.options.budget ≤ w₂.clock := by
  have limit := deadline_underLimit positive w₁
  have course := follows_body g p now (underLimit g.options.budget w₁)
  rw [ran] at course
  -- changes leave the clock before the deadline, and a cut puts it there
  cases course with
  | through uncut changes =>
    refine ⟨fun h => absurd h uncut, fun late => ?_⟩
    exact absurd late
      (inTime_of_changes changes early _ ((deadline_of_changes changes).trans limit))
  | cut comes =>
    obtain ⟨v, v', n, changes, cut, rfl⟩ := comes
    obtain ⟨clock, number⟩ := cut.clock ((deadline_of_changes changes).trans limit)
    refine ⟨fun _ => ?_, fun _ => rfl⟩
    rw [show World.clock { v' with retryDepth := n } = w₁.clock + g.options.budget from clock]
    exact number

end Limit

/-! ## A run that lingers -/

/-- A wait of five seconds that may fail, inside a retry that may fail. -/
def patience : Action :=
  ⟨⟨"again", .retry, "", none, none, none, some 2, none, none, true⟩,
    some [⟨⟨"linger", .wait, "", none, some (.int 5000), none, some 3, none, none, true⟩, none⟩]⟩

def lingering : Playbook :=
  ⟨"p", "P", "", "1.0.0", "b", [], [], [patience], [], .standard, .standard⟩

def brief : RunOptions :=
  { RunOptions.standard with budget := 0.05 }

def newYear : Stamp :=
  ⟨⟨2024, 1, 1, 0, 0, 0, 0, some 0⟩, 1704067200000⟩

/-- The world in which the page of that playbook is open. -/
def lingered : World :=
  (Browse.openPage (outset lingering [] (.opening .blank []))).2

/-! ## What the report says of the deadline -/

theorem append_ne_append {a b : String} (i : Nat) (hi : i < a.toList.length)
    (hj : i < b.toList.length) (h : a.toList[i] ≠ b.toList[i]) (s t : String) :
    a ++ s ≠ b ++ t := by
  intro same
  have chars := congrArg (fun s => s.toList[i]?) same
  rw [String.toList_append, String.toList_append, List.getElem?_append_left hi,
    List.getElem?_append_left hj, List.getElem?_eq_getElem hi, List.getElem?_eq_getElem hj] at chars
  exact h (Option.some.inj chars)

theorem overrunMessage_eq (budget : Float) :
    overrunMessage budget = "Playbook execution exceeded the " ++
      (Decimal.generalText 6 budget ++ "s run deadline") :=
  String.append_assoc

theorem describeFailure_ne_overrun (id : String) (e : Fault) (budget : Float) :
    describeFailure id e ≠ overrunMessage budget := by
  have differs (s t : String) : "Action " ++ s ≠ "Playbook execution exceeded the " ++ t :=
    append_ne_append 0 (by decide) (by decide) (by decide) s t
  rw [overrunMessage_eq]
  unfold describeFailure
  dsimp only
  split <;> simp only [String.append_assoc] <;> exact differs _ _

theorem faultReport_eq_overrun_iff {budget : Float} (positive : 0.0 < budget) {e : Fault} :
    faultReport budget e = overrunMessage budget ↔ e.kind = .timeout := by
  have failing (m t : String) :
      "Playbook execution failed: " ++ m ≠ "Playbook execution exceeded the " ++ t :=
    append_ne_append 20 (by decide) (by decide) (by decide) m t
  have extracting (m t : String) :
      "Opportunity extraction failed: " ++ m ≠ "Playbook execution exceeded the " ++ t :=
    append_ne_append 0 (by decide) (by decide) (by decide) m t
  unfold faultReport
  cases e.kind with
  | timeout => simp [if_pos positive]
  | extraction => simp [overrunMessage_eq, extracting]
  | page | value | overflow | kind | action => simp [overrunMessage_eq, failing]

/-- The errors noted so far are failures of actions. -/
def BlamesActions (w : World) : Prop :=
  ∀ m ∈ w.context.errors, ∃ id e, m = describeFailure id e

theorem Change.blamesActions {w w' : World} (h : Change w w') (before : BlamesActions w) :
    BlamesActions w' := by
  unfold BlamesActions at *
  cases h with
  | ordinary change => rwa [change.keeps.errors]
  | credited r =>
    unfold credit
    split <;> exact before
  | blamed a e =>
    intro m hm
    rcases List.mem_append.mp hm with old | new
    · exact before m old
    · exact ⟨a.id, e, List.mem_singleton.mp new⟩

theorem blamesActions_of_course {α : Type} {w w' : World} {out : Outcome α}
    (h : Course Change w (out, w')) (before : BlamesActions w) : BlamesActions w' :=
  h.holds (P := fun w w' => BlamesActions w → BlamesActions w') (fun _ => id)
    (fun first second => second ∘ first) (fun _ _ => Change.blamesActions)
    (fun _ _ cut old m hm => old m (cut.keeps.errors ▸ hm)) (fun _ _ => id) before

/-- What actions cannot report themselves is out of range. -/
theorem runActions_failed {g : Setting} {actions : List Action} {w w' : World} {e : Fault}
    (h : runActions g actions w = (.failed e, w')) : e.kind = .overflow := by
  induction actions generalizing w with
  | nil => cases h
  | cons a rest ih =>
    rw [runActions_cons] at h
    rcases he : execute g a 1 w with ⟨r | e' | _, w₁⟩ <;> simp only [he] at h
    · exact ih h
    · split at h
      · split at h
        · exact ih h
        · cases h
      · next unlike =>
        cases h
        rcases fault_of_execute he with ofAction | ⟨-, rfl⟩
        · exact absurd ofAction unlike
        · rfl
    · cases h

section Overruns

variable (g : Setting) (p : Playbook) (now : Moment)

/-- The ways to a report that names the deadline: the run is cut at it, or the page takes too long
by its own measure where no action and no rule answers for it. -/
inductive Overruns (w : World) : Prop
  | unopened {e : Fault} {w₁ : World} (failed : Browse.openPage w = (.failed e, w₁))
      (timeout : e.kind = .timeout) : Overruns w
  | cut {w₁ w₂ : World} (opened : Browse.openPage w = (.done (), w₁))
      (expired : body g p now (underLimit g.options.budget w₁) = (.cancelled, w₂)) : Overruns w
  | unplaced {e : Fault} {w₁ w₂ w₃ w₄ : World} (opened : Browse.openPage w = (.done (), w₁))
      (returned : runActions g p.actions (underLimit g.options.budget w₁) = (.done none, w₂))
      (applied : Harvest.applyRules p.rules w₂ = (.done (), w₃))
      (failed : Browse.address w₃ = (.failed e, w₄)) (timeout : e.kind = .timeout) : Overruns w

variable {g p now} {w w' : World} {e : Fault}

/-- Of what takes too long under the deadline only the address of the page is not reported by an
action or a rule. -/
theorem body_timed_out_iff (timeout : e.kind = .timeout) :
    body g p now w = (.failed e, w') ↔
      ∃ w₂ w₃, runActions g p.actions w = (.done none, w₂) ∧
        Harvest.applyRules p.rules w₂ = (.done (), w₃) ∧
        Browse.address w₃ = (.failed e, w') := by
  constructor
  · intro ran
    rcases bind_eq_failed_iff.mp ran with failed | ⟨aborted, w₂, returned, failed⟩
    · rw [runActions_failed failed] at timeout
      cases timeout
    · cases aborted with
      | some m => cases failed
      | none =>
        rcases bind_eq_failed_iff.mp failed with failed | ⟨_, _, _, ended⟩
        · rcases bind_eq_failed_iff.mp failed with failed | ⟨_, w₃, applied, failed⟩
          · have kind := Harvest.failsOnly_applyRules p.rules w₂ e (congrArg Prod.fst failed)
            rw [kind] at timeout
            cases timeout
          · rcases Harvest.assemble_failed failed with unread | kind
            · exact ⟨w₂, w₃, returned, applied, unread⟩
            · rw [kind] at timeout
              cases timeout
        · cases ended
  · rintro ⟨w₂, w₃, returned, applied, failed⟩
    have assembled : Harvest.assemble p now w₃ = (.failed e, w') :=
      bind_failed (bind_failed failed _) _
    exact (bind_done returned _).trans (bind_failed ((bind_done applied _).trans assembled) _)

theorem overruns_iff_of_opened {w₁ w₂ : World} {out : Outcome Ending}
    (opened : Browse.openPage w = (.done (), w₁))
    (ran : body g p now (underLimit g.options.budget w₁) = (out, w₂)) :
    Overruns g p now w ↔ out = .cancelled ∨ ∃ e, out = .failed e ∧ e.kind = .timeout := by
  constructor
  · rintro (⟨failed, -⟩ | ⟨opened', expired⟩ | ⟨opened', returned, applied, failed, timeout⟩) <;>
      rw [opened] at *
    · cases failed
    · cases opened'
      rw [ran] at expired
      exact .inl (Prod.mk.inj expired).1
    · cases opened'
      rw [(body_timed_out_iff timeout).mpr ⟨_, _, returned, applied, failed⟩] at ran
      exact .inr ⟨_, (Prod.mk.inj ran).1.symm, timeout⟩
  · rintro (rfl | ⟨e, rfl, timeout⟩)
    · exact .cut opened ran
    · obtain ⟨w₂, w₃, returned, applied, failed⟩ := (body_timed_out_iff timeout).mp ran
      exact .unplaced opened returned applied failed timeout

/-- What is added to the errors for the ending names the deadline when the run was cut or failed for
want of time. -/
theorem overrun_mem_reports_iff {budget : Float} (positive : 0.0 < budget)
    {out : Outcome Ending} (ran : body g p now w = (out, w')) :
    overrunMessage budget ∈ (endingOf out).reports budget ↔
      out = .cancelled ∨ ∃ e, out = .failed e ∧ e.kind = .timeout := by
  rcases body_cases ran with ⟨found, -, rfl, -⟩ | ⟨m, rfl, -⟩ | ⟨e, rfl⟩ | rfl
  · simp [endingOf, Ending.reports]
  · simp [endingOf, Ending.reports]
  · simpa [endingOf, Ending.reports, @eq_comm _ (overrunMessage budget)] using
      faultReport_eq_overrun_iff positive
  · simp [endingOf, Ending.reports]

end Overruns

/-- Under a positive budget a report names the deadline exactly when the run was cut at it, or
when opening the page or reading its address took longer than the page allows.  While the
deadline lay ahead when the page was open, a run is cut exactly when the clock has come to it
at the end of the actions and rules. -/
theorem start_overruns (o : RunOptions) (at_ : Stamp) (p : Playbook) (vars : Members Value)
    (w : World) (positive : 0.0 < o.budget) :
    let g := settingOf o at_ p
    let w₀ := outset p vars w
    let r := (start o at_ p vars w).1
    (overrunMessage o.budget ∈ r.errors ↔ Overruns g p at_.moment w₀) ∧
    ∀ w₁ w₂ out, Browse.openPage w₀ = (.done (), w₁) →
      body g p at_.moment (underLimit o.budget w₁) = (out, w₂) →
      (underLimit o.budget w₁).InTime →
      (out = .cancelled ↔ w₁.clock + o.budget ≤ w₂.clock) := by
  intro g w₀ r
  refine ⟨?_, fun w₁ w₂ out _ ran early => cut_iff_late g p at_.moment positive ran early⟩
  obtain ⟨agent, t, page, first⟩ := openPage_world w₀
  rcases ho : Browse.openPage w₀ with ⟨a | e | _, w₁⟩
  · rcases ran : body g p at_.moment (underLimit o.budget w₁) with ⟨out, w₂⟩
    obtain ⟨warnings, t', page', log, visited⟩ := visit_opened g p at_.moment ho ran
    obtain ⟨t'', log', -, started⟩ := start_of_visit visited
    have errors : r.errors = w₂.context.errors ++ (endingOf out).reports o.budget := by
      simp only [r, started]
      rfl
    have blames : BlamesActions w₂ := by
      have course := follows_body g p at_.moment (underLimit o.budget w₁)
      rw [ran] at course
      refine blamesActions_of_course course ?_
      have clean : w₁.context.errors = [] := by
        rw [ho] at first
        exact congrArg (fun w => w.context.errors) first
      simp [BlamesActions, underLimit, clean]
    have unblamed : overrunMessage o.budget ∉ w₂.context.errors := by
      intro blamed
      obtain ⟨id, e, same⟩ := blames _ blamed
      exact describeFailure_ne_overrun id e o.budget same.symm
    rw [errors, List.mem_append, or_iff_right unblamed, overruns_iff_of_opened ho ran]
    exact overrun_mem_reports_iff positive ran
  · obtain ⟨w', visited, log, reported⟩ := visit_unopened g p at_.moment ho
    obtain ⟨t', log', -, started⟩ := start_of_visit visited
    have errors : r.errors = [faultReport o.budget e] := by
      rw [ho] at first
      simp only [r, started, reported]
      rw [show w₁.context.errors = [] from congrArg (fun w => w.context.errors) first]
      rfl
    rw [errors, List.mem_singleton, eq_comm, faultReport_eq_overrun_iff positive]
    refine ⟨.unopened ho, ?_⟩
    rintro (⟨failed, timeout⟩ | ⟨opened, -⟩ | ⟨opened, -⟩) <;> rw [ho] at *
    · cases failed
      exact timeout
    · cases opened
    · cases opened
  · exact absurd (congrArg Prod.fst ho) (openPage_ne_cancelled rfl)

theorem start_overruns_lingering :
    0.0 < brief.budget ∧
    overrunMessage brief.budget ∈
      (start brief newYear lingering [] (.opening .blank [])).1.errors ∧
    lingered.clock + brief.budget ≤ (body (settingOf brief newYear lingering) lingering
      newYear.moment (underLimit brief.budget lingered)).2.clock := by
  have positive : 0.0 < brief.budget := by decide +kernel
  have opened : Browse.openPage (outset lingering [] (.opening .blank [])) =
    (.done (), lingered) := rfl
  have cut : (body (settingOf brief newYear lingering) lingering newYear.moment
      (underLimit brief.budget lingered)).1 = .cancelled :=
    Outcome.isCancelled_iff.mp (by decide +kernel)
  have early : (underLimit brief.budget lingered).InTime := by
    intro d limit
    rw [deadline_underLimit positive, Option.some.injEq] at limit
    rw [← limit]
    decide +kernel
  obtain ⟨overruns, late⟩ :=
    start_overruns brief newYear lingering [] (.opening .blank []) positive
  exact ⟨positive, overruns.mpr (.cut opened (Prod.ext cut rfl)),
    (late _ _ _ opened rfl early).mp cut⟩

def sluggish : Page :=
  { Page.blank with failures := [⟨"new_page", none, 1, 0, ⟨.timeout, "new_page failed"⟩⟩] }

/-- Not every report that names the deadline is of a run whose clock has come to it: a page that
took too long to open never had one. -/
theorem unopened_page_overruns :
    ¬ ∀ (o : RunOptions) (at_ : Stamp) (p : Playbook) (vars : Members Value) (w : World),
      0.0 < o.budget →
      overrunMessage o.budget ∈ (start o at_ p vars w).1.errors →
      ∃ w₁, Browse.openPage (outset p vars w) = (.done (), w₁) ∧
        w₁.clock + o.budget ≤
          (body (settingOf o at_ p) p at_.moment (underLimit o.budget w₁)).2.clock := by
  intro claim
  have reported : overrunMessage brief.budget ∈
      (start brief newYear lingering [] (.opening sluggish [])).1.errors := by
    decide +kernel
  have failed : (Browse.openPage (outset lingering [] (.opening sluggish []))).1.fault? =
      some ⟨.timeout, "new_page failed"⟩ := by
    decide +kernel
  obtain ⟨w₁, opened, -⟩ :=
    claim brief newYear lingering [] (.opening sluggish []) (by decide +kernel) reported
  rw [opened] at failed
  cases failed

end Run

end Scout
