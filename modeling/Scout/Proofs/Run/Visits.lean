import Scout.Proofs.Run.Executions

/-!
# Visits to a page

A visit opens a page, runs under a deadline, reports how that ended, and closes
the page.  Each part is described once by the world that it leaves, so that what
holds of a whole run is read off `visit_unopened` and `visit_opened`.
-/

namespace Scout

/-! ## One operation -/

namespace Exec

theorem attempt_world {α : Type} (x : Exec α) (w : World) : (attempt x w).2 = (x w).2 := by
  unfold attempt
  rcases x w with ⟨a | e | _, u⟩ <;> rfl

theorem pass_world (seconds : Float) (w : World) :
    ∃ t, (pass seconds w).2 = { w with clock := t } := by
  unfold pass
  dsimp only
  split
  · split <;> exact ⟨_, rfl⟩
  · exact ⟨_, rfl⟩

theorem pass_of_no_deadline (seconds : Float) {w : World} (h : w.deadline = none) :
    pass seconds w = (.done (), { w with clock := w.clock + seconds }) := by
  simp only [pass, h]

theorem failing_world (c : Call) (w : World) :
    ∃ rules, (failing c w).2 = { w with page := { w.page with failures := rules } } := by
  unfold failing
  simp only [bind_apply, read_apply, onPage, update_apply]
  cases (Page.nextFailure c w.page.failures).1 <;> exact ⟨_, rfl⟩

theorem failing_ne_cancelled (c : Call) (w : World) : (failing c w).1 ≠ .cancelled := by
  unfold failing
  simp only [bind_apply, read_apply, onPage, update_apply]
  cases (Page.nextFailure c w.page.failures).1 <;> simp

/-- An operation is listed first; then time passes, and the page may count a failure. -/
theorem perform_world (c : Call) (w : World) :
    ∃ t rules, (perform c w).2 = { w with
      calls := w.calls.push c, clock := t, page := { w.page with failures := rules } } := by
  unfold perform
  simp only [note, bind_apply, update_apply, read_apply]
  split
  · obtain ⟨t, ht⟩ := pass_world ((w.page.latency.find? c.name).getD 0.0 / 1000.0)
      { w with calls := w.calls.push c }
    rw [bind_apply]
    rcases hp : pass ((w.page.latency.find? c.name).getD 0.0 / 1000.0)
      { w with calls := w.calls.push c } with ⟨a | e | _, w₁⟩ <;> rw [hp] at ht <;> subst ht
    · obtain ⟨rules, hf⟩ := failing_world c { w with calls := w.calls.push c, clock := t }
      exact ⟨t, rules, hf⟩
    · exact ⟨t, w.page.failures, rfl⟩
    · exact ⟨t, w.page.failures, rfl⟩
  · obtain ⟨rules, hf⟩ := failing_world c { w with calls := w.calls.push c }
    exact ⟨w.clock, rules, hf⟩

theorem queryAll_world (selector : String) (w : World) :
    ∃ t rules, (Browse.queryAll selector w).2 = { w with
      calls := w.calls.push (.queryAll selector), clock := t,
      page := { w.page with failures := rules } } := by
  obtain ⟨t, rules, h⟩ := perform_world (.queryAll selector) w
  refine ⟨t, rules, ?_⟩
  rw [← h, queryAll_eq, bind_apply]
  rcases perform (.queryAll selector) w with ⟨a | e | _, u⟩ <;> rfl

theorem perform_ne_cancelled (c : Call) {w : World} (h : w.deadline = none) :
    (perform c w).1 ≠ .cancelled := by
  unfold perform
  simp only [note, bind_apply, update_apply, read_apply]
  split
  · rw [bind_apply, pass_of_no_deadline _ (w := { w with calls := w.calls.push c }) h]
    exact failing_ne_cancelled c _
  · exact failing_ne_cancelled c _

end Exec

open Exec

theorem openPage_world (w : World) :
    ∃ agent t p, (Browse.openPage w).2 =
      { w with calls := w.calls.push (.openPage agent), clock := t, page := p } := by
  obtain ⟨t, rules, h⟩ := perform_world (.openPage
    (if w.page.throughBrowser && w.page.userAgent != "" then some w.page.userAgent else none)) w
  exact ⟨_, t, _, h⟩

theorem openPage_ne_cancelled {w : World} (h : w.deadline = none) :
    (Browse.openPage w).1 ≠ .cancelled :=
  perform_ne_cancelled _ h

namespace Run

/-! ## The part under the deadline -/

/-- The world in which the deadline of a run has begun. -/
def underLimit (budget : Float) (w : World) : World :=
  { w with deadline := if 0.0 < budget then some (w.clock + budget) else none }

def endingOf : Outcome Ending → Ending
  | .done ending => ending
  | .failed e => .failed e
  | .cancelled => .expired

theorem underDeadline_apply (budget : Float) (x : Exec Ending) (w : World) :
    underDeadline budget x w = (.done (endingOf (x (underLimit budget w)).1),
      { (x (underLimit budget w)).2 with deadline := none }) := by
  unfold underDeadline underLimit
  dsimp only
  rcases x { w with deadline := if 0.0 < budget then some (w.clock + budget) else none }
    with ⟨a | e | _, w'⟩ <;> rfl

/-! ## The actions of a run -/

def credit (r : ActionResult) (w : World) : World :=
  if r.success then
    { w with context := { w.context with actionsExecuted := w.context.actionsExecuted + 1 } }
  else w

def blame (a : Action) (e : Fault) (w : World) : World :=
  { w with context := { w.context with
      errors := w.context.errors ++ [describeFailure a.id e] } }

def excuse (a : Action) (e : Fault) (w : World) : World :=
  { blame a e w with
    log := w.log.push (.warn, s!"Action {a.id} failed, continuing: {e.message}") }

theorem runActions_cons (g : Setting) (a : Action) (rest : List Action) (w : World) :
    runActions g (a :: rest) w = match execute g a 1 w with
      | (.done r, w₁) => runActions g rest (credit r w₁)
      | (.failed e, w₁) =>
        if e.isOfAction then
          if g.policy.continueOnError then runActions g rest (excuse a e w₁)
          else (.done (some s!"Action {a.id} failed"), blame a e w₁)
        else (.failed e, w₁)
      | (.cancelled, w₁) => (.cancelled, w₁) := by
  rw [runActions]
  rcases h : execute g a 1 w with ⟨r | e | _, w₁⟩
  · rw [bind_done (attempt_done h)]
    cases hr : r.success <;> simp [hr, credit, bind_apply, onContext]
  · rw [bind_done (attempt_failed h)]
    cases hk : e.isOfAction
    · simp [hk]
    · cases hc : g.policy.continueOnError <;>
        simp [hk, bind_apply, addError, onContext, Exec.log, blame, excuse]
  · rw [bind_cancelled (attempt_cancelled h)]

/-! ## What is reported -/

def Ending.found : Ending → List Opportunity
  | .finished found => found
  | _ => []

/-- Whether an ending has still to be reported. -/
def Ending.isUnreported : Ending → Bool
  | .failed _ | .expired => true
  | _ => false

def faultReport (budget : Float) (e : Fault) : String :=
  match e.kind with
  | .extraction => "Opportunity extraction failed: " ++ e.message
  | .timeout =>
    if 0.0 < budget then overrunMessage budget else "Playbook execution failed: " ++ e.message
  | _ => "Playbook execution failed: " ++ e.message

def Ending.reports (budget : Float) : Ending → List String
  | .failed e => [faultReport budget e]
  | .expired => [overrunMessage budget]
  | _ => []

theorem Ending.reports_eq_nil_iff {budget : Float} {ending : Ending} :
    ending.reports budget = [] ↔ ending.isUnreported = false := by
  cases ending <;> simp [reports, isUnreported]

def Reported (added : List String) (w w' : World) : Prop :=
  ∃ log, w' = { w with
    context := { w.context with errors := w.context.errors ++ added }, log }

theorem reportFault_world (p : Playbook) (budget : Float) (e : Fault) (w : World) :
    ∃ w', reportFault p budget e w = (.done (), w') ∧ Reported [faultReport budget e] w w' := by
  unfold reportFault reportOverrun faultReport
  cases e.kind
  case timeout =>
    by_cases h : 0.0 < budget
    · simp only [if_pos h]
      exact ⟨_, rfl, _, rfl⟩
    · simp only [if_neg h]
      exact ⟨_, rfl, _, rfl⟩
  all_goals exact ⟨_, rfl, _, rfl⟩

theorem reportEnding_world (p : Playbook) (budget : Float) (ending : Ending) (w : World) :
    ∃ w', reportEnding p budget ending w = (.done ending.found, w') ∧
      Reported (ending.reports budget) w w' := by
  cases ending with
  | finished found => exact ⟨w, rfl, w.log, by simp [Ending.reports]⟩
  | aborted m =>
    exact ⟨_, rfl, w.log.push (.warn, s!"Playbook {p.id} aborted: {m}"), by
      simp [Ending.reports]⟩
  | failed e =>
    obtain ⟨w', done, reported⟩ := reportFault_world p budget e w
    exact ⟨w', bind_done done fun _ => pure [], reported⟩
  | expired => exact ⟨_, rfl, _, rfl⟩

/-! ## Closing -/

theorem closePage_ne_cancelled {w : World} (h : w.deadline = none) :
    (Browse.closePage w).1 ≠ .cancelled :=
  perform_ne_cancelled _ h

theorem close_world {w : World} (h : w.deadline = none) :
    ∃ t page warnings log, close w = (.done (), { w with
      calls := w.calls.push .closePage, clock := t, page,
      context := { w.context with warnings := w.context.warnings ++ warnings }, log }) := by
  obtain ⟨t, rules, hw⟩ := perform_world .closePage w
  have open_ := closePage_ne_cancelled h
  rcases hc : Browse.closePage w with ⟨a | e | _, w₁⟩
  · rw [show perform .closePage w = _ from hc] at hw
    subst hw
    refine ⟨t, { w.page with failures := rules }, [], w.log, ?_⟩
    rw [close, bind_done (attempt_done hc)]
    simp
  · rw [show perform .closePage w = _ from hc] at hw
    subst hw
    refine ⟨t, { w.page with failures := rules }, ["Failed to close page: " ++ e.message],
      w.log.push (.warn, "Failed to close page: " ++ e.message), ?_⟩
    rw [close, bind_done (attempt_failed hc)]
    rfl
  · rw [hc] at open_
    exact absurd rfl open_

/-! ## Whole visits -/

section Visit

variable (g : Setting) (p : Playbook) (now : Moment) {w w₁ : World}

theorem visit_unopened {e : Fault} (unopened : Browse.openPage w = (.failed e, w₁)) :
    ∃ w', visit g p now w = (.done [], w') ∧
      Reported [faultReport g.options.budget e] w₁ w' := by
  obtain ⟨w', done, reported⟩ := reportFault_world p g.options.budget e w₁
  refine ⟨w', ?_, reported⟩
  rw [visit, bind_done (attempt_failed unopened)]
  exact bind_done done fun _ => pure []

theorem visit_opened {w₂ : World} {out : Outcome Ending}
    (opened : Browse.openPage w = (.done (), w₁))
    (ran : body g p now (underLimit g.options.budget w₁) = (out, w₂)) :
    ∃ warnings t page log,
      visit g p now w = (.done (endingOf out).found, { w₂ with
        deadline := none
        calls := w₂.calls.push .closePage
        clock := t, page, log
        context := { w₂.context with
          errors := w₂.context.errors ++ (endingOf out).reports g.options.budget
          warnings := w₂.context.warnings ++ warnings } }) := by
  have limited : underDeadline g.options.budget (body g p now) w₁ =
      (.done (endingOf out), { w₂ with deadline := none }) := by
    rw [underDeadline_apply, ran]
  obtain ⟨w₃, reported, log, rfl⟩ := reportEnding_world p g.options.budget
    (endingOf out) { w₂ with deadline := none }
  obtain ⟨t, page, warnings, log', closed⟩ := close_world (w := { w₂ with
    deadline := none, log,
    context := { w₂.context with
      errors := w₂.context.errors ++ (endingOf out).reports g.options.budget } }) rfl
  refine ⟨warnings, t, page, log', ?_⟩
  calc visit g p now w
    _ = _ := bind_done (attempt_done opened) _
    _ = _ := bind_done limited _
    _ = _ := bind_done reported _
    _ = _ := bind_done closed _

end Visit

/-! ## Whole runs -/

/-- What the actions of a run may look up. -/
def settingOf (o : RunOptions) (at_ : Stamp) (p : Playbook) : Setting :=
  ⟨p.policy, o, at_.millis⟩

/-- The world in which a run opens its page. -/
def outset (p : Playbook) (vars : Members Value) (w : World) : World :=
  { w with
    context := RunContext.starting (p.vars.overlay vars)
    deadline := none
    log := w.log.push (.info, s!"Executing playbook: {p.name} ({p.id})") }

theorem visit_outset (g : Setting) (p : Playbook) (now : Moment) (vars : Members Value)
    (w : World) : ∃ found w', visit g p now (outset p vars w) = (.done found, w') := by
  rcases ho : Browse.openPage (outset p vars w) with ⟨a | e | _, w₁⟩
  · obtain ⟨_, _, _, _, h⟩ := visit_opened g p now ho rfl
    exact ⟨_, _, h⟩
  · obtain ⟨_, h, -⟩ := visit_unopened g p now ho
    exact ⟨_, _, h⟩
  · exact absurd (congrArg Prod.fst ho) (openPage_ne_cancelled rfl)

theorem start_of_session {o : RunOptions} {at_ : Stamp} {p : Playbook} {vars : Members Value}
    {w w' : World} {r : RunReport}
    (h : session (settingOf o at_ p) p at_.moment
      { w with context := RunContext.starting (p.vars.overlay vars), deadline := none } =
      (.done r, w')) : start o at_ p vars w = (r, w') := by
  unfold settingOf at h
  simp only [start, h]

/-- A run always gives a report: what its visit leaves, with the time it took. -/
theorem start_of_visit {o : RunOptions} {at_ : Stamp} {p : Playbook} {vars : Members Value}
    {w w' : World} {found : List Opportunity}
    (visited : visit (settingOf o at_ p) p at_.moment (outset p vars w) = (.done found, w')) :
    ∃ t log,
      session (settingOf o at_ p) p at_.moment
          { w with context := RunContext.starting (p.vars.overlay vars), deadline := none } =
        (.done (start o at_ p vars w).1, (start o at_ p vars w).2) ∧
      start o at_ p vars w = (report { w'.context with executionTime := t } found,
        { w' with context := { w'.context with executionTime := t }, log }) := by
  have held := bind_done visited fun found => do
    let time ← elapsed w.clock
    onContext fun c => { c with executionTime := time }
    let c ← read World.context
    Exec.log .info (closingLine p c found.length)
    pure (report c found)
  have same := start_of_session held
  exact ⟨_, _, by rw [same]; exact held, same⟩

end Run

end Scout
