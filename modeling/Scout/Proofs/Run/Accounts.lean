import Scout.Proofs.Run.Deadline

/-!
# The accounts of a run

A run invokes the actions of its playbook one after another, and accounts for each of
them once: a success is counted, a failure is an error of the run, and the failed result
of an action that may fail is neither.  What happens inside an action is not accounted
for.  Without leave to continue the first failure is the last invocation, and the rules
of the playbook are not applied.
-/

namespace Scout

open Relation Exec

/-! ## What is counted -/

theorem executed_of_course {α : Type} {w w' : World} {out : Outcome α}
    (h : Course World.Ordinary w (out, w')) :
    w'.context.actionsExecuted = w.context.actionsExecuted := by
  have paused (w : World) (seconds t : Float) :
      ({ w.listedPause seconds with clock := t } : World).context.actionsExecuted =
        w.context.actionsExecuted := by
    unfold World.listedPause
    split <;> rfl
  refine h.holds (P := fun w w' => w'.context.actionsExecuted = w.context.actionsExecuted)
    (fun _ => rfl) (fun first second => second.trans first) ?_ ?_ fun _ _ => rfl
  · rintro w w' (change | _ | _ | _)
    · cases change with
      | paused seconds => exact paused w seconds _
      | _ => rfl
    · rfl
    · rfl
    · rfl
  · rintro w w' (_ | seconds)
    · rfl
    · exact paused w seconds _

theorem executed_of_execute {g : Setting} {a : Action} {depth : Int} {w w' : World}
    {out : Outcome ActionResult} (h : execute g a depth w = (out, w')) :
    w'.context.actionsExecuted = w.context.actionsExecuted := by
  have course := ordinary_execute g a depth w
  rw [h] at course
  exact executed_of_course course

namespace Run

/-! ## Invocations -/

/-- An action of a playbook that was invoked: it returned a result, or it failed. -/
structure Invoked where
  action : Action
  outcome : Except Fault ActionResult

namespace Invoked

def succeeded (v : Invoked) : Bool :=
  match v.outcome with
  | .ok r => r.success
  | .error _ => false

def excused (v : Invoked) : Bool :=
  match v.outcome with
  | .ok r => !r.success
  | .error _ => false

def error? (v : Invoked) : Option String :=
  match v.outcome with
  | .ok _ => none
  | .error e => some (describeFailure v.action.id e)

def ending (v : Invoked) : Outcome ActionResult :=
  match v.outcome with
  | .ok r => .done r
  | .error e => .failed e

/-- What a run enters for an invocation before it goes on. -/
def settle (g : Setting) (v : Invoked) (w : World) : World :=
  match v.outcome with
  | .ok r => credit r w
  | .error e => if g.policy.continueOnError then excuse v.action e w else blame v.action e w

theorem executed_settle (g : Setting) (v : Invoked) (w : World) :
    (v.settle g w).context.actionsExecuted =
      w.context.actionsExecuted + if v.succeeded then 1 else 0 := by
  obtain ⟨a, e | r⟩ := v
  · cases h : g.policy.continueOnError <;> simp [settle, succeeded, h, excuse, blame]
  · cases h : r.success <;> simp [settle, succeeded, h, credit]

theorem errors_settle (g : Setting) (v : Invoked) (w : World) :
    (v.settle g w).context.errors = w.context.errors ++ v.error?.toList := by
  obtain ⟨a, e | r⟩ := v
  · cases h : g.policy.continueOnError <;> simp [settle, error?, h, excuse, blame]
  · simp [settle, error?, errors_credit]

/-- Every invocation is a success, an error or excused. -/
theorem balance (invoked : List Invoked) :
    invoked.countP succeeded + (invoked.filterMap error?).length + invoked.countP excused =
      invoked.length := by
  induction invoked with
  | nil => rfl
  | cons v rest ih =>
    have one : (if v.succeeded then 1 else 0) + v.error?.toList.length +
        (if v.excused then 1 else 0) = 1 := by
      obtain ⟨a, e | r⟩ := v
      · rfl
      · cases h : r.success <;> simp [succeeded, excused, error?, h]
    have errors : ((v :: rest).filterMap error?).length =
        v.error?.toList.length + (rest.filterMap error?).length := by
      cases h : v.error? <;> simp [h, Nat.add_comm]
    rw [List.countP_cons, List.countP_cons, errors, List.length_cons]
    omega

end Invoked

/-- Invocations one after another, each followed by what the run enters for it. -/
inductive Invokes (g : Setting) : World → List Invoked → World → Prop
  | nil (w : World) : Invokes g w [] w
  | cons {v : Invoked} {rest : List Invoked} {w w₁ w' : World}
      (invoked : execute g v.action 1 w = (v.ending, w₁))
      (later : Invokes g (v.settle g w₁) rest w') : Invokes g w (v :: rest) w'

namespace Invokes

variable {g : Setting} {w w' : World} {invoked : List Invoked}

theorem executed (h : Invokes g w invoked w') : w'.context.actionsExecuted =
    w.context.actionsExecuted + invoked.countP Invoked.succeeded := by
  induction h with
  | nil w => simp
  | cons invoked _ ih =>
    rw [ih, Invoked.executed_settle, executed_of_execute invoked, List.countP_cons]
    push_cast
    omega

theorem errors (h : Invokes g w invoked w') : w'.context.errors =
    w.context.errors ++ invoked.filterMap Invoked.error? := by
  induction h with
  | nil w => simp
  | @cons v rest _ _ _ invoked _ ih =>
    have listed : (v :: rest).filterMap Invoked.error? =
        v.error?.toList ++ rest.filterMap Invoked.error? := by
      cases h : v.error? <;> simp [h]
    rw [ih, Invoked.errors_settle, (keeps_of_execute invoked).errors, listed, List.append_assoc]

end Invokes

/-! ## Invocations of the actions of a playbook -/

/-- An action that fails where a run takes the failure for its own may not fail, or is nested too
deeply as it stands. -/
structure Raises (g : Setting) (a : Action) (e : Fault) : Prop where
  blamed : e.isOfAction = true
  required : a.step.optional = false ∨ g.options.maxDepth < 1

/-- How the invocations of actions go, and whether they end with an abort. -/
inductive Covers (g : Setting) : List Action → List Invoked → Option String → Prop
  | nil : Covers g [] [] none
  | returned {a : Action} {rest : List Action} {invoked : List Invoked} {aborted : Option String}
      {r : ActionResult} (settled : a.step.Settles r) (others : Covers g rest invoked aborted) :
      Covers g (a :: rest) (⟨a, .ok r⟩ :: invoked) aborted
  | continued {a : Action} {rest : List Action} {invoked : List Invoked} {aborted : Option String}
      {e : Fault} (raised : Raises g a e) (goesOn : g.policy.continueOnError = true)
      (others : Covers g rest invoked aborted) :
      Covers g (a :: rest) (⟨a, .error e⟩ :: invoked) aborted
  | aborted {a : Action} {rest : List Action} {e : Fault} (raised : Raises g a e)
      (stops : g.policy.continueOnError = false) :
      Covers g (a :: rest) [⟨a, .error e⟩] (some s!"Action {a.id} failed")

theorem raises_of_execute {g : Setting} {a : Action} {w w' : World} {e : Fault}
    (h : execute g a 1 w = (.failed e, w')) (blamed : e.isOfAction = true) : Raises g a e := by
  refine ⟨blamed, ?_⟩
  by_contra neither
  rw [not_or, Bool.not_eq_false, Int.not_lt] at neither
  obtain ⟨rfl, -⟩ := undelayed_of_execute neither.1 neither.2 h
  cases blamed

/-- The actions of a run that is not cut are invoked until there are no more, or one aborts it. -/
theorem invokes_of_runActions (g : Setting) (actions : List Action) {w w' : World}
    {aborted : Option String} (h : runActions g actions w = (.done aborted, w')) :
    ∃ invoked, Invokes g w invoked w' ∧ Covers g actions invoked aborted := by
  induction actions generalizing w with
  | nil =>
    cases h
    exact ⟨[], .nil _, .nil⟩
  | cons a rest ih =>
    rw [runActions_cons] at h
    rcases he : execute g a 1 w with ⟨r | e | _, w₁⟩ <;> simp only [he] at h
    · obtain ⟨invoked, invokes, covers⟩ := ih h
      exact ⟨⟨a, .ok r⟩ :: invoked, .cons he invokes, .returned (execute_settles he) covers⟩
    · cases hk : e.isOfAction <;> simp only [hk, Bool.false_eq_true, if_false, if_true] at h
      · cases h
      · have raised := raises_of_execute he hk
        cases hc : g.policy.continueOnError <;>
          simp only [hc, Bool.false_eq_true, if_false, if_true] at h
        · cases h
          refine ⟨[⟨a, .error e⟩], .cons he ?_, .aborted raised hc⟩
          simp only [Invoked.settle, hc, Bool.false_eq_true, if_false]
          exact .nil _
        · obtain ⟨invoked, invokes, covers⟩ := ih h
          refine ⟨⟨a, .error e⟩ :: invoked, .cons he ?_, .continued raised hc covers⟩
          simp only [Invoked.settle, hc, if_true]
          exact invokes
    · cases h

namespace Covers

variable {g : Setting} {actions : List Action} {invoked : List Invoked} {aborted : Option String}

theorem outcomes (h : Covers g actions invoked aborted) : ∀ v ∈ invoked,
    (∀ r, v.outcome = .ok r → v.action.step.Settles r) ∧
    ∀ e, v.outcome = .error e → Raises g v.action e := by
  induction h with
  | nil => exact List.forall_mem_nil _
  | returned settled _ ih =>
    refine List.forall_mem_cons.mpr ⟨⟨fun r same => ?_, fun _ same => (nomatch same)⟩, ih⟩
    cases same
    exact settled
  | continued raised _ _ ih =>
    refine List.forall_mem_cons.mpr ⟨⟨fun _ same => (nomatch same), fun e same => ?_⟩, ih⟩
    cases same
    exact raised
  | aborted raised =>
    refine List.forall_mem_cons.mpr
      ⟨⟨fun _ same => (nomatch same), fun e same => ?_⟩, List.forall_mem_nil _⟩
    cases same
    exact raised

theorem unaborted (h : Covers g actions invoked aborted) (uncut : aborted = none) :
    invoked.map Invoked.action = actions := by
  induction h with
  | nil => rfl
  | returned _ _ ih | continued _ _ _ ih => exact congrArg (_ :: ·) (ih uncut)
  | aborted => cases uncut

theorem continuing (h : Covers g actions invoked aborted)
    (goesOn : g.policy.continueOnError = true) :
    invoked.map Invoked.action = actions ∧ aborted = none := by
  induction h with
  | nil => exact ⟨rfl, rfl⟩
  | returned _ _ ih | continued _ _ _ ih => exact ⟨congrArg (_ :: ·) ih.1, ih.2⟩
  | aborted _ stops =>
    rw [goesOn] at stops
    cases stops

/-- Without it the actions are invoked up to the first failure, which aborts the run. -/
theorem stopping (h : Covers g actions invoked aborted)
    (stops : g.policy.continueOnError = false) :
    (aborted = none ∧ invoked.map Invoked.action = actions ∧ ∀ v ∈ invoked, v.error? = none) ∨
    ∃ m before a e after, aborted = some m ∧ invoked = before ++ [⟨a, .error e⟩] ∧
      actions = before.map Invoked.action ++ a :: after ∧ ∀ v ∈ before, v.error? = none := by
  induction h with
  | nil => exact .inl ⟨rfl, rfl, List.forall_mem_nil _⟩
  | @returned a rest invoked aborted r settled others ih =>
    have returned : (⟨a, .ok r⟩ : Invoked).error? = none := rfl
    rcases ih with ⟨rfl, same, clean⟩ | ⟨m, before, b, e, after, rfl, rfl, rfl, clean⟩
    · exact .inl ⟨rfl, congrArg (a :: ·) same, List.forall_mem_cons.mpr ⟨returned, clean⟩⟩
    · exact .inr ⟨m, ⟨a, .ok r⟩ :: before, b, e, after, rfl, rfl, rfl,
        List.forall_mem_cons.mpr ⟨returned, clean⟩⟩
  | continued _ goesOn =>
    rw [stops] at goesOn
    cases goesOn
  | @aborted a rest e =>
    exact .inr ⟨_, [], a, e, rest, rfl, rfl, rfl, List.forall_mem_nil _⟩

end Covers

theorem describeFailure_begins (id : String) (e : Fault) :
    ∃ t, describeFailure id e = "Action " ++ id ++ " failed: " ++ t := by
  unfold describeFailure
  dsimp only
  split
  · exact ⟨_, by simp only [String.append_assoc]; rfl⟩
  · exact ⟨e.message, rfl⟩

/-! ## The report -/

section Report

variable {g : Setting} {p : Playbook} {now : Moment} {w w₂ w' : World} {aborted : Option String}

theorem body_of_unaborted (ran : runActions g p.actions w = (.done none, w₂)) :
    body g p now w = (Harvest.run p now >>= fun found => pure (Ending.finished found)) w₂ :=
  bind_done ran _

/-- After the actions nothing is counted, and nothing is an error of an action. -/
theorem counted_of_body (ran : runActions g p.actions w = (.done aborted, w₂))
    {out : Outcome Ending} (ends : body g p now w = (out, w')) :
    w'.context.errors = w₂.context.errors ∧
      w'.context.actionsExecuted = w₂.context.actionsExecuted ∧
      ∀ m, aborted = some m → out = .done (.aborted m) := by
  cases aborted with
  | some m =>
    rw [body_of_aborted ran] at ends
    cases ends
    exact ⟨rfl, rfl, fun _ same => by cases same; rfl⟩
  | none =>
    have course := ((Harvest.ordinary_run p now).bind fun found =>
      follows_pure (R := World.Ordinary) (Ending.finished found)) w₂
    rw [body_of_unaborted ran] at ends
    rw [ends] at course
    exact ⟨(keeps_of_course course).errors, executed_of_course course,
      fun _ same => nomatch same⟩

theorem context_of_opened (opened : Browse.openPage w = (.done (), w')) :
    w'.context = w.context := by
  obtain ⟨_, _, _, same⟩ := openPage_world w
  rw [opened] at same
  rw [show w' = _ from same]

/-- A run whose page opened reports what was counted under its deadline, and adds to the errors
what its ending is reported with. -/
theorem start_of_body {o : RunOptions} {at_ : Stamp} {vars : Members Value} {w₁ : World}
    {out : Outcome Ending} (opened : Browse.openPage (outset p vars w) = (.done (), w₁))
    (ends : body (settingOf o at_ p) p at_.moment (underLimit o.budget w₁) = (out, w')) :
    (start o at_ p vars w).1.context.actionsExecuted = w'.context.actionsExecuted ∧
      (start o at_ p vars w).1.errors =
        w'.context.errors ++ (endingOf out).reports o.budget := by
  obtain ⟨_, _, _, _, visited⟩ := visit_opened (settingOf o at_ p) p at_.moment opened ends
  obtain ⟨_, _, -, started⟩ := start_of_visit visited
  rw [started]
  exact ⟨rfl, rfl⟩

end Report

/-- A run that opens its page, and whose actions are not cut, invokes them one after another.  It
counts the ones that succeed and has an error for each one that fails, in their order and before
any other error; the rest returned with a failed result, as only an action that may fail does.  An
action that fails may not, unless no action at all is allowed by the limit of depth.  With leave to
continue every action is invoked.  Without it they are invoked up to the first that fails, whose
error is the only one, and the rules are applied exactly if none did. -/
theorem start_counts_invocations (o : RunOptions) (at_ : Stamp) (p : Playbook)
    (vars : Members Value) {w w₁ w₂ : World} {aborted : Option String}
    (opened : Browse.openPage (outset p vars w) = (.done (), w₁))
    (ran : runActions (settingOf o at_ p) p.actions (underLimit o.budget w₁) =
      (.done aborted, w₂)) :
    let g := settingOf o at_ p
    let r := (start o at_ p vars w).1
    ∃ invoked, Invokes g (underLimit o.budget w₁) invoked w₂ ∧
      (∀ v ∈ invoked,
        (∀ r, v.outcome = .ok r → r.success = true ∨ v.action.step.optional = true) ∧
        ∀ e, v.outcome = .error e →
          (∃ t, describeFailure v.action.id e = "Action " ++ v.action.id ++ " failed: " ++ t) ∧
          (v.action.step.optional = false ∨ o.maxDepth < 1)) ∧
      r.context.actionsExecuted = invoked.countP Invoked.succeeded ∧
      (∃ later, r.errors = invoked.filterMap Invoked.error? ++ later ∧
        (aborted ≠ none → later = [])) ∧
      (∀ m, aborted = some m →
        body g p at_.moment (underLimit o.budget w₁) = (.done (.aborted m), w₂)) ∧
      (aborted = none → body g p at_.moment (underLimit o.budget w₁) =
        (Harvest.run p at_.moment >>= fun found => pure (Ending.finished found)) w₂) ∧
      (p.policy.continueOnError = true →
        invoked.map Invoked.action = p.actions ∧ aborted = none ∧
        invoked.countP Invoked.succeeded + (invoked.filterMap Invoked.error?).length +
          invoked.countP Invoked.excused = p.actions.length) ∧
      (p.policy.continueOnError = false →
        (aborted = none ∧ invoked.map Invoked.action = p.actions ∧
          ∀ v ∈ invoked, v.error? = none) ∨
        ∃ m before a e after, aborted = some m ∧ invoked = before ++ [⟨a, .error e⟩] ∧
          p.actions = before.map Invoked.action ++ a :: after ∧
          ∀ v ∈ before, v.error? = none) := by
  intro g r
  obtain ⟨invoked, invokes, covers⟩ := invokes_of_runActions g p.actions ran
  have fresh : (underLimit o.budget w₁).context = (outset p vars w).context :=
    show w₁.context = _ from context_of_opened opened
  rcases ends : body g p at_.moment (underLimit o.budget w₁) with ⟨out, w₃⟩
  obtain ⟨sameErrors, sameCount, aborts⟩ := counted_of_body ran ends
  obtain ⟨counted, listed⟩ := start_of_body opened ends
  have executed : r.context.actionsExecuted = 0 + invoked.countP Invoked.succeeded := by
    rw [counted, sameCount, invokes.executed, fresh]
    rfl
  have errors : r.errors = [] ++ invoked.filterMap Invoked.error? ++
      (endingOf out).reports o.budget := by
    rw [listed, sameErrors, invokes.errors, fresh]
    rfl
  refine ⟨invoked, invokes, fun v hv => ?_, executed.trans (Int.zero_add _),
    ⟨(endingOf out).reports o.budget, errors, ?_⟩, ?_, ?_, fun goesOn => ?_,
    fun stops => covers.stopping stops⟩
  · obtain ⟨settled, raised⟩ := covers.outcomes v hv
    refine ⟨fun r same => ?_, fun e same => ⟨describeFailure_begins _ e, (raised e same).required⟩⟩
    rcases settled r same with ⟨success, -⟩ | ⟨success, -⟩ | ⟨-, optional⟩
    · exact .inl success
    · exact .inl success
    · exact .inr optional
  · intro aborted
    obtain ⟨m, same⟩ := Option.ne_none_iff_exists'.mp aborted
    rw [aborts m same]
    rfl
  · rintro m rfl
    rw [← ends]
    exact body_of_aborted ran
  · rintro rfl
    rw [← ends]
    exact body_of_unaborted ran
  · obtain ⟨same, unaborted⟩ := covers.continuing goesOn
    refine ⟨same, unaborted, ?_⟩
    rw [Invoked.balance, ← same, List.length_map]

def lostClick (id : String) (optional : Bool) : Action :=
  ⟨⟨id, .click, "", none, none, none, none, none, none, optional⟩, none⟩

/-- Two such clicks, of which the first may fail, and a wait; failures do not end the run. -/
def errands : Playbook :=
  ⟨"p", "P", "", "1.0.0", "b", [], [],
    [lostClick "a" true, lostClick "b" false,
      ⟨⟨"w", .wait, "", none, some (.int 1), none, none, none, none, false⟩, none⟩],
    [], { ErrorPolicy.standard with continueOnError := true }, .standard⟩

/-- The world in which the page of that playbook is open. -/
def errandsOpened : World :=
  (Browse.openPage (outset errands [] (.opening .blank []))).2

theorem start_counts_invocations_errands :
    Browse.openPage (outset errands [] (.opening .blank [])) = (.done (), errandsOpened) ∧
    ∃ aborted w₂ invoked,
      runActions (settingOf .standard newYear errands) errands.actions
        (underLimit RunOptions.standard.budget errandsOpened) = (.done aborted, w₂) ∧
      Invokes (settingOf .standard newYear errands)
        (underLimit RunOptions.standard.budget errandsOpened) invoked w₂ ∧
      invoked.countP Invoked.succeeded + (invoked.filterMap Invoked.error?).length +
        invoked.countP Invoked.excused = 3 := by
  have opened : Browse.openPage (outset errands [] (.opening .blank [])) =
    (.done (), errandsOpened) := rfl
  have whole : (runActions (settingOf .standard newYear errands) errands.actions
      (underLimit RunOptions.standard.budget errandsOpened)).1.fault? = none := by
    decide +kernel
  have uncut : (runActions (settingOf .standard newYear errands) errands.actions
      (underLimit RunOptions.standard.budget errandsOpened)).1.isCancelled = false := by
    decide +kernel
  rcases ran : runActions (settingOf .standard newYear errands) errands.actions
    (underLimit RunOptions.standard.budget errandsOpened) with ⟨aborted | e | _, w₂⟩
  · obtain ⟨invoked, invokes, -, -, -, -, -, continuing, -⟩ :=
      start_counts_invocations .standard newYear errands [] opened ran
    exact ⟨opened, aborted, w₂, invoked, rfl, invokes, (continuing rfl).2.2⟩
  · rw [ran] at whole
    cases whole
  · rw [ran] at uncut
    cases uncut

/-- Where no action at all is allowed, one that may fail aborts the run like any other. -/
theorem optional_action_aborts :
    ¬ ∀ (o : RunOptions) (at_ : Stamp) (p : Playbook) (vars : Members Value) (w w₁ w₂ : World)
      (m : String), p.policy.continueOnError = false →
      Browse.openPage (outset p vars w) = (.done (), w₁) →
      runActions (settingOf o at_ p) p.actions (underLimit o.budget w₁) = (.done (some m), w₂) →
      ∃ a ∈ p.actions, a.step.optional = false := by
  intro claim
  obtain ⟨a, ha, required⟩ := claim { RunOptions.standard with maxDepth := 0 } newYear
    { errands with actions := [lostClick "a" true], policy := .standard } [] (.opening .blank [])
    _ _ "Action a failed" rfl rfl rfl
  obtain rfl := List.mem_singleton.mp ha
  cases required

end Run

end Scout
