import Scout.Check
import Scout.Proofs.Run.Refusals

/-!
# Playbooks that were checked

What an action needs is asked for twice: by the check, over the program as it was
written, and by the interpreter, at each attempt, after the variables were filled in.
A program that passes the check is executed without a refusal for its depth, and
without one for a missing part but where the check leaves it open.
-/

namespace Scout

open Exec

/-! ## Programs that pass the check -/

namespace Action

def size (a : Action) : Nat :=
  (a.program.getD []).length

/-- An action that has what its kind needs, at a depth that is allowed, with such actions inside. -/
inductive Passes (limit : Int) : Action → Nat → Prop
  | mk {s : Step} {program : Option (List Action)} {depth : Nat} (allowed : depth ≤ limit)
      (complete : Check.missingPart s program = none)
      (inside : ∀ b ∈ program.getD [], Passes limit b (depth + 1)) :
      Passes limit ⟨s, program⟩ depth

/-- An action of a program whose own actions stand at a depth, with the depth it stands at
itself. -/
inductive StandsAt : List Action → Nat → Action → Nat → Prop
  | here {program : List Action} {depth : Nat} {a : Action} (h : a ∈ program) :
      StandsAt program depth a depth
  | inside {program : List Action} {depth : Nat} {a b : Action} {d : Nat} (h : b ∈ program)
      (inner : StandsAt (b.program.getD []) (depth + 1) a d) : StandsAt program depth a d

end Action

namespace Check

variable {limit : Int} {index depth : Nat}

theorem of_stepFaults {s : Step} {program : Option (List Action)}
    (h : stepFaults limit s program index depth = []) :
    depth ≤ limit ∧ missingPart s program = none := by
  have unfaulted := (List.append_eq_nil_iff.mp h).2
  split at unfaulted
  · cases unfaulted
  · next allowed =>
    refine ⟨not_lt.mp allowed, ?_⟩
    cases hm : missingPart s program with
    | none => rfl
    | some part => simp [hm] at unfaulted

mutual

theorem passes_of_actionFaults : ∀ (a : Action) (index depth : Nat),
    actionFaults limit a index depth = [] → a.Passes limit depth
  | ⟨_, none⟩, _, _, h => by
    rw [actionFaults] at h
    obtain ⟨allowed, complete⟩ := of_stepFaults h
    exact .mk allowed complete (by simp)
  | ⟨_, some program⟩, _, depth, h => by
    rw [actionFaults, List.append_eq_nil_iff] at h
    obtain ⟨allowed, complete⟩ := of_stepFaults h.1
    have inner := h.2
    rw [if_neg (not_lt.mpr allowed), nested, List.map_eq_nil_iff] at inner
    exact .mk allowed complete (passes_of_programFaults program 0 (depth + 1) inner)

theorem passes_of_programFaults : ∀ (program : List Action) (index depth : Nat),
    programFaults limit program index depth = [] → ∀ a ∈ program, a.Passes limit depth
  | [], _, _, _ => by simp
  | a :: rest, index, depth, h => by
    rw [programFaults, List.append_eq_nil_iff] at h
    exact List.forall_mem_cons.mpr ⟨passes_of_actionFaults a index depth h.1,
      passes_of_programFaults rest (index + 1) depth h.2⟩

end

theorem passes_of_check {p : Playbook} (h : (p.check limit).isValid = true) :
    ∀ a ∈ p.actions, a.Passes limit 1 := by
  simp only [Playbook.check, List.isEmpty_iff, faults, List.append_eq_nil_iff] at h
  exact passes_of_programFaults p.actions 0 1 h.1.1.2

end Check

theorem Action.Passes.of_standsAt {limit : Int} {program : List Action} {depth d : Nat}
    {a : Action} (passes : ∀ b ∈ program, b.Passes limit depth)
    (h : Action.StandsAt program depth a d) : a.Passes limit d := by
  induction h with
  | here mem => exact passes _ mem
  | inside mem _ ih =>
    cases passes _ mem with
    | mk _ _ inside => exact ih inside

/-! ## Missing parts -/

namespace Step

/-- Where the check leaves it to the run whether an action has its parts: waits, evaluations,
conditionals without conditions, and texts that are empty once the variables are filled in. -/
inductive IsLeftOpen (s : Step) (vars : Members Value) : Prop
  | wait (kind : s.kind = .wait)
  | evaluate (kind : s.kind = .evaluate)
  | unconditional (kind : s.kind = .conditional) (unguarded : s.conditions.getD [] = [])
  | emptySelector {t : String} (selector : s.selector = some t) (written : t ≠ "")
      (emptied : Template.substitute vars t = "")
  | emptyValue {t : String} (value : s.value = some (.text t)) (written : t ≠ "")
      (emptied : Template.substitute vars t = "")

variable {s : Step} {vars : Members Value}

theorem named?_eq_none_iff {o : Option String} :
    Condition.named? o = none ↔ o.getD "" = "" := by
  cases o with
  | none => simp [Condition.named?]
  | some t => by_cases h : t = "" <;> simp [Condition.named?, h]

/-- A selector that is written and is none any more once the variables are filled in. -/
theorem isLeftOpen_of_selector (written : (s.selector.getD "") ≠ "")
    (lacks : Condition.named? (s.substitute vars).selector = none) : s.IsLeftOpen vars := by
  have hselector : (s.substitute vars).selector = s.selector.map (Template.substitute vars) := rfl
  rw [hselector, named?_eq_none_iff] at lacks
  cases hs : s.selector with
  | none => simp [hs] at written
  | some t =>
    rw [hs] at written lacks
    exact .emptySelector hs written lacks

/-- A value that is given and is none any more once the variables are filled in. -/
theorem isLeftOpen_of_value (given : Scalar.isGiven s.value = true)
    (lacks : Scalar.isGiven (s.substitute vars).value = false) : s.IsLeftOpen vars := by
  unfold substitute at lacks
  dsimp only at lacks
  split at lacks
  · next t ht =>
    rw [ht] at given
    exact .emptyValue ht (by simpa [Scalar.isGiven] using given)
      (by simpa [Scalar.isGiven] using lacks)
  · rw [given] at lacks
    cases lacks

theorem isNone_substitute (s : Step) (vars : Members Value) :
    (s.substitute vars).value.isNone = s.value.isNone := by
  unfold substitute
  dsimp only
  split
  · next t ht => rw [ht]; rfl
  · rfl

/-- An action that passed the check lacks a part only where the check leaves it open. -/
theorem isLeftOpen_of_lacking {program : Option (List Action)} {message : String}
    (complete : Check.missingPart s program = none)
    (lacks : (s.substitute vars).lacking? (program.getD []).length = some message) :
    s.IsLeftOpen vars := by
  have hkind : (s.substitute vars).kind = s.kind := rfl
  have hconditions : (s.substitute vars).conditions = s.conditions := rfl
  unfold Check.missingPart at complete
  unfold lacking? at lacks
  rw [hkind, hconditions] at lacks
  have fewer : ((program.getD []).length == 0) = (program.getD []).isEmpty := by
    cases program.getD [] <;> rfl
  cases hk : s.kind <;> simp only [hk, fewer, isNone_substitute, reduceCtorEq, ite_eq_right_iff,
    Option.ite_none_right_eq_some, Bool.or_eq_true, beq_iff_eq] at complete lacks
  case wait => exact .wait hk
  case evaluate => exact .evaluate hk
  case navigate =>
    refine isLeftOpen_of_value ?_ (by simpa using lacks.1)
    by_contra ungiven
    simp [ungiven] at complete
  case click => exact isLeftOpen_of_selector complete (by simpa using lacks.1)
  case extract => exact isLeftOpen_of_selector complete (by simpa using lacks.1)
  case fill | select =>
    have written : s.selector.getD "" ≠ "" := fun h => complete (.inl h)
    have given : ¬ s.value.isNone = true := fun h => complete (.inr h)
    exact isLeftOpen_of_selector written
      (Option.isNone_iff_eq_none.mp (lacks.1.resolve_right given))
  case conditional =>
    exact .unconditional hk (List.isEmpty_iff.mp (lacks.1.resolve_right complete))
  case loop => exact (complete lacks.1).elim
  case retry => exact (complete lacks.1).elim

end Step

/-! ## Runs with other refusals -/

namespace Refusals

/-- The refusals for a missing part are those of the interpreter where the check leaves open
whether the part is there. -/
def KeepsOpen (r : Refusals) : Prop :=
  ∀ (s : Step) (vars : Members Value) (message : String),
    s.IsLeftOpen vars → r.lacking s vars message = s.refuse message

variable {r : Refusals} {g : Setting}

/-- An action that passed the check meets neither refusal but where the check leaves it open. -/
theorem executeStep_of_passes (keeps : r.KeepsOpen) {s : Step} {program : Option (List Action)}
    {depth : Nat} (allowed : depth ≤ g.options.maxDepth)
    (complete : Check.missingPart s program = none) (body : Exec Unit) :
    r.executeStep g s (program.getD []).length body depth =
      (own g).executeStep g s (program.getD []).length body depth := by
  have same : r.work g s (program.getD []).length body =
      (own g).work g s (program.getD []).length body := by
    funext w
    obtain ⟨u, resolved, applied⟩ := work_apply (r := r) (g := g) s _ body w
    obtain ⟨u', resolved', applied'⟩ := work_apply (r := own g) (g := g) s _ body w
    obtain rfl : u = u' := congrArg Prod.snd (resolved.symm.trans resolved')
    rw [applied, applied']
    split
    · next message lacks =>
      rw [keeps s _ message (Step.isLeftOpen_of_lacking complete lacks)]
      rfl
    · rfl
  unfold executeStep
  simp only [same, if_neg (not_lt.mpr allowed)]

mutual

theorem execute_of_passes (keeps : r.KeepsOpen) : ∀ (a : Action) (depth : Nat),
    a.Passes g.options.maxDepth depth → r.execute g a depth = Scout.execute g a depth
  | ⟨s, none⟩, depth, .mk allowed complete _ => by
    rw [← execute_own]
    exact executeStep_of_passes keeps allowed complete (pure ())
  | ⟨s, some program⟩, depth, .mk allowed complete inside => by
    have body := executeProgram_of_passes keeps program (depth + 1) inside
    rw [Nat.cast_add_one] at body
    rw [← execute_own, execute, execute, body, ← executeProgram_own]
    exact executeStep_of_passes keeps allowed complete _

theorem executeProgram_of_passes (keeps : r.KeepsOpen) : ∀ (program : List Action) (depth : Nat),
    (∀ a ∈ program, a.Passes g.options.maxDepth depth) →
      r.executeProgram g program depth = Scout.executeProgram g program depth
  | [], _, _ => rfl
  | a :: rest, depth, passes => by
    rw [executeProgram, Scout.executeProgram,
      execute_of_passes keeps a depth (passes a List.mem_cons_self),
      executeProgram_of_passes keeps rest depth fun b h => passes b (List.mem_cons_of_mem a h)]

end

end Refusals

/-! ## Runs of checked playbooks -/

/-- A checked playbook is executed, whatever the page and the variables, as it would be if the
interpreter refused no depth and no missing part but where the check leaves it open.  Each of its
actions stands at an allowed depth, and an attempt at it that fails for an action does so for what
is left open, for an action inside it, or because the page shows such a failure. -/
theorem Playbook.execute_of_check {p : Playbook} {g : Setting}
    (accepted : (p.check g.options.maxDepth).isValid = true) :
    (∀ r : Refusals, r.KeepsOpen → ∀ a ∈ p.actions, r.execute g a 1 = execute g a 1) ∧
    ∀ a depth, Action.StandsAt p.actions 1 a depth →
      depth ≤ g.options.maxDepth ∧
      ∀ (body : Exec Unit) (w w' : World) (e : Fault),
        (a.step.resolve >>= fun s => s.dispatch g a.size body) w = (.failed e, w') →
        e.isOfAction = true →
          a.step.IsLeftOpen w.context.vars ∨ (∃ u u', body u = (.failed e, u')) ∨
            ∃ r ∈ w.page.failures, r.fault = e := by
  have passes := Check.passes_of_check accepted
  refine ⟨fun r keeps a ha => Refusals.execute_of_passes keeps a 1 (passes a ha), ?_⟩
  rintro ⟨s, program⟩ depth stands
  obtain ⟨allowed, complete, -⟩ := Action.Passes.of_standsAt passes stands
  refine ⟨allowed, fun body w w' e h own => ?_⟩
  obtain ⟨u, resolved, samePage⟩ := s.resolve_apply w
  change (s.resolve >>= fun s => s.dispatch g (program.getD []).length body) w = _ at h
  rw [bind_done resolved] at h
  by_cases left : s.IsLeftOpen w.context.vars
  · exact .inl left
  · have lacksNothing : (s.substitute w.context.vars).lacking? (program.getD []).length = none := by
      by_contra lacks
      obtain ⟨message, lacks⟩ := Option.ne_none_iff_exists'.mp lacks
      exact left (Step.isLeftOpen_of_lacking complete lacks)
    have timed : (s.substitute w.context.vars).kind ≠ .wait := fun kind => left (.wait kind)
    rw [← samePage]
    exact .inr (Step.blamed_of_dispatch lacksNothing timed h own).symm

def leafing : Playbook :=
  ⟨"p", "P", "", "1.0.0", "b", [], [],
    [⟨⟨"again", .loop, "", none, some (.int 3), none, none, none, none, false⟩,
      some [⟨⟨"next", .click, "", some ".next", none, none, none, none, none, false⟩, none⟩]⟩],
    [], .standard, .standard⟩

/-- A setting with room for one program inside an action. -/
def shallow : Setting :=
  ⟨.standard, { RunOptions.standard with maxDepth := 2 }, 0⟩

/-- Refusals that wait for the deadline instead. -/
def patient : Refusals :=
  ⟨fun _ => cancel, fun s _ message => s.refuse message⟩

theorem execute_of_check_leafing :
    (leafing.check shallow.options.maxDepth).isValid = true ∧
    (∀ a ∈ leafing.actions, patient.execute shallow a 1 = execute shallow a 1) ∧
    ∀ a depth, Action.StandsAt leafing.actions 1 a depth → depth ≤ shallow.options.maxDepth := by
  have accepted : (leafing.check shallow.options.maxDepth).isValid = true := by decide +kernel
  obtain ⟨same, standing⟩ := Playbook.execute_of_check accepted
  exact ⟨accepted, same patient fun _ _ _ _ => rfl,
    fun a depth stands => (standing a depth stands).1⟩

end Scout
