import Scout.Proofs.Run.Attempts

/-!
# Budgets of attempts

How often an action may be repeated hangs on three things: what it says itself, whether it
is composite or executed below a retry, and what the playbook says.  Whether it is
below a retry can be read off the tree that holds it: the retries that are counted while
a program runs are those around the program, for a retry that is left, in whatever way,
no longer counts.
-/

namespace Scout

open Relation Exec

/-- How often an action may be repeated: as often as it says itself; or else not at all if it is
composite or below a retry; or else as often as the policy says. -/
def Step.repetitions (s : Step) (policy : ErrorPolicy) (retried : Bool) : Int :=
  match s.retries with
  | some n => max n 0
  | none => if s.kind.isComposite || retried then 0 else max policy.maxRetries 0

theorem Step.retryBudget_eq_repetitions (s : Step) (g : Setting) (retries : Nat) :
    (s.retryBudget g retries : Int) = s.repetitions g.policy (retries != 0) := by
  unfold retryBudget repetitions
  cases s.retries with
  | some n => exact Int.ofNat_toNat n
  | none =>
    dsimp only
    split
    · rfl
    · exact Int.ofNat_toNat g.policy.maxRetries

/-! ## Actions of a tree -/

/-- The actions that a tree holds: itself and those of the programs in it, with whether they are
below a retry, if the tree is or is not. -/
inductive Action.Holds (a : Action) (below : Bool) : Action → Bool → Prop
  | self : Holds a below a below
  | inner {b c : Action} {retried : Bool} (held : Holds a below b retried)
      (mem : c ∈ b.program.getD []) : Holds a below c (retried || b.kind == .retry)

theorem Action.Holds.of_mem {a b c : Action} {below retried : Bool}
    (held : b.Holds (below || a.kind == .retry) c retried) (mem : b ∈ a.program.getD []) :
    a.Holds below c retried := by
  induction held with
  | self => exact .inner .self mem
  | inner _ mem' ih => exact .inner ih mem'

/-- A result that an execution of an action of the tree entered last, which fits the budget of that
action where it stands in the tree. -/
inductive EntryWithin (g : Setting) (a : Action) (below : Bool)
    (journal journal' : List ActionResult) : Prop
  | mk {b : Action} {retried : Bool} {depth : Int} {u v : World} {out : Outcome ActionResult}
      {r : ActionResult} (held : a.Holds below b retried) (ran : execute g b depth u = (out, v))
      (scope : (u.retryDepth != 0) = retried) (last : v.context.results = journal ++ [r])
      (entered : journal' = journal ++ [r])
      (fits : r.Fits b.step (b.step.repetitions g.policy retried))

theorem EntryWithin.of_mem {g : Setting} {a b : Action} {below : Bool}
    {journal journal' : List ActionResult}
    (h : EntryWithin g b (below || a.kind == .retry) journal journal')
    (mem : b ∈ a.program.getD []) : EntryWithin g a below journal journal' := by
  cases h with
  | mk held ran scope last entered fits => exact .mk (held.of_mem mem) ran scope last entered fits

/-- A result of one of the actions of a program, or of an action inside it. -/
def EntryAmong (g : Setting) (program : List Action) (below : Bool)
    (journal journal' : List ActionResult) : Prop :=
  ∃ b ∈ program, EntryWithin g b below journal journal'

theorem EntryAmong.within {g : Setting} {s : Step} {program : List Action} {below : Bool}
    {journal journal' : List ActionResult}
    (h : EntryAmong g program (below || s.kind == .retry) journal journal') :
    EntryWithin g ⟨s, some program⟩ below journal journal' := by
  obtain ⟨b, mem, entry⟩ := h
  exact entry.of_mem mem

/-! ## Entries of a run -/

/-- Between two worlds that stand among as many retries, results are entered one after the other;
what may be entered may hang on whether there is a retry. -/
structure Enters (R : Bool → List ActionResult → List ActionResult → Prop) (w v : World) :
    Prop where
  retryDepth : v.retryDepth = w.retryDepth
  entries : ReflTransGen (R (w.retryDepth != 0)) w.context.results v.context.results

section Enters

variable {R R' : Bool → List ActionResult → List ActionResult → Prop} {w v : World}

theorem Enters.mono (h : Enters R w v)
    (le : ∀ journal journal', R (w.retryDepth != 0) journal journal' →
      R' (w.retryDepth != 0) journal journal') : Enters R' w v :=
  ⟨h.retryDepth, ReflTransGen.mono le _ _ h.entries⟩

theorem isMeter_enters : IsMeter fun _ => Enters R where
  still := by
    intro w v same
    refine ⟨same.retryDepth, ?_⟩
    rw [same.results]
  add := by
    intro _ _ w u v first second
    have entries := second.entries
    rw [first.retryDepth] at entries
    exact ⟨second.retryDepth.trans first.retryDepth, first.entries.trans entries⟩
  mono := by
    intro _ _ w v h _
    exact h

end Enters

variable {g : Setting} {w : World}

/-- Among the retries around it, a round of a program enters what the tree allows. -/
theorem enters_afterRound {s : Step} {program : List Action} {depth : Int}
    (enters : ∀ w, Enters (EntryAmong g program) w (executeProgram g program depth w).2)
    (w : World) :
    Enters (EntryWithin g ⟨s, some program⟩) w
      (s.afterRound (executeProgram g program depth) w) := by
  unfold Step.afterRound
  by_cases retry : s.kind = .retry
  · have inside := enters (enterRetry w)
    have below : ((enterRetry w).retryDepth != 0) =
        ((w.retryDepth != 0) || s.kind == .retry) := by
      simp [enterRetry, retry]
    have entries := inside.entries
    rw [below] at entries
    rw [if_pos retry]
    refine ⟨?_, ReflTransGen.mono (fun _ _ entry => entry.within) _ _ entries⟩
    calc (leaveRetry (executeProgram g program depth (enterRetry w)).2).retryDepth
      _ = (executeProgram g program depth (enterRetry w)).2.retryDepth - 1 := rfl
      _ = (w.retryDepth + 1) - 1 := by rw [inside.retryDepth]; rfl
      _ = w.retryDepth := Nat.add_sub_cancel w.retryDepth 1
  · have inside := enters w
    have below : (w.retryDepth != 0) = ((w.retryDepth != 0) || s.kind == .retry) := by
      simp [retry]
    have entries := inside.entries
    rw [below] at entries
    rw [if_neg retry]
    exact ⟨inside.retryDepth, ReflTransGen.mono (fun _ _ entry => entry.within) _ _ entries⟩

theorem Charged.enters {a : Action} {depth : Int} {n : Nat}
    (h : Charged (fun _ => Enters (EntryWithin g a)) n a.step (a.step.retryBudget g w.retryDepth) w
      (execute g a depth w)) : Enters (EntryWithin g a) w (execute g a depth w).2 := by
  rcases ran : execute g a depth w with ⟨out, v⟩
  rw [ran] at h
  cases h with
  | nothing cost _ => exact cost
  | @entered u _ _ r cost retryDepth last fits _ =>
    rw [a.step.retryBudget_eq_repetitions] at fits
    refine ⟨retryDepth.trans cost.retryDepth, cost.entries.tail ?_⟩
    exact .mk .self ran rfl last last fits

mutual

theorem charged_execute (g : Setting) : ∀ (a : Action) (depth : Int) (w : World),
    Charged (fun _ => Enters (EntryWithin g a)) ((a.step.retryBudget g w.retryDepth + 1) * 0) a.step
      (a.step.retryBudget g w.retryDepth) w (execute g a depth w)
  | ⟨s, none⟩, depth, w => by
    refine charged_executeStep isMeter_enters (fun vars => ?_) depth w
    refine costs_dispatch (c := 0) isMeter_enters _ _ g fun u => ?_
    unfold Step.afterRound
    split
    · exact isMeter_enters.still (.refl u)
    · exact isMeter_enters.still (.refl u)
  | ⟨s, some program⟩, depth, w => by
    refine charged_executeStep isMeter_enters (fun vars => ?_) depth w
    refine costs_dispatch (c := 0) isMeter_enters _ _ g fun u => ?_
    exact enters_afterRound (s := s) (enters_executeProgram g program (depth + 1)) u

theorem enters_executeProgram (g : Setting) : ∀ (program : List Action) (depth : Int) (w : World),
    Enters (EntryAmong g program) w (executeProgram g program depth w).2
  | [], _, w => isMeter_enters.still (.refl w)
  | b :: rest, depth, w => by
    have first (u : World) : Enters (EntryAmong g (b :: rest)) u (execute g b depth u).2 :=
      (charged_execute g b depth u).enters.mono fun _ _ entry => ⟨b, List.mem_cons_self, entry⟩
    have others (u : World) :
        Enters (EntryAmong g (b :: rest)) u (executeProgram g rest depth u).2 := by
      refine (enters_executeProgram g rest depth u).mono fun _ _ entry => ?_
      obtain ⟨c, mem, entry⟩ := entry
      exact ⟨c, List.mem_cons_of_mem b mem, entry⟩
    exact Costs.bind (m := 0) (n := 0) isMeter_enters first (fun _ => others) w

end

/-- However the execution of an action ends, it ends among as many retries as it began.  Until then
it has entered results of actions of its tree, one after the other; each is the last of one
execution, and unless that action was skipped, it was attempted once and then at most as often as
its place in the tree allows, and as often as that if it failed.  An execution that returns returns
the result that it entered last. -/
theorem execute_attempts_within_budget (g : Setting) (a : Action) (depth : Int) (w : World) :
    let (out, w') := execute g a depth w
    w'.retryDepth = w.retryDepth ∧
    ReflTransGen (EntryWithin g a (w.retryDepth != 0)) w.context.results w'.context.results ∧
    ∀ r, out = .done r → (∃ earlier, w'.context.results = earlier ++ [r]) ∧
      r.Fits a.step (a.step.repetitions g.policy (w.retryDepth != 0)) := by
  have closed := charged_execute g a depth w
  have enters := closed.enters
  rcases ran : execute g a depth w with ⟨out, w'⟩
  rw [ran] at closed enters
  refine ⟨enters.retryDepth, enters.entries, fun r returned => ?_⟩
  cases closed with
  | nothing _ unreturned => exact absurd returned (unreturned r)
  | @entered u _ _ r' _ _ last fits same =>
    obtain rfl := same r returned
    rw [a.step.retryBudget_eq_repetitions] at fits
    exact ⟨⟨u.context.results, last⟩, fits⟩

end Scout
