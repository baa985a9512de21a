import Scout.Proofs.Run.Attempts
import Scout.Proofs.Templates

/-!
# Bounds of a run

How many results an execution enters at most can be told from its action, if the
variables have no say in how many rounds there are.  An action enters one result at its
end; before that its program enters what it does, over all rounds of all attempts.
-/

namespace Scout

open Exec

/-! ## Rounds without variables -/

/-- Wherever a loop or a retry stands in the tree, the text that it takes its number of rounds from
has no token. -/
def Action.HasFixedRounds (a : Action) : Prop :=
  ∀ b, b = a ∨ b.Inside a → b.kind = .loop ∨ b.kind = .retry →
    ∀ t, b.step.value = some (.text t) → ¬ Template.HoldsToken t.toList

theorem Action.HasFixedRounds.inside {a b : Action} (fixed : a.HasFixedRounds)
    (inside : b.Inside a) : b.HasFixedRounds := by
  intro c within
  refine fixed c (.inr ?_)
  rcases within with rfl | deeper
  · exact inside
  · exact deeper.trans inside

theorem Action.HasFixedRounds.rounds_substitute {a : Action} (fixed : a.HasFixedRounds)
    (vars : Members Value) : (a.step.substitute vars).rounds = a.step.rounds := by
  have kept : a.kind = .loop ∨ a.kind = .retry →
      (a.step.substitute vars).value = a.step.value := by
    intro asks
    unfold Step.substitute
    rcases given : a.step.value with _ | v
    · rfl
    · cases v with
      | text t =>
        have plain := fixed a (.inl rfl) asks t given
        dsimp only
        rw [Template.substitute_of_not_holdsToken vars plain]
      | _ => rfl
  have same : (a.step.substitute vars).kind = a.kind := rfl
  unfold Step.rounds
  rw [same, show a.step.kind = a.kind from rfl]
  cases hk : a.kind <;> dsimp only
  case loop => rw [kept (.inl hk)]
  case retry => rw [kept (.inr hk)]

/-! ## Weights -/

mutual

/-- How many results an execution of an action enters at most: its own, and those of its program
for every round of every attempt.  A leaf has no rounds, and a conditional has one. -/
def Action.weight : Action → Nat
  | ⟨_, none⟩ => 1
  | ⟨s, some program⟩ =>
    1 + (1 + (s.retries.getD 0).toNat) * (s.rounds * Action.programWeight program)

def Action.programWeight : List Action → Nat
  | [] => 0
  | b :: rest => b.weight + Action.programWeight rest

end

/-- No more than so many results are entered between the worlds. -/
def AddsAtMost (n : Nat) (w v : World) : Prop :=
  ∃ added, v.context.results = w.context.results ++ added ∧ added.length ≤ n

theorem isMeter_addsAtMost : IsMeter AddsAtMost where
  still := by
    intro w v same
    refine ⟨[], ?_, Nat.le_refl 0⟩
    rw [List.append_nil]
    exact same.results
  add := by
    intro m n w u v first second
    obtain ⟨added, entered, few⟩ := first
    obtain ⟨more, entered', few'⟩ := second
    refine ⟨added ++ more, ?_, ?_⟩
    · rw [entered', entered, List.append_assoc]
    · rw [List.length_append]
      omega
  mono := by
    intro m n w v h le
    obtain ⟨added, entered, few⟩ := h
    exact ⟨added, entered, few.trans le⟩

variable {g : Setting} {w : World}

theorem addsAtMost_afterRound {s : Step} {body : Exec Unit} {c : Nat}
    (adds : ∀ w, AddsAtMost c w (body w).2) (w : World) : AddsAtMost c w (s.afterRound body w) := by
  unfold Step.afterRound
  split
  · exact adds (enterRetry w)
  · exact adds w

/-- A composite action has the budget that its weight counts; a leaf has no rounds to repeat. -/
theorem Step.retryBudget_mul_rounds (s : Step) (g : Setting) (retries c : Nat) :
    (s.retryBudget g retries + 1) * (s.rounds * c) =
      (1 + (s.retries.getD 0).toNat) * (s.rounds * c) := by
  cases composite : s.kind.isComposite with
  | true =>
    have budget : s.retryBudget g retries = (s.retries.getD 0).toNat := by
      unfold retryBudget
      cases s.retries <;> simp [composite]
    rw [budget, Nat.add_comm]
  | false =>
    have none : s.rounds = 0 := by
      unfold rounds
      cases hk : s.kind <;> first | rfl | simp [hk, ActionKind.isComposite] at composite
    rw [none, Nat.zero_mul, Nat.mul_zero, Nat.mul_zero]

theorem Charged.addsAtMost {s : Step} {n : Nat} {budget : Int} {end_ : Outcome ActionResult × World}
    (h : Charged AddsAtMost n s budget w end_) : AddsAtMost (1 + n) w end_.2 := by
  cases h with
  | nothing cost _ => exact isMeter_addsAtMost.mono cost (Nat.le_add_left n 1)
  | @entered u v _ r cost _ last =>
    have own : AddsAtMost 1 u v := ⟨[r], last, Nat.le_refl 1⟩
    rw [Nat.add_comm]
    exact isMeter_addsAtMost.add cost own

mutual

theorem addsAtMost_execute (g : Setting) : ∀ (a : Action), a.HasFixedRounds →
    ∀ (depth : Int) (w : World), AddsAtMost a.weight w (execute g a depth w).2
  | ⟨s, none⟩, _, depth, w => by
    have idle (vars : Members Value) :
        ((s.substitute vars).dispatch g 0 (pure ())).Costs AddsAtMost 0 :=
      costs_dispatch (c := 0) isMeter_addsAtMost _ _ g
        (addsAtMost_afterRound fun u => isMeter_addsAtMost.still (.refl u))
    exact (charged_executeStep isMeter_addsAtMost idle depth w).addsAtMost
  | ⟨s, some program⟩, fixed, depth, w => by
    have body := addsAtMost_executeProgram g program
      (fun b mem => fixed.inside (.direct mem)) (depth + 1)
    have rounds (vars : Members Value) :
        ((s.substitute vars).dispatch g program.length
          (executeProgram g program (depth + 1))).Costs AddsAtMost
            (s.rounds * Action.programWeight program) := by
      have kept : (s.substitute vars).rounds = s.rounds := fixed.rounds_substitute vars
      rw [← kept]
      exact costs_dispatch isMeter_addsAtMost _ _ g (addsAtMost_afterRound body)
    have closed := (charged_executeStep isMeter_addsAtMost rounds depth w).addsAtMost
    rwa [s.retryBudget_mul_rounds] at closed

theorem addsAtMost_executeProgram (g : Setting) : ∀ (program : List Action),
    (∀ b ∈ program, b.HasFixedRounds) →
    ∀ (depth : Int) (w : World),
      AddsAtMost (Action.programWeight program) w (executeProgram g program depth w).2
  | [], _, _, w => isMeter_addsAtMost.still (.refl w)
  | b :: rest, fixed, depth, w => by
    obtain ⟨first, others⟩ := List.forall_mem_cons.mp fixed
    exact Costs.bind isMeter_addsAtMost (addsAtMost_execute g b first depth)
      (fun _ => addsAtMost_executeProgram g rest others depth) w

end

/-- An execution of an action whose rounds are fixed always comes to an end, and however it ends, it
has entered at most as many results as the action weighs.  It has run the handler of the action once
in each attempt, and so no more often than once and then as often as the action may be repeated. -/
theorem execute_bounded (g : Setting) {a : Action} (fixed : a.HasFixedRounds) (depth : Int)
    (w : World) :
    let (out, w') := execute g a depth w
    (∃ added, w'.context.results = w.context.results ++ added ∧ added.length ≤ a.weight) ∧
    ∃ n, n ≤ 1 + a.step.retryBudget g w.retryDepth ∧
      Dispatched g a.step (a.program.getD []).length
        (executeProgram g (a.program.getD []) (depth + 1)) depth w n (out, w') := by
  refine ⟨addsAtMost_execute g a fixed depth w, ?_⟩
  obtain ⟨s, _ | program⟩ := a
  · exact dispatched_executeStep 0 (pure ()) depth w
  · exact dispatched_executeStep program.length _ depth w

/-- A screenshot that is retried, in each of the three rounds of a loop. -/
def album : Action :=
  ⟨⟨"l", .loop, "", none, some (.text "3"), none, none, none, none, false⟩,
    some [⟨⟨"r", .retry, "", none, none, none, none, none, none, false⟩,
      some [⟨⟨"s", .screenshot, "", none, none, none, none, none, none, false⟩, none⟩]⟩]⟩

theorem execute_bounded_album :
    album.HasFixedRounds ∧ album.weight = 13 ∧
    ∃ added, (execute ⟨.standard, .standard, 0⟩ album 1 (.opening .blank [])).2.context.results =
      added ∧ added.length ≤ 13 := by
  have digit : ¬ Template.HoldsToken "3".toList := by
    intro holds
    obtain ⟨before, name, after, -, -, same⟩ := holds
    have length := congrArg List.length same
    simp [Template.tokenText] at length
    omega
  have fixed : album.HasFixedRounds := by
    intro b within asks t given
    rcases within with rfl | inside
    · cases given
      exact digit
    · cases inside with
      | direct mem =>
        obtain rfl := List.mem_singleton.mp mem
        cases given
      | deeper mem below =>
        obtain rfl := List.mem_singleton.mp mem
        cases below with
        | direct mem =>
          obtain rfl := List.mem_singleton.mp mem
          cases given
        | deeper mem below =>
          obtain rfl := List.mem_singleton.mp mem
          cases below
  have weight : album.weight = 13 := by
    decide +kernel
  obtain ⟨⟨added, entered, few⟩, -⟩ :=
    execute_bounded ⟨.standard, .standard, 0⟩ fixed 1 (.opening .blank [])
  rw [weight] at few
  exact ⟨fixed, weight, added, entered, few⟩

end Scout
