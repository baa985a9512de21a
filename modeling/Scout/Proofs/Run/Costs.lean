import Scout.Proofs.Run.Stillness

/-!
# What an attempt costs

A meter says what may have come between two worlds at a cost.  Costs add up along a run,
and what is still costs nothing, so that an attempt at an action costs what the rounds of
its program cost.  How many there are at most can be read off the action.
-/

namespace Scout

open Exec

/-- A way to say what may have come between two worlds at a cost. -/
structure IsMeter (Q : Nat → World → World → Prop) : Prop where
  still {w v : World} (same : w.Still v) : Q 0 w v
  add {m n : Nat} {w u v : World} (first : Q m w u) (second : Q n u v) : Q (m + n) w v
  mono {m n : Nat} {w v : World} (h : Q m w v) (le : m ≤ n) : Q n w v

/-- However the program ends, it costs no more than that. -/
def Exec.Costs {α : Type} (x : Exec α) (Q : Nat → World → World → Prop) (n : Nat) : Prop :=
  ∀ w, Q n w (x w).2

/-- A program as a round of a retry runs it: there is one more retry around it. -/
def Exec.CostsRetried (body : Exec Unit) (Q : Nat → World → World → Prop) (n : Nat) : Prop :=
  ∀ w, Q n w (leaveRetry (body (enterRetry w)).2)

/-! ## Rounds of a program -/

/-- The number of rounds that a value asks for, none if it is out of range. -/
def Scalar.roundsOrNone (fallback : Nat) (v : Option Scalar) : Nat :=
  (Scalar.rounds fallback v).toOption.getD 0

/-- How often an attempt at an action runs its program at most: a conditional once, and a leaf has
none. -/
def Step.rounds (s : Step) : Nat :=
  match s.kind with
  | .conditional => 1
  | .loop => Scalar.roundsOrNone standardLoopRounds s.value
  | .retry => Scalar.roundsOrNone standardRetryRounds s.value
  | _ => 0

/-- What a round of its program leaves of a world: in a retry, there is one more retry around it. -/
def Step.afterRound (s : Step) (body : Exec Unit) (w : World) : World :=
  if s.kind = .retry then leaveRetry (body (enterRetry w)).2 else (body w).2

/-! ## Costs along a run -/

section Metered

variable {Q : Nat → World → World → Prop} (meter : IsMeter Q) {α β : Type} {m n c : Nat}
include meter

namespace IsMeter

theorem still_first {w u v : World} (same : w.Still u) (h : Q n u v) : Q n w v := by
  have all := meter.add (meter.still same) h
  rwa [Nat.zero_add] at all

theorem still_last {w u v : World} (h : Q n w u) (same : u.Still v) : Q n w v :=
  meter.add h (meter.still same)

end IsMeter

namespace Exec

theorem IsCalm.costs {x : Exec α} (hx : x.IsCalm) : x.Costs Q 0 :=
  fun w => meter.still (hx w).toStill

theorem Costs.mono {x : Exec α} (hx : x.Costs Q m) (le : m ≤ n) : x.Costs Q n :=
  fun w => meter.mono (hx w) le

theorem Costs.bind {x : Exec α} {f : α → Exec β} (hx : x.Costs Q m)
    (hf : ∀ a, (f a).Costs Q n) : (x >>= f).Costs Q (m + n) := by
  intro w
  have first := hx w
  rw [bind_apply]
  rcases h : x w with ⟨a | e | _, u⟩ <;> rw [h] at first
  · exact meter.add first (hf a u)
  · exact meter.mono first (Nat.le_add_right m n)
  · exact meter.mono first (Nat.le_add_right m n)

theorem Costs.after {x : Exec α} {f : α → Exec β} (hx : x.IsMild) (hf : ∀ a, (f a).Costs Q n) :
    (x >>= f).Costs Q n := by
  have all := Costs.bind meter (hx.calm.costs meter) hf
  rwa [Nat.zero_add] at all

omit meter in
theorem Costs.ite {p : Prop} [Decidable p] {x y : Exec α} (hx : x.Costs Q n)
    (hy : y.Costs Q n) : (if p then x else y).Costs Q n := by
  split
  · exact hx
  · exact hy

end Exec

variable (s : Step) (size : Nat) {body : Exec Unit}

theorem costs_loopRounds (hb : body.Costs Q c) (bound left : Nat) :
    (loopRounds s body bound left).Costs Q (left * c) := by
  induction left with
  | zero =>
    rw [Nat.zero_mul]
    exact (mild_pure _).calm.costs meter
  | succ left ih =>
    have round : c + left * c = (left + 1) * c := by
      rw [Nat.succ_mul, Nat.add_comm]
    refine Costs.after meter s.mild_isAdmitted fun admitted => Costs.ite ?_ ?_
    · refine Costs.after meter (mild_log _ _) fun _ => ?_
      rw [← round]
      exact Costs.bind meter hb fun _ => ih
    · refine Costs.after meter (mild_log _ _) fun _ => ?_
      exact Costs.mono meter ((mild_pure _).calm.costs meter) (Nat.zero_le _)

theorem costs_round_bind (hb : body.CostsRetried Q m) {f : Except Fault Unit → Exec α}
    (hf : ∀ tried, (f tried).Costs Q n) :
    (do update enterRetry; f (← attempt (ensuring body leaveRetry))).Costs Q (m + n) := by
  intro w
  have once := hb w
  have ran : ensuring body leaveRetry (enterRetry w) =
      ((body (enterRetry w)).1, leaveRetry (body (enterRetry w)).2) := rfl
  rw [bind_done (update_apply _ _), bind_apply]
  rcases h : (body (enterRetry w)).1 with a | e | _ <;> rw [h] at ran
  · rw [attempt_done ran]
    exact meter.add once (hf _ _)
  · rw [attempt_failed ran]
    exact meter.add once (hf _ _)
  · rw [attempt_cancelled ran]
    exact meter.mono once (Nat.le_add_right m n)

theorem costs_retryRounds (hb : body.CostsRetried Q c) (delay : Int) (bound left : Nat) :
    (retryRounds s body delay bound left).Costs Q (left * c) := by
  induction left with
  | zero =>
    rw [Nat.zero_mul]
    exact (mild_fail _).calm.costs meter
  | succ left ih =>
    have round : c + left * c = (left + 1) * c := by
      rw [Nat.succ_mul, Nat.add_comm]
    rw [← round]
    refine Costs.after meter (mild_log _ _) fun _ => costs_round_bind meter hb fun tried => ?_
    cases tried with
    | ok _ => exact Costs.mono meter ((mild_pure _).calm.costs meter) (Nat.zero_le _)
    | error e =>
      refine Costs.ite ?_ (Costs.mono meter ((mild_fail e).calm.costs meter) (Nat.zero_le _))
      exact Costs.after meter (mild_log _ _) fun _ =>
        Costs.after meter (mild_pauseMillis delay) fun _ => ih

theorem costs_runConditional (hb : body.Costs Q c) : (runConditional s size body).Costs Q c := by
  have free (message : String) : (s.refuse message : Exec Yield).Costs Q c :=
    Costs.mono meter ((mild_fail _).calm.costs meter) (Nat.zero_le c)
  unfold runConditional
  split
  · refine (free _).ite (Costs.after meter s.mild_isAdmitted fun admitted => Costs.ite ?_ ?_)
    · refine Costs.after meter (mild_log _ _) fun _ => ?_
      exact Costs.bind meter hb fun _ => (mild_pure _).calm.costs meter
    · refine Costs.after meter (mild_log _ _) fun _ => ?_
      exact Costs.mono meter ((mild_pure _).calm.costs meter) (Nat.zero_le c)
  · exact free _

omit meter in
/-- A number of rounds that is out of range ends an attempt before its first round. -/
theorem costs_lift_rounds {fallback : Nat} {v : Option Scalar} {f : Nat → Exec α}
    (meter : IsMeter Q) (hf : ∀ bound, (f bound).Costs Q (bound * c)) :
    (lift (Scalar.rounds fallback v) >>= f).Costs Q (Scalar.roundsOrNone fallback v * c) := by
  unfold Scalar.roundsOrNone
  cases Scalar.rounds fallback v with
  | ok bound => exact hf bound
  | error e => exact Costs.mono meter ((mild_fail e).calm.costs meter) (Nat.zero_le _)

theorem costs_dispatch (g : Setting) (hb : ∀ w, Q c w (s.afterRound body w)) :
    (s.dispatch g size body).Costs Q (s.rounds * c) := by
  have leaf {x : Exec Yield} (hx : x.IsCalm) : x.Costs Q (s.rounds * c) :=
    Costs.mono meter (hx.costs meter) (Nat.zero_le _)
  unfold Step.afterRound at hb
  unfold Step.dispatch
  cases hk : s.kind <;> simp only [hk, reduceCtorEq, if_false, if_true] at hb ⊢
  case navigate => exact leaf (s.calm_navigate g)
  case wait => exact leaf (s.mild_wait g).calm
  case click => exact leaf (s.mild_click g).calm
  case fill => exact leaf (s.mild_fill g).calm
  case select => exact leaf (s.mild_select g).calm
  case extract => exact leaf (s.calm_extract g)
  case scroll => exact leaf (s.mild_scroll g).calm
  case screenshot => exact leaf (s.mild_screenshot g).calm
  case evaluate => exact leaf s.calm_evaluate
  case conditional =>
    have once : s.rounds = 1 := by simp only [Step.rounds, hk]
    rw [once, Nat.one_mul]
    exact costs_runConditional meter s size hb
  case loop =>
    have bounded : s.rounds = Scalar.roundsOrNone standardLoopRounds s.value := by
      simp only [Step.rounds, hk]
    rw [bounded]
    refine Costs.ite (Costs.mono meter ((mild_fail _).calm.costs meter) (Nat.zero_le _)) ?_
    refine costs_lift_rounds meter fun bound => ?_
    exact Costs.bind meter (costs_loopRounds meter s hb bound bound) fun _ =>
      (mild_pure _).calm.costs meter
  case retry =>
    have bounded : s.rounds = Scalar.roundsOrNone standardRetryRounds s.value := by
      simp only [Step.rounds, hk]
    rw [bounded]
    refine Costs.ite (Costs.mono meter ((mild_fail _).calm.costs meter) (Nat.zero_le _)) ?_
    refine costs_lift_rounds meter fun bound => ?_
    exact Costs.bind meter (costs_retryRounds meter s hb _ bound bound) fun _ =>
      (mild_pure _).calm.costs meter

end Metered

end Scout
