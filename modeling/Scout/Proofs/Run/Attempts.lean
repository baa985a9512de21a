import Scout.Proofs.Run.Costs

/-!
# The attempts at an action

An action that is admitted is attempted until an attempt succeeds or its budget is used
up.  The attempts are told apart one by one: each runs the handler of the action once,
all but the last have failed and were followed by a delay, and the result at the end
says how many there were.
-/

namespace Scout

open Exec

section Attempts

variable (g : Setting) (s : Step) (start : Float) (work : Exec Yield) (budget : Nat)

def Step.repeating (s : Step) (remaining : Nat) (e : Fault) : String :=
  s!"Retrying action {s.id} ({remaining} attempts remaining): {e.message}"

/-- So many attempts, all of which failed and were followed by a delay. -/
inductive Repeated (w : World) : Nat → World → Prop
  | none : Repeated w 0 w
  | again {k : Nat} {u v v' : World} {e : Fault} {shot : Option String}
      (before : Repeated w k u)
      (failed : attemptOnce g s start work (k + 1) budget u = (.done (.error (e, shot)), v))
      (delayed : pauseMillis g.policy.retryDelay (v.logged .info (s.repeating (budget - k) e)) =
        (.done (), v')) :
      Repeated w (k + 1) v'

/-- How the attempts at an action end, and how many of them there were. -/
inductive Attempted (w : World) : Nat → Outcome ActionResult × World → Prop
  | succeeded {k : Nat} {u v : World} {r : ActionResult}
      (before : Repeated g s start work budget w k u)
      (last : attemptOnce g s start work (k + 1) budget u = (.done (.ok r), v)) :
      Attempted w (k + 1) (.done r, v)
  | exhausted {u v : World} {e : Fault} {shot : Option String}
      (before : Repeated g s start work budget w budget u)
      (last : attemptOnce g s start work (budget + 1) budget u = (.done (.error (e, shot)), v)) :
      Attempted w (budget + 1) (settleFailure s start (budget + 1) shot e v)
  | cut {k : Nat} {u v : World} (before : Repeated g s start work budget w k u)
      (last : attemptOnce g s start work (k + 1) budget u = (.cancelled, v)) :
      Attempted w (k + 1) (.cancelled, v)
  | undelayed {k : Nat} {u v v' : World} {e e' : Fault} {shot : Option String}
      (before : Repeated g s start work budget w k u)
      (last : attemptOnce g s start work (k + 1) budget u = (.done (.error (e, shot)), v))
      (delay : pauseMillis g.policy.retryDelay (v.logged .info (s.repeating (budget - k) e)) =
        (.failed e', v')) :
      Attempted w (k + 1) (.failed e', v')
  | cutDelay {k : Nat} {u v v' : World} {e : Fault} {shot : Option String}
      (before : Repeated g s start work budget w k u)
      (last : attemptOnce g s start work (k + 1) budget u = (.done (.error (e, shot)), v))
      (delay : pauseMillis g.policy.retryDelay (v.logged .info (s.repeating (budget - k) e)) =
        (.cancelled, v')) :
      Attempted w (k + 1) (.cancelled, v')

variable {g s start work budget}

/-- An attempt does not fail: what its handler fails with is its value. -/
theorem unfailing_attemptOnce (k : Nat) : (attemptOnce g s start work k budget).Unfailing := by
  refine (failsOnly_update _).bind fun _ => (failsOnly_attempt _).bind fun tried => ?_
  cases tried with
  | ok y =>
    refine (failsOnly_read _).bind fun _ => FailsOnly.bind ?_ fun _ => failsOnly_pure _
    exact (failsOnly_update _).bind fun _ => failsOnly_pure _
  | error e =>
    exact ((unfailing_errorScreenshot g s.id).bind fun _ => failsOnly_pure _).ite
      ((failsOnly_pure _).bind fun _ => failsOnly_pure _)

/-- An attempt that succeeds or is cut is the last one; another one leaves it to what follows. -/
theorem attempted_attemptOnce {w u : World} {k : Nat}
    (before : Repeated g s start work budget w k u) (within : k ≤ budget)
    (next : Fault → Option String → Exec ActionResult)
    (failed : ∀ e shot v,
      attemptOnce g s start work (k + 1) budget u = (.done (.error (e, shot)), v) →
      ∃ n, n ≤ budget + 1 ∧ Attempted g s start work budget w n (next e shot v)) :
    ∃ n, n ≤ budget + 1 ∧ Attempted g s start work budget w n
      ((attemptOnce g s start work (k + 1) budget >>= fun tried =>
        match tried with
        | .ok r => pure r
        | .error (e, shot) => next e shot) u) := by
  have within : k + 1 ≤ budget + 1 := by omega
  have unfailing : (attemptOnce g s start work (k + 1) budget).Unfailing :=
    unfailing_attemptOnce (k + 1)
  rcases h : attemptOnce g s start work (k + 1) budget u with ⟨(⟨e, shot⟩ | r) | e | _, v⟩
  · rw [bind_done h]
    exact failed e shot v h
  · rw [bind_done h]
    exact ⟨k + 1, within, .succeeded before h⟩
  · exact (unfailing u e (by rw [h])).elim
  · rw [bind_cancelled h]
    exact ⟨k + 1, within, .cut before h⟩

theorem attempted_attempts {w u : World} {k left : Nat}
    (before : Repeated g s start work budget w k u) (all : k + left = budget) :
    ∃ n, n ≤ budget + 1 ∧ Attempted g s start work budget w n
      (attempts g s start work budget left u) := by
  induction left generalizing k u with
  | zero =>
    obtain rfl : k = budget := all
    refine attempted_attemptOnce before (Nat.le_refl k) _ fun e shot v failed => ?_
    exact ⟨k + 1, Nat.le_refl _, .exhausted before failed⟩
  | succ left ih =>
    have number : budget - left = k + 1 := by omega
    have remaining : left + 1 = budget - k := by omega
    have within : k + 1 ≤ budget + 1 := by omega
    rw [attempts, number]
    refine attempted_attemptOnce before (by omega) _ fun e shot v failed => ?_
    have message : s!"Retrying action {s.id} ({left + 1} attempts remaining): {e.message}" =
        s.repeating (budget - k) e := by
      rw [← remaining]
      rfl
    rw [message, bind_done (show log .info _ v = (.done (), v.logged .info _) from rfl)]
    rcases delay : pauseMillis g.policy.retryDelay (v.logged .info (s.repeating (budget - k) e))
      with ⟨_ | e' | _, v'⟩
    · rw [bind_done delay]
      exact ih (.again before failed delay) (by omega)
    · rw [bind_failed delay]
      exact ⟨k + 1, within, .undelayed before failed delay⟩
    · rw [bind_cancelled delay]
      exact ⟨k + 1, within, .cutDelay before failed delay⟩

/-! ## Executions -/

/-- One attempt at an action, with the variables as they are then. -/
def Step.handler (s : Step) (g : Setting) (size : Nat) (body : Exec Unit) : Exec Yield := do
  (← s.resolve).dispatch g size body

/-- How an execution ends, and how often it has run the handler of its action: once in each
attempt. -/
inductive Dispatched (g : Setting) (s : Step) (size : Nat) (body : Exec Unit) (depth : Int)
    (w : World) : Nat → Outcome ActionResult × World → Prop
  | tooDeep (deep : g.options.maxDepth < depth) :
      Dispatched g s size body depth w 0 (.failed (depthFault g s.id), w)
  | cut {u : World} (asked : s.isAdmitted w = (.cancelled, u)) :
      Dispatched g s size body depth w 0 (.cancelled, u)
  | skipped {u : World} (asked : s.isAdmitted w = (.done false, u)) :
      Dispatched g s size body depth w 0 (.done s.skipResult,
        (u.logged .debug s!"Skipping action {s.id} — conditions not met").recorded s.skipResult)
  | attempted {u : World} {n : Nat} {end_ : Outcome ActionResult × World}
      (asked : s.isAdmitted w = (.done true, u))
      (tried : Attempted g s w.clock (s.handler g size body) (s.retryBudget g w.retryDepth) u n
        end_) :
      Dispatched g s size body depth w n end_

theorem dispatched_executeStep (size : Nat) (body : Exec Unit) (depth : Int) (w : World) :
    ∃ n, n ≤ 1 + s.retryBudget g w.retryDepth ∧
      Dispatched g s size body depth w n (executeStep g s size body depth w) := by
  unfold executeStep
  rw [bind_done (read_apply _ _)]
  by_cases deep : g.options.maxDepth < depth
  · rw [if_pos deep]
    exact ⟨0, Nat.zero_le _, .tooDeep deep⟩
  · rw [if_neg deep]
    have unfailing := s.unfailing_isAdmitted w
    have still := s.mild_isAdmitted w
    rcases h : s.isAdmitted w with ⟨admitted | e | _, u⟩ <;> rw [h] at unfailing still
    · rw [bind_done h]
      cases admitted
      · exact ⟨0, Nat.zero_le _, .skipped h⟩
      · have scope : u.retryDepth = w.retryDepth := still.retryDepth
        have unrepeated : Repeated g s w.clock (s.handler g size body)
          (s.retryBudget g w.retryDepth) u 0 u := .none
        obtain ⟨n, within, tried⟩ := attempted_attempts unrepeated (Nat.zero_add _)
        refine ⟨n, by omega, .attempted h ?_⟩
        rw [if_pos rfl, bind_done (read_apply _ _), scope]
        exact tried
    · exact (unfailing e rfl).elim
    · rw [bind_cancelled h]
      exact ⟨0, Nat.zero_le _, .cut h⟩

/-! ## What executions cost -/

/-- The result is one of the action, and unless that was skipped it was attempted within a budget:
once and then so often at most, and so often if it failed. -/
structure ActionResult.Fits (r : ActionResult) (s : Step) (budget : Int) : Prop where
  named : r.actionId = s.id
  attempted : r.skipped = false → 1 ≤ r.attempts ∧ r.attempts ≤ 1 + budget
  failed : r.skipped = false → r.success = false → r.attempts = 1 + budget

/-- An execution costs so much, and then it enters one result, which it returns if it returns; or
it ends without a result. -/
inductive Charged (Q : Nat → World → World → Prop) (n : Nat) (s : Step) (budget : Int) (w : World) :
    Outcome ActionResult × World → Prop
  | entered {u v : World} {out : Outcome ActionResult} {r : ActionResult} (cost : Q n w u)
      (retryDepth : v.retryDepth = u.retryDepth)
      (last : v.context.results = u.context.results ++ [r]) (fits : r.Fits s budget)
      (returned : ∀ r', out = .done r' → r' = r) : Charged Q n s budget w (out, v)
  | nothing {v : World} {out : Outcome ActionResult} (cost : Q n w v)
      (unreturned : ∀ r, out ≠ .done r) : Charged Q n s budget w (out, v)

/-- An attempt costs what the handler costs; then its success is entered, and its failure is not. -/
inductive Once (Q : Nat → World → World → Prop) (n : Nat) (s : Step) (k : Nat) (w : World) :
    Outcome (Except (Fault × Option String) ActionResult) × World → Prop
  | succeeded {u : World} (duration : Float) (y : Yield) (cost : Q n w u) :
      Once Q n s k w (.done (.ok (s.successResult duration k y)),
        u.recorded (s.successResult duration k y))
  | failed {v : World} (e : Fault) (shot : Option String) (cost : Q n w v) :
      Once Q n s k w (.done (.error (e, shot)), v)
  | cut {v : World} (cost : Q n w v) : Once Q n s k w (.cancelled, v)

section Costs

variable {Q : Nat → World → World → Prop} (meter : IsMeter Q) {c : Nat}
include meter

theorem once_attemptOnce (hw : work.Costs Q c) {k : Nat} {w : World}
    {end_ : Outcome (Except (Fault × Option String) ActionResult) × World}
    (ran : attemptOnce g s start work k budget w = end_) : Once Q c s k w end_ := by
  rw [← ran]
  have logged := World.Still.logged w .debug
    s!"Executing action {s.id} ({s.kind.word}) attempt {k}/{budget + 1}"
  have worked := meter.still_first logged (hw _)
  unfold attemptOnce
  rw [bind_done (show log _ _ w = (.done (), w.logged _ _) from rfl)]
  rcases h : work (w.logged .debug _) with ⟨y | e | _, u⟩ <;> rw [h] at worked
  · rw [bind_done (attempt_done h)]
    exact .succeeded _ y worked
  · rw [bind_done (attempt_failed h)]
    dsimp only
    split
    · have shown := meter.still_last worked ((mild_errorScreenshot g s.id).calm.still u)
      have unfailing := unfailing_errorScreenshot g s.id u
      rcases ht : errorScreenshot g s.id u with ⟨shot | e' | _, v⟩ <;> rw [ht] at shown unfailing
      · rw [bind_done ht]
        exact .failed e shot shown
      · exact (unfailing e' rfl).elim
      · rw [bind_cancelled ht]
        exact .cut shown
    · exact .failed e none worked
  · rw [bind_cancelled (attempt_cancelled h)]
    exact .cut worked

theorem cost_of_failed (hw : work.Costs Q c) {k : Nat} {u v : World} {e : Fault}
    {shot : Option String}
    (failed : attemptOnce g s start work k budget u = (.done (.error (e, shot)), v)) :
    Q c u v := by
  cases once_attemptOnce meter hw failed with
  | failed _ _ cost => exact cost

theorem Repeated.cost (hw : work.Costs Q c) {k : Nat} {w u : World}
    (h : Repeated g s start work budget w k u) : Q (k * c) w u := by
  induction h with
  | none =>
    rw [Nat.zero_mul]
    exact meter.still (.refl w)
  | @again k u v v' e shot _ failed delayed ih =>
    have tried := meter.still_last (cost_of_failed meter hw failed)
      (World.Still.logged v .info (s.repeating (budget - k) e))
    have paused := mild_pauseMillis g.policy.retryDelay
      (v.logged .info (s.repeating (budget - k) e))
    rw [delayed] at paused
    have all := meter.add ih (meter.still_last tried paused.toStill)
    rwa [← Nat.succ_mul] at all

theorem Repeated.cost_with_last (hw : work.Costs Q c) {k : Nat} {w u v : World}
    (h : Repeated g s start work budget w k u) (within : k ≤ budget) (last : Q c u v) :
    Q ((budget + 1) * c) w v := by
  have all := meter.add (h.cost meter hw) last
  rw [← Nat.succ_mul] at all
  exact meter.mono all (Nat.mul_le_mul_right c (Nat.succ_le_succ within))

theorem Attempted.charged (hw : work.Costs Q c) {n : Nat} {w : World}
    {end_ : Outcome ActionResult × World} (h : Attempted g s start work budget w n end_)
    (within : n ≤ budget + 1) : Charged Q ((budget + 1) * c) s budget w end_ := by
  have delayed {v v' : World} {out : Outcome Unit} {remaining : Nat} {e : Fault}
      (delay : pauseMillis g.policy.retryDelay (v.logged .info (s.repeating remaining e)) =
        (out, v')) : v.Still v' := by
    have paused := mild_pauseMillis g.policy.retryDelay
      (v.logged .info (s.repeating remaining e))
    rw [delay] at paused
    exact (World.Still.logged v _ _).trans paused.toStill
  cases h with
  | @succeeded k u v r before last =>
    cases once_attemptOnce meter hw last with
    | succeeded duration y cost =>
      have cost := before.cost_with_last meter hw (by omega) cost
      refine .entered cost rfl rfl ⟨rfl, fun _ => ?_, fun _ failed => ?_⟩ fun r' h => ?_
      · dsimp only [Step.successResult]
        omega
      · cases failed
      · cases h
        rfl
  | @exhausted u v e shot before last =>
    have cost := before.cost_with_last meter hw (Nat.le_refl _) (cost_of_failed meter hw last)
    have fits (duration : Float) :
        (s.failureResult duration (budget + 1) e shot).Fits s budget := by
      refine ⟨rfl, fun _ => ?_, fun _ _ => ?_⟩
      · dsimp only [Step.failureResult]
        omega
      · dsimp only [Step.failureResult]
        omega
    rw [settleFailure_apply]
    cases s.optional
    · refine .entered cost rfl rfl (fits _) fun r' h => ?_
      cases h
    · refine .entered cost rfl rfl (fits _) fun r' h => ?_
      cases h
      rfl
  | @cut k u v before last =>
    cases once_attemptOnce meter hw last with
    | cut cost => exact .nothing (before.cost_with_last meter hw (by omega) cost) (by simp)
  | undelayed before last delay =>
    have cost := meter.still_last (cost_of_failed meter hw last) (delayed delay)
    exact .nothing (before.cost_with_last meter hw (by omega) cost) (by simp)
  | cutDelay before last delay =>
    have cost := meter.still_last (cost_of_failed meter hw last) (delayed delay)
    exact .nothing (before.cost_with_last meter hw (by omega) cost) (by simp)

theorem charged_executeStep {size : Nat} {body : Exec Unit}
    (hd : ∀ vars, ((s.substitute vars).dispatch g size body).Costs Q c) (depth : Int) (w : World) :
    Charged Q ((s.retryBudget g w.retryDepth + 1) * c) s (s.retryBudget g w.retryDepth) w
      (executeStep g s size body depth w) := by
  have free {n : Nat} {u v : World} (same : u.Still v) : Q n u v :=
    meter.mono (meter.still same) (Nat.zero_le n)
  have handled : (s.handler g size body).Costs Q c := by
    intro v
    obtain ⟨u, resolved, -⟩ := s.resolve_apply v
    have still := s.still_resolve v
    rw [resolved] at still
    unfold Step.handler
    rw [bind_done resolved]
    exact meter.still_first still (hd _ u)
  obtain ⟨n, within, ended⟩ := dispatched_executeStep (g := g) (s := s) size body depth w
  generalize executeStep g s size body depth w = end_ at ended ⊢
  cases ended with
  | tooDeep => exact .nothing (free (.refl w)) (by simp)
  | cut asked =>
    have still := s.mild_isAdmitted w
    rw [asked] at still
    exact .nothing (free still.toStill) (by simp)
  | skipped asked =>
    have still := s.mild_isAdmitted w
    rw [asked] at still
    refine .entered (free still.toStill) rfl rfl ⟨rfl, ?_, ?_⟩ ?_
    · intro unskipped
      cases unskipped
    · intro unskipped
      cases unskipped
    · intro r h
      cases h
      rfl
  | attempted asked tried =>
    have still := s.mild_isAdmitted w
    rw [asked] at still
    have closed := tried.charged meter handled (by omega)
    cases closed with
    | entered cost retryDepth last fits returned =>
      exact .entered (meter.still_first still.toStill cost) retryDepth last fits returned
    | nothing cost unreturned => exact .nothing (meter.still_first still.toStill cost) unreturned

end Costs

end Attempts

end Scout
