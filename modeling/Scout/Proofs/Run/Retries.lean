import Scout.Proofs.Run.Deadline
import Scout.Proofs.Run.Rounds

/-!
# Attempts of a retry

A retry attempts its program until all actions of an attempt return, and no more often
than it is asked to.  Each attempt begins in the world that the one before it and the
delay after that have left; there is no delay after the last one, and its failure is the
failure of the retry.
-/

namespace Scout

open Exec

/-! ## Delays -/

/-- How a delay ends: at once if it is not positive, and otherwise after a pause or by the
deadline. -/
inductive DelayEnd (millis : Int) (seconds : Float) (w : World) : Outcome Unit × World → Prop
  | none (nonpositive : millis ≤ 0) : DelayEnd millis seconds w (.done (), w)
  | slept (positive : 0 < millis) (early : w.IsEarly (w.clock + seconds)) :
      DelayEnd millis seconds w
        (.done (), { w.listedPause seconds with clock := w.clock + seconds })
  | cut {d : Float} (positive : 0 < millis) (limit : w.deadline = some d)
      (late : d ≤ w.clock + seconds) :
      DelayEnd millis seconds w (.cancelled, { w.listedPause seconds with clock := d })

section Delays

variable {millis : Int} {seconds : Float} {w : World}

theorem World.clock_listedPause (w : World) (seconds : Float) :
    (w.listedPause seconds).clock = w.clock := by
  unfold listedPause
  split <;> rfl

theorem pauseMillis_of_pos (positive : 0 < millis)
    (finite : secondsOfMillis millis = .ok seconds) (w : World) :
    pauseMillis millis w = pass seconds (w.listedPause seconds) := by
  unfold pauseMillis
  rw [if_pos positive, finite, bind_done (show lift (.ok seconds) w = (.done seconds, w) from rfl),
    pause_apply]

theorem delayEnd_pauseMillis (finite : secondsOfMillis millis = .ok seconds) (w : World) :
    DelayEnd millis seconds w (pauseMillis millis w) := by
  by_cases positive : 0 < millis
  · rw [pauseMillis_of_pos positive finite]
    rcases pass_cases seconds (w.listedPause seconds) with ⟨early, h⟩ | ⟨d, limit, late, h⟩
    · rw [World.IsEarly, w.deadline_listedPause, w.clock_listedPause] at early
      rw [h, w.clock_listedPause]
      exact .slept positive early
    · rw [w.deadline_listedPause] at limit
      rw [w.clock_listedPause] at late
      rw [h]
      exact .cut positive limit late
  · unfold pauseMillis
    rw [if_neg positive]
    exact .none (by omega)

theorem DelayEnd.unique {end_ end' : Outcome Unit × World} (h : DelayEnd millis seconds w end_)
    (h' : DelayEnd millis seconds w end') : end_ = end' := by
  cases h with
  | none =>
    cases h' with
    | none => rfl
    | slept | cut => omega
  | slept _ early =>
    cases h' with
    | none => omega
    | slept => rfl
    | cut _ limit late => exact absurd late (early _ limit)
  | cut _ limit late =>
    cases h' with
    | none => omega
    | slept _ early => exact absurd late (early _ limit)
    | cut _ limit' =>
      rw [limit, Option.some.injEq] at limit'
      rw [limit']

theorem DelayEnd.pauseMillis (finite : secondsOfMillis millis = .ok seconds)
    {end_ : Outcome Unit × World} (h : DelayEnd millis seconds w end_) :
    pauseMillis millis w = end_ :=
  (delayEnd_pauseMillis finite w).unique h

end Delays

/-! ## Attempts -/

theorem secondsOfMillis_standardRetryDelay :
    secondsOfMillis standardRetryDelay = .ok (Decimal.nearest false 1000 (-3)) := by
  have isFinite : Decimal.isFinite (Decimal.nearest false 1000 (-3)) = true := by
    decide +kernel
  exact if_pos isFinite

/-- What is logged before an attempt of a retry, and after one that is followed by another. -/
def Step.retrying (s : Step) (k bound : Nat) : String :=
  s!"Retry {s.id} attempt {k}/{bound}"

def Step.retryingAgain (s : Step) (k : Nat) (delay : Int) : String :=
  s!"Retry {s.id} attempt {k} failed, retrying in {delay}ms"

/-- What a retry yields if so many attempts have been made. -/
def Yield.attempts (k : Nat) : Yield :=
  ⟨.record [("attempts", .int k)], none⟩

section Retries

variable (g : Setting) (s : Step) (program : List Action) (depth : Int) (n : Nat)
  (seconds : Float)

/-- The delay of a retry between its attempts, in milliseconds. -/
def Step.retryDelay (s : Step) : Int :=
  s.timeout.getD standardRetryDelay

def Step.attemptBegun (s : Step) (k bound : Nat) (w : World) : World :=
  enterRetry (w.logged .debug (s.retrying k bound))

/-- The world in which the delay after a failed attempt begins. -/
def Step.attemptFailed (s : Step) (k : Nat) (w : World) : World :=
  (leaveRetry w).logged .info (s.retryingAgain k s.retryDelay)

/-- So many attempts of a retry: an action of each has failed, and a delay has followed. -/
inductive Retried (w : World) : Nat → World → Prop
  | none : Retried w 0 w
  | again {k : Nat} {u v v' : World} {e : Fault} (before : Retried w k u)
      (broke : Interrupted g depth program (s.attemptBegun (k + 1) n u) (.failed e) v)
      (blamed : e.isOfAction = true)
      (delayed : DelayEnd s.retryDelay seconds (s.attemptFailed (k + 1) v) (.done (), v')) :
      Retried w (k + 1) v'

/-- How a retry of at most `n` attempts ends: with the first attempt in which all actions return;
with the failure of the last one; with a fault that is not the failure of an action; or by the
deadline, in an action or in a delay. -/
inductive RetryEnd (w : World) : Outcome Yield × World → Prop
  | succeeded {k : Nat} {u v : World} (failed : Retried g s program depth n seconds w k u)
      (more : k < n) (all : Performed g depth program (s.attemptBegun (k + 1) n u) v) :
      RetryEnd w (.done (.attempts (k + 1)), leaveRetry v)
  | exhausted {k : Nat} {u v : World} {e : Fault}
      (failed : Retried g s program depth n seconds w k u) (last : k + 1 = n)
      (broke : Interrupted g depth program (s.attemptBegun (k + 1) n u) (.failed e) v) :
      RetryEnd w (.failed e, leaveRetry v)
  | foreign {k : Nat} {u v : World} {e : Fault}
      (failed : Retried g s program depth n seconds w k u) (more : k + 1 < n)
      (broke : Interrupted g depth program (s.attemptBegun (k + 1) n u) (.failed e) v)
      (unblamed : e.isOfAction = false) : RetryEnd w (.failed e, leaveRetry v)
  | cut {k : Nat} {u v : World} (failed : Retried g s program depth n seconds w k u) (more : k < n)
      (broke : Interrupted g depth program (s.attemptBegun (k + 1) n u) .cancelled v) :
      RetryEnd w (.cancelled, leaveRetry v)
  | cutDelay {k : Nat} {u v v' : World} {e : Fault}
      (failed : Retried g s program depth n seconds w k u) (more : k + 1 < n)
      (broke : Interrupted g depth program (s.attemptBegun (k + 1) n u) (.failed e) v)
      (blamed : e.isOfAction = true)
      (delayed : DelayEnd s.retryDelay seconds (s.attemptFailed (k + 1) v) (.cancelled, v')) :
      RetryEnd w (.cancelled, v')

variable {g s program depth n seconds} {w u v : World} {k left : Nat}

section Attempt

variable {body : Exec Unit} {e : Fault}

/-- An attempt of a retry: what is done with the way in which the program ended. -/
theorem retryRounds_attempt (count : k + (left + 1) = n) :
    retryRounds s body s.retryDelay n (left + 1) u =
      (attempt (ensuring body leaveRetry) >>= fun tried => match tried with
        | .ok _ => pure (k + 1)
        | .error e =>
          if e.isOfAction && left != 0 then do
            log .info (s.retryingAgain (k + 1) s.retryDelay)
            pauseMillis s.retryDelay
            retryRounds s body s.retryDelay n left
          else fail e) (s.attemptBegun (k + 1) n u) := by
  have number : n - left = k + 1 := by omega
  rw [retryRounds, number]
  rfl

theorem retryRounds_of_done (count : k + (left + 1) = n)
    (ran : body (s.attemptBegun (k + 1) n u) = (.done (), v)) :
    retryRounds s body s.retryDelay n (left + 1) u = (.done (k + 1), leaveRetry v) := by
  have tried : ensuring body leaveRetry (s.attemptBegun (k + 1) n u) =
      (.done (), leaveRetry v) := by
    rw [ensuring, ran]
  rw [retryRounds_attempt count, bind_done (attempt_done tried)]
  rfl

theorem retryRounds_of_cancelled (count : k + (left + 1) = n)
    (ran : body (s.attemptBegun (k + 1) n u) = (.cancelled, v)) :
    retryRounds s body s.retryDelay n (left + 1) u = (.cancelled, leaveRetry v) := by
  have tried : ensuring body leaveRetry (s.attemptBegun (k + 1) n u) =
      (.cancelled, leaveRetry v) := by
    rw [ensuring, ran]
  rw [retryRounds_attempt count, bind_cancelled (attempt_cancelled tried)]

theorem retryRounds_of_failed (count : k + (left + 1) = n)
    (ran : body (s.attemptBegun (k + 1) n u) = (.failed e, v)) :
    retryRounds s body s.retryDelay n (left + 1) u =
      if e.isOfAction && left != 0 then
        (pauseMillis s.retryDelay >>= fun _ => retryRounds s body s.retryDelay n left)
          (s.attemptFailed (k + 1) v)
      else (.failed e, leaveRetry v) := by
  have tried : ensuring body leaveRetry (s.attemptBegun (k + 1) n u) =
      (.failed e, leaveRetry v) := by
    rw [ensuring, ran]
  rw [retryRounds_attempt count, bind_done (attempt_failed tried)]
  dsimp only
  split <;> rfl

end Attempt

/-- After so many failed attempts, of which none was the last, a retry goes on with the others. -/
theorem Retried.retryRounds (h : Retried g s program depth n seconds w k u)
    (finite : secondsOfMillis s.retryDelay = .ok seconds) (count : k + (left + 1) = n) :
    retryRounds s (executeProgram g program depth) s.retryDelay n n w =
      retryRounds s (executeProgram g program depth) s.retryDelay n (left + 1) u := by
  induction h generalizing left with
  | none =>
    obtain rfl : left + 1 = n := by omega
    rfl
  | @again k u v v' e _ broke blamed delayed ih =>
    have before := ih (show k + (left + 1 + 1) = n by omega)
    have goesOn : (e.isOfAction && left + 1 != 0) = true := by simp [blamed]
    rw [before, retryRounds_of_failed (by omega) broke.executeProgram_failed, if_pos goesOn,
      bind_done (delayed.pauseMillis finite)]

/-- An attempt in which no action fails ends a retry; another one leaves it to what follows. -/
theorem retryEnd_of_attempt (before : Retried g s program depth n seconds w k u)
    (count : k + (left + 1) = n)
    (failed : ∀ e v, Interrupted g depth program (s.attemptBegun (k + 1) n u) (.failed e) v →
      RetryEnd g s program depth n seconds w
        ((retryRounds s (executeProgram g program depth) s.retryDelay n (left + 1) >>= fun k =>
          pure (Yield.attempts k)) u)) :
    RetryEnd g s program depth n seconds w
      ((retryRounds s (executeProgram g program depth) s.retryDelay n (left + 1) >>= fun k =>
        pure (Yield.attempts k)) u) := by
  have more : k < n := by omega
  have ended := programEnd g depth program (s.attemptBegun (k + 1) n u)
  rcases ran : executeProgram g program depth (s.attemptBegun (k + 1) n u)
    with ⟨_ | e | _, v⟩ <;> rw [ran] at ended
  · cases ended with
    | performed all =>
      rw [bind_done (retryRounds_of_done count ran)]
      exact .succeeded before more all
  · cases ended with
    | failed broke => exact failed e v broke
  · cases ended with
    | cut broke =>
      rw [bind_cancelled (retryRounds_of_cancelled count ran)]
      exact .cut before more broke

theorem retryEnd_of_rounds (finite : secondsOfMillis s.retryDelay = .ok seconds)
    (before : Retried g s program depth n seconds w k u) (count : k + (left + 1) = n) :
    RetryEnd g s program depth n seconds w
      ((retryRounds s (executeProgram g program depth) s.retryDelay n (left + 1) >>= fun k =>
        pure (Yield.attempts k)) u) := by
  induction left generalizing k u with
  | zero =>
    refine retryEnd_of_attempt before count fun e v broke => ?_
    have last : ¬ (e.isOfAction && 0 != 0) = true := by simp
    have ran := retryRounds_of_failed count broke.executeProgram_failed
    rw [if_neg last] at ran
    rw [bind_failed ran]
    exact .exhausted before count broke
  | succ left ih =>
    have more : k + 1 < n := by omega
    refine retryEnd_of_attempt before count fun e v broke => ?_
    have ran := retryRounds_of_failed count broke.executeProgram_failed
    cases blamed : e.isOfAction with
    | false =>
      rw [blamed, Bool.false_and, if_neg Bool.false_ne_true] at ran
      rw [bind_failed ran]
      exact .foreign before more broke blamed
    | true =>
      have goesOn : (e.isOfAction && left + 1 != 0) = true := by simp [blamed]
      rw [if_pos goesOn] at ran
      have delayed := delayEnd_pauseMillis finite (s.attemptFailed (k + 1) v)
      rcases paused : pauseMillis s.retryDelay (s.attemptFailed (k + 1) v) with ⟨_ | e' | _, v'⟩ <;>
        rw [paused] at delayed
      · rw [bind_done paused] at ran
        rw [bind_apply, ran, ← bind_apply]
        exact ih (.again before broke blamed delayed) (by omega)
      · cases delayed
      · rw [bind_cancelled paused] at ran
        rw [bind_cancelled ran]
        exact .cutDelay before more broke blamed delayed

theorem RetryEnd.retryRounds (finite : secondsOfMillis s.retryDelay = .ok seconds)
    {end_ : Outcome Yield × World} (h : RetryEnd g s program depth n seconds w end_) :
    (retryRounds s (executeProgram g program depth) s.retryDelay n n >>= fun k =>
      pure (Yield.attempts k)) w = end_ := by
  have count {k : Nat} (more : k < n) : k + (n - (k + 1) + 1) = n := by omega
  cases h with
  | succeeded failed more all =>
    rw [bind_apply, failed.retryRounds finite (count more),
      retryRounds_of_done (count more) all.executeProgram]
    rfl
  | @exhausted k u v e failed last broke =>
    have count : k + (0 + 1) = n := last
    have settled : ¬ (e.isOfAction && 0 != 0) = true := by simp
    rw [bind_apply, failed.retryRounds finite count,
      retryRounds_of_failed count broke.executeProgram_failed, if_neg settled]
  | @foreign k u v e failed more broke unblamed =>
    have count := count (Nat.lt_of_succ_lt more)
    rw [bind_apply, failed.retryRounds finite count,
      retryRounds_of_failed count broke.executeProgram_failed, unblamed, Bool.false_and,
      if_neg Bool.false_ne_true]
  | cut failed more broke =>
    rw [bind_apply, failed.retryRounds finite (count more),
      retryRounds_of_cancelled (count more) broke.executeProgram_cancelled]
  | @cutDelay k u v v' e failed more broke blamed delayed =>
    have remaining : n - (k + 1) ≠ 0 := by omega
    have goesOn : (e.isOfAction && n - (k + 1) != 0) = true := by simp [blamed, remaining]
    have count := count (Nat.lt_of_succ_lt more)
    rw [bind_apply, failed.retryRounds finite count,
      retryRounds_of_failed count broke.executeProgram_failed, if_pos goesOn,
      bind_cancelled (delayed.pauseMillis finite)]

theorem retryRounds_eq_iff (finite : secondsOfMillis s.retryDelay = .ok seconds)
    (positive : 0 < n) {end_ : Outcome Yield × World} :
    (retryRounds s (executeProgram g program depth) s.retryDelay n n >>= fun k =>
      pure (Yield.attempts k)) w = end_ ↔ RetryEnd g s program depth n seconds w end_ := by
  constructor
  · intro ended
    obtain ⟨left, rfl⟩ := Nat.exists_eq_succ_of_ne_zero positive.ne'
    rw [← ended]
    exact retryEnd_of_rounds finite .none (Nat.zero_add _)
  · exact RetryEnd.retryRounds finite

end Retries

/-- An attempt at a retry that has no actions is refused.  Otherwise, with `n` attempts at most, it
goes through its actions until an attempt has no failure; each attempt ends with the first action
that fails, and a delay follows unless it is the last.  It ends in just the one way that `RetryEnd`
lists for that. -/
theorem dispatch_retry_iff {s : Step} {n : Nat} {seconds : Float} (kind : s.kind = .retry)
    (bound : Scalar.rounds standardRetryRounds s.value = .ok n)
    (finite : secondsOfMillis s.retryDelay = .ok seconds) (g : Setting) (program : List Action)
    (depth : Int) (w : World) :
    (program = [] → s.dispatch g program.length (executeProgram g program depth) w =
      (.failed (.ofAction s.id "Retry action requires actions to execute"), w)) ∧
    (program ≠ [] → ∀ end_,
      s.dispatch g program.length (executeProgram g program depth) w = end_ ↔
        RetryEnd g s program depth n seconds w end_) := by
  constructor
  · intro empty
    subst empty
    have lacks : s.lacking? 0 = some "Retry action requires actions to execute" := by
      simp [Step.lacking?, kind]
    exact congrFun (Step.dispatch_of_lacking lacks g _) w
  · intro nonempty end_
    have complete : s.lacking? program.length = none := by
      simp [Step.lacking?, kind, nonempty]
    have positive : 0 < n := Scalar.rounds_pos (by decide) bound
    rw [Step.dispatch_retry kind complete, bound]
    exact retryRounds_eq_iff finite positive

/-- A retry that clicks nowhere fails with its third attempt, after two delays of a second. -/
theorem dispatch_retry_iff_aimless :
    (Step.plain .retry).kind = .retry ∧
    Scalar.rounds standardRetryRounds (Step.plain .retry).value = .ok 3 ∧
    (Step.plain .retry).retryDelay = 1000 ∧
    ∃ seconds e u v, secondsOfMillis 1000 = .ok seconds ∧
      e = .ofAction "a" "Click action requires a selector" ∧
      (Step.plain .retry).dispatch .plain 1 (executeProgram .plain [⟨.plain .click, none⟩] 2)
        (.opening .blank []) = (.failed e, leaveRetry v) ∧
      Retried .plain (.plain .retry) [⟨.plain .click, none⟩] 2 3 seconds (.opening .blank []) 2 u ∧
      Interrupted .plain 2 [⟨.plain .click, none⟩] ((Step.plain .retry).attemptBegun 3 3 u)
        (.failed e) v := by
  have failed : ((Step.plain .retry).dispatch .plain 1
      (executeProgram .plain [⟨.plain .click, none⟩] 2) (.opening .blank [])).1 =
        .failed (.ofAction "a" "Click action requires a selector") :=
    Outcome.fault?_eq_some_iff.mp (by decide +kernel)
  have law := (dispatch_retry_iff (s := .plain .retry) (n := 3) rfl rfl
    secondsOfMillis_standardRetryDelay .plain
    [⟨.plain .click, none⟩] 2 (.opening .blank [])).2 (List.cons_ne_nil _ _)
  have ended := (law _).mp rfl
  rcases ran : (Step.plain .retry).dispatch .plain 1
    (executeProgram .plain [⟨.plain .click, none⟩] 2) (.opening .blank []) with ⟨out, v⟩
  rw [ran] at failed
  obtain rfl : out = _ := failed
  rw [show [(⟨.plain .click, none⟩ : Action)].length = 1 from rfl, ran] at ended
  cases ended with
  | @exhausted k u v e repeated last broke =>
    obtain rfl : k = 2 := by omega
    exact ⟨rfl, rfl, rfl, _, _, u, v, secondsOfMillis_standardRetryDelay, rfl, rfl,
      repeated, broke⟩
  | foreign _ _ _ unblamed => cases unblamed

/-- A retry without actions does not succeed, though no action of it fails. -/
theorem retry_of_no_actions :
    ¬ ∀ (g : Setting) (s : Step) (program : List Action) (depth : Int) (n : Nat) (seconds : Float)
      (w : World), s.kind = .retry → Scalar.rounds standardRetryRounds s.value = .ok n →
      secondsOfMillis s.retryDelay = .ok seconds →
      RetryEnd g s program depth n seconds w
        (s.dispatch g program.length (executeProgram g program depth) w) := by
  intro claim
  have ended := claim .plain (.plain .retry) [] 2 3 _ (.opening .blank []) rfl rfl
    secondsOfMillis_standardRetryDelay
  have refused : (Step.plain .retry).dispatch .plain 0 (executeProgram .plain [] 2)
      (.opening .blank []) =
        (.failed (.ofAction "a" "Retry action requires actions to execute"), .opening .blank []) :=
    rfl
  rw [show ([] : List Action).length = 0 from rfl, refused] at ended
  generalize hend : ((.failed (.ofAction "a" "Retry action requires actions to execute"),
    .opening .blank []) : Outcome Yield × World) = end_ at ended
  cases ended with
  | succeeded | cut | cutDelay => cases hend
  | exhausted _ _ broke => cases broke
  | foreign _ _ broke => cases broke

end Scout
