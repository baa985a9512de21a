import Scout.Proofs.Run.Actions

/-!
# Programs with a list beside them

A program is followed with a list beside it, of what happens in it.  What a traced
program does is what the program does, so that its list is that of the program.  An
execution is traced here as far as its attempts and rounds; what is listed is left to
the filling in of its templates and to the program inside it.
-/

namespace Scout

open Exec

/-- A program, with the list of what happens in it from each world. -/
structure Traced (ε α : Type) where
  run : Exec α
  trials : World → List ε

namespace Traced

variable {ε α β : Type}

def idle (x : Exec α) : Traced ε α :=
  ⟨x, fun _ => []⟩

protected def bind (x : Traced ε α) (f : α → Traced ε β) : Traced ε β where
  run := x.run >>= fun a => (f a).run
  trials w := x.trials w ++ match x.run w with
    | (.done a, u) => (f a).trials u
    | _ => []

instance : Monad (Traced ε) where
  pure a := idle (pure a)
  bind := Traced.bind

instance : MonadLift Exec (Traced ε) :=
  ⟨idle⟩

def attempt (x : Traced ε α) : Traced ε (Except Fault α) :=
  ⟨Exec.attempt x.run, x.trials⟩

def ensuring (x : Traced ε α) (f : World → World) : Traced ε α :=
  ⟨Exec.ensuring x.run f, x.trials⟩

@[simp] theorem run_pure (a : α) : (pure a : Traced ε α).run = pure a := rfl

@[simp] theorem run_lift (x : Exec α) : (liftM x : Traced ε α).run = x := rfl

@[simp] theorem trials_lift (x : Exec α) (w : World) : (liftM x : Traced ε α).trials w = [] := rfl

@[simp] theorem run_bind (x : Traced ε α) (f : α → Traced ε β) :
    (x >>= f).run = x.run >>= fun a => (f a).run := rfl

theorem trials_bind (x : Traced ε α) (f : α → Traced ε β) (w : World) :
    (x >>= f).trials w = x.trials w ++ match x.run w with
      | (.done a, u) => (f a).trials u
      | _ => [] := rfl

@[simp] theorem trials_attempt (x : Traced ε α) : x.attempt.trials = x.trials := rfl

@[simp] theorem run_attempt (x : Traced ε α) : x.attempt.run = Exec.attempt x.run := rfl

@[simp] theorem run_ensuring (x : Traced ε α) (f : World → World) :
    (x.ensuring f).run = Exec.ensuring x.run f := rfl

@[simp] theorem run_ite {c : Prop} [Decidable c] (x y : Traced ε α) :
    (if c then x else y).run = if c then x.run else y.run :=
  apply_ite run c x y

/-- The ends of a program that goes on after another one, with the lists up to them. -/
theorem bind_ends {P : List ε → Outcome β × World → Prop} (x : Traced ε α) (f : α → Traced ε β)
    (w : World)
    (done : ∀ a u, x.run w = (.done a, u) → P (x.trials w ++ (f a).trials u) ((f a).run u))
    (failed : ∀ e u, x.run w = (.failed e, u) → P (x.trials w) (.failed e, u))
    (cut : ∀ u, x.run w = (.cancelled, u) → P (x.trials w) (.cancelled, u)) :
    P ((x >>= f).trials w) ((x >>= f).run w) := by
  rw [trials_bind, run_bind, bind_apply]
  rcases h : x.run w with ⟨a | e | _, u⟩
  · exact done a u h
  · simpa using failed e u h
  · simpa using cut u h

theorem attempt_ends {P : List ε → Outcome β × World → Prop} (x : Traced ε α)
    (f : Except Fault α → Traced ε β) (w : World)
    (done : ∀ a u, x.run w = (.done a, u) →
      P (x.trials w ++ (f (.ok a)).trials u) ((f (.ok a)).run u))
    (failed : ∀ e u, x.run w = (.failed e, u) →
      P (x.trials w ++ (f (.error e)).trials u) ((f (.error e)).run u))
    (cut : ∀ u, x.run w = (.cancelled, u) → P (x.trials w) (.cancelled, u)) :
    P ((attempt x >>= f).trials w) ((attempt x >>= f).run w) := by
  rw [trials_bind, run_bind, bind_apply, run_attempt]
  rcases h : x.run w with ⟨a | e | _, u⟩
  · rw [attempt_done h]
    exact done a u h
  · rw [attempt_failed h]
    exact failed e u h
  · rw [attempt_cancelled h]
    simpa using cut u h

/-! ## Composite actions -/

def loopRounds (s : Step) (body : Traced ε Unit) (bound : Nat) : Nat → Traced ε Nat
  | 0 => pure bound
  | left + 1 => do
    if ← s.isAdmitted then
      log .debug s!"Loop {s.id} iteration {bound - left}/{bound}"
      body
      loopRounds s body bound left
    else
      log .debug s!"Loop {s.id} exit condition reached"
      pure (bound - (left + 1))

def retryRounds (s : Step) (body : Traced ε Unit) (delay : Int) (bound : Nat) : Nat → Traced ε Nat
  | 0 => (s.refuse "All retry attempts failed" : Exec Nat)
  | left + 1 => do
    let k := bound - left
    log .debug s!"Retry {s.id} attempt {k}/{bound}"
    update enterRetry
    match ← attempt (ensuring body leaveRetry) with
    | .ok _ => pure k
    | .error e =>
      if e.isOfAction && left != 0 then
        log .info s!"Retry {s.id} attempt {k} failed, retrying in {delay}ms"
        pauseMillis delay
        retryRounds s body delay bound left
      else fail e

def runConditional (s : Step) (size : Nat) (body : Traced ε Unit) : Traced ε Yield := do
  match s.conditions with
  | some (_ :: _) =>
    if size == 0 then (s.refuse "Conditional action requires conditions and actions" : Exec Yield)
    else if ← s.isAdmitted then
      log .debug s!"Conditions met for {s.id}, executing {size} sub-actions"
      body
      pure .nothing
    else
      log .debug s!"Conditions not met for {s.id}, skipping sub-actions"
      pure .nothing
  | _ => (s.refuse "Conditional action requires conditions and actions" : Exec Yield)

def runLoop (s : Step) (size : Nat) (body : Traced ε Unit) : Traced ε Yield := do
  if size == 0 then (s.refuse "Loop action requires actions to execute" : Exec Yield)
  else
    let bound ← lift (Scalar.rounds standardLoopRounds s.value)
    let n ← loopRounds s body bound bound
    pure ⟨.record [("iterations", .int n)], none⟩

def runRetry (s : Step) (size : Nat) (body : Traced ε Unit) : Traced ε Yield := do
  if size == 0 then (s.refuse "Retry action requires actions to execute" : Exec Yield)
  else
    let bound ← lift (Scalar.rounds standardRetryRounds s.value)
    let n ← retryRounds s body (s.timeout.getD standardRetryDelay) bound bound
    pure ⟨.record [("attempts", .int n)], none⟩

/-- Only a composite action has attempts inside its own. -/
def dispatch (s : Step) (g : Setting) (size : Nat) (body : Traced ε Unit) : Traced ε Yield :=
  match s.kind with
  | .conditional => runConditional s size body
  | .loop => runLoop s size body
  | .retry => runRetry s size body
  | _ => s.dispatch g size (pure ())

section Composite

variable (s : Step) (body : Traced ε Unit)

theorem run_loopRounds (bound left : Nat) :
    (loopRounds s body bound left).run = Scout.loopRounds s body.run bound left := by
  induction left with
  | zero => rfl
  | succ left ih => simp [loopRounds, Scout.loopRounds, ih]

theorem run_retryRounds (delay : Int) (bound left : Nat) :
    (retryRounds s body delay bound left).run =
      Scout.retryRounds s body.run delay bound left := by
  induction left with
  | zero => rfl
  | succ left ih =>
    simp only [retryRounds, Scout.retryRounds, run_bind, run_lift, run_attempt, run_ensuring]
    refine bind_congr fun _ => bind_congr fun _ => bind_congr fun tried => ?_
    cases tried with
    | ok _ => rfl
    | error e => simp [ih]

theorem run_runConditional (size : Nat) :
    (runConditional s size body).run = Scout.runConditional s size body.run := by
  unfold runConditional Scout.runConditional
  rcases s.conditions with _ | _ | ⟨c, cs⟩ <;> simp

theorem run_dispatch (g : Setting) (size : Nat) :
    (dispatch s g size body).run = s.dispatch g size body.run := by
  unfold dispatch
  cases hk : s.kind <;> simp only
  case conditional => rw [run_runConditional, Step.dispatch, hk]
  case loop => simp [runLoop, Step.dispatch, Scout.runLoop, hk, run_loopRounds]
  case retry => simp [runRetry, Step.dispatch, Scout.runRetry, hk, run_retryRounds]
  all_goals
    exact (Step.dispatch_of_leaf (by rw [hk]; rfl) g size body.run).symm

end Composite

/-! ## Executions -/

def attemptOnce (g : Setting) (s : Step) (start : Float) (work : Traced ε Yield) (k budget : Nat) :
    Traced ε (Except (Fault × Option String) ActionResult) := do
  log .debug s!"Executing action {s.id} ({s.kind.word}) attempt {k}/{budget + 1}"
  match ← attempt work with
  | .ok y =>
    let duration ← elapsed start
    let r ← record ⟨s.id, true, duration, k, false, none, y.extracted, y.screenshot⟩
    pure (.ok r)
  | .error e =>
    let shot ← if g.policy.screenshotOnError then errorScreenshot g s.id else pure none
    pure (.error (e, shot))

def attempts (g : Setting) (s : Step) (start : Float) (work : Traced ε Yield) (budget : Nat) :
    Nat → Traced ε ActionResult
  | 0 => do
    match ← attemptOnce g s start work (budget + 1) budget with
    | .ok r => pure r
    | .error (e, shot) => settleFailure s start (budget + 1) shot e
  | left + 1 => do
    match ← attemptOnce g s start work (budget - left) budget with
    | .ok r => pure r
    | .error (e, _) =>
      log .info s!"Retrying action {s.id} ({left + 1} attempts remaining): {e.message}"
      pauseMillis g.policy.retryDelay
      attempts g s start work budget left

/-- An execution whose attempts begin with filling in the templates of the action in a way that may
be listed. -/
def executeStep (resolve : Step → Traced ε Step) (g : Setting) (s : Step) (size : Nat)
    (body : Traced ε Unit) (depth : Int) : Traced ε ActionResult := do
  let start ← read World.clock
  if g.options.maxDepth < depth then (fail (depthFault g s.id) : Exec ActionResult)
  else if ← s.isAdmitted then
    let scope ← read World.retryDepth
    let budget := s.retryBudget g scope
    attempts g s start (do dispatch (← resolve s) g size body) budget budget
  else
    log .debug s!"Skipping action {s.id} — conditions not met"
    record ⟨s.id, true, 0.0, 1, true, none, .null, none⟩

section Executions

variable (g : Setting) (s : Step) (start : Float)

theorem run_attemptOnce (work : Traced ε Yield) (k budget : Nat) :
    (attemptOnce g s start work k budget).run =
      Scout.attemptOnce g s start work.run k budget := by
  unfold attemptOnce Scout.attemptOnce
  rw [run_bind]
  refine bind_congr fun _ => ?_
  rw [run_bind]
  refine bind_congr fun tried => ?_
  cases tried <;> simp

theorem run_attempts (work : Traced ε Yield) (budget left : Nat) :
    (attempts g s start work budget left).run =
      Scout.attempts g s start work.run budget left := by
  induction left with
  | zero =>
    unfold attempts Scout.attempts
    rw [run_bind, run_attemptOnce]
    refine bind_congr fun tried => ?_
    cases tried <;> rfl
  | succ left ih =>
    unfold attempts Scout.attempts
    rw [run_bind, run_attemptOnce]
    refine bind_congr fun tried => ?_
    cases tried <;> simp [ih]

theorem run_executeStep {resolve : Step → Traced ε Step} (plain : ∀ s, (resolve s).run = s.resolve)
    (size : Nat) (body : Traced ε Unit) (depth : Int) :
    (executeStep resolve g s size body depth).run = Scout.executeStep g s size body.run depth := by
  simp [executeStep, Scout.executeStep, run_attempts, run_dispatch, plain]

end Executions

end Traced

end Scout
