import Scout.Proofs.Run.Tours

/-!
# The results of an action

An action adds to the results what the executions that it calls add, in their order and
over all attempts and rounds, and at its end one result of its own.
-/

namespace Scout

open Relation Exec

/-! ## Executions -/

section Conclusions

variable (g : Setting) (program : List Action) (depth : Int) (own : World → Fault → Prop) (s : Step)

/-- One attempt: a success is entered, a failure is not. -/
inductive Try (w : World) :
    List Nested → Outcome (Except (Fault × Option String) ActionResult) × World → Prop
  | succeeded {calls : List Nested} {u : World} (duration : Float) (n : Nat) (y : Yield)
      (way : Passes g program depth w calls u) :
      Try w calls (.done (.ok (s.successResult duration n y)),
        u.recorded (s.successResult duration n y))
  | failed {calls : List Nested} {u : World} {e : Fault} (shot : Option String)
      (stops : Stops g program depth own w e calls u) : Try w calls (.done (.error (e, shot)), u)
  | cut {calls : List Nested} {u : World} (breaks : Breaks g program depth w calls u) :
      Try w calls (.cancelled, u)

/-- An execution that is not too deep: whether it returns or fails, one result is entered last;
nothing is when it is cut. -/
inductive Concludes (w : World) : List Nested → Outcome ActionResult × World → Prop
  | returned {calls : List Nested} {u v : World} {r : ActionResult}
      (way : Passes g program depth w calls u) (named : r.actionId = s.id)
      (entered : v.context.results = u.context.results ++ [r]) : Concludes w calls (.done r, v)
  | failed {calls : List Nested} {u : World} {e : Fault} (duration : Float) (n : Nat)
      (shot : Option String) (stops : Stops g program depth own w e calls u) :
      Concludes w calls (.failed (e.within s.id), u.recorded (s.failureResult duration n e shot))
  | undelayed {calls : List Nested} {u : World} (way : Passes g program depth w calls u)
      (unpausable : ¬ g.policy.IsPausable) : Concludes w calls (.failed .quotientTooLarge, u)
  | cut {calls : List Nested} {u : World} (breaks : Breaks g program depth w calls u) :
      Concludes w calls (.cancelled, u)

variable {g program depth own s} {w u : World} {start : Float} {calls more : List Nested}
variable {work : Traced Nested Yield}

theorem Concludes.after {end_ : Outcome ActionResult × World}
    (h : Concludes g program depth own s u more end_)
    (before : Passes g program depth w calls u) :
    Concludes g program depth own s w (calls ++ more) end_ := by
  cases h with
  | returned way named entered => exact .returned (before.trans way) named entered
  | failed duration n shot stops => exact .failed duration n shot (stops.after before)
  | undelayed way unpausable => exact .undelayed (before.trans way) unpausable
  | cut breaks => exact .cut (breaks.after before)

namespace Traced

theorem try_attemptOnce (hw : work.Tours g program depth own) (k budget : Nat) (w : World) :
    Try g program depth own s w ((attemptOnce g s start work k budget).trials w)
      ((attemptOnce g s start work k budget).run w) := by
  let v := w.logged .debug s!"Executing action {s.id} ({s.kind.word}) attempt {k}/{budget + 1}"
  have worked := (hw v).after (.of_quiet (.logged w _ _))
  show Try g program depth own s w ((attempt work >>= _).trials v) ((attempt work >>= _).run v)
  refine attempt_ends (P := Try g program depth own s w) work _ v ?_ ?_ ?_
  · intro y u h
    rw [h] at worked
    cases worked with
    | done way =>
      show Try g program depth own s w (work.trials v ++ []) _
      rw [List.append_nil]
      exact .succeeded _ k y way
  · intro e u h
    rw [h] at worked
    cases worked with
    | failed stops =>
      dsimp only
      split
      -- the screenshot of a failure never fails itself, but it can be cut
      · rcases ht : errorScreenshot g s.id u with ⟨shot | e' | _, u'⟩
        · rw [trials_bind, run_bind, run_lift, bind_done ht, trials_lift, ht]
          show Try g program depth own s w (work.trials v ++ []) _
          rw [List.append_nil]
          exact .failed shot (stops.quiet ((quiet_errorScreenshot g s.id).quiet ht (by simp)))
        · exact (unfailing_errorScreenshot g s.id u e' (by rw [ht])).elim
        · rw [trials_bind, run_bind, run_lift, bind_cancelled ht, trials_lift, ht]
          show Try g program depth own s w (work.trials v ++ []) _
          rw [List.append_nil]
          exact .cut (.own stops.way ((quiet_errorScreenshot g s.id).comes ht))
      · show Try g program depth own s w (work.trials v ++ []) _
        rw [List.append_nil]
        exact .failed none stops
  · intro u h
    rw [h] at worked
    cases worked with
    | cut breaks => exact .cut breaks

theorem concludes_settleFailure {e : Fault} (n : Nat) (shot : Option String)
    (stops : Stops g program depth own w e calls u) :
    Concludes g program depth own s w calls (settleFailure s start n shot e u) := by
  rw [settleFailure_apply]
  cases s.optional
  · exact .failed _ n shot stops
  · exact .returned stops.way rfl rfl

/-- An attempt that succeeds or is cut concludes an execution; another one leaves that to what
follows. -/
theorem concludes_attemptOnce (hw : work.Tours g program depth own) (k budget : Nat)
    (next : Fault → Option String → Traced Nested ActionResult)
    (ends : ∀ e shot calls u, Stops g program depth own w e calls u →
      Concludes g program depth own s w (calls ++ (next e shot).trials u) ((next e shot).run u)) :
    let x := attemptOnce g s start work k budget >>= fun tried => match tried with
      | .ok r => pure r
      | .error (e, shot) => next e shot
    Concludes g program depth own s w (x.trials w) (x.run w) := by
  have once : Try g program depth own s w ((attemptOnce g s start work k budget).trials w)
      ((attemptOnce g s start work k budget).run w) := try_attemptOnce hw k budget w
  refine bind_ends (P := Concludes g program depth own s w) _ _ w (fun tried u h => ?_)
    (fun e u h => ?_) fun u h => ?_ <;> rw [h] at once
  · cases once with
    | succeeded _ _ _ way =>
      show Concludes g program depth own s w (_ ++ []) _
      rw [List.append_nil]
      exact .returned way rfl rfl
    | failed shot stops => exact ends _ shot _ u stops
  · cases once
  · cases once with
    | cut breaks => exact .cut breaks

/-- The last attempt is the one that an execution fails with. -/
theorem concludes_attempts (hw : work.Tours g program depth own) (budget left : Nat) (w : World) :
    Concludes g program depth own s w ((attempts g s start work budget left).trials w)
      ((attempts g s start work budget left).run w) := by
  induction left generalizing w with
  | zero =>
    refine concludes_attemptOnce hw _ budget (fun e shot => idle (settleFailure s start _ shot e))
      fun e shot calls u stops => ?_
    show Concludes g program depth own s w (calls ++ []) (settleFailure s start _ shot e u)
    rw [List.append_nil]
    exact concludes_settleFailure _ shot stops
  | succ left ih =>
    refine concludes_attemptOnce hw _ budget (fun e _ => _) fun e shot calls u stops => ?_
    let v := u.logged .info s!"Retrying action {s.id} ({left + 1} attempts remaining): {e.message}"
    have logged : Passes g program depth w calls v := stops.way.quiet (.logged u _ _)
    show Concludes g program depth own s w
      (calls ++ (idle (pauseMillis g.policy.retryDelay) >>= fun _ => _).trials v)
      ((idle (pauseMillis g.policy.retryDelay) >>= fun _ => _).run v)
    -- the pause before the next attempt fails when its delay is no number of seconds
    refine bind_ends (P := fun more => Concludes g program depth own s w (calls ++ more)) _ _ v
      (fun _ v' hp => ?_) (fun e' v' hp => ?_) fun v' hp => ?_
    · exact (ih v').after (logged.quiet ((quiet_pauseMillis _).quiet hp (by simp)))
    · obtain ⟨delayed, tooLong⟩ := pauseMillis_failed hp
      obtain rfl := fault_of_secondsOfMillis tooLong
      show Concludes g program depth own s w (calls ++ []) _
      rw [List.append_nil]
      exact .undelayed (logged.quiet ((quiet_pauseMillis _).quiet hp (by simp)))
        (ErrorPolicy.not_isPausable_iff.mpr ⟨delayed, tooLong⟩)
    · show Concludes g program depth own s w (calls ++ []) _
      rw [List.append_nil]
      exact .cut (.own logged ((quiet_pauseMillis _).comes hp))

end Traced

/-- The faults of an action that do not come from its program: those of an attempt at it with some
variables filled in. -/
def Step.Fails (g : Setting) (s : Step) (size : Nat) (w : World) (e : Fault) : Prop :=
  ∃ vars, (s.substitute vars).OwnFault g size w e

theorem Traced.concludes_executeStep {size : Nat} {body : Traced Nested Unit}
    (hb : ∀ own, body.Tours g program (depth + 1) own) (allowed : depth ≤ g.options.maxDepth)
    (w : World) :
    let x := executeStep (fun s => s.resolve) g s size body depth
    Concludes g program (depth + 1) (s.Fails g size) s w (x.trials w) (x.run w) := by
  unfold executeStep
  show Concludes g program (depth + 1) (s.Fails g size) s w (trials (ite _ _ _) w)
    (run (ite _ _ _) w)
  rw [if_neg (by omega)]
  refine bind_ends (P := Concludes g program (depth + 1) (s.Fails g size) s w) (idle s.isAdmitted)
    _ w (fun admitted u h => ?_) (fun e u h => ?_) fun u h => ?_
  · have asked : Passes g program (depth + 1) w [] u :=
      .of_quiet (s.quiet_isAdmitted.quiet h (by simp))
    cases admitted
    · exact .returned (asked.quiet (.logged u .debug _)) rfl rfl
    · refine Concludes.after (concludes_attempts (fun w => ?_) _ _ u) asked
      obtain ⟨v, resolved, -⟩ := s.resolve_apply w
      have way : Passes g program (depth + 1) w [] v :=
        .of_quiet (s.quiet_resolve.quiet resolved (by simp))
      refine bind_ends (P := Tour g program (depth + 1) (s.Fails g size) w) (idle s.resolve) _ w
        (fun filled u h => ?_) (fun e u h => ?_) fun u h => ?_ <;>
          cases resolved.symm.trans h
      exact ((tours_dispatch (hb _) v).mono fun _ _ own => ⟨_, own⟩).after way
  · exact (s.unfailing_isAdmitted w e (by rw [show s.isAdmitted w = _ from h])).elim
  · exact .cut (.own .start (s.quiet_isAdmitted.comes h))

end Conclusions

theorem concludes_execute (g : Setting) (a : Action) {depth : Int}
    (allowed : depth ≤ g.options.maxDepth) (w : World) :
    Concludes g (a.program.getD []) (depth + 1) (a.step.Fails g (a.program.getD []).length) a.step w
      (nestedCalls g a depth w) (execute g a depth w) := by
  rw [nestedCalls, ← Traced.run_calling]
  exact Traced.concludes_executeStep (fun _ => Traced.tours_program fun _ h => h) allowed w

/-- The way to an execution that is called. -/
theorem nestedCalls_append {g : Setting} {a : Action} {depth : Int}
    (allowed : depth ≤ g.options.maxDepth) {w : World} {before after : List Nested} {c : Nested}
    (listed : nestedCalls g a depth w = before ++ c :: after) :
    Passes g (a.program.getD []) (depth + 1) w before c.world ∧ c.action ∈ a.program.getD [] := by
  have concluded := concludes_execute g a allowed w
  rw [listed] at concluded
  rcases h : execute g a depth w with ⟨out, w'⟩
  rw [h] at concluded
  cases concluded with
  | returned way _ _ => exact way.of_append
  | failed _ _ _ stops => exact stops.way.of_append
  | undelayed way _ => exact way.of_append
  | cut breaks => exact breaks.of_append

/-- An action that is nested too deeply is refused, and the world stays as it is. -/
theorem execute_tooDeep {g : Setting} {a : Action} {depth : Int}
    (deep : g.options.maxDepth < depth) (w : World) :
    execute g a depth w = (.failed (depthFault g a.id), w) := by
  have refused (size : Nat) (body : Exec Unit) :
      executeStep g a.step size body depth w = (.failed (depthFault g a.id), w) := by
    unfold executeStep
    rw [bind_done (read_apply _ _), if_pos deep]
    rfl
  obtain ⟨s, _ | program⟩ := a
  · exact refused 0 _
  · exact refused program.length _

theorem nestedCalls_tooDeep {g : Setting} {a : Action} {depth : Int}
    (deep : g.options.maxDepth < depth) (w : World) : nestedCalls g a depth w = [] := by
  unfold nestedCalls Traced.calling Traced.executeStep
  show Traced.trials (ite _ _ _) w = []
  rw [if_pos deep]
  rfl

/-- An action that returns, or fails as an action, adds to the end of the results: first what each
of the executions that it calls adds, in their order, then one result of its own, which it returns.
Each of these executions begins with the results that those before it have left.  Nested too deeply
the action calls none, fails, and leaves the world as it is. -/
theorem results_execute (g : Setting) (a : Action) (depth : Int) (w : World) :
    let out := (execute g a depth w).1
    let w' := (execute g a depth w).2
    let calls := nestedCalls g a depth w
    (g.options.maxDepth < depth → out = .failed (depthFault g a.id) ∧ w' = w ∧ calls = []) ∧
    (depth ≤ g.options.maxDepth →
      ((∃ r, out = .done r) ∨ ∃ e, out = .failed e ∧ e.isOfAction = true) →
      ∃ r, r.actionId = a.id ∧ (∀ r', out = .done r' → r' = r) ∧
        w'.context.results =
          w.context.results ++ calls.flatMap (Nested.added g (depth + 1)) ++ [r]) ∧
    (Traced.calling g a depth).run = execute g a depth ∧
    ∀ before c after, calls = before ++ c :: after →
      c.action ∈ a.program.getD [] ∧
      c.world.context.results =
        w.context.results ++ before.flatMap (Nested.added g (depth + 1)) ∧
      (execute g c.action (depth + 1) c.world).2.context.results =
        c.world.context.results ++ c.added g (depth + 1) := by
  intro out w' calls
  refine ⟨fun deep => ?_, fun allowed ends => ?_, Traced.run_calling g a depth, ?_⟩
  · simp [out, w', calls, execute_tooDeep deep, nestedCalls_tooDeep deep]
  · have concluded := concludes_execute g a allowed w
    rw [show execute g a depth w = (out, w') from rfl,
      show nestedCalls g a depth w = calls from rfl] at concluded
    generalize out = o, w' = v, calls = called at *
    cases concluded with
    | returned way named entered =>
      exact ⟨_, named, fun r' same => by cases same; rfl, by rw [entered, way.results]⟩
    | @failed u e duration n shot stops =>
      refine ⟨a.step.failureResult duration n e shot, rfl, by simp, ?_⟩
      rw [← stops.way.results]
      rfl
    | undelayed =>
      rcases ends with ⟨_, done⟩ | ⟨_, failed, blamed⟩
      · cases done
      · cases failed
        cases blamed
    | cut =>
      rcases ends with ⟨_, done⟩ | ⟨_, failed, -⟩
      · cases done
      · cases failed
  · intro before c after listed
    rcases lt_or_ge g.options.maxDepth depth with deep | allowed
    · simp [calls, nestedCalls_tooDeep deep] at listed
    · obtain ⟨way, mem⟩ := nestedCalls_append allowed listed
      exact ⟨mem, way.results, results_of_execute rfl⟩

/-- Two rounds of a pause, and of a click on what is not there. -/
def insistence : Action :=
  ⟨⟨"insist", .retry, "", none, some (.int 2), some 1, none, none, none, false⟩,
    some [⟨⟨"settle", .wait, "", none, some (.int 1), none, none, none, none, false⟩, none⟩,
      ⟨⟨"press", .click, "", some "#gone", none, none, none, none, none, false⟩, none⟩]⟩

theorem results_execute_insistence :
    let g : Setting := ⟨.standard, .standard, 0⟩
    let w := World.opening .blank []
    (1 ≤ g.options.maxDepth ∧
      ∃ e, (execute g insistence 1 w).1 = .failed e ∧ e.isOfAction = true) ∧
    (nestedCalls g insistence 1 w).map (fun c =>
        (c.action.id, (c.added g 2).map (·.actionId))) =
      [("settle", ["settle"]), ("press", ["press"]), ("settle", ["settle"]),
        ("press", ["press"])] ∧
    ∃ r, r.actionId = "insist" ∧
      (execute g insistence 1 w).2.context.results =
        (nestedCalls g insistence 1 w).flatMap (Nested.added g 2) ++ [r] := by
  intro g w
  have allowed : 1 ≤ g.options.maxDepth := by decide
  have blamed : (execute g insistence 1 w).1.fault?.map Fault.isOfAction = some true := by
    decide +kernel
  have ends : ∃ e, (execute g insistence 1 w).1 = .failed e ∧ e.isOfAction = true := by
    obtain ⟨e, failed, ofAction⟩ := Option.map_eq_some_iff.mp blamed
    exact ⟨e, Outcome.fault?_eq_some_iff.mp failed, ofAction⟩
  obtain ⟨r, named, -, entered⟩ := (results_execute g insistence 1 w).2.1 allowed (.inr ends)
  exact ⟨⟨allowed, ends⟩, by decide +kernel, r, named, entered⟩

end Scout
