import Scout.Proofs.Run.Deadline
import Scout.Proofs.Run.Journal

/-!
# The trail of a failure

A failure rises from the action in which it began to the action that was executed, and
each action that it passes enters a failed result with its message.  So the journal ends
with a trail of such results, from the inside to the outside, and the failure names the
action at its beginning: the one that failed by itself, or that was nested too deeply
and entered nothing.  A page does not fail for an action; and a delay between attempts
that no double can hold is left out here, since the action that it stops enters nothing.
-/

namespace Scout

open Exec

/-! ## Faults of a number of rounds -/

theorem Scalar.kind_of_orElseValue {α : Type} {a : α} {x : Except Fault α} {e : Fault}
    (h : orElseValue a x = .error e) : e.kind ≠ .value := by
  unfold orElseValue at h
  split at h
  · cases h
  · split at h
    · cases h
    · next other =>
      cases h
      simpa using other

theorem Scalar.fault_of_rounds {fallback : Nat} {o : Option Scalar} {e : Fault}
    (h : rounds fallback o = .error e) : e = .tooLarge ∨ e = .infinite := by
  unfold rounds at h
  split at h
  · cases h
  · cases h
  · next v _ =>
    have other := kind_of_orElseValue h
    have raised := error_of_orElseValue h
    rcases hx : v.toFloat with e' | x <;> rw [hx] at raised
    · cases raised
      unfold toFloat at hx
      split at hx
      · split at hx <;> cases hx
        exact absurd rfl other
      · cases hx
      · dsimp only at hx
        split at hx <;> cases hx
        exact .inl rfl
      · cases hx
    · rcases hn : whole x with e' | n <;> simp only [bind, Except.bind, hn] at raised
      · cases raised
        unfold whole at hn
        split at hn <;> cases hn
        · exact .inr rfl
        · exact absurd rfl other
      · cases raised

/-! ## Faults that an action fails with by itself -/

theorem Scalar.blameless_toNumber {v : Scalar} {e : Fault} (h : v.toNumber = .error e) :
    e.isOfAction = false := by
  unfold toNumber at h
  split at h
  · cases h
    rfl
  · exact blameless_toFloat h

namespace Exec

variable {P : Fault → Prop}

theorem blames_pause (seconds : Float) : (pause seconds).Blames P := by
  have noted : (note (.sleep seconds)).Blames P := blames_update fun _ => rfl
  exact (blames_read _).bind fun _ => (noted.bind fun _ => blames_pass _).ite (blames_pass _)

theorem blames_pauseFloatMillis (x : Float) : (pauseFloatMillis x).Blames P :=
  (blames_pause _).ite (blames_pure _)

end Exec

namespace Step

variable {s : Step} {g : Setting} {size : Nat} {w w' : World} {e : Fault}

theorem blames_wait {P : Fault → Prop} (own : ∀ e : Fault, e.kind = .action s.id → P e) :
    (s.wait g).Blames P := by
  have refused (message : String) : (s.refuse message : Exec Yield).Blames P :=
    blames_fail fun _ => own _ rfl
  unfold wait
  split
  · exact refused _
  · exact (blames_waitFor _ _).bind fun _ => blames_pure _
  · exact (blames_lift fun e h => Scalar.blameless_toNumber h).bind fun x =>
      (blames_pauseFloatMillis x).bind fun _ => blames_pure _
  · exact refused _

/-- Where the page does not fail for an action, an action that fails by itself is the one it fails
for. -/
theorem kind_of_ownFault (shows : w.page.Shows fun f => f.isOfAction = false)
    (own : s.OwnFault g size w e) (blames : e.isOfAction = true) : e.kind = .action s.id := by
  rcases own with ⟨w', h⟩ | ⟨-, tooLong⟩
  · cases lacks : s.lacking? size with
    | some message =>
      rw [dispatch_of_lacking lacks] at h
      cases h
      rfl
    | none =>
      by_cases timed : s.kind = .wait
      · have waited : s.dispatch g size (pure ()) = s.wait g := by
          unfold dispatch
          rw [timed]
        rw [waited] at h
        have blamed := blames_wait (s := s) (g := g)
          (P := fun e => e.isOfAction = true → e.kind = .action s.id) (fun _ named _ => named) w
          fun r hr blames => by simp [shows r hr] at blames
        rw [h] at blamed
        exact blamed.2 e rfl blames blames
      · rcases blamed_of_dispatch lacks timed h blames with ⟨r, hr, rfl⟩ | ⟨u, u', h⟩
        · rw [shows r hr] at blames
          cases blames
        · cases h
  · rw [fault_of_secondsOfMillis tooLong] at blames
    cases blames

theorem unfailing_retryRounds {body : Exec Unit} (hb : body.Unfailing) (delay : Int)
    (bound left : Nat) : (retryRounds s body delay bound (left + 1)).Unfailing := by
  refine (failsOnly_update _).bind fun _ => (failsOnly_update _).bind fun _ => ?_
  exact (hb.ensuring leaveRetry).attempt_bind (fun _ => failsOnly_pure _) fun _ => False.elim

/-- A composite action that lacks nothing fails by itself for a number of rounds alone. -/
theorem failsOnly_composite_alone (complete : s.lacking? size = none)
    (composite : s.kind.isComposite = true) (g : Setting) :
    (s.dispatch g size (pure ())).FailsOnly fun e => e = .tooLarge ∨ e = .infinite := by
  have idle : (pure () : Exec Unit).FailsOnly fun e => e = .tooLarge ∨ e = .infinite :=
    failsOnly_pure ()
  cases hk : s.kind <;> simp only [hk, ActionKind.isComposite, reduceCtorEq] at composite
  case conditional =>
    rw [dispatch_conditional hk complete]
    refine (FailsOnly.mono s.unfailing_isAdmitted fun _ => False.elim).bind fun admitted => ?_
    exact FailsOnly.ite ((failsOnly_update _).bind fun _ => idle.bind fun _ => failsOnly_pure _)
      ((failsOnly_update _).bind fun _ => failsOnly_pure _)
  case loop =>
    rw [dispatch_loop hk complete]
    refine failsOnly_lift_bind (fun _ h => Scalar.fault_of_rounds h) fun n _ => ?_
    exact (failsOnly_loopRounds idle n n).bind fun _ => failsOnly_pure _
  case retry =>
    rw [dispatch_retry hk complete]
    refine failsOnly_lift_bind (fun _ h => Scalar.fault_of_rounds h) fun n h => ?_
    obtain ⟨left, rfl⟩ := Nat.exists_eq_succ_of_ne_zero (Scalar.rounds_pos (by decide) h).ne'
    refine FailsOnly.bind ?_ fun _ => failsOnly_pure _
    exact FailsOnly.mono (unfailing_retryRounds (failsOnly_pure ()) _ _ left) fun _ => False.elim

theorem message_of_ownFault (composite : s.kind.isComposite = true)
    (own : s.OwnFault g size w e) : e.message ≠ "All retry attempts failed" := by
  rcases own with ⟨w', h⟩ | ⟨-, tooLong⟩
  · cases lacks : s.lacking? size with
    | some message =>
      rw [dispatch_of_lacking lacks] at h
      cases h
      unfold lacking? at lacks
      cases hk : s.kind <;> simp only [hk, ActionKind.isComposite, reduceCtorEq] at composite <;>
        simp only [hk, Option.ite_none_right_eq_some, Option.some.injEq] at lacks <;>
        (rw [Fault.ofAction, ← lacks.2]; dsimp only; decide)
    | none =>
      have raised := failsOnly_composite_alone lacks composite g w e (by rw [h])
      rcases raised with rfl | rfl <;> decide
  · rw [fault_of_secondsOfMillis tooLong]
    decide

end Step

/-! ## Trails -/

/-- A failed result of an action with the message of a fault. -/
structure ActionResult.IsFailure (r : ActionResult) (a : Action) (e : Fault) : Prop where
  named : r.actionId = a.id
  failed : r.success = false
  executed : r.skipped = false
  error : r.error = some e.message

/-- The failed results that a fault `e` leaves while it rises to an action, from the action `c` in
which it began with the fault `f`. -/
inductive Trail (g : Setting) (e : Fault) (c : Action) :
    Action → Int → Fault → List ActionResult → Prop
  /-- The action is nested too deeply, and enters nothing. -/
  | tooDeep {depth : Int} (deep : g.options.maxDepth < depth) :
      Trail g e c c depth (depthFault g c.id) []
  /-- The action fails by itself. -/
  | own {depth : Int} {f : Fault} {w : World} {r : ActionResult}
      (fault : c.step.Fails g (c.program.getD []).length w f) (entered : r.IsFailure c e) :
      Trail g e c c depth f [r]
  /-- An action of its program fails. -/
  | inner {a b : Action} {depth : Int} {f : Fault} {results : List ActionResult}
      {r : ActionResult} (mem : b ∈ a.program.getD [])
      (below : Trail g e c b (depth + 1) f results) (entered : r.IsFailure a e) :
      Trail g e c a depth f (results ++ [r])

section Rising

variable {g : Setting}

theorem Trail.nil_only_deep {e : Fault} {c a : Action} {depth : Int} {f : Fault}
    {trail : List ActionResult} (h : Trail g e c a depth f trail) (empty : trail = []) :
    g.options.maxDepth < depth := by
  cases h with
  | tooDeep deep => exact deep
  | own => cases empty
  | inner => simp at empty

/-- The trail begins with the action in which the fault began, unless that was nested too deeply. -/
theorem Trail.begins {e : Fault} {c a : Action} {depth : Int} {f : Fault}
    {trail : List ActionResult} (h : Trail g e c a depth f trail) :
    f = depthFault g c.id ∨ ∃ r rest, trail = r :: rest ∧ r.actionId = c.id := by
  induction h with
  | tooDeep => exact .inl rfl
  | own _ entered => exact .inr ⟨_, [], rfl, entered.named⟩
  | @inner _ _ _ _ results r _ _ _ ih =>
    refine ih.imp_right ?_
    rintro ⟨first, rest, rfl, named⟩
    exact ⟨first, rest ++ [r], rfl, named⟩

theorem Trail.message {e : Fault} {c a : Action} {depth : Int} {f : Fault}
    {trail : List ActionResult} (h : Trail g e c a depth f trail)
    (composite : c.kind.isComposite = true) : f.message ≠ "All retry attempts failed" := by
  induction h with
  | tooDeep =>
    have differs (t : String) : "Maximum action nesting depth (" ++ t ≠
        "All retry attempts failed" ++ "" :=
      Run.append_ne_append 0 (by decide) (by decide) (by decide) t ""
    rw [String.append_empty] at differs
    rw [depthFault, Fault.ofAction]
    dsimp only
    rw [String.append_assoc]
    exact differs _
  | own fault =>
    obtain ⟨vars, own⟩ := fault
    exact Step.message_of_ownFault (s := c.step.substitute vars) composite own
  | inner _ _ _ ih => exact ih

/-- A fault has risen to an action that was executed between two worlds: the journal ends with its
trail, and it names the action in which it began. -/
def Rises (g : Setting) (a : Action) (depth : Int) (e : Fault) (w w' : World) : Prop :=
  ∃ before trail c f,
    w'.context.results = w.context.results ++ before ++ trail ∧
    Trail g e c a depth f trail ∧ e = .ofAction c.id f.message

theorem Fault.message_within (e : Fault) (id : String) : (e.within id).message = e.message := by
  unfold within
  split <;> rfl

/-- What has risen to an action inside rises further. -/
theorem rises_of_below (pausable : g.policy.IsPausable) {a : Action} {depth : Int}
    (below : ∀ b ∈ a.program.getD [], ∀ {v v' : World} {e : Fault},
      (v.page.Shows fun f => f.isOfAction = false) →
      execute g b (depth + 1) v = (.failed e, v') → Rises g b (depth + 1) e v v')
    {w w' : World} {e : Fault} (shows : w.page.Shows fun f => f.isOfAction = false)
    (h : execute g a depth w = (.failed e, w')) : Rises g a depth e w w' := by
  by_cases deep : g.options.maxDepth < depth
  · rw [execute_tooDeep deep] at h
    cases h
    exact ⟨[], [], a, _, by simp, .tooDeep deep, rfl⟩
  · have still {calls : List Nested} {v : World}
        (way : Passes g (a.program.getD []) (depth + 1) w calls v) :
        v.page.Shows fun f => f.isOfAction = false :=
      way.setting.forall_aim (P := fun aim => aim.2.2.isOfAction = false) shows
    have concluded := concludes_execute g a (Int.not_lt.mp deep) w
    rw [h] at concluded
    generalize nestedCalls g a depth w = calls at concluded
    cases concluded with
    | @failed u e₀ duration n shot stops =>
      have entered : (a.step.failureResult duration n e₀ shot).IsFailure a (e₀.within a.id) :=
        ⟨rfl, rfl, rfl, congrArg some (Fault.message_within e₀ a.id).symm⟩
      cases stops with
      | own way fault after =>
        refine ⟨calls.flatMap (Nested.added g (depth + 1)), _, a, e₀, ?_, .own fault entered, ?_⟩
        · rw [← way.results, ← after.results]
          rfl
        · obtain ⟨vars, own⟩ := fault
          unfold Fault.within
          split
          · next blames =>
            have kind : e₀.kind = .action a.id := Step.kind_of_ownFault
              (s := a.step.substitute vars) (still way) own blames
            rw [Fault.ofAction, ← kind]
          · rfl
      | @inner calls b _ v v' way mem failed after =>
        obtain ⟨before, trail, c, f, results, below, rfl⟩ := below b mem (still way) failed
        refine ⟨calls.flatMap (Nested.added g (depth + 1)) ++ before, trail ++ [_], c, f, ?_,
          .inner mem below entered, rfl⟩
        show u.context.results ++ _ = _
        rw [after.results, results, way.results]
        simp
    | undelayed _ unpausable => exact absurd pausable unpausable

mutual

theorem rises_execute (pausable : g.policy.IsPausable) :
    ∀ (a : Action) (depth : Int) {w w' : World} {e : Fault},
      (w.page.Shows fun f => f.isOfAction = false) →
      execute g a depth w = (.failed e, w') → Rises g a depth e w w'
  | ⟨s, none⟩, _, _, _, _, shows, h =>
    rises_of_below (a := ⟨s, none⟩) pausable (fun _ mem => absurd mem List.not_mem_nil) shows h
  | ⟨s, some program⟩, depth, _, _, _, shows, h =>
    rises_of_below (a := ⟨s, some program⟩) pausable
      (fun b mem => rises_program pausable program b mem (depth + 1)) shows h

theorem rises_program (pausable : g.policy.IsPausable) :
    ∀ (program : List Action), ∀ b ∈ program, ∀ (depth : Int) {w w' : World} {e : Fault},
      (w.page.Shows fun f => f.isOfAction = false) →
      execute g b depth w = (.failed e, w') → Rises g b depth e w w'
  | [], _, mem, _, _, _, _, _, _ => absurd mem List.not_mem_nil
  | a :: rest, b, mem, depth, _, _, _, shows, h => by
    rcases List.mem_cons.mp mem with same | others
    · rw [same] at h ⊢
      exact rises_execute pausable a depth shows h
    · exact rises_program pausable rest b others depth shows h

end

end Rising

theorem Run.describeFailure_ofAction (id inner message : String) :
    describeFailure id (.ofAction inner message) = "Action " ++ id ++ " failed: " ++ message ++
      (if inner ≠ "" ∧ inner ≠ id then " (in nested action " ++ inner ++ ")" else "") := by
  unfold describeFailure Fault.ofAction
  by_cases named : inner ≠ "" ∧ inner ≠ id
  · simp [named, String.append_assoc]
  · simp only [ne_eq, not_and, not_not] at named
    by_cases empty : inner = ""
    · simp [empty]
    · simp [named empty]

/-- The failure of an action names the action in which it began, with the message of the fault
there.  The journal ends with its trail: failed results with that message, from that action to the
one that was executed, each of an action in the program of the next; the first is that of the action
in which the failure began, unless that was nested too deeply, and there is none only if the
executed action was.  A composite action in which it began has not just run out of rounds.  The
report of a run names the action too.  All this for a page that does not fail for an action, and a
policy whose delay between attempts has a number of seconds. -/
theorem origin_of_execute_failed {g : Setting} (pausable : g.policy.IsPausable) (a : Action)
    (depth : Int) {w w' : World} {e : Fault} (shows : w.page.Shows fun f => f.isOfAction = false)
    (failed : execute g a depth w = (.failed e, w')) :
    ∃ before trail c f,
      w'.context.results = w.context.results ++ before ++ trail ∧
      Trail g e c a depth f trail ∧
      (trail = [] → g.options.maxDepth < depth) ∧
      (f = depthFault g c.id ∨ ∃ r rest, trail = r :: rest ∧ r.actionId = c.id) ∧
      e = .ofAction c.id f.message ∧
      (c.kind.isComposite = true → e.message ≠ "All retry attempts failed") ∧
      Run.describeFailure a.id e = "Action " ++ a.id ++ " failed: " ++ f.message ++
        (if c.id ≠ "" ∧ c.id ≠ a.id then " (in nested action " ++ c.id ++ ")" else "") := by
  obtain ⟨before, trail, c, f, results, risen, named⟩ := rises_execute pausable a depth shows failed
  refine ⟨before, trail, c, f, results, risen, risen.nil_only_deep, risen.begins, named, ?_, ?_⟩
  · intro composite
    rw [named]
    exact risen.message composite
  · rw [named, Run.describeFailure_ofAction]

/-- A click that says not where, unless something is there already. -/
def guarded : Action :=
  ⟨⟨"p", .conditional, "", none, none, none, none, some [⟨.absent, some ".x", none, none⟩], none,
      false⟩,
    some [⟨⟨"c", .click, "", none, none, none, none, none, none, false⟩, none⟩]⟩

def undelayed : Setting :=
  ⟨{ ErrorPolicy.standard with retryDelay := 0 }, .standard, 0⟩

theorem origin_of_execute_failed_guarded :
    undelayed.policy.IsPausable ∧
    ((World.opening .blank []).page.Shows fun f => f.isOfAction = false) ∧
    ∃ e w', execute undelayed guarded 1 (.opening .blank []) = (.failed e, w') ∧
      e = .ofAction "c" "Click action requires a selector" ∧
      ∃ before trail c f,
        w'.context.results = before ++ trail ∧ Trail undelayed e c guarded 1 f trail ∧
        e = .ofAction c.id f.message := by
  have pausable : undelayed.policy.IsPausable := .inl (Int.le_refl 0)
  have shows : (World.opening .blank []).page.Shows fun f => f.isOfAction = false :=
    List.forall_mem_nil _
  have failed : (execute undelayed guarded 1 (.opening .blank [])).1 =
      .failed (.ofAction "c" "Click action requires a selector") :=
    Outcome.fault?_eq_some_iff.mp (by decide +kernel)
  obtain ⟨before, trail, c, f, results, risen, -, -, named, -⟩ :=
    origin_of_execute_failed pausable guarded 1 shows (Prod.ext failed rfl)
  exact ⟨pausable, shows, _, _, Prod.ext failed rfl, rfl, before, trail, c, f, results, risen,
    named⟩

/-- With a delay that no double can hold the failure of an action is not the one that its program
ended with: what was to be repeated is entered nowhere, and its parent is named for the delay. -/
theorem endless_delay_hides :
    ¬ ∀ (g : Setting) (a : Action) (depth : Int) (w w' : World) (e : Fault),
      (w.page.Shows fun f => f.isOfAction = false) →
      execute g a depth w = (.failed e, w') → e.isOfAction = true → Rises g a depth e w w' := by
  intro claim
  have failed : (execute endless guarded 1 (.opening .blank [])).1 =
      .failed (.ofAction "p" Fault.quotientTooLarge.message) :=
    Outcome.fault?_eq_some_iff.mp (by decide +kernel)
  have ends {end_ : Outcome ActionResult × World} {out : Outcome ActionResult}
      (h : end_.1 = out) : end_ = (out, end_.2) := by
    rw [← h]
  obtain ⟨before, trail, c, f, -, risen, named⟩ := claim endless guarded 1 (.opening .blank []) _ _
    (List.forall_mem_nil _) (ends failed) rfl
  have id : c.id = "p" := (FaultKind.action.inj (congrArg Fault.kind named)).symm
  have message : f.message = Fault.quotientTooLarge.message := (congrArg Fault.message named).symm
  cases risen with
  | tooDeep deep => exact absurd deep (by decide)
  | own fault =>
    -- it cannot fail so by itself: it lacks nothing, and it is no retry
    obtain ⟨vars, ⟨u, h⟩ | ⟨retry, -⟩⟩ := fault
    · have complete : (guarded.step.substitute vars).lacking? 1 = none := rfl
      have raised := Step.failsOnly_composite_alone complete rfl endless _ f (congrArg Prod.fst h)
      rcases raised with rfl | rfl <;> exact absurd message (by decide)
    · cases retry
  | inner mem below =>
    -- and its program has no action of its name
    obtain rfl := List.mem_singleton.mp mem
    cases below with
    | tooDeep => exact absurd id (by decide)
    | own => exact absurd id (by decide)
    | inner mem => exact absurd mem List.not_mem_nil

end Scout
