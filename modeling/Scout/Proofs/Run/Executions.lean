import Scout.Proofs.Run.Actions

/-!
# Executions of actions

An action goes through timely changes and whatever its program does, until it is
recorded: `Execution` lists the ways in which it can end, and everything that is said
about actions is read off that list.  By induction over action trees the program of an
action consists of timely changes and of whole executions of the actions inside it.
-/

namespace Scout

open Relation Exec

/-! ## The faults of programs -/

namespace Outcome

variable {α : Type}

def fault? : Outcome α → Option Fault
  | .failed e => some e
  | _ => none

def isCancelled : Outcome α → Bool
  | .cancelled => true
  | _ => false

@[simp] theorem fault?_eq_some_iff {out : Outcome α} {e : Fault} :
    out.fault? = some e ↔ out = .failed e := by
  cases out <;> simp [fault?]

@[simp] theorem isCancelled_iff {out : Outcome α} :
    out.isCancelled = true ↔ out = .cancelled := by
  cases out <;> simp [isCancelled]

end Outcome

namespace Exec

variable {α β : Type} {P : Fault → Prop}

/-- The program fails with such faults alone. -/
def FailsOnly (x : Exec α) (P : Fault → Prop) : Prop :=
  ∀ w e, (x w).1 = .failed e → P e

/-- The program ends with a value or by the deadline. -/
abbrev Unfailing (x : Exec α) : Prop :=
  x.FailsOnly fun _ => False

theorem failsOnly_pure (a : α) : (pure a : Exec α).FailsOnly P := by
  simp [FailsOnly]

theorem failsOnly_fail {e : Fault} (h : P e) : (fail e : Exec α).FailsOnly P := by
  simp [FailsOnly, h]

theorem failsOnly_read (f : World → α) : (read f).FailsOnly P := by
  simp [FailsOnly]

theorem failsOnly_update (f : World → World) : (update f).FailsOnly P := by
  simp [FailsOnly]

theorem failsOnly_attempt (x : Exec α) : (attempt x).FailsOnly P := by
  intro w e
  unfold attempt
  rcases x w with ⟨a | e | _, w'⟩ <;> simp

theorem FailsOnly.bind {x : Exec α} {f : α → Exec β} (hx : x.FailsOnly P)
    (hf : ∀ a, (f a).FailsOnly P) : (x >>= f).FailsOnly P := by
  intro w e
  have first := hx w e
  rw [bind_apply]
  rcases h : x w with ⟨a | e' | _, w'⟩ <;> rw [h] at first
  · exact hf a w' e
  · simpa using first
  · simp

theorem bind_eq_failed_iff {x : Exec α} {f : α → Exec β} {w w' : World} {e : Fault} :
    (x >>= f) w = (.failed e, w') ↔ x w = (.failed e, w') ∨
      ∃ a w₁, x w = (.done a, w₁) ∧ f a w₁ = (.failed e, w') := by
  rw [bind_apply]
  rcases x w with ⟨a | e' | _, w₁⟩
  · constructor
    · exact fun h => .inr ⟨a, w₁, rfl, h⟩
    · rintro (⟨⟨⟩⟩ | ⟨_, _, ⟨⟩, h⟩)
      exact h
  · simp
  · simp

theorem bind_eq_cancelled_iff {x : Exec α} {f : α → Exec β} {w w' : World} :
    (x >>= f) w = (.cancelled, w') ↔ x w = (.cancelled, w') ∨
      ∃ a w₁, x w = (.done a, w₁) ∧ f a w₁ = (.cancelled, w') := by
  rw [bind_apply]
  rcases x w with ⟨a | e | _, w₁⟩
  · constructor
    · exact fun h => .inr ⟨a, w₁, rfl, h⟩
    · rintro (⟨⟨⟩⟩ | ⟨_, _, ⟨⟩, h⟩)
      exact h
  · simp
  · simp

theorem FailsOnly.ite {c : Prop} [Decidable c] {x y : Exec α} (hx : x.FailsOnly P)
    (hy : y.FailsOnly P) : (if c then x else y).FailsOnly P := by
  split
  · exact hx
  · exact hy

end Exec

theorem Condition.unfailing_evaluate (c : Condition) : c.evaluate.Unfailing := by
  refine (failsOnly_attempt _).bind fun answer => ?_
  cases answer <;> exact failsOnly_pure _

theorem Condition.unfailing_evaluateAll (cs : List Condition) : (evaluateAll cs).Unfailing := by
  induction cs with
  | nil => exact failsOnly_pure _
  | cons c rest ih => exact c.unfailing_evaluate.bind fun _ => ih.ite (failsOnly_pure _)

theorem Step.unfailing_isAdmitted (s : Step) : s.isAdmitted.Unfailing := by
  unfold isAdmitted
  split
  · exact Condition.unfailing_evaluateAll _
  · exact failsOnly_pure _

theorem unfailing_errorScreenshot (g : Setting) (id : String) :
    (errorScreenshot g id).Unfailing := by
  refine (failsOnly_attempt _).bind fun taken => ?_
  cases taken <;> exact (failsOnly_update _).bind fun _ => failsOnly_pure _

/-! ## Attempts -/

namespace Step

def successResult (s : Step) (duration : Float) (attempts : Nat) (y : Yield) : ActionResult :=
  ⟨s.id, true, duration, attempts, false, none, y.extracted, y.screenshot⟩

def failureResult (s : Step) (duration : Float) (attempts : Nat) (e : Fault)
    (shot : Option String) : ActionResult :=
  ⟨s.id, false, duration, attempts, false, some e.message, .null, shot⟩

def skipResult (s : Step) : ActionResult :=
  ⟨s.id, true, 0.0, 1, true, none, .null, none⟩

end Step

section Attempts

variable (g : Setting) (s : Step) {R : World → World → Prop} (start : Float)

/-- An attempt records its success, or records nothing. -/
inductive Attempt (R : World → World → Prop) (s : Step) (w : World) :
    Outcome (Except (Fault × Option String) ActionResult) × World → Prop
  | succeeded {u : World} (duration : Float) (n : Nat) (y : Yield)
      (changes : ReflTransGen R w u) :
      Attempt R s w (.done (.ok (s.successResult duration n y)),
        u.recorded (s.successResult duration n y))
  | failed {u : World} (e : Fault) (shot : Option String) (changes : ReflTransGen R w u) :
      Attempt R s w (.done (.error (e, shot)), u)
  | cut {w' : World} (comes : w.ComesToCut R w') : Attempt R s w (.cancelled, w')

theorem attempt_attemptOnce (timely : World.Timely ≤ R) {work : Exec Yield}
    (hw : work.Follows R) (k budget : Nat) (w : World) :
    Attempt R s w (attemptOnce g s start work k budget w) := by
  have logged := (timely_log .debug
    s!"Executing action {s.id} ({s.kind.word}) attempt {k}/{budget + 1}").mono timely w
  unfold attemptOnce
  rw [bind_done (show log _ _ w = (.done (), w.logged _ _) from rfl)]
  have worked := (hw (w.logged .debug _)).after (logged.changes (by simp))
  rcases h : work (w.logged .debug _) with ⟨y | e | _, w₁⟩ <;> rw [h] at worked
  · rw [bind_done (attempt_done h)]
    exact .succeeded _ k y (worked.changes (by simp))
  · rw [bind_done (attempt_failed h)]
    have changes := worked.changes (by simp)
    dsimp only
    split
    · have shown := ((timely_errorScreenshot g s.id).mono timely w₁).after changes
      have unfailing := unfailing_errorScreenshot g s.id w₁
      rcases ht : errorScreenshot g s.id w₁ with ⟨shot | e' | _, w₂⟩ <;>
        rw [ht] at shown unfailing
      · rw [bind_done ht]
        exact .failed e shot (shown.changes (by simp))
      · exact (unfailing e' rfl).elim
      · rw [bind_cancelled ht]
        exact .cut shown.comes
    · exact .failed e none changes
  · rw [bind_cancelled (attempt_cancelled h)]
    exact .cut worked.comes

/-- All that can become of an action that begins at a depth in a world.  It goes through the
changes that its attempts make, and is recorded once, when it comes to its end; it is not
recorded when the deadline cuts it, nor when the delay between its attempts has no number of
seconds. -/
inductive Execution (g : Setting) (R : World → World → Prop) (s : Step) (depth : Int) (w : World) :
    Outcome ActionResult × World → Prop
  | tooDeep (deep : g.options.maxDepth < depth) :
      Execution g R s depth w (.failed (depthFault g s.id), w)
  | skipped {u : World} (changes : ReflTransGen R w u) :
      Execution g R s depth w (.done s.skipResult, u.recorded s.skipResult)
  | succeeded {u : World} (duration : Float) (n : Nat) (y : Yield)
      (changes : ReflTransGen R w u) :
      Execution g R s depth w (.done (s.successResult duration n y),
        u.recorded (s.successResult duration n y))
  | excused {u : World} (duration : Float) (n : Nat) (e : Fault) (shot : Option String)
      (optional : s.optional = true) (changes : ReflTransGen R w u) :
      Execution g R s depth w (.done (s.failureResult duration n e shot),
        ((u.recorded (s.failureResult duration n e shot)).logged .warn
          (optionalWarning s.id e.message)).warned (optionalWarning s.id e.message))
  | failed {u : World} (duration : Float) (n : Nat) (e : Fault) (shot : Option String)
      (required : s.optional = false) (changes : ReflTransGen R w u) :
      Execution g R s depth w (.failed (e.within s.id),
        u.recorded (s.failureResult duration n e shot))
  | undelayed {u : World} {e : Fault} (delayed : 0 < g.policy.retryDelay)
      (tooLong : secondsOfMillis g.policy.retryDelay = .error e)
      (changes : ReflTransGen R w u) : Execution g R s depth w (.failed e, u)
  | cut {w' : World} (comes : w.ComesToCut R w') : Execution g R s depth w (.cancelled, w')

theorem settleFailure_apply (n : Nat) (shot : Option String) (e : Fault) (w : World) :
    settleFailure s start n shot e w =
      let r := s.failureResult ((w.clock - start) * 1000.0) n e shot
      let m := optionalWarning s.id e.message
      if s.optional then (.done r, ((w.recorded r).logged .warn m).warned m)
      else (.failed (e.within s.id), w.recorded r) := by
  cases h : s.optional <;> simp only [settleFailure, h] <;> rfl

variable {g s} {depth : Int}

theorem execution_settleFailure {w u : World} (n : Nat) (shot : Option String) (e : Fault)
    (changes : ReflTransGen R w u) :
    Execution g R s depth w (settleFailure s start n shot e u) := by
  rw [settleFailure_apply]
  cases h : s.optional
  · exact .failed _ n e shot h changes
  · exact .excused _ n e shot h changes

/-- An attempt that succeeds or is cut ends an execution; another one leaves it to what follows. -/
theorem execution_attemptOnce (timely : World.Timely ≤ R) {work : Exec Yield}
    (hw : work.Follows R) (k budget : Nat) (next : Fault → Option String → Exec ActionResult)
    {w u : World} (before : ReflTransGen R w u)
    (ends : ∀ e shot u', ReflTransGen R w u' → Execution g R s depth w (next e shot u')) :
    Execution g R s depth w ((attemptOnce g s start work k budget >>= fun tried =>
      match tried with
      | .ok r => pure r
      | .error (e, shot) => next e shot) u) := by
  have once := attempt_attemptOnce g s start timely hw k budget u
  rcases h : attemptOnce g s start work k budget u with ⟨out, u'⟩
  rw [h] at once
  cases once with
  | succeeded duration n y changes =>
    rw [bind_done h]
    exact .succeeded duration n y (before.trans changes)
  | failed e shot changes =>
    rw [bind_done h]
    exact ends e shot u' (before.trans changes)
  | cut comes =>
    rw [bind_cancelled h]
    exact .cut (comes.after before)

theorem pauseMillis_failed {n : Int} {w w' : World} {e : Fault}
    (h : pauseMillis n w = (.failed e, w')) : 0 < n ∧ secondsOfMillis n = .error e := by
  unfold pauseMillis at h
  split at h
  · next positive =>
    refine ⟨positive, ?_⟩
    cases hs : secondsOfMillis n with
    | error e' =>
      rw [hs] at h
      cases h
      rfl
    | ok s =>
      rw [hs, bind_done (show lift (.ok s) w = (.done s, w) from rfl), pause_apply] at h
      rcases pass_cases s (w.listedPause s) with ⟨-, hp⟩ | ⟨d, -, -, hp⟩ <;> rw [hp] at h <;>
        cases h
  · cases h

theorem execution_attempts (timely : World.Timely ≤ R) {work : Exec Yield}
    (hw : work.Follows R) (budget left : Nat) {w u : World} (before : ReflTransGen R w u) :
    Execution g R s depth w (attempts g s start work budget left u) := by
  induction left generalizing u with
  | zero =>
    refine execution_attemptOnce start timely hw _ budget _ before fun e shot u' changes => ?_
    exact execution_settleFailure start _ shot e changes
  | succ left ih =>
    refine execution_attemptOnce start timely hw _ budget _ before fun e shot u' changes => ?_
    have logged := changes.tail (timely _ _ (.logged .info
      s!"Retrying action {s.id} ({left + 1} attempts remaining): {e.message}"))
    rw [bind_done (show log _ _ u' = (.done (), u'.logged _ _) from rfl)]
    have paused := ((timely_pauseMillis g.policy.retryDelay).mono timely (u'.logged .info
      s!"Retrying action {s.id} ({left + 1} attempts remaining): {e.message}")).after logged
    rcases hp : pauseMillis g.policy.retryDelay (u'.logged .info _) with ⟨a | e' | _, u''⟩ <;>
      rw [hp] at paused
    · rw [bind_done hp]
      exact ih (paused.changes (by simp))
    · rw [bind_failed hp]
      obtain ⟨delayed, tooLong⟩ := pauseMillis_failed hp
      exact .undelayed delayed tooLong (paused.changes (by simp))
    · rw [bind_cancelled hp]
      exact .cut paused.comes

theorem execution_executeStep (timely : World.Timely ≤ R) (size : Nat) {body : Exec Unit}
    (hb : body.Follows R) (w : World) :
    Execution g R s depth w (executeStep g s size body depth w) := by
  unfold executeStep
  rw [bind_done (read_apply _ _)]
  split
  · next deep => exact .tooDeep deep
  · have asked := s.timely_isAdmitted.mono timely w
    have unfailing := s.unfailing_isAdmitted w
    rcases h : s.isAdmitted w with ⟨admitted | e | _, u⟩ <;> rw [h] at asked unfailing
    · rw [bind_done h]
      have changes := asked.changes (by simp)
      cases admitted
      · exact .skipped (changes.tail (timely _ _ (.logged .debug _)))
      · refine execution_attempts w.clock timely ?_ _ _ changes
        exact (s.timely_resolve.mono timely).bind fun s' => follows_dispatch s' size g timely hb
    · exact (unfailing e rfl).elim
    · rw [bind_cancelled h]
      exact .cut asked.comes

end Attempts

/-! ## Action trees -/

/-- An action of the program of another one, or one inside it. -/
inductive Action.Inside : Action → Action → Prop
  | direct {b : Action} {s : Step} {program : List Action} (h : b ∈ program) :
      Inside b ⟨s, some program⟩
  | deeper {b c : Action} {s : Step} {program : List Action} (h : c ∈ program)
      (inner : Inside b c) : Inside b ⟨s, some program⟩

theorem Action.Inside.trans {b c a : Action} (h : b.Inside c) (h' : c.Inside a) :
    b.Inside a := by
  induction h' with
  | direct mem => exact .deeper mem h
  | deeper mem _ ih => exact .deeper mem ih

section Trees

variable {g : Setting} {R : Action → World → World → Prop}

mutual

/-- Induction over action trees: `R a` describes the course of the action `a` if it covers timely
changes, the courses of the actions inside, and whole executions of these. -/
theorem execution_of_nested (timely : ∀ a, World.Timely ≤ R a)
    (nested : ∀ {b a}, Action.Inside b a → R b ≤ R a)
    (finished : ∀ {b a depth w out w'}, Action.Inside b a → execute g b depth w = (out, w') →
      out ≠ .cancelled → Execution g (R b) b.step depth w (out, w') → ReflTransGen (R a) w w') :
    ∀ (a : Action) (depth : Int) (w : World),
      Execution g (R a) a.step depth w (execute g a depth w)
  | ⟨_, none⟩, _, w => execution_executeStep (timely _) 0 (follows_pure ()) w
  | ⟨s, some program⟩, depth, w =>
    execution_executeStep (timely _) program.length
      (follows_program_of_nested timely nested finished ⟨s, some program⟩ program (depth + 1)
        fun _ h => .direct h) w

theorem follows_program_of_nested (timely : ∀ a, World.Timely ≤ R a)
    (nested : ∀ {b a}, Action.Inside b a → R b ≤ R a)
    (finished : ∀ {b a depth w out w'}, Action.Inside b a → execute g b depth w = (out, w') →
      out ≠ .cancelled → Execution g (R b) b.step depth w (out, w') → ReflTransGen (R a) w w')
    (a : Action) :
    ∀ (program : List Action) (depth : Int), (∀ b ∈ program, Action.Inside b a) →
      (executeProgram g program depth).Follows (R a)
  | [], _, _ => follows_pure ()
  | b :: rest, depth, inside => by
    have within := inside b List.mem_cons_self
    have first : (execute g b depth).Follows (R a) := by
      intro w
      have executed := execution_of_nested timely nested finished b depth w
      rcases h : execute g b depth w with ⟨out, w'⟩
      rw [h] at executed
      -- a cut inside is a cut here; whatever else the action ended with, it is a whole execution
      by_cases uncut : out = .cancelled
      · subst uncut
        cases executed with
        | cut comes => exact .cut (comes.mono (nested within))
      · exact .through uncut (finished within h uncut executed)
    exact first.bind fun _ => follows_program_of_nested timely nested finished a rest depth
      fun c h => inside c (List.mem_cons_of_mem b h)

end

end Trees

/-- What can happen in the course of an action: timely changes, and whole executions of the
actions inside it. -/
inductive Within (g : Setting) (a : Action) (w : World) : World → Prop
  | timely {w' : World} (change : w.Timely w') : Within g a w w'
  | finished {b : Action} {depth : Int} {out : Outcome ActionResult} {w' : World}
      (inside : b.Inside a) (executed : execute g b depth w = (out, w'))
      (uncut : out ≠ .cancelled) : Within g a w w'

theorem Within.mono {g : Setting} {b a : Action} (inside : b.Inside a) :
    Within g b ≤ Within g a := by
  intro w w' h
  cases h with
  | timely change => exact .timely change
  | finished inner executed uncut => exact .finished (inner.trans inside) executed uncut

theorem execution_execute (g : Setting) (a : Action) (depth : Int) (w : World) :
    Execution g (Within g a) a.step depth w (execute g a depth w) :=
  execution_of_nested (fun _ _ _ change => .timely change) Within.mono
    (fun inside executed uncut _ => .single (.finished inside executed uncut)) a depth w

/-! ## Ordinary changes -/

/-- What actions and rules change: what is timely, the results that are recorded, and the
warnings of what may fail. -/
inductive World.Ordinary (w : World) : World → Prop
  | timely {w' : World} (change : w.Timely w') : Ordinary w w'
  | recorded (r : ActionResult) : Ordinary w (w.recorded r)
  | excused (id message : String) : Ordinary w (w.warned (optionalWarning id message))
  | unfilled (field message : String) : Ordinary w (w.warned (Harvest.ruleWarning field message))

theorem timely_le_ordinary : World.Timely ≤ World.Ordinary :=
  fun _ _ change => .timely change

theorem Execution.ordinary {g : Setting} {s : Step} {depth : Int} {w : World}
    {end_ : Outcome ActionResult × World} (h : Execution g World.Ordinary s depth w end_) :
    Course World.Ordinary w end_ := by
  cases h with
  | tooDeep => exact .through (by simp) .refl
  | skipped changes => exact .through (by simp) (changes.tail (.recorded _))
  | succeeded _ _ _ changes => exact .through (by simp) (changes.tail (.recorded _))
  | excused _ _ _ _ _ changes =>
    exact .through (by simp) (((changes.tail (.recorded _)).tail
      (.timely (.logged _ _))).tail (.excused _ _))
  | failed _ _ _ _ _ changes => exact .through (by simp) (changes.tail (.recorded _))
  | undelayed _ _ changes => exact .through (by simp) changes
  | cut comes => exact .cut comes

theorem ordinary_execute (g : Setting) (a : Action) (depth : Int) :
    (execute g a depth).Follows World.Ordinary := by
  intro w
  exact (execution_of_nested (R := fun _ => World.Ordinary) (fun _ => timely_le_ordinary)
    (fun _ _ _ h => h) (fun _ _ uncut h => h.ordinary.changes uncut) a depth w).ordinary

/-- What ordinary changes leave alone: the errors of the run and its deadline. -/
structure World.Keeps (w w' : World) : Prop where
  errors : w'.context.errors = w.context.errors
  deadline : w'.deadline = w.deadline

namespace World

theorem Keeps.trans {w w₁ w₂ : World} (first : w.Keeps w₁) (second : w₁.Keeps w₂) :
    w.Keeps w₂ :=
  ⟨second.errors.trans first.errors, second.deadline.trans first.deadline⟩

theorem keeps_listedPause (w : World) (seconds t : Float) :
    w.Keeps { w.listedPause seconds with clock := t } := by
  unfold listedPause
  split <;> exact ⟨rfl, rfl⟩

theorem Timely.keeps {w w' : World} (h : w.Timely w') : w.Keeps w' := by
  cases h with
  | paused seconds => exact w.keeps_listedPause seconds _
  | _ => exact ⟨rfl, rfl⟩

theorem Ordinary.keeps {w w' : World} (h : w.Ordinary w') : w.Keeps w' := by
  cases h with
  | timely change => exact change.keeps
  | _ => exact ⟨rfl, rfl⟩

theorem Cut.keeps {w w' : World} (h : w.Cut w') : w.Keeps w' := by
  cases h with
  | operation => exact ⟨rfl, rfl⟩
  | pause seconds => exact w.keeps_listedPause seconds _

theorem keeps_of_changes {w w' : World} (h : ReflTransGen Ordinary w w') : w.Keeps w' := by
  induction h with
  | refl => exact ⟨rfl, rfl⟩
  | tail _ last ih => exact ih.trans last.keeps

end World

/-- A course of ordinary changes leaves both alone, wherever it ends. -/
theorem keeps_of_course {α : Type} {w w' : World} {out : Outcome α}
    (h : Course World.Ordinary w (out, w')) : w.Keeps w' :=
  h.holds (P := World.Keeps) (fun _ => ⟨rfl, rfl⟩) World.Keeps.trans
    (fun _ _ => World.Ordinary.keeps) (fun _ _ => World.Cut.keeps) fun _ _ => ⟨rfl, rfl⟩

theorem keeps_of_execute {g : Setting} {a : Action} {depth : Int} {w w' : World}
    {out : Outcome ActionResult} (h : execute g a depth w = (out, w')) : w.Keeps w' := by
  have course := ordinary_execute g a depth w
  rw [h] at course
  exact keeps_of_course course

/-- Only where there is a deadline is anything cut. -/
theorem limited_of_cancelled {α : Type} {w w' : World}
    (h : Course World.Ordinary w ((.cancelled : Outcome α), w')) : ∃ d, w.deadline = some d := by
  obtain ⟨v, v', n, changes, cut, -⟩ := h.comes
  rw [← (World.keeps_of_changes changes).deadline]
  cases cut with
  | operation _ _ limit => exact ⟨_, limit⟩
  | pause _ limit => exact ⟨_, limit⟩

end Scout
