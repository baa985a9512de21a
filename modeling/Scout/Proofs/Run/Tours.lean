import Scout.Proofs.Run.Blindness
import Scout.Proofs.Run.Traced

/-!
# Programs around executions

The executions that an execution calls are listed, and a program that calls some is
followed along its tour: quiet changes, which add nothing to the results, and those
executions.  When it fails, either it does so by itself or the last of them failed, and
nothing but quiet changes came after it.  When it is cut, so is an operation or a pause
of its own, or the last of them, and nothing comes after that.
-/

namespace Scout

open Relation Exec

/-! ## Quiet changes -/

theorem World.Timely.results {w w' : World} (h : w.Timely w') :
    w'.context.results = w.context.results := by
  cases h with
  | paused seconds =>
    unfold World.listedPause
    split <;> rfl
  | _ => rfl

theorem World.Cut.results {w w' : World} (h : w.Cut w') :
    w'.context.results = w.context.results := by
  cases h with
  | operation => rfl
  | pause seconds =>
    unfold World.listedPause
    split <;> rfl

theorem results_of_timely {w w' : World} (changes : ReflTransGen World.Timely w w') :
    w'.context.results = w.context.results := by
  induction changes with
  | refl => rfl
  | tail _ last ih => exact last.results.trans ih

/-- Timely changes that leave the page as it is set: they enter nothing into the journal. -/
structure World.Quiet (w w' : World) : Prop where
  changes : ReflTransGen World.Timely w w'
  setting : w.page.SameSetting w'.page

namespace World.Quiet

variable {w w₁ w₂ : World}

theorem refl (w : World) : w.Quiet w :=
  ⟨.refl, .refl w.page⟩

theorem trans (first : w.Quiet w₁) (second : w₁.Quiet w₂) : w.Quiet w₂ :=
  ⟨first.changes.trans second.changes, first.setting.trans second.setting⟩

theorem logged (w : World) (level : LogLevel) (message : String) :
    w.Quiet (w.logged level message) :=
  ⟨.single (.logged level message), .refl w.page⟩

theorem results (h : w.Quiet w₁) : w₁.context.results = w.context.results :=
  results_of_timely h.changes

end World.Quiet

namespace Exec

variable {α : Type}

/-- The program goes through quiet changes alone. -/
structure IsQuiet (x : Exec α) : Prop where
  timely : x.IsTimely
  keeps : x.KeepsSetting

theorem IsQuiet.quiet {x : Exec α} (hx : x.IsQuiet) {w u : World} {out : Outcome α}
    (h : x w = (out, u)) (uncut : out ≠ .cancelled) : w.Quiet u := by
  have course := hx.timely w
  have kept := hx.keeps w
  rw [h] at course kept
  exact ⟨course.changes uncut, kept.page⟩

theorem IsQuiet.comes {x : Exec α} (hx : x.IsQuiet) {w u : World}
    (h : x w = (.cancelled, u)) : w.ComesToCut World.Timely u := by
  have course := hx.timely w
  rw [h] at course
  exact course.comes

theorem quiet_log (level : LogLevel) (message : String) : (log level message).IsQuiet :=
  ⟨timely_log level message, fun w => .of_calls (.refl w.page) rfl⟩

theorem quiet_pauseMillis (n : Int) : (pauseMillis n).IsQuiet :=
  ⟨timely_pauseMillis n, .of_blind fun _ => blind_pauseMillis n⟩

end Exec

theorem Step.quiet_isAdmitted (s : Step) : s.isAdmitted.IsQuiet :=
  ⟨s.timely_isAdmitted, .of_blind fun _ => s.blind_isAdmitted⟩

theorem Step.quiet_resolve (s : Step) : s.resolve.IsQuiet :=
  ⟨s.timely_resolve, .of_blind fun _ => s.blind_resolve⟩

theorem quiet_errorScreenshot (g : Setting) (id : String) : (errorScreenshot g id).IsQuiet :=
  ⟨timely_errorScreenshot g id, (blind_errorScreenshot g id).keeps⟩

theorem Step.quiet_dispatch (s : Step) (g : Setting) (size : Nat) :
    (s.dispatch g size (pure ())).IsQuiet :=
  ⟨follows_dispatch s size g (fun _ _ h => h) (follows_pure ()),
    (blind_dispatch s size g (blind_pure ())).keeps⟩

/-! ## Executions inside an action -/

/-- An execution inside another one: its action, and the world in which it begins. -/
structure Nested where
  action : Action
  world : World

namespace Traced

def call (g : Setting) (a : Action) (depth : Int) : Traced Nested ActionResult :=
  ⟨Scout.execute g a depth, fun w => [⟨a, w⟩]⟩

def program (g : Setting) : List Action → Int → Traced Nested Unit
  | [], _ => pure ()
  | a :: rest, depth => do
    let _ ← call g a depth
    program g rest depth

def calling (g : Setting) (a : Action) (depth : Int) : Traced Nested ActionResult :=
  executeStep (fun s => s.resolve) g a.step (a.program.getD []).length
    (program g (a.program.getD []) (depth + 1)) depth

theorem run_program (g : Setting) (actions : List Action) (depth : Int) :
    (program g actions depth).run = Scout.executeProgram g actions depth := by
  induction actions with
  | nil => rfl
  | cons a rest ih =>
    rw [program, run_bind, Scout.executeProgram]
    exact bind_congr fun _ => ih

/-- What an execution does that is followed with those that it calls is what the execution does. -/
theorem run_calling (g : Setting) (a : Action) (depth : Int) :
    (calling g a depth).run = Scout.execute g a depth := by
  rw [calling, run_executeStep g a.step fun _ => rfl, run_program]
  obtain ⟨s, _ | program⟩ := a <;> rfl

end Traced

/-- The executions that an execution calls itself, over all its attempts and rounds, in their
order. -/
def nestedCalls (g : Setting) (a : Action) (depth : Int) (w : World) : List Nested :=
  (Traced.calling g a depth).trials w

/-- What the execution adds to the results. -/
def Nested.added (g : Setting) (depth : Int) (c : Nested) : List ActionResult :=
  (execute g c.action depth c.world).2.context.results.drop c.world.context.results.length

/-- The journal only grows, and only at its end. -/
theorem results_of_execute {g : Setting} {a : Action} {depth : Int} {w w' : World}
    {out : Outcome ActionResult} (h : execute g a depth w = (out, w')) :
    w'.context.results = w.context.results ++ Nested.added g depth ⟨a, w⟩ := by
  have course := ordinary_execute g a depth w
  rw [h] at course
  have grows : w.context.results <+: w'.context.results := by
    refine course.holds (P := fun w w' => w.context.results <+: w'.context.results)
      (fun _ => List.prefix_rfl) List.IsPrefix.trans ?_ ?_ fun _ _ => List.prefix_rfl
    · rintro w w' (change | r | _ | _)
      · exact change.results ▸ List.prefix_rfl
      · exact List.prefix_append _ _
      · exact List.prefix_rfl
      · exact List.prefix_rfl
    · intro w w' cut
      exact cut.results ▸ List.prefix_rfl
  obtain ⟨more, same⟩ := grows
  rw [Nested.added, h, ← same, List.drop_left]

section Tours

variable (g : Setting) (program : List Action) (depth : Int)

/-- A way between two worlds: quiet changes, and executions of the actions of a program, listed in
their order. -/
inductive Passes (w : World) : List Nested → World → Prop
  | start : Passes w [] w
  | quiet {calls : List Nested} {u v : World} (before : Passes w calls u)
      (changes : u.Quiet v) : Passes w calls v
  | inner {calls : List Nested} {u v : World} {b : Action} {out : Outcome ActionResult}
      (before : Passes w calls u) (mem : b ∈ program) (executed : execute g b depth u = (out, v))
      (uncut : out ≠ .cancelled) : Passes w (calls ++ [⟨b, u⟩]) v

/-- A program fails by itself, in a world that it has come to, or because the last execution of an
action has failed.  Nothing but quiet changes comes after that. -/
inductive Stops (own : World → Fault → Prop) (w : World) (e : Fault) : List Nested → World → Prop
  | own {calls : List Nested} {u v : World} (way : Passes g program depth w calls v)
      (fault : own v e) (after : v.Quiet u) : Stops own w e calls u
  | inner {calls : List Nested} {b : Action} {u v v' : World}
      (way : Passes g program depth w calls v) (mem : b ∈ program)
      (failed : execute g b depth v = (.failed e, v')) (after : v'.Quiet u) :
      Stops own w e (calls ++ [⟨b, v⟩]) u

/-- The deadline cuts an operation or a pause of a program itself, or the last execution of an
action.  Nothing comes after that, but that the count of the retries around it is mended. -/
inductive Breaks (w : World) : List Nested → World → Prop
  | own {calls : List Nested} {u v : World} (way : Passes g program depth w calls v)
      (comes : v.ComesToCut World.Timely u) : Breaks w calls u
  | inner {calls : List Nested} {b : Action} {v v' : World}
      (way : Passes g program depth w calls v) (mem : b ∈ program)
      (cut : execute g b depth v = (.cancelled, v')) (n : Nat) :
      Breaks w (calls ++ [⟨b, v⟩]) { v' with retryDepth := n }

/-- How a program goes that begins in a world. -/
inductive Tour {α : Type} (own : World → Fault → Prop) (w : World) :
    List Nested → Outcome α × World → Prop
  | done {calls : List Nested} {a : α} {u : World} (way : Passes g program depth w calls u) :
      Tour own w calls (.done a, u)
  | failed {calls : List Nested} {e : Fault} {u : World}
      (stops : Stops g program depth own w e calls u) : Tour own w calls (.failed e, u)
  | cut {calls : List Nested} {u : World} (breaks : Breaks g program depth w calls u) :
      Tour own w calls (.cancelled, u)

/-- From every world the program goes such a tour. -/
def Traced.Tours {α : Type} (x : Traced Nested α) (own : World → Fault → Prop) : Prop :=
  ∀ w, Tour g program depth own w (x.trials w) (x.run w)

variable {g program depth} {α β : Type} {own : World → Fault → Prop} {w w₁ u v : World} {e : Fault}
variable {calls more : List Nested}

namespace Passes

theorem trans (first : Passes g program depth w calls w₁)
    (second : Passes g program depth w₁ more u) :
    Passes g program depth w (calls ++ more) u := by
  induction second with
  | start => rwa [List.append_nil]
  | quiet _ changes ih => exact ih.quiet changes
  | inner _ mem executed uncut ih =>
    rw [← List.append_assoc]
    exact ih.inner mem executed uncut

theorem of_quiet (changes : w.Quiet u) : Passes g program depth w [] u :=
  Passes.start.quiet changes

/-- On the way the executions have entered into the journal what it has gained. -/
theorem results (h : Passes g program depth w calls u) :
    u.context.results = w.context.results ++ calls.flatMap (Nested.added g depth) := by
  induction h with
  | start => simp
  | quiet _ changes ih => rw [changes.results, ih]
  | inner _ _ executed _ ih => rw [results_of_execute executed, ih]; simp

theorem setting (h : Passes g program depth w calls u) : w.page.SameSetting u.page := by
  induction h with
  | start => exact .refl w.page
  | quiet _ changes ih => exact ih.trans changes.setting
  | @inner _ u v b _ _ _ executed _ ih =>
    have kept := (blind_execute g b depth).keeps u
    rw [executed] at kept
    exact ih.trans kept.page

theorem of_concat {c : Nested} {b : Action} {before : List Nested}
    (way : Passes g program depth w calls v) (mem : b ∈ program)
    (listed : before ++ c :: more = calls ++ [⟨b, v⟩])
    (earlier : ∀ more', before ++ c :: more' = calls →
      Passes g program depth w before c.world ∧ c.action ∈ program) :
    Passes g program depth w before c.world ∧ c.action ∈ program := by
  rcases List.eq_nil_or_concat more with rfl | ⟨more', last, rfl⟩
  · obtain ⟨rfl, rfl⟩ := List.concat_inj.mp (by simpa using listed)
    exact ⟨way, mem⟩
  · rw [List.concat_eq_append, ← List.cons_append, ← List.append_assoc] at listed
    exact earlier more' (List.append_inj' listed rfl).1

theorem of_append {c : Nested} (h : Passes g program depth w (calls ++ c :: more) u) :
    Passes g program depth w calls c.world ∧ c.action ∈ program := by
  generalize listed : calls ++ c :: more = all at h
  induction h generalizing more with
  | start => simp at listed
  | quiet _ _ ih => exact ih listed
  | inner before mem _ _ ih => exact of_concat before mem listed fun _ earlier => ih earlier

end Passes

namespace Stops

theorem way (h : Stops g program depth own w e calls u) :
    Passes g program depth w calls u := by
  cases h with
  | own way _ after => exact way.quiet after
  | inner way mem failed after => exact (way.inner mem failed (by simp)).quiet after

theorem quiet (h : Stops g program depth own w e calls u) (changes : u.Quiet v) :
    Stops g program depth own w e calls v := by
  cases h with
  | own way fault after => exact .own way fault (after.trans changes)
  | inner way mem failed after => exact .inner way mem failed (after.trans changes)

theorem after (h : Stops g program depth own w₁ e more u)
    (before : Passes g program depth w calls w₁) :
    Stops g program depth own w e (calls ++ more) u := by
  cases h with
  | own way fault after => exact .own (before.trans way) fault after
  | inner way mem failed after =>
    rw [← List.append_assoc]
    exact .inner (before.trans way) mem failed after

theorem mono {own' : World → Fault → Prop} (h : Stops g program depth own w e calls u)
    (sub : ∀ v e, own v e → own' v e) : Stops g program depth own' w e calls u := by
  cases h with
  | own way fault after => exact .own way (sub _ _ fault) after
  | inner way mem failed after => exact .inner way mem failed after

end Stops

namespace Breaks

theorem after (h : Breaks g program depth w₁ more u)
    (before : Passes g program depth w calls w₁) :
    Breaks g program depth w (calls ++ more) u := by
  cases h with
  | own way comes => exact .own (before.trans way) comes
  | inner way mem cut n =>
    rw [← List.append_assoc]
    exact .inner (before.trans way) mem cut n

theorem leavingRetry (h : Breaks g program depth w calls u) :
    Breaks g program depth w calls (leaveRetry u) := by
  cases h with
  | own way comes =>
    obtain ⟨v, v', n, changes, cut, rfl⟩ := comes
    exact .own way ⟨v, v', n - 1, changes, cut, rfl⟩
  | inner way mem cut n => exact .inner way mem cut (n - 1)

/-- A program that is cut has entered what the executions in it have, and nothing of its own. -/
theorem results (h : Breaks g program depth w calls u) :
    u.context.results = w.context.results ++ calls.flatMap (Nested.added g depth) := by
  cases h with
  | own way comes =>
    obtain ⟨v, v', n, changes, cut, rfl⟩ := comes
    rw [← way.results, ← results_of_timely changes]
    exact cut.results
  | @inner calls b v v' way mem cut n =>
    have entered := results_of_execute cut
    rw [way.results] at entered
    simpa using entered

theorem of_append {c : Nested} (h : Breaks g program depth w (calls ++ c :: more) u) :
    Passes g program depth w calls c.world ∧ c.action ∈ program := by
  generalize listed : calls ++ c :: more = all at h
  cases h with
  | own way comes => exact (listed ▸ way).of_append
  | inner way mem cut n =>
    exact Passes.of_concat way mem listed fun _ earlier => (earlier ▸ way).of_append

end Breaks

theorem Tour.after {end_ : Outcome α × World} (h : Tour g program depth own w₁ more end_)
    (before : Passes g program depth w calls w₁) :
    Tour g program depth own w (calls ++ more) end_ := by
  cases h with
  | done way => exact .done (before.trans way)
  | failed stops => exact .failed (stops.after before)
  | cut breaks => exact .cut (breaks.after before)

theorem Tour.mono {own' : World → Fault → Prop} {end_ : Outcome α × World}
    (h : Tour g program depth own w calls end_) (sub : ∀ v e, own v e → own' v e) :
    Tour g program depth own' w calls end_ := by
  cases h with
  | done way => exact .done way
  | failed stops => exact .failed (stops.mono sub)
  | cut breaks => exact .cut breaks

/-! ### Programs of programs -/

namespace Traced

theorem tours_pure (a : α) : (pure a : Traced Nested α).Tours g program depth own :=
  fun _ => .done .start

theorem tours_quiet {x : Exec α} (hx : x.IsQuiet)
    (fails : ∀ w e, (x w).1 = .failed e → own w e) : (idle x).Tours g program depth own := by
  intro w
  show Tour g program depth own w [] (x w)
  rcases h : x w with ⟨a | e | _, u⟩
  · exact .done (.of_quiet (hx.quiet h (by simp)))
  · exact .failed (.own .start (fails w e (by rw [h])) (hx.quiet h (by simp)))
  · exact .cut (.own .start (hx.comes h))

theorem tours_log (level : LogLevel) (message : String) :
    (idle (log level message)).Tours g program depth own :=
  tours_quiet (quiet_log level message) fun _ _ h => nomatch h

theorem Tours.bind {x : Traced Nested α} {f : α → Traced Nested β}
    (hx : x.Tours g program depth own) (hf : ∀ a, (f a).Tours g program depth own) :
    (x >>= f).Tours g program depth own := by
  intro w
  have first := hx w
  refine bind_ends (P := Tour g program depth own w) x f w (fun a u h => ?_) (fun e u h => ?_)
    fun u h => ?_ <;> rw [h] at first
  · cases first with
    | done way => exact (hf a u).after way
  · cases first with
    | failed stops => exact .failed stops
  · cases first with
    | cut breaks => exact .cut breaks

theorem tours_lift_bind {x : Except Fault α} {f : α → Traced Nested β}
    (fails : ∀ w e, x = .error e → own w e)
    (done : ∀ a, x = .ok a → (f a).Tours g program depth own) :
    (idle (lift x) >>= f).Tours g program depth own := by
  cases x with
  | ok a => exact done a rfl
  | error e => exact fun w => .failed (.own .start (fails w e rfl) (.refl w))

theorem Tours.attempt_bind {x : Traced Nested α} {f : Except Fault α → Traced Nested β}
    (hx : x.Tours g program depth own) (done : ∀ a, (f (.ok a)).Tours g program depth own)
    (failed : ∀ w e calls u, Stops g program depth own w e calls u →
      Tour g program depth own w (calls ++ (f (.error e)).trials u) ((f (.error e)).run u)) :
    (attempt x >>= f).Tours g program depth own := by
  intro w
  have first := hx w
  refine attempt_ends (P := Tour g program depth own w) x f w (fun a u h => ?_) (fun e u h => ?_)
    fun u h => ?_ <;> rw [h] at first
  · cases first with
    | done way => exact (done a u).after way
  · cases first with
    | failed stops => exact failed w e _ u stops
  · cases first with
    | cut breaks => exact .cut breaks

theorem Tours.leavingRetry {x : Traced Nested α} (hx : x.Tours g program depth own) :
    (ensuring x leaveRetry).Tours g program depth own := by
  intro w
  have all := hx w
  have left (u : World) : u.Quiet (leaveRetry u) := ⟨.single (.retryDepth _), .refl u.page⟩
  show Tour g program depth own w (x.trials w) (Exec.ensuring x.run leaveRetry w)
  unfold Exec.ensuring
  rcases h : x.run w with ⟨out, u⟩
  rw [h] at all
  cases all with
  | done way => exact .done (way.quiet (left u))
  | failed stops => exact .failed (stops.quiet (left u))
  | cut breaks => exact .cut breaks.leavingRetry

theorem Tours.ite {c : Prop} [Decidable c] {x y : Traced Nested α}
    (hx : x.Tours g program depth own) (hy : y.Tours g program depth own) :
    (if c then x else y).Tours g program depth own := by
  split
  · exact hx
  · exact hy

theorem tours_program {rest : List Action} (sub : ∀ b ∈ rest, b ∈ program) :
    (Traced.program g rest depth).Tours g program depth own := by
  induction rest with
  | nil => exact tours_pure ()
  | cons b rest ih =>
    obtain ⟨mem, others⟩ := List.forall_mem_cons.mp sub
    refine Tours.bind (x := call g b depth) (fun w => ?_) fun _ => ih others
    show Tour g program depth own w ([] ++ [⟨b, w⟩]) (Scout.execute g b depth w)
    rcases h : Scout.execute g b depth w with ⟨r | e | _, u⟩
    · exact .done (Passes.start.inner mem h (by simp))
    · exact .failed (.inner .start mem h (.refl u))
    · exact .cut (.inner .start mem h u.retryDepth)

/-! ### Attempts at an action -/

variable {s : Step} {size : Nat} {body : Traced Nested Unit}

theorem tours_isAdmitted (s : Step) : (idle s.isAdmitted).Tours g program depth own :=
  tours_quiet s.quiet_isAdmitted fun w e h => (s.unfailing_isAdmitted w e h).elim

theorem tours_loopRounds (hb : body.Tours g program depth own) (bound left : Nat) :
    (loopRounds s body bound left).Tours g program depth own := by
  induction left with
  | zero => exact tours_pure _
  | succ left ih =>
    refine (tours_isAdmitted s).bind fun admitted => ?_
    exact Tours.ite ((tours_log _ _).bind fun _ => hb.bind fun _ => ih)
      ((tours_log _ _).bind fun _ => tours_pure _)

theorem tours_retryRounds (hb : body.Tours g program depth own) (delay : Int)
    (delayed : ∀ w e, secondsOfMillis delay = .error e → own w e) (bound left : Nat) :
    (retryRounds s body delay bound (left + 1)).Tours g program depth own := by
  have paused : (idle (pauseMillis delay)).Tours g program depth own :=
    tours_quiet (quiet_pauseMillis delay) fun w e h => by
      have failed : pauseMillis delay w = (.failed e, (pauseMillis delay w).2) := Prod.ext h rfl
      exact delayed w e (pauseMillis_failed failed).2
  have entered : (idle (update enterRetry)).Tours g program depth own := fun w =>
    .done (.of_quiet ⟨.single (.retryDepth _), .refl w.page⟩)
  induction left with
  | zero =>
    refine (tours_log _ _).bind fun _ => entered.bind fun _ => ?_
    refine hb.leavingRetry.attempt_bind (fun _ => tours_pure _) fun w e calls u stops => ?_
    simpa using Tour.failed stops
  | succ left ih =>
    refine (tours_log _ _).bind fun _ => entered.bind fun _ => ?_
    refine hb.leavingRetry.attempt_bind (fun _ => tours_pure _) fun w e calls u stops => ?_
    dsimp only
    split
    -- the round failed as an action, so the tour goes on from where it stopped
    · exact (((tours_log _ _).bind fun _ => paused.bind fun _ => ih) u).after stops.way
    · simpa using Tour.failed stops

end Traced

/-- The faults of an attempt that do not come from its program: those that it fails with when its
program does nothing, and a delay between the rounds of a retry that no double can hold. -/
def Step.OwnFault (g : Setting) (s : Step) (size : Nat) (w : World) (e : Fault) : Prop :=
  (∃ w', s.dispatch g size (pure ()) w = (.failed e, w')) ∨
    s.kind = .retry ∧ secondsOfMillis (s.timeout.getD standardRetryDelay) = .error e

variable {s : Step} {size : Nat}

/-! An attempt at a composite action that lacks nothing. -/

theorem Step.dispatch_conditional (hk : s.kind = .conditional) (complete : s.lacking? size = none)
    (g : Setting) (body : Exec Unit) : s.dispatch g size body = (do
      if ← s.isAdmitted then
        log .debug s!"Conditions met for {s.id}, executing {size} sub-actions"
        body
        pure .nothing
      else
        log .debug s!"Conditions not met for {s.id}, skipping sub-actions"
        pure .nothing) := by
  unfold lacking? at complete
  simp only [hk, ite_eq_right_iff, reduceCtorEq, imp_false, Bool.not_eq_true,
    Bool.or_eq_false_iff] at complete
  unfold dispatch
  rw [hk]
  dsimp only
  unfold runConditional
  split
  · rw [if_neg (by simp [complete.2])]
  · next absent =>
    exfalso
    rcases hc : s.conditions with _ | _ | ⟨c, cs⟩ <;> simp_all

theorem Step.dispatch_loop (hk : s.kind = .loop) (complete : s.lacking? size = none)
    (g : Setting) (body : Exec Unit) : s.dispatch g size body =
      lift (Scalar.rounds standardLoopRounds s.value) >>= fun bound =>
        loopRounds s body bound bound >>= fun n =>
          pure ⟨.record [("iterations", .int n)], none⟩ := by
  unfold lacking? at complete
  simp only [hk, ite_eq_right_iff, reduceCtorEq, imp_false, Bool.not_eq_true] at complete
  unfold dispatch
  rw [hk]
  dsimp only
  rw [runLoop, if_neg (by simp [complete])]

theorem Step.dispatch_retry (hk : s.kind = .retry) (complete : s.lacking? size = none)
    (g : Setting) (body : Exec Unit) : s.dispatch g size body =
      lift (Scalar.rounds standardRetryRounds s.value) >>= fun bound =>
        retryRounds s body (s.timeout.getD standardRetryDelay) bound bound >>= fun n =>
          pure ⟨.record [("attempts", .int n)], none⟩ := by
  unfold lacking? at complete
  simp only [hk, ite_eq_right_iff, reduceCtorEq, imp_false, Bool.not_eq_true] at complete
  unfold dispatch
  rw [hk]
  dsimp only
  rw [runRetry, if_neg (by simp [complete])]

namespace Traced

variable {body : Traced Nested Unit}

theorem tours_alone (s : Step) (size : Nat) :
    (idle (s.dispatch g size (pure ()))).Tours g program depth (s.OwnFault g size) :=
  tours_quiet (s.quiet_dispatch g size) fun _ _ h => .inl ⟨_, Prod.ext h rfl⟩

theorem dispatch_of_leaf (leaf : s.kind.isComposite = false) :
    dispatch s g size body = idle (s.dispatch g size (pure ())) := by
  unfold dispatch
  cases hk : s.kind <;> first | rfl | simp [hk, ActionKind.isComposite] at leaf

theorem dispatch_of_lacking {message : String} (composite : s.kind.isComposite = true)
    (lacks : s.lacking? size = some message) :
    dispatch s g size body = idle (s.dispatch g size (pure ())) := by
  rw [Step.dispatch_of_lacking lacks]
  unfold Step.lacking? at lacks
  unfold dispatch
  cases hk : s.kind <;> simp only [hk, ActionKind.isComposite, reduceCtorEq,
    Option.ite_none_right_eq_some, Option.some.injEq] at composite lacks ⊢
  case conditional =>
    obtain ⟨empty, rfl⟩ := lacks
    unfold runConditional
    split
    · next hc =>
      rw [if_pos (by simpa [hc] using empty)]
      rfl
    · rfl
  case loop =>
    obtain ⟨empty, rfl⟩ := lacks
    rw [runLoop, if_pos empty]
    rfl
  case retry =>
    obtain ⟨empty, rfl⟩ := lacks
    rw [runRetry, if_pos empty]
    rfl

theorem tours_composite (complete : s.lacking? size = none) (composite : s.kind.isComposite = true)
    (hb : body.Tours g program depth (s.OwnFault g size)) :
    (dispatch s g size body).Tours g program depth (s.OwnFault g size) := by
  -- a number of rounds that is out of range stops the attempt before its program
  have unrounded {fallback : Nat} {more : Nat → Exec Yield}
      (alone : s.dispatch g size (pure ()) = lift (Scalar.rounds fallback s.value) >>= more)
      (w : World) (e : Fault) (h : Scalar.rounds fallback s.value = .error e) :
      s.OwnFault g size w e := by
    refine .inl ⟨w, ?_⟩
    rw [alone, h]
    rfl
  cases hk : s.kind <;> simp only [hk, ActionKind.isComposite, reduceCtorEq] at composite
  case conditional =>
    unfold Step.lacking? at complete
    simp only [hk, ite_eq_right_iff, reduceCtorEq, imp_false, Bool.not_eq_true,
      Bool.or_eq_false_iff] at complete
    unfold dispatch
    rw [hk]
    dsimp only
    unfold runConditional
    split
    · rw [if_neg (by simp [complete.2])]
      refine (tours_isAdmitted s).bind fun admitted => ?_
      exact Tours.ite ((tours_log _ _).bind fun _ => hb.bind fun _ => tours_pure _)
        ((tours_log _ _).bind fun _ => tours_pure _)
    · next absent =>
      exfalso
      rcases hc : s.conditions with _ | _ | ⟨c, cs⟩ <;> simp_all
  case loop =>
    have filled : ¬ (size == 0) = true := by simpa [Step.lacking?, hk] using complete
    unfold dispatch
    rw [hk]
    dsimp only
    rw [runLoop, if_neg filled]
    refine tours_lift_bind (unrounded (Step.dispatch_loop hk complete g _)) fun n _ => ?_
    exact (tours_loopRounds hb n n).bind fun _ => tours_pure _
  case retry =>
    have filled : ¬ (size == 0) = true := by simpa [Step.lacking?, hk] using complete
    unfold dispatch
    rw [hk]
    dsimp only
    rw [runRetry, if_neg filled]
    refine tours_lift_bind (unrounded (Step.dispatch_retry hk complete g _)) fun n h => ?_
    obtain ⟨left, rfl⟩ := Nat.exists_eq_succ_of_ne_zero (Scalar.rounds_pos (by decide) h).ne'
    exact (tours_retryRounds hb _ (fun _ _ tooLong => .inr ⟨hk, tooLong⟩) _ left).bind fun _ =>
      tours_pure _

/-- An attempt fails by itself, or because an action of its program did. -/
theorem tours_dispatch (hb : body.Tours g program depth (s.OwnFault g size)) :
    (dispatch s g size body).Tours g program depth (s.OwnFault g size) := by
  cases leaf : s.kind.isComposite with
  | false =>
    rw [dispatch_of_leaf leaf]
    exact tours_alone s size
  | true =>
    cases lacks : s.lacking? size with
    | some message =>
      rw [dispatch_of_lacking leaf lacks]
      exact tours_alone s size
    | none => exact tours_composite lacks leaf hb

end Traced

end Tours

end Scout
