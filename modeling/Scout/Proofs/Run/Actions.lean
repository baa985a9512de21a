import Scout.Proofs.Run.Courses

/-!
# Courses of actions

Whatever a leaf action does is timely, and a composite action goes the course of its
program, round after round.
-/

namespace Scout

open Relation Exec

/-! ## Screenshots and variables -/

theorem timely_takeScreenshot (g : Setting) (name : String) :
    (takeScreenshot g name).IsTimely :=
  (timely_screenshot _).bind fun _ => follows_pure _

theorem timely_keepScreenshot (path : String) : (keepScreenshot path).IsTimely :=
  follows_update fun _ => .screenshot path

theorem timely_errorScreenshot (g : Setting) (id : String) :
    (errorScreenshot g id).IsTimely := by
  refine (timely_takeScreenshot g _).attempt.bind fun taken => ?_
  cases taken with
  | ok path => exact (timely_keepScreenshot path).bind fun _ => follows_pure _
  | error e => exact (timely_log _ _).bind fun _ => follows_pure _

theorem warnOnce_apply (message : String) (w : World) :
    warnOnce message w =
      (.done (), if message ∈ w.context.warnings then w else w.warned message) := by
  unfold warnOnce onContext
  rw [update_apply]
  by_cases known : message ∈ w.context.warnings <;> simp [known, World.warned]

theorem warnAll_done (messages : List String) (w : World) :
    ∃ u, warnAll messages w = (.done (), u) ∧ u.page = w.page := by
  induction messages generalizing w with
  | nil => exact ⟨w, rfl, rfl⟩
  | cons m rest ih =>
    obtain ⟨u, all, same⟩ := ih (if m ∈ w.context.warnings then w else w.warned m)
    refine ⟨u, ?_, ?_⟩
    · rw [warnAll, bind_done (warnOnce_apply m w), all]
    · rw [same]
      split <;> rfl

theorem timely_warnOnce (id name : String) : (warnOnce (unresolvedWarning id name)).IsTimely := by
  intro w
  rw [warnOnce_apply]
  split
  · exact .through (by simp) .refl
  · exact .through (by simp) (.single (.unresolved id name))

theorem timely_warnAll (id : String) (names : List String) :
    (warnAll (names.map (unresolvedWarning id))).IsTimely := by
  induction names with
  | nil => exact follows_pure _
  | cons name rest ih => exact (timely_warnOnce id name).bind fun _ => ih

namespace Step

theorem timely_resolve (s : Step) : s.resolve.IsTimely :=
  (follows_read _).bind fun _ => (timely_warnAll s.id _).bind fun _ => follows_pure _

/-! ## Leaf actions -/

theorem timely_refuse {α : Type} (s : Step) (message : String) :
    (s.refuse message : Exec α).IsTimely :=
  follows_fail _

theorem timely_bindVar (name : String) (v : Value) (extracting : Bool) :
    (onContext fun c => { c with
      vars := c.vars.put name v
      extracted := if extracting then c.extracted.put name v else c.extracted }).IsTimely := by
  cases extracting
  · exact follows_update fun _ => .var name v
  · exact fun w => .through (by simp) ((ReflTransGen.single (.var name v)).tail (.field name v))

theorem timely_bindParts (data : Value) (extracting : Bool) (bindings : Members Value) :
    (bindParts data extracting bindings).IsTimely := by
  induction bindings with
  | nil => exact follows_pure _
  | cons b rest ih => exact (timely_bindVar _ _ extracting).bind fun _ => ih

theorem timely_navigate (s : Step) (g : Setting) : (s.navigate g).IsTimely := by
  unfold navigate
  split
  · refine (timely_goto _ _).bind fun _ => timely_address.bind fun address => ?_
    exact (follows_update fun _ => .var "currentUrl" (.text address)).bind fun _ =>
      follows_pure _
  · exact s.timely_refuse _

theorem timely_wait (s : Step) (g : Setting) : (s.wait g).IsTimely := by
  unfold wait
  split
  · exact s.timely_refuse _
  · exact (timely_waitFor _ _).bind fun _ => follows_pure _
  · exact (follows_lift _).bind fun x => (timely_pauseFloatMillis x).bind fun _ =>
      follows_pure _
  · exact s.timely_refuse _

theorem timely_click (s : Step) (g : Setting) : (s.click g).IsTimely := by
  unfold click
  split
  · exact (timely_waitFor _ _).bind fun _ => (Exec.timely_click _).bind fun _ =>
      follows_pure _
  · exact s.timely_refuse _

theorem timely_fill (s : Step) (g : Setting) : (s.fill g).IsTimely := by
  unfold fill
  split
  · exact (timely_waitFor _ _).bind fun _ => (timely_perform rfl).bind fun _ =>
      follows_pure _
  · exact s.timely_refuse _

theorem timely_select (s : Step) (g : Setting) : (s.select g).IsTimely := by
  unfold select
  split
  · exact (timely_waitFor _ _).bind fun _ => (timely_perform rfl).bind fun _ =>
      follows_pure _
  · exact s.timely_refuse _

theorem timely_extract (s : Step) (g : Setting) : (s.extract g).IsTimely := by
  unfold extract
  split
  · exact s.timely_refuse _
  · refine (timely_waitFor _ _).attempt.bind fun waited => ?_
    cases waited with
    | error e =>
      exact ((timely_log _ _).bind fun _ => follows_pure _).ite (follows_fail e)
    | ok _ =>
      refine (timely_queryAll _).bind fun found => ?_
      exact (timely_bindParts _ _ _).bind fun _ => follows_pure _

theorem timely_scroll (s : Step) (g : Setting) : (s.scroll g).IsTimely := by
  unfold scroll
  split
  · exact (timely_perform rfl).bind fun _ => follows_pure _
  · refine (follows_lift _).bind fun n => ?_
    split
    · exact (timely_perform rfl).bind fun _ => follows_pure _
    · exact (timely_perform rfl).bind fun _ => follows_pure _

theorem timely_screenshot (s : Step) (g : Setting) : (s.screenshot g).IsTimely :=
  (timely_takeScreenshot g _).bind fun path => (timely_keepScreenshot path).bind fun _ =>
    follows_pure _

theorem timely_evaluate (s : Step) : s.evaluate.IsTimely := by
  unfold evaluate
  split
  · exact (timely_asking rfl _).bind fun data => (timely_bindParts _ _ _).bind fun _ =>
      follows_pure _
  · exact s.timely_refuse _

theorem timely_isAdmitted (s : Step) : s.isAdmitted.IsTimely := by
  unfold isAdmitted
  split
  · exact Condition.timely_evaluateAll _
  · exact follows_pure _

end Step

/-! ## Composite actions -/

section Composite

variable {R : World → World → Prop} {body : Exec Unit} (s : Step) (size : Nat)

theorem follows_loopRounds (timely : World.Timely ≤ R) (hb : body.Follows R) (bound left : Nat) :
    (loopRounds s body bound left).Follows R := by
  induction left with
  | zero => exact follows_pure _
  | succ left ih =>
    refine (s.timely_isAdmitted.mono timely).bind fun admitted => ?_
    cases admitted
    · exact ((timely_log _ _).mono timely).bind fun _ => follows_pure _
    · exact ((timely_log _ _).mono timely).bind fun _ => hb.bind fun _ => ih

theorem follows_retryRounds (timely : World.Timely ≤ R) (hb : body.Follows R) (delay : Int)
    (bound left : Nat) : (retryRounds s body delay bound left).Follows R := by
  induction left with
  | zero => exact follows_fail _
  | succ left ih =>
    refine ((timely_log _ _).mono timely).bind fun _ =>
      (follows_update fun _ => timely _ _ (.retryDepth _)).bind fun _ => ?_
    refine (hb.leavingRetry timely).attempt.bind fun tried => ?_
    cases tried with
    | ok _ => exact follows_pure _
    | error e =>
      have again : (do
          log .info s!"Retry {s.id} attempt {bound - left} failed, retrying in {delay}ms"
          pauseMillis delay
          retryRounds s body delay bound left).Follows R :=
        ((timely_log _ _).mono timely).bind fun _ =>
          ((timely_pauseMillis delay).mono timely).bind fun _ => ih
      exact again.ite (follows_fail e)

theorem follows_runConditional (timely : World.Timely ≤ R) (hb : body.Follows R) :
    (runConditional s size body).Follows R := by
  unfold runConditional
  split
  · refine (follows_fail _).ite ((s.timely_isAdmitted.mono timely).bind fun admitted => ?_)
    cases admitted
    · exact ((timely_log _ _).mono timely).bind fun _ => follows_pure _
    · exact ((timely_log _ _).mono timely).bind fun _ => hb.bind fun _ => follows_pure _
  · exact follows_fail _

theorem follows_runLoop (timely : World.Timely ≤ R) (hb : body.Follows R) :
    (runLoop s size body).Follows R := by
  refine (follows_fail _).ite ((follows_lift _).bind fun bound => ?_)
  exact (follows_loopRounds s timely hb bound bound).bind fun _ => follows_pure _

theorem follows_runRetry (timely : World.Timely ≤ R) (hb : body.Follows R) :
    (runRetry s size body).Follows R := by
  refine (follows_fail _).ite ((follows_lift _).bind fun bound => ?_)
  exact (follows_retryRounds s timely hb _ bound bound).bind fun _ => follows_pure _

/-- What an attempt does is timely, but for what its program does. -/
theorem follows_dispatch (g : Setting) (timely : World.Timely ≤ R) (hb : body.Follows R) :
    (s.dispatch g size body).Follows R := by
  unfold Step.dispatch
  split
  · exact (s.timely_navigate g).mono timely
  · exact (s.timely_wait g).mono timely
  · exact (s.timely_click g).mono timely
  · exact (s.timely_fill g).mono timely
  · exact (s.timely_select g).mono timely
  · exact (s.timely_extract g).mono timely
  · exact (s.timely_scroll g).mono timely
  · exact (s.timely_screenshot g).mono timely
  · exact s.timely_evaluate.mono timely
  · exact follows_runConditional s size timely hb
  · exact follows_runLoop s size timely hb
  · exact follows_runRetry s size timely hb

end Composite

theorem Step.dispatch_of_leaf {s : Step} (leaf : s.kind.isComposite = false) (g : Setting)
    (size : Nat) (body : Exec Unit) : s.dispatch g size body = s.dispatch g size (pure ()) := by
  unfold dispatch
  cases hk : s.kind <;> first | rfl | simp [hk, ActionKind.isComposite] at leaf

end Scout
