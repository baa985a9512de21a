import Scout.Proofs.Run.Faults

/-!
# Refusals

The interpreter refuses an action that is nested too deeply, and an attempt that lacks
a part its kind needs.  Both refusals are taken out of it here: what an attempt lacks is
a function of the resolved action, and the interpreter runs with any refusals in place
of its own.
-/

namespace Scout

open Exec

/-! ## Missing parts -/

namespace Step

/-- The refusal of an attempt at an action of `size` actions for want of a part that its kind
needs. -/
def lacking? (s : Step) (size : Nat) : Option String :=
  let noSelector := (Condition.named? s.selector).isNone
  let noValue := !Scalar.isGiven s.value
  match s.kind with
  | .navigate => if noValue then some "Navigate action requires a URL value" else none
  | .wait =>
    if noSelector && noValue then some "Wait action requires either selector or time value"
    else none
  | .click => if noSelector then some "Click action requires a selector" else none
  | .fill =>
    if noSelector || s.value.isNone then some "Fill action requires a selector and a value"
    else none
  | .select =>
    if noSelector || s.value.isNone then some "Select action requires a selector and a value"
    else none
  | .extract => if noSelector then some "Extract action requires a selector" else none
  | .evaluate => if noValue then some "Evaluate action requires an expression value" else none
  | .conditional =>
    if (s.conditions.getD []).isEmpty || size == 0 then
      some "Conditional action requires conditions and actions"
    else none
  | .loop => if size == 0 then some "Loop action requires actions to execute" else none
  | .retry => if size == 0 then some "Retry action requires actions to execute" else none
  | .scroll | .screenshot => none

variable {s : Step} {size : Nat}

theorem dispatch_of_lacking {message : String} (h : s.lacking? size = some message) (g : Setting)
    (body : Exec Unit) : s.dispatch g size body = s.refuse message := by
  unfold lacking? at h
  unfold dispatch
  cases hk : s.kind <;> simp only [hk, Option.ite_none_right_eq_some, reduceCtorEq,
    Option.some.injEq] at h ⊢
  case navigate =>
    obtain ⟨noValue, rfl⟩ := h
    unfold navigate
    split
    · simp_all
    · rfl
  case wait =>
    obtain ⟨lacks, rfl⟩ := h
    unfold wait
    split
    · simp_all
    · simp_all
    · simp_all
    · rfl
  case click =>
    obtain ⟨noSelector, rfl⟩ := h
    rw [click, Option.isNone_iff_eq_none.mp noSelector]
  case fill =>
    obtain ⟨lacks, rfl⟩ := h
    unfold fill
    split
    · simp_all
    · rfl
  case select =>
    obtain ⟨lacks, rfl⟩ := h
    unfold select
    split
    · simp_all
    · rfl
  case extract =>
    obtain ⟨noSelector, rfl⟩ := h
    rw [extract, Option.isNone_iff_eq_none.mp noSelector]
  case evaluate =>
    obtain ⟨noValue, rfl⟩ := h
    unfold evaluate
    split
    · simp_all
    · rfl
  case conditional =>
    obtain ⟨lacks, rfl⟩ := h
    unfold runConditional
    split
    · simp_all
    · rfl
  case loop =>
    obtain ⟨empty, rfl⟩ := h
    rw [runLoop, if_pos empty]
  case retry =>
    obtain ⟨empty, rfl⟩ := h
    rw [runRetry, if_pos empty]

end Step

/-! ## Whose fault an action failure is -/

/-- What the page is set to show are such faults. -/
def Page.Shows (p : Page) (P : Fault → Prop) : Prop :=
  ∀ r ∈ p.failures, P r.fault

theorem Page.shows_nextFailure {P : Fault → Prop} (c : Call) {rules : List FailureRule}
    (h : ∀ r ∈ rules, P r.fault) :
    (∀ e, (nextFailure c rules).1 = some e → P e) ∧ ∀ r ∈ (nextFailure c rules).2, P r.fault := by
  induction rules with
  | nil => simp [nextFailure]
  | cons r rest ih =>
    obtain ⟨first, others⟩ := List.forall_mem_cons.mp h
    obtain ⟨found, left⟩ := ih others
    unfold nextFailure
    split
    · split
      · exact ⟨found, List.forall_mem_cons.mpr ⟨first, left⟩⟩
      · refine ⟨fun e he => ?_, List.forall_mem_cons.mpr ⟨first, others⟩⟩
        obtain rfl : r.fault = e := by simpa using he
        exact first
    · exact ⟨found, List.forall_mem_cons.mpr ⟨first, left⟩⟩

namespace Exec

variable {α β : Type} {P : Fault → Prop}

/-- On a page that shows such faults alone, an action failure of the program is one of these, and
the page goes on to show no others. -/
def Blames (x : Exec α) (P : Fault → Prop) : Prop :=
  ∀ w, w.page.Shows P → (x w).2.page.Shows P ∧
    ∀ e, (x w).1 = .failed e → e.isOfAction = true → P e

theorem blames_pure (a : α) : (pure a : Exec α).Blames P :=
  fun _ shows => ⟨shows, by simp⟩

theorem blames_read (f : World → α) : (read f).Blames P :=
  fun _ shows => ⟨shows, by simp⟩

theorem blames_fail {e : Fault} (own : e.isOfAction = true → P e) : (fail e : Exec α).Blames P :=
  fun _ shows => ⟨shows, by simpa using own⟩

theorem blames_update {f : World → World}
    (same : ∀ w, (f w).page.failures = w.page.failures) : (update f).Blames P :=
  fun w shows => ⟨by rw [Page.Shows, update_apply, same]; exact shows, by simp⟩

theorem blames_onContext (f : RunContext → RunContext) : (onContext f).Blames P :=
  blames_update fun _ => rfl

theorem blames_log (level : LogLevel) (message : String) : (log level message).Blames P :=
  blames_update fun _ => rfl

theorem blames_lift {x : Except Fault α} (own : ∀ e, x = .error e → e.isOfAction = false) :
    (lift x).Blames P := by
  cases x with
  | ok a => exact blames_pure a
  | error e => exact blames_fail (by simp [own e rfl])

theorem Blames.bind {x : Exec α} {f : α → Exec β} (hx : x.Blames P) (hf : ∀ a, (f a).Blames P) :
    (x >>= f).Blames P := by
  intro w shows
  have first := hx w shows
  rw [bind_apply]
  rcases h : x w with ⟨a | e | _, u⟩ <;> rw [h] at first
  · exact hf a u first.1
  · exact ⟨first.1, by simpa using first.2⟩
  · exact ⟨first.1, by simp⟩

theorem Blames.ite {c : Prop} [Decidable c] {x y : Exec α} (hx : x.Blames P)
    (hy : y.Blames P) : (if c then x else y).Blames P := by
  split
  · exact hx
  · exact hy

theorem Blames.attempt_bind {x : Exec α} {f : Except Fault α → Exec β} (hx : x.Blames P)
    (done : ∀ a, (f (.ok a)).Blames P)
    (failed : ∀ e, (e.isOfAction = true → P e) → (f (.error e)).Blames P) :
    (attempt x >>= f).Blames P := by
  intro w shows
  have first := hx w shows
  rw [bind_apply]
  rcases h : x w with ⟨a | e | _, u⟩ <;> rw [h] at first
  · rw [attempt_done h]
    exact done a u first.1
  · rw [attempt_failed h]
    exact failed e (first.2 e rfl) u first.1
  · rw [attempt_cancelled h]
    exact ⟨first.1, by simp⟩

/-! ### Operations of a page -/

theorem blames_pass (seconds : Float) : (pass seconds).Blames P := by
  intro w shows
  rcases pass_cases seconds w with ⟨-, h⟩ | ⟨d, -, -, h⟩ <;> rw [h] <;>
    exact ⟨shows, by simp⟩

theorem blames_failing (c : Call) : (failing c).Blames P := by
  intro w shows
  obtain ⟨found, left⟩ := Page.shows_nextFailure c shows
  unfold failing
  rw [bind_done (read_apply _ _)]
  rcases h : Page.nextFailure c w.page.failures with ⟨e | e, rules⟩ <;> rw [h] at found left
  · refine ⟨left, fun e failed => ?_⟩
    cases failed
  · refine ⟨left, fun e' failed _ => ?_⟩
    cases failed
    exact found e rfl

theorem blames_perform (c : Call) : (perform c).Blames P := by
  intro w shows
  rw [perform_apply]
  split
  · exact ((blames_pass _).bind fun _ => blames_failing c) (w.listed c) shows
  · exact blames_failing c (w.listed c) shows

theorem blames_queryAll (selector : String) : (Browse.queryAll selector).Blames P := by
  rw [queryAll_eq]
  exact (blames_perform _).bind fun _ => blames_read _

theorem blames_screenshot (path : String) : (Browse.screenshot path).Blames P := by
  have making (act : Files.Act Unit) : (onFiles act).Blames P := by
    intro w shows
    obtain ⟨t, made | ⟨message, failed⟩⟩ := onFiles_cases act w
    · rw [made]
      exact ⟨shows, by simp⟩
    · rw [failed]
      refine ⟨shows, fun e same => ?_⟩
      cases same
      simp [Fault.isOfAction]
  refine (blames_read _).bind fun through => ?_
  cases through
  · exact blames_perform _
  · exact (making _).bind fun _ => blames_perform _

theorem blames_waitFor (selector : String) (timeout : Int) :
    (Browse.waitFor selector timeout).Blames P := by
  refine (blames_perform _).bind fun _ => (blames_read _).bind fun there => ?_
  exact (blames_fail (by simp [Fault.isOfAction])).ite (blames_pure _)

theorem failures_click (p : Page) (selector : String) :
    (p.click selector).failures = p.failures := by
  have applied (effects : List ClickEffect) (q : Page) :
      (effects.foldl Page.applyEffect q).failures = q.failures := by
    induction effects generalizing q with
    | nil => rfl
    | cons e rest ih => rw [List.foldl_cons, ih]; rfl
  exact applied _ _

theorem blames_click (selector : String) : (Browse.click selector).Blames P :=
  (blames_perform _).bind fun _ => blames_update fun w => failures_click w.page selector

theorem blames_goto (url : String) (timeout : Int) : (Browse.goto url timeout).Blames P := by
  have load : (do perform (.goto url timeout); onPage fun p => p.load url).Blames P :=
    (blames_perform _).bind fun _ => blames_update fun _ => rfl
  have awaited : (note (.waitUntil "networkidle")).Blames P := blames_update fun _ => rfl
  refine (blames_read _).bind fun through => ?_
  cases through
  · exact load
  · exact awaited.bind fun _ => load

theorem blames_address : (Browse.address).Blames P :=
  (blames_failing _).bind fun _ => blames_read _

end Exec

/-! ## Attempts that lack nothing -/

namespace Scalar

theorem exists_of_isGiven {o : Option Scalar} (h : isGiven o = true) : ∃ v, o = some v := by
  cases o with
  | none => cases h
  | some v => exact ⟨v, rfl⟩

theorem blameless_toFloat {v : Scalar} {e : Fault} (h : v.toFloat = .error e) :
    e.isOfAction = false := by
  cases v with
  | text t =>
    dsimp only [toFloat] at h
    split at h <;> cases h
    rfl
  | bool b => cases h
  | int n =>
    dsimp only [toFloat] at h
    split at h <;> cases h
    rfl
  | float x => cases h

theorem blameless_whole {x : Float} {e : Fault} (h : whole x = .error e) :
    e.isOfAction = false := by
  unfold whole at h
  split at h <;> cases h <;> rfl

theorem error_of_orElseValue {α : Type} {a : α} {x : Except Fault α} {e : Fault}
    (h : orElseValue a x = .error e) : x = .error e := by
  unfold orElseValue at h
  split at h
  · cases h
  · split at h <;> cases h
    rfl

theorem ok_of_orElseValue {α : Type} {a b : α} {x : Except Fault α}
    (h : orElseValue a x = .ok b) : b = a ∨ x = .ok b := by
  unfold orElseValue at h
  split at h
  · cases h
    exact .inr rfl
  · split at h <;> cases h
    exact .inl rfl

theorem blameless_bind {α β : Type} {x : Except Fault α} {f : α → Except Fault β} {e : Fault}
    (first : ∀ e, x = .error e → e.isOfAction = false)
    (second : ∀ a e, f a = .error e → e.isOfAction = false) (h : x >>= f = .error e) :
    e.isOfAction = false := by
  cases x with
  | ok a => exact second a e h
  | error e' => exact first e (by cases h; rfl)

theorem blameless_pixels {o : Option Scalar} (e : Fault) (h : pixels o = .error e) :
    e.isOfAction = false := by
  unfold pixels at h
  split at h
  · cases h
  · cases h
  · refine blameless_bind (fun e h => ?_) (fun _ _ => blameless_whole) (error_of_orElseValue h)
    unfold toNumber at h
    split at h
    · cases h
      rfl
    · exact blameless_toFloat h

theorem blameless_rounds {fallback : Nat} {o : Option Scalar} (e : Fault)
    (h : rounds fallback o = .error e) : e.isOfAction = false := by
  unfold rounds at h
  split at h
  · cases h
  · cases h
  · refine blameless_bind (fun _ => blameless_toFloat) (fun x e h => ?_) (error_of_orElseValue h)
    exact blameless_bind (fun _ => blameless_whole) (fun n e h => by cases h) h

theorem rounds_pos {fallback n : Nat} {o : Option Scalar} (positive : 0 < fallback)
    (h : rounds fallback o = .ok n) : 0 < n := by
  unfold rounds at h
  split at h
  · cases h
    exact positive
  · cases h
    exact positive
  · next v _ =>
    rcases ok_of_orElseValue h with rfl | asked
    · exact positive
    · rcases hx : v.toFloat with e | x <;> rw [hx] at asked
      · cases asked
      · rcases hn : whole x with e | m <;> simp only [bind, Except.bind, hn] at asked
        · cases asked
        · cases asked
          split
          · omega
          · exact positive

end Scalar

namespace Step

variable {s : Step} {size : Nat} {P : Fault → Prop}

theorem blames_bindParts (data : Value) (extracting : Bool) (bindings : Members Value) :
    (bindParts data extracting bindings).Blames P := by
  induction bindings with
  | nil => exact blames_pure _
  | cons b rest ih => exact (blames_onContext _).bind fun _ => ih

theorem blames_takeScreenshot (g : Setting) (name : String) :
    (takeScreenshot g name).Blames P :=
  (blames_screenshot _).bind fun _ => blames_pure _

/-- A leaf action that lacks nothing fails for an action only if the page shows such a failure. -/
theorem blames_leaf (complete : s.lacking? size = none) (leaf : s.kind.isComposite = false)
    (timed : s.kind ≠ .wait) (g : Setting) (body : Exec Unit) :
    (s.dispatch g size body).Blames P := by
  unfold lacking? at complete
  unfold dispatch
  cases hk : s.kind <;> simp only [hk, ite_eq_right_iff, reduceCtorEq, imp_false, Bool.not_eq_true,
    Bool.not_eq_false', Bool.or_eq_false_iff] at complete ⊢
  case wait => exact absurd hk timed
  case conditional | loop | retry => simp [hk, ActionKind.isComposite] at leaf
  case navigate =>
    obtain ⟨v, hv⟩ := Scalar.exists_of_isGiven complete
    unfold navigate
    rw [hv] at complete ⊢
    simp only [complete]
    exact (blames_goto _ _).bind fun _ => blames_address.bind fun _ =>
      (blames_onContext _).bind fun _ => blames_pure _
  case click =>
    unfold click
    split
    · exact (blames_waitFor _ _).bind fun _ => (blames_click _).bind fun _ => blames_pure _
    · simp_all
  case fill =>
    unfold fill
    split
    · exact (blames_waitFor _ _).bind fun _ => (blames_perform _).bind fun _ => blames_pure _
    · next absent =>
      simp only [Option.isNone_eq_false_iff, Option.isSome_iff_exists] at complete
      obtain ⟨⟨selector, hs⟩, v, hv⟩ := complete
      exact absurd hv (absent selector v hs)
  case select =>
    unfold select
    split
    · exact (blames_waitFor _ _).bind fun _ => (blames_perform _).bind fun _ => blames_pure _
    · next absent =>
      simp only [Option.isNone_eq_false_iff, Option.isSome_iff_exists] at complete
      obtain ⟨⟨selector, hs⟩, v, hv⟩ := complete
      exact absurd hv (absent selector v hs)
  case extract =>
    unfold extract
    split
    · simp_all
    · refine (blames_waitFor _ _).attempt_bind (fun _ => ?_) fun e own => ?_
      · exact (blames_queryAll _).bind fun _ =>
          (blames_bindParts _ _ _).bind fun _ => blames_pure _
      · exact ((blames_log _ _).bind fun _ => blames_pure _).ite (blames_fail own)
  case scroll =>
    unfold scroll
    split
    · exact (blames_perform _).bind fun _ => blames_pure _
    · exact (blames_lift Scalar.blameless_pixels).bind fun n => by
        split
        · exact (blames_perform _).bind fun _ => blames_pure _
        · exact (blames_perform _).bind fun _ => blames_pure _
  case screenshot =>
    exact (blames_takeScreenshot _ _).bind fun _ => (blames_onContext _).bind fun _ =>
      blames_pure _
  case evaluate =>
    obtain ⟨v, hv⟩ := Scalar.exists_of_isGiven complete
    unfold evaluate
    rw [hv] at complete ⊢
    simp only [complete]
    refine Blames.bind ?_ fun _ => (blames_bindParts _ _ _).bind fun _ => blames_pure _
    exact (blames_perform _).bind fun _ => blames_read _

end Step

/-! ### Composite actions -/

namespace Exec

variable {α β : Type} {P Q : Fault → Prop}

theorem FailsOnly.mono {x : Exec α} (hx : x.FailsOnly P) (sub : ∀ e, P e → Q e) :
    x.FailsOnly Q :=
  fun w e h => sub e (hx w e h)

theorem FailsOnly.attempt_bind {x : Exec α} {f : Except Fault α → Exec β} (hx : x.FailsOnly P)
    (done : ∀ a, (f (.ok a)).FailsOnly P) (failed : ∀ e, P e → (f (.error e)).FailsOnly P) :
    (attempt x >>= f).FailsOnly P := by
  intro w e
  have first := hx w
  rw [bind_apply]
  rcases h : x w with ⟨a | e' | _, u⟩ <;> rw [h] at first
  · rw [attempt_done h]
    exact done a u e
  · rw [attempt_failed h]
    exact failed e' (first e' rfl) u e
  · rw [attempt_cancelled h]
    simp

theorem FailsOnly.ensuring {x : Exec α} (hx : x.FailsOnly P) (f : World → World) :
    (ensuring x f).FailsOnly P :=
  fun w e h => hx w e h

theorem failsOnly_lift_bind {x : Except Fault α} {f : α → Exec β}
    (failed : ∀ e, x = .error e → P e) (done : ∀ a, x = .ok a → (f a).FailsOnly P) :
    (lift x >>= f).FailsOnly P := by
  cases x with
  | ok a => exact done a rfl
  | error e => exact fun w e' h => failsOnly_fail (α := β) (failed e rfl) w e' h

end Exec

namespace Step

variable {s : Step} {size : Nat} {body : Exec Unit} {Q : Fault → Prop}

theorem failsOnly_loopRounds (hb : body.FailsOnly Q) (bound left : Nat) :
    (loopRounds s body bound left).FailsOnly Q := by
  induction left with
  | zero => exact failsOnly_pure _
  | succ left ih =>
    refine (FailsOnly.mono s.unfailing_isAdmitted fun _ => False.elim).bind fun admitted => ?_
    split
    · exact (failsOnly_update _).bind fun _ => hb.bind fun _ => ih
    · exact (failsOnly_update _).bind fun _ => failsOnly_pure _

theorem failsOnly_retryRounds (hb : body.FailsOnly Q)
    (blameless : ∀ e, e.isOfAction = false → Q e) (delay : Int) (bound left : Nat) :
    (retryRounds s body delay bound (left + 1)).FailsOnly Q := by
  have paused : (pauseMillis delay).FailsOnly Q := by
    intro w e h
    have failed : pauseMillis delay w = (.failed e, (pauseMillis delay w).2) := Prod.ext h rfl
    obtain ⟨-, tooLong⟩ := pauseMillis_failed failed
    rw [fault_of_secondsOfMillis tooLong]
    exact blameless _ rfl
  induction left with
  | zero =>
    refine (failsOnly_update _).bind fun _ => (failsOnly_update _).bind fun _ => ?_
    refine (hb.ensuring leaveRetry).attempt_bind (fun _ => failsOnly_pure _) fun e blamed => ?_
    simpa using failsOnly_fail blamed
  | succ left ih =>
    refine (failsOnly_update _).bind fun _ => (failsOnly_update _).bind fun _ => ?_
    refine (hb.ensuring leaveRetry).attempt_bind (fun _ => failsOnly_pure _) fun e blamed => ?_
    dsimp only
    split
    · exact (failsOnly_update _).bind fun _ => paused.bind fun _ => ih
    · exact failsOnly_fail blamed

/-- A composite action that lacks nothing fails for an action only if its program does. -/
theorem failsOnly_composite (complete : s.lacking? size = none)
    (composite : s.kind.isComposite = true) (hb : body.FailsOnly Q)
    (blameless : ∀ e, e.isOfAction = false → Q e) (g : Setting) :
    (s.dispatch g size body).FailsOnly Q := by
  unfold lacking? at complete
  unfold dispatch
  cases hk : s.kind <;> simp only [hk, ActionKind.isComposite, reduceCtorEq] at composite <;>
    simp only [hk, ite_eq_right_iff, reduceCtorEq, imp_false, Bool.not_eq_true,
      Bool.or_eq_false_iff] at complete ⊢
  case conditional =>
    unfold runConditional
    split
    · rw [if_neg (by simp [complete.2])]
      refine (FailsOnly.mono s.unfailing_isAdmitted fun _ => False.elim).bind fun admitted => ?_
      split
      · exact (failsOnly_update _).bind fun _ => hb.bind fun _ => failsOnly_pure _
      · exact (failsOnly_update _).bind fun _ => failsOnly_pure _
    · next absent =>
      exfalso
      rcases hc : s.conditions with _ | _ | ⟨c, cs⟩ <;> simp_all
  case loop =>
    unfold runLoop
    rw [if_neg (by simp [complete])]
    refine failsOnly_lift_bind (fun e h => blameless e (Scalar.blameless_rounds e h)) fun n _ => ?_
    exact (failsOnly_loopRounds hb n n).bind fun _ => failsOnly_pure _
  case retry =>
    unfold runRetry
    rw [if_neg (by simp [complete])]
    refine failsOnly_lift_bind (fun e h => blameless e (Scalar.blameless_rounds e h)) fun n h => ?_
    obtain ⟨left, rfl⟩ := Nat.exists_eq_succ_of_ne_zero (Scalar.rounds_pos (by decide) h).ne'
    exact (failsOnly_retryRounds hb blameless _ (left + 1) left).bind fun _ => failsOnly_pure _

/-- An attempt that lacks nothing fails for an action only if its program does, or if the page
shows such a failure; but a wait may be refused for having too much. -/
theorem blamed_of_dispatch (complete : s.lacking? size = none) (timed : s.kind ≠ .wait)
    {g : Setting} {w w' : World} {e : Fault} (h : s.dispatch g size body w = (.failed e, w'))
    (own : e.isOfAction = true) :
    (∃ r ∈ w.page.failures, r.fault = e) ∨ ∃ u u', body u = (.failed e, u') := by
  cases hk : s.kind.isComposite with
  | false =>
    have shows : w.page.Shows fun e => ∃ r ∈ w.page.failures, r.fault = e :=
      fun r hr => ⟨r, hr, rfl⟩
    have blamed := (blames_leaf complete hk timed g body w shows).2
    rw [h] at blamed
    exact .inl (blamed e rfl own)
  | true =>
    have inner : body.FailsOnly fun e =>
        e.isOfAction = true → ∃ u u', body u = (.failed e, u') :=
      fun u e failed _ => ⟨u, (body u).2, Prod.ext failed rfl⟩
    have blamed := failsOnly_composite complete hk inner (by simp_all) g w
    rw [h] at blamed
    exact .inr (blamed e rfl own)

end Step

namespace Step

theorem resolve_apply (s : Step) (w : World) :
    ∃ u, s.resolve w = (.done (s.substitute w.context.vars), u) ∧ u.page = w.page := by
  unfold resolve
  rw [bind_done (read_apply _ _)]
  obtain ⟨u, all, same⟩ := warnAll_done _ w
  exact ⟨u, by rw [bind_done all]; rfl, same⟩

end Step

/-! ## Runs with other refusals -/

/-- What is done where the interpreter refuses an action: one that is nested too deeply, and an
attempt that lacks a part, with the variables at the attempt and the words of the refusal. -/
structure Refusals where
  tooDeep : Step → Exec ActionResult
  lacking : Step → Members Value → String → Exec Yield

namespace Refusals

def own (g : Setting) : Refusals where
  tooDeep s := fail (depthFault g s.id)
  lacking s _ message := s.refuse message

/-- One attempt: the refusal of the resolved action, or what it does. -/
def work (r : Refusals) (g : Setting) (s : Step) (size : Nat) (body : Exec Unit) : Exec Yield := do
  let vars ← read fun w => w.context.vars
  let resolved ← s.resolve
  match resolved.lacking? size with
  | some message => r.lacking s vars message
  | none => resolved.dispatch g size body

def executeStep (r : Refusals) (g : Setting) (s : Step) (size : Nat) (body : Exec Unit)
    (depth : Int) : Exec ActionResult := do
  let start ← read World.clock
  if g.options.maxDepth < depth then r.tooDeep s
  else if ← s.isAdmitted then
    let scope ← read World.retryDepth
    let budget := s.retryBudget g scope
    attempts g s start (r.work g s size body) budget budget
  else
    log .debug s!"Skipping action {s.id} — conditions not met"
    record ⟨s.id, true, 0.0, 1, true, none, .null, none⟩

mutual

/-- Executes an action with other refusals. -/
def execute (r : Refusals) (g : Setting) : Action → Int → Exec ActionResult
  | ⟨s, none⟩, depth => r.executeStep g s 0 (pure ()) depth
  | ⟨s, some program⟩, depth =>
    r.executeStep g s program.length (r.executeProgram g program (depth + 1)) depth

def executeProgram (r : Refusals) (g : Setting) : List Action → Int → Exec Unit
  | [], _ => pure ()
  | a :: rest, depth => do
    let _ ← r.execute g a depth
    r.executeProgram g rest depth

end

variable {r : Refusals} {g : Setting}

/-- An attempt refuses what lacks a part, or does what the resolved action says. -/
theorem work_apply (s : Step) (size : Nat) (body : Exec Unit) (w : World) :
    ∃ u, s.resolve w = (.done (s.substitute w.context.vars), u) ∧
      r.work g s size body w = match (s.substitute w.context.vars).lacking? size with
        | some message => r.lacking s w.context.vars message u
        | none => (s.substitute w.context.vars).dispatch g size body u := by
  obtain ⟨u, resolved, -⟩ := s.resolve_apply w
  refine ⟨u, resolved, ?_⟩
  unfold work
  rw [bind_done (read_apply _ _), bind_done resolved]
  cases (s.substitute w.context.vars).lacking? size <;> rfl

/-- With its own refusals an attempt is one of the interpreter. -/
theorem work_own (s : Step) (size : Nat) (body : Exec Unit) :
    (own g).work g s size body = s.resolve >>= fun resolved => resolved.dispatch g size body := by
  funext w
  obtain ⟨u, resolved, applied⟩ := work_apply (r := own g) (g := g) s size body w
  rw [applied, bind_done resolved]
  split
  · next message lacks =>
    rw [Step.dispatch_of_lacking lacks]
    rfl
  · rfl

theorem executeStep_own (s : Step) (size : Nat) (body : Exec Unit) (depth : Int) :
    (own g).executeStep g s size body depth = Scout.executeStep g s size body depth := by
  unfold executeStep Scout.executeStep
  rw [work_own]
  rfl

mutual

theorem execute_own : ∀ (a : Action) (depth : Int),
    (own g).execute g a depth = Scout.execute g a depth
  | ⟨s, none⟩, depth => executeStep_own s 0 (pure ()) depth
  | ⟨s, some program⟩, depth => by
    rw [execute, Scout.execute, executeProgram_own program, executeStep_own]

theorem executeProgram_own : ∀ (program : List Action) (depth : Int),
    (own g).executeProgram g program depth = Scout.executeProgram g program depth
  | [], _ => rfl
  | a :: rest, depth => by
    rw [executeProgram, Scout.executeProgram, execute_own a, executeProgram_own rest]

end

end Refusals

end Scout
