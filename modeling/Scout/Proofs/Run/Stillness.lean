import Scout.Proofs.Run.Refusals
import Scout.Proofs.Run.Visits

/-!
# Still programs

A leaf action enters nothing into the journal of a run, warns of nothing, and stands among
as many retries at its end as at its beginning, however it ends.  So does everything that
an execution does besides: putting its conditions to the page, pausing, taking a screenshot
of a failure.  All that is milder still: it binds no variable and extracts nothing, and the
page does no more than react.  The mildest are the conditions, which ask and do not even make
the page react.  Filling in variables may warn, and is still in all other respects.
-/

namespace Scout

open Exec

/-- What becomes of a page that is clicked and sent to other addresses, and that counts its
failures. -/
inductive Page.Becomes (p : Page) : Page → Prop
  | same : Becomes p p
  | clicked {q : Page} (before : Becomes p q) (selector : String) : Becomes p (q.click selector)
  | loaded {q : Page} (before : Becomes p q) (url : String) : Becomes p (q.load url)
  | counted {q : Page} (before : Becomes p q) (rules : List FailureRule) :
      Becomes p { q with failures := rules }

theorem Page.Becomes.trans {p q r : Page} (first : p.Becomes q) (second : q.Becomes r) :
    p.Becomes r := by
  induction second with
  | same => exact first
  | clicked _ selector ih => exact .clicked ih selector
  | loaded _ url ih => exact .loaded ih url
  | counted _ rules ih => exact .counted ih rules

/-- Between the worlds nothing is entered, and no retry has begun or ended. -/
structure World.Still (w w' : World) : Prop where
  retryDepth : w'.retryDepth = w.retryDepth
  results : w'.context.results = w.context.results

/-- Neither is anything warned of. -/
structure World.Calm (w w' : World) : Prop extends World.Still w w' where
  warnings : w'.context.warnings = w.context.warnings

/-- Nor is anything bound or extracted, and the page has only reacted. -/
structure World.Mild (w w' : World) : Prop extends World.Calm w w' where
  vars : w'.context.vars = w.context.vars
  extracted : w'.context.extracted = w.context.extracted
  page : w.page.Becomes w'.page

/-- An operation by which a page is asked something that it answers with yes, no or a text. -/
def Call.isQuestion : Call → Bool
  | .isPresent _ | .isVisible _ | .isHidden _ | .textContent _ => true
  | _ => false

/-- Between the worlds questions are asked.  They are listed, they take their time, and the page
counts its failures; all else is as it was. -/
def World.Questioned (w w' : World) : Prop :=
  ∃ (asked : List Call) (t : Float) (rules : List FailureRule),
    (∀ c ∈ asked, c.isQuestion = true) ∧ w' = { w with
      calls := w.calls ++ asked.toArray, clock := t, page := { w.page with failures := rules } }

namespace World

theorem Still.refl (w : World) : w.Still w :=
  ⟨rfl, rfl⟩

theorem Still.logged (w : World) (level : LogLevel) (message : String) :
    w.Still (w.logged level message) :=
  ⟨rfl, rfl⟩

theorem Mild.of_context {w w' : World} (depth : w'.retryDepth = w.retryDepth)
    (same : w'.context = w.context) (page : w.page.Becomes w'.page) : w.Mild w' := by
  constructor
  · exact ⟨⟨depth, congrArg RunContext.results same⟩, congrArg RunContext.warnings same⟩
  · exact congrArg RunContext.vars same
  · exact congrArg RunContext.extracted same
  · exact page

theorem Mild.refl (w : World) : w.Mild w :=
  .of_context rfl rfl .same

theorem Questioned.refl (w : World) : w.Questioned w :=
  ⟨[], w.clock, w.page.failures, by simp, by simp⟩

theorem Questioned.mild {w w' : World} (h : w.Questioned w') : w.Mild w' := by
  obtain ⟨asked, t, rules, -, rfl⟩ := h
  exact .of_context rfl rfl (.counted .same rules)

theorem Still.trans {w u v : World} (first : w.Still u) (second : u.Still v) : w.Still v :=
  ⟨second.retryDepth.trans first.retryDepth, second.results.trans first.results⟩

theorem Calm.trans {w u v : World} (first : w.Calm u) (second : u.Calm v) : w.Calm v :=
  ⟨first.toStill.trans second.toStill, second.warnings.trans first.warnings⟩

theorem Mild.trans {w u v : World} (first : w.Mild u) (second : u.Mild v) : w.Mild v :=
  ⟨first.toCalm.trans second.toCalm, second.vars.trans first.vars,
    second.extracted.trans first.extracted, first.page.trans second.page⟩

theorem Questioned.trans {w u v : World} (first : w.Questioned u) (second : u.Questioned v) :
    w.Questioned v := by
  obtain ⟨asked, t, rules, questions, rfl⟩ := first
  obtain ⟨later, t', rules', questions', rfl⟩ := second
  refine ⟨asked ++ later, t', rules', ?_, by simp [Array.append_assoc]⟩
  intro c hc
  exact (List.mem_append.mp hc).elim (questions c) (questions' c)

instance : IsTrans World Still :=
  ⟨fun _ _ _ => .trans⟩

instance : IsTrans World Calm :=
  ⟨fun _ _ _ => .trans⟩

instance : IsTrans World Mild :=
  ⟨fun _ _ _ => .trans⟩

instance : IsTrans World Questioned :=
  ⟨fun _ _ _ => .trans⟩

end World

namespace Exec

variable {α β : Type} {R : World → World → Prop}

/-- However the program ends, the worlds before and after it are so related. -/
def Relates (x : Exec α) (R : World → World → Prop) : Prop :=
  ∀ w : World, R w (x w).2

/-- However the program ends, nothing is entered, and it is among as many retries as before. -/
abbrev IsStill (x : Exec α) : Prop :=
  x.Relates World.Still

/-- However the program ends, nothing is entered or warned of besides. -/
abbrev IsCalm (x : Exec α) : Prop :=
  x.Relates World.Calm

/-- However the program ends, nothing is bound or extracted besides, and the page only reacts. -/
abbrev IsMild (x : Exec α) : Prop :=
  x.Relates World.Mild

/-- However the program ends, it has done nothing but ask the page. -/
abbrev OnlyAsks (x : Exec α) : Prop :=
  x.Relates World.Questioned

theorem Relates.still {x : Exec α} (hx : x.IsCalm) : x.IsStill :=
  fun w => (hx w).toStill

theorem Relates.calm {x : Exec α} (hx : x.IsMild) : x.IsCalm :=
  fun w => (hx w).toCalm

theorem Relates.mild {x : Exec α} (hx : x.OnlyAsks) : x.IsMild :=
  fun w => (hx w).mild

theorem Relates.bind [IsTrans World R] {x : Exec α} {f : α → Exec β} (hx : x.Relates R)
    (hf : ∀ a, (f a).Relates R) : (x >>= f).Relates R := by
  intro w
  have first := hx w
  rw [bind_apply]
  rcases h : x w with ⟨a | e | _, u⟩ <;> rw [h] at first
  · exact trans_of R first (hf a u)
  · exact first
  · exact first

theorem Relates.attempt {x : Exec α} (hx : x.Relates R) : (attempt x).Relates R := by
  intro w
  rw [attempt_world]
  exact hx w

theorem Relates.ite {c : Prop} [Decidable c] {x y : Exec α} (hx : x.Relates R)
    (hy : y.Relates R) : (if c then x else y).Relates R := by
  split
  · exact hx
  · exact hy

theorem mild_pure (a : α) : (pure a : Exec α).IsMild :=
  fun w => .refl w

theorem mild_fail (e : Fault) : (fail e : Exec α).IsMild :=
  fun w => .refl w

theorem mild_read (f : World → α) : (read f).IsMild :=
  fun w => .refl w

theorem mild_lift (x : Except Fault α) : (lift x).IsMild := by
  cases x with
  | ok a => exact mild_pure a
  | error e => exact mild_fail e

theorem relates_update {f : World → World} (h : ∀ w : World, R w (f w)) : (update f).Relates R :=
  h

theorem calm_onContext {f : RunContext → RunContext}
    (same : ∀ c, (f c).results = c.results ∧ (f c).warnings = c.warnings) :
    (onContext f).IsCalm :=
  relates_update fun w => ⟨⟨rfl, (same w.context).1⟩, (same w.context).2⟩

theorem mild_onContext {f : RunContext → RunContext}
    (calm : ∀ c, (f c).results = c.results ∧ (f c).warnings = c.warnings)
    (same : ∀ c, (f c).vars = c.vars ∧ (f c).extracted = c.extracted) : (onContext f).IsMild :=
  relates_update fun w =>
    ⟨calm_onContext calm w, (same w.context).1, (same w.context).2, .same⟩

theorem mild_onPage {f : Page → Page} (reacts : ∀ p : Page, p.Becomes (f p)) :
    (onPage f).IsMild :=
  relates_update fun w => .of_context rfl rfl (reacts w.page)

theorem mild_log (level : LogLevel) (message : String) : (log level message).IsMild :=
  relates_update fun _ => .of_context rfl rfl .same

theorem mild_note (c : Call) : (note c).IsMild :=
  relates_update fun _ => .of_context rfl rfl .same

/-! ### Time and operations of a page -/

theorem mild_pass (seconds : Float) : (pass seconds).IsMild := by
  intro w
  obtain ⟨t, h⟩ := pass_world seconds w
  rw [h]
  exact .of_context rfl rfl .same

theorem mild_pause (seconds : Float) : (pause seconds).IsMild :=
  (mild_read _).bind fun _ => ((mild_note _).bind fun _ => mild_pass _).ite (mild_pass _)

theorem mild_pauseMillis (n : Int) : (pauseMillis n).IsMild :=
  ((mild_lift _).bind fun s => mild_pause s).ite (mild_pure _)

theorem mild_pauseFloatMillis (x : Float) : (pauseFloatMillis x).IsMild :=
  (mild_pause _).ite (mild_pure _)

theorem mild_failing (c : Call) : (failing c).IsMild := by
  intro w
  obtain ⟨rules, h⟩ := failing_world c w
  rw [h]
  exact .of_context rfl rfl (.counted .same rules)

theorem mild_perform (c : Call) : (perform c).IsMild := by
  intro w
  obtain ⟨t, rules, h⟩ := perform_world c w
  rw [h]
  exact .of_context rfl rfl (.counted .same rules)

theorem mild_asking (c : Call) (f : World → α) : (do perform c; read f).IsMild :=
  (mild_perform c).bind fun _ => mild_read f

theorem mild_address : Browse.address.IsMild :=
  (mild_failing _).bind fun _ => mild_read _

theorem mild_waitFor (selector : String) (timeout : Int) :
    (Browse.waitFor selector timeout).IsMild := by
  refine (mild_perform _).bind fun _ => (mild_read _).bind fun there => ?_
  exact (mild_fail _).ite (mild_pure _)

theorem mild_goto (url : String) (timeout : Int) : (Browse.goto url timeout).IsMild := by
  have load : (do perform (.goto url timeout); onPage fun p => p.load url).IsMild :=
    (mild_perform _).bind fun _ => mild_onPage fun _ => .loaded .same url
  refine (mild_read _).bind fun through => ?_
  cases through
  · exact load
  · exact (mild_note _).bind fun _ => load

theorem mild_click (selector : String) : (Browse.click selector).IsMild :=
  (mild_perform _).bind fun _ => mild_onPage fun _ => .clicked .same selector

theorem mild_queryAll (selector : String) : (Browse.queryAll selector).IsMild := by
  rw [queryAll_eq]
  exact mild_asking _ _

theorem mild_screenshot (path : String) : (Browse.screenshot path).IsMild := by
  have making (act : Files.Act Unit) : (onFiles act).IsMild := by
    intro w
    rw [onFiles_apply]
    exact .of_context rfl rfl .same
  refine (mild_read _).bind fun through => ?_
  cases through
  · exact mild_perform _
  · exact (making _).bind fun _ => mild_perform _

/-! ### Questions -/

theorem asks_pure (a : α) : (pure a : Exec α).OnlyAsks :=
  fun w => .refl w

theorem asks_read (f : World → α) : (read f).OnlyAsks :=
  fun w => .refl w

theorem asks_asking {c : Call} (question : c.isQuestion = true) (f : World → α) :
    (do perform c; read f).OnlyAsks := by
  refine Relates.bind (fun w => ?_) fun _ => asks_read f
  obtain ⟨t, rules, h⟩ := perform_world c w
  exact ⟨[c], t, rules, by simpa using question, by simp [h]⟩

theorem asks_textContent (selector : String) : (Browse.textContent selector).OnlyAsks := by
  refine (asks_read _).bind fun through => ?_
  cases through
  · exact asks_asking rfl _
  · refine (asks_asking rfl _).bind fun there => ?_
    exact (asks_asking rfl _).ite (asks_pure _)

end Exec

namespace Condition

theorem asks_compare (c : Condition) : c.compare.OnlyAsks := by
  unfold compare
  split
  · exact (asks_read _).bind fun _ => asks_pure _
  · exact (asks_textContent _).bind fun _ => asks_pure _
  · exact asks_pure _

theorem asks_contained (c : Condition) (selector : String) : (c.contained selector).OnlyAsks :=
  (asks_textContent selector).bind fun _ => asks_pure _

theorem asks_askElement (c : Condition) (selector : String) :
    (c.askElement selector).OnlyAsks := by
  unfold askElement
  split
  · exact asks_asking rfl _
  · exact (asks_asking rfl _).bind fun _ => asks_pure _
  · exact asks_asking rfl _
  · exact asks_asking rfl _
  · exact (asks_contained c selector).bind fun _ => asks_pure _
  · exact (asks_contained c selector).bind fun _ => asks_pure _
  · exact asks_pure _
  · exact asks_pure _

theorem asks_ask (c : Condition) : c.ask.OnlyAsks := by
  unfold ask
  split
  · exact (asks_compare c).bind fun _ => asks_pure _
  · refine (asks_compare c).bind fun found => ?_
    cases found <;> exact asks_pure _
  · split
    · exact asks_askElement c _
    · exact asks_pure _

theorem asks_evaluate (c : Condition) : c.evaluate.OnlyAsks := by
  refine (asks_ask c).attempt.bind fun answer => ?_
  cases answer <;> exact asks_pure _

theorem asks_evaluateAll (cs : List Condition) : (evaluateAll cs).OnlyAsks := by
  induction cs with
  | nil => exact asks_pure _
  | cons c rest ih => exact (asks_evaluate c).bind fun _ => ih.ite (asks_pure _)

end Condition

/-! ### Leaf actions -/

theorem mild_takeScreenshot (g : Setting) (name : String) : (takeScreenshot g name).IsMild :=
  (mild_screenshot _).bind fun _ => mild_pure _

theorem mild_keepScreenshot (path : String) : (keepScreenshot path).IsMild :=
  mild_onContext (fun _ => ⟨rfl, rfl⟩) fun _ => ⟨rfl, rfl⟩

theorem mild_errorScreenshot (g : Setting) (id : String) : (errorScreenshot g id).IsMild := by
  refine (mild_takeScreenshot g _).attempt.bind fun taken => ?_
  cases taken with
  | ok path => exact (mild_keepScreenshot path).bind fun _ => mild_pure _
  | error e => exact (mild_log _ _).bind fun _ => mild_pure _

namespace Step

theorem mild_isAdmitted (s : Step) : s.isAdmitted.IsMild := by
  unfold isAdmitted
  split
  · exact (Condition.asks_evaluateAll _).mild
  · exact mild_pure _

theorem calm_bindParts (data : Value) (extracting : Bool) (bindings : Members Value) :
    (bindParts data extracting bindings).IsCalm := by
  induction bindings with
  | nil => exact (mild_pure _).calm
  | cons b rest ih =>
    refine (calm_onContext ?_).bind fun _ => ih
    exact fun c => ⟨rfl, rfl⟩

theorem calm_navigate (s : Step) (g : Setting) : (s.navigate g).IsCalm := by
  unfold navigate
  split
  · refine (mild_goto _ _).calm.bind fun _ => mild_address.calm.bind fun _ => ?_
    refine (calm_onContext ?_).bind fun _ => (mild_pure _).calm
    exact fun c => ⟨rfl, rfl⟩
  · exact (mild_fail _).calm

theorem mild_wait (s : Step) (g : Setting) : (s.wait g).IsMild := by
  unfold wait
  split
  · exact mild_fail _
  · exact (mild_waitFor _ _).bind fun _ => mild_pure _
  · exact (mild_lift _).bind fun x => (mild_pauseFloatMillis x).bind fun _ => mild_pure _
  · exact mild_fail _

theorem mild_click (s : Step) (g : Setting) : (s.click g).IsMild := by
  unfold click
  split
  · exact (mild_waitFor _ _).bind fun _ => (Exec.mild_click _).bind fun _ => mild_pure _
  · exact mild_fail _

theorem mild_fill (s : Step) (g : Setting) : (s.fill g).IsMild := by
  unfold fill
  split
  · exact (mild_waitFor _ _).bind fun _ => (mild_perform _).bind fun _ => mild_pure _
  · exact mild_fail _

theorem mild_select (s : Step) (g : Setting) : (s.select g).IsMild := by
  unfold select
  split
  · exact (mild_waitFor _ _).bind fun _ => (mild_perform _).bind fun _ => mild_pure _
  · exact mild_fail _

theorem calm_extract (s : Step) (g : Setting) : (s.extract g).IsCalm := by
  unfold extract
  split
  · exact (mild_fail _).calm
  · refine (mild_waitFor _ _).attempt.calm.bind fun waited => ?_
    cases waited with
    | error e => exact (((mild_log _ _).bind fun _ => mild_pure _).ite (mild_fail e)).calm
    | ok _ =>
      refine (mild_queryAll _).calm.bind fun found => ?_
      exact (calm_bindParts _ _ _).bind fun _ => (mild_pure _).calm

theorem mild_scroll (s : Step) (g : Setting) : (s.scroll g).IsMild := by
  unfold scroll
  split
  · exact (mild_perform _).bind fun _ => mild_pure _
  · refine (mild_lift _).bind fun n => ?_
    split
    · exact (mild_perform _).bind fun _ => mild_pure _
    · exact (mild_perform _).bind fun _ => mild_pure _

theorem mild_screenshot (s : Step) (g : Setting) : (s.screenshot g).IsMild :=
  (mild_takeScreenshot g _).bind fun path => (mild_keepScreenshot path).bind fun _ =>
    mild_pure _

theorem calm_evaluate (s : Step) : s.evaluate.IsCalm := by
  unfold evaluate
  split
  · exact (mild_asking _ _).calm.bind fun _ => (calm_bindParts _ _ _).bind fun _ =>
      (mild_pure _).calm
  · exact (mild_fail _).calm

theorem calm_dispatch {s : Step} (leaf : s.kind.isComposite = false) (g : Setting) (size : Nat)
    (body : Exec Unit) : (s.dispatch g size body).IsCalm := by
  unfold dispatch
  cases hk : s.kind <;> simp only [hk, ActionKind.isComposite, Bool.true_eq_false] at leaf ⊢
  · exact s.calm_navigate g
  · exact (s.mild_wait g).calm
  · exact (s.mild_click g).calm
  · exact (s.mild_fill g).calm
  · exact (s.mild_select g).calm
  · exact s.calm_extract g
  · exact (s.mild_scroll g).calm
  · exact (s.mild_screenshot g).calm
  · exact s.calm_evaluate

end Step

/-! ### What a run does besides -/

namespace Harvest

theorem mild_sourceUrl : sourceUrl.IsMild := by
  refine mild_address.bind fun url => Relates.ite ((mild_read _).bind fun last => ?_) (mild_pure _)
  cases last with
  | ok found => exact mild_pure found
  | error e => exact mild_fail e

theorem mild_assemble (p : Playbook) (now : Moment) : (assemble p now).IsMild := by
  refine mild_sourceUrl.bind fun url => (mild_read _).bind fun fields => ?_
  dsimp only
  split
  · exact (mild_log _ _).bind fun _ => mild_pure _
  · exact mild_pure _

end Harvest

namespace Run

theorem mild_addError (message : String) : (addError message).IsMild :=
  mild_onContext (fun _ => ⟨rfl, rfl⟩) fun _ => ⟨rfl, rfl⟩

theorem mild_reportOverrun (p : Playbook) (budget : Float) : (reportOverrun p budget).IsMild :=
  (mild_addError _).bind fun _ => mild_log _ _

theorem mild_reportFault (p : Playbook) (budget : Float) (e : Fault) :
    (reportFault p budget e).IsMild := by
  unfold reportFault
  split
  · exact (mild_addError _).bind fun _ => mild_log _ _
  · exact (mild_reportOverrun p budget).ite (mild_addError _)
  · exact (mild_addError _).bind fun _ => mild_log _ _

theorem mild_reportEnding (p : Playbook) (budget : Float) (ending : Ending) :
    (reportEnding p budget ending).IsMild := by
  cases ending with
  | finished found => exact mild_pure found
  | aborted message => exact (mild_log _ _).bind fun _ => mild_pure _
  | failed e => exact (mild_reportFault p budget e).bind fun _ => mild_pure _
  | expired => exact (mild_reportOverrun p budget).bind fun _ => mild_pure _

end Run

/-! ### What is still -/

theorem still_warnAll (messages : List String) : (warnAll messages).IsStill := by
  induction messages with
  | nil => exact (mild_pure _).calm.still
  | cons m rest ih =>
    refine Relates.bind (fun w => ?_) fun _ => ih
    rw [warnOnce_apply]
    split
    · exact .refl w
    · exact ⟨rfl, rfl⟩

theorem Step.still_resolve (s : Step) : s.resolve.IsStill :=
  (mild_read _).calm.still.bind fun _ => (still_warnAll _).bind fun _ =>
    (mild_pure _).calm.still

end Scout
