import Mathlib
import Scout.Proofs.Document.Decoding
import Scout.Proofs.Files.Growth
import Scout.Run

/-!
# Courses of a session

What actions and rules do to a session is made of a few changes: an operation inside
the page that takes its time, a pause, a page that reacts, a variable or a field that
is set, screenshots, warnings and log lines that are added.  A change is timely when
the time it takes ends before the deadline.  An operation or a pause that would last
until the deadline is cut there, and a program that follows a course makes no change
after a cut: nothing in it takes the deadline for a fault.
-/

namespace Scout

open Relation

def Call.isInner : Call → Bool
  | .openPage _ | .closePage => false
  | _ => true

/-- An operation of the page that is open: what takes the latency of the page. -/
def Call.isOperation : Call → Bool
  | .openPage _ | .closePage | .waitUntil _ | .readUrl | .sleep _ | .launch .. | .closeBrowser =>
    false
  | _ => true

theorem Call.isInner_of_isOperation {c : Call} (h : c.isOperation = true) : c.isInner = true := by
  cases c <;> first | rfl | cases h

namespace World

def latency (w : World) (c : Call) : Float :=
  (w.page.latency.find? c.name).getD 0.0

def endOf (w : World) (c : Call) : Float :=
  w.clock + w.latency c / 1000.0

/-- The deadline has not come by the given time. -/
def IsEarly (w : World) (t : Float) : Prop :=
  ∀ d, w.deadline = some d → ¬ d ≤ t

def listed (w : World) (c : Call) : World :=
  { w with calls := w.calls.push c }

/-- A pause stands among the calls if pauses are listed. -/
def listedPause (w : World) (seconds : Float) : World :=
  if w.listsPauses then w.listed (.sleep seconds) else w

def logged (w : World) (level : LogLevel) (message : String) : World :=
  { w with log := w.log.push (level, message) }

def warned (w : World) (message : String) : World :=
  { w with context := { w.context with warnings := w.context.warnings ++ [message] } }

def recorded (w : World) (r : ActionResult) : World :=
  { w with context := { w.context with results := w.context.results ++ [r] } }

/-- A change that the deadline leaves alone. -/
inductive Timely (w : World) : World → Prop
  | instant {c : Call} (operation : c.isOperation = true) (quick : ¬ 0.0 < w.latency c) :
      Timely w (w.listed c)
  | lasting {c : Call} (operation : c.isOperation = true) (slow : 0.0 < w.latency c)
      (early : w.IsEarly (w.endOf c)) :
      Timely w { w.listed c with clock := w.endOf c }
  | paused (seconds : Float) (early : w.IsEarly (w.clock + seconds)) :
      Timely w { w.listedPause seconds with clock := w.clock + seconds }
  | awaited (event : String) : Timely w (w.listed (.waitUntil event))
  | page {p : Page} (same : p.latency = w.page.latency) : Timely w { w with page := p }
  | logged (level : LogLevel) (message : String) : Timely w (w.logged level message)
  | retryDepth (n : Nat) : Timely w { w with retryDepth := n }
  | unresolved (id name : String) : Timely w (w.warned (unresolvedWarning id name))
  | screenshot (path : String) :
      Timely w { w with
        context := { w.context with screenshots := w.context.screenshots ++ [path] } }
  | var (name : String) (v : Value) :
      Timely w { w with context := { w.context with vars := w.context.vars.put name v } }
  | field (name : String) (v : Value) :
      Timely w { w with
        context := { w.context with extracted := w.context.extracted.put name v } }
  | filed {t : Files.Tree} (grown : w.files.GrowsTo t) : Timely w { w with files := t }

/-- An operation or a pause that the deadline cuts: the clock stands at the deadline. -/
inductive Cut (w : World) : World → Prop
  | operation {c : Call} {d : Float} (operation : c.isOperation = true)
      (slow : 0.0 < w.latency c) (limit : w.deadline = some d) (late : d ≤ w.endOf c) :
      Cut w { w.listed c with clock := d }
  | pause {d : Float} (seconds : Float) (limit : w.deadline = some d)
      (late : d ≤ w.clock + seconds) :
      Cut w { w.listedPause seconds with clock := d }

end World

/-- Through changes to a cut; after it only the count of the retries around it is mended. -/
def World.ComesToCut (R : World → World → Prop) (w w' : World) : Prop :=
  ∃ v v' n, ReflTransGen R w v ∧ v.Cut v' ∧ w' = { v' with retryDepth := n }

theorem World.ComesToCut.mono {R S : World → World → Prop} {w w' : World}
    (h : w.ComesToCut R w') (sub : R ≤ S) : w.ComesToCut S w' := by
  obtain ⟨v, v', n, changes, cut, rfl⟩ := h
  exact ⟨v, v', n, ReflTransGen.mono sub _ _ changes, cut, rfl⟩

theorem World.ComesToCut.after {R : World → World → Prop} {w w₁ w' : World}
    (h : w₁.ComesToCut R w') (before : ReflTransGen R w w₁) : w.ComesToCut R w' := by
  obtain ⟨v, v', n, changes, cut, rfl⟩ := h
  exact ⟨v, v', n, before.trans changes, cut, rfl⟩

namespace Exec

variable {α β : Type} {R S : World → World → Prop}

/-- How a program goes that begins in a world: through changes to its end, or to a cut. -/
inductive Course (R : World → World → Prop) (w : World) : Outcome α × World → Prop
  | through {out : Outcome α} {w' : World} (uncut : out ≠ .cancelled)
      (changes : ReflTransGen R w w') : Course R w (out, w')
  | cut {w' : World} (comes : w.ComesToCut R w') : Course R w (.cancelled, w')

/-- From every world the program goes such a course. -/
def Follows (x : Exec α) (R : World → World → Prop) : Prop :=
  ∀ w, Course R w (x w)

theorem Course.mono {w : World} {end_ : Outcome α × World} (h : Course R w end_) (sub : R ≤ S) :
    Course S w end_ := by
  cases h with
  | through uncut changes => exact .through uncut (ReflTransGen.mono sub _ _ changes)
  | cut comes => exact .cut (comes.mono sub)

theorem Course.after {w w₁ : World} {end_ : Outcome α × World} (h : Course R w₁ end_)
    (before : ReflTransGen R w w₁) : Course R w end_ := by
  cases h with
  | through uncut changes => exact .through uncut (before.trans changes)
  | cut comes => exact .cut (comes.after before)

theorem Course.changes {w w' : World} {out : Outcome α} (h : Course R w (out, w'))
    (uncut : out ≠ .cancelled) : ReflTransGen R w w' := by
  cases h with
  | through _ changes => exact changes
  | cut => exact absurd rfl uncut

theorem Course.comes {w w' : World} (h : Course R w ((.cancelled : Outcome α), w')) :
    w.ComesToCut R w' := by
  cases h with
  | through uncut _ => exact absurd rfl uncut
  | cut comes => exact comes

theorem Course.retype {w w' : World} {out : Outcome α} {out' : Outcome β}
    (h : Course R w (out, w')) (same : out' = .cancelled ↔ out = .cancelled) :
    Course R w (out', w') := by
  cases h with
  | through uncut changes => exact .through (fun e => uncut (same.mp e)) changes
  | cut comes =>
    rw [same.mpr rfl]
    exact .cut comes

/-- What holds between the ends of every change holds between the ends of a course. -/
theorem Course.holds {P : World → World → Prop} (refl : ∀ w, P w w)
    (trans : ∀ {w₁ w₂ w₃}, P w₁ w₂ → P w₂ w₃ → P w₁ w₃) (change : R ≤ P) (cut : World.Cut ≤ P)
    (mended : ∀ w n, P w { w with retryDepth := n }) {w w' : World} {out : Outcome α}
    (h : Course R w (out, w')) : P w w' := by
  have through {w w' : World} (changes : ReflTransGen R w w') : P w w' := by
    induction changes with
    | refl => exact refl w
    | tail _ last ih => exact trans ih (change _ _ last)
  cases h with
  | through _ changes => exact through changes
  | cut comes =>
    obtain ⟨v, v', n, changes, cuts, rfl⟩ := comes
    exact trans (through changes) (trans (cut _ _ cuts) (mended v' n))

theorem Follows.mono {x : Exec α} (h : x.Follows R) (sub : R ≤ S) : x.Follows S :=
  fun w => (h w).mono sub

/-! ## Programs of programs -/

theorem follows_pure (a : α) : (pure a : Exec α).Follows R :=
  fun _ => .through (by simp) .refl

theorem follows_fail (e : Fault) : (fail e : Exec α).Follows R :=
  fun _ => .through (by simp) .refl

theorem follows_read (f : World → α) : (read f).Follows R :=
  fun _ => .through (by simp) .refl

theorem follows_lift (x : Except Fault α) : (lift x).Follows R := by
  cases x with
  | ok a => exact follows_pure a
  | error e => exact follows_fail e

theorem follows_update {f : World → World} (h : ∀ w, R w (f w)) : (update f).Follows R :=
  fun w => .through (by simp) (.single (h w))

theorem Follows.bind {x : Exec α} {f : α → Exec β} (hx : x.Follows R)
    (hf : ∀ a, (f a).Follows R) : (x >>= f).Follows R := by
  intro w
  have first := hx w
  rw [bind_apply]
  rcases h : x w with ⟨a | e | _, w'⟩ <;> rw [h] at first
  · exact (hf a w').after (first.changes (by simp))
  · exact first.retype (by simp)
  · exact first.retype (by simp)

theorem Follows.attempt {x : Exec α} (hx : x.Follows R) : (attempt x).Follows R := by
  intro w
  have all := hx w
  unfold Exec.attempt
  rcases h : x w with ⟨a | e | _, w'⟩ <;> rw [h] at all <;> exact all.retype (by simp)

/-- A retry leaves its count as it was, also when it is cut. -/
theorem Follows.leavingRetry {x : Exec α} (hx : x.Follows R) (timely : World.Timely ≤ R) :
    (ensuring x leaveRetry).Follows R := by
  intro w
  have all := hx w
  unfold ensuring
  rcases h : x w with ⟨out, w'⟩
  rw [h] at all
  cases all with
  | through uncut changes => exact .through uncut (changes.tail (timely _ _ (.retryDepth _)))
  | cut comes =>
    obtain ⟨v, v', n, changes, cut, rfl⟩ := comes
    exact .cut ⟨v, v', n - 1, changes, cut, rfl⟩

theorem Follows.ite {c : Prop} [Decidable c] {x y : Exec α} (hx : x.Follows R)
    (hy : y.Follows R) : (if c then x else y).Follows R := by
  split
  · exact hx
  · exact hy

/-! ## Single changes -/

/-- The program makes no change but timely ones. -/
abbrev IsTimely (x : Exec α) : Prop :=
  x.Follows World.Timely

theorem timely_log (level : LogLevel) (message : String) : (log level message).IsTimely :=
  follows_update fun _ => .logged level message

theorem timely_onPage (f : Page → Page) (same : ∀ p, (f p).latency = p.latency) :
    (onPage f).IsTimely :=
  follows_update fun _ => .page (same _)

theorem pass_cases (seconds : Float) (w : World) :
    (w.IsEarly (w.clock + seconds) ∧
      pass seconds w = (.done (), { w with clock := w.clock + seconds })) ∨
    ∃ d, w.deadline = some d ∧ d ≤ w.clock + seconds ∧
      pass seconds w = (.cancelled, { w with clock := d }) := by
  unfold pass
  dsimp only
  split
  · next d limit =>
    split
    · next late => exact .inr ⟨d, limit, late, rfl⟩
    · next early =>
      refine .inl ⟨fun d' h => ?_, rfl⟩
      rw [limit, Option.some.injEq] at h
      rwa [← h]
  · next unlimited =>
    refine .inl ⟨fun d h => ?_, rfl⟩
    rw [unlimited] at h
    cases h

theorem pause_apply (seconds : Float) (w : World) :
    pause seconds w = pass seconds (w.listedPause seconds) := by
  unfold pause World.listedPause
  rw [bind_apply, read_apply]
  cases w.listsPauses <;> rfl

theorem timely_pause (seconds : Float) : (pause seconds).IsTimely := by
  intro w
  have clock : (w.listedPause seconds).clock = w.clock := by
    unfold World.listedPause
    split <;> rfl
  have deadline : (w.listedPause seconds).deadline = w.deadline := by
    unfold World.listedPause
    split <;> rfl
  rw [pause_apply]
  rcases pass_cases seconds (w.listedPause seconds) with ⟨early, h⟩ | ⟨d, limit, late, h⟩
  · rw [World.IsEarly, deadline, clock] at early
    rw [h, clock]
    exact .through (by simp) (.single (.paused seconds early))
  · rw [deadline] at limit
    rw [clock] at late
    rw [h]
    exact .cut ⟨w, _, _, .refl, .pause seconds limit late, rfl⟩

theorem timely_pauseMillis (n : Int) : (pauseMillis n).IsTimely := by
  unfold pauseMillis
  split
  · exact (follows_lift _).bind fun s => timely_pause s
  · exact follows_pure _

theorem timely_pauseFloatMillis (x : Float) : (pauseFloatMillis x).IsTimely := by
  unfold pauseFloatMillis
  split
  · exact timely_pause _
  · exact follows_pure _

/-! ## Operations of a page -/

theorem timely_failing (c : Call) : (failing c).IsTimely := by
  refine (follows_read _).bind fun (found, rules) => ?_
  refine (timely_onPage (fun p => { p with failures := rules }) fun _ => rfl).bind fun _ => ?_
  cases found with
  | none => exact follows_pure _
  | some e => exact follows_fail e

/-- An operation is listed first; then it takes its time, and a rule may let it fail. -/
theorem perform_apply (c : Call) (w : World) :
    perform c w =
      if 0.0 < w.latency c then (pass (w.latency c / 1000.0) >>= fun _ => failing c) (w.listed c)
      else failing c (w.listed c) := by
  unfold perform
  rw [note, bind_done (update_apply _ _), bind_done (read_apply _ _)]
  split
  · next slow => rw [if_pos (show 0.0 < w.latency c from slow)]; rfl
  · next quick => rw [if_neg (show ¬ 0.0 < w.latency c from quick)]; rfl

theorem timely_perform {c : Call} (operation : c.isOperation = true) :
    (perform c).IsTimely := by
  intro w
  rw [perform_apply]
  split
  · next slow =>
    rcases pass_cases (w.latency c / 1000.0) (w.listed c) with ⟨early, h⟩ | ⟨d, limit, late, h⟩
    · rw [bind_done h]
      exact (timely_failing c _).after (.single (.lasting operation slow early))
    · rw [bind_cancelled h]
      exact .cut ⟨w, _, _, .refl, .operation operation slow limit late, rfl⟩
  · next quick => exact (timely_failing c _).after (.single (.instant operation quick))

theorem timely_address : Browse.address.IsTimely :=
  (timely_failing _).bind fun _ => follows_read _

theorem timely_goto (url : String) (timeout : Int) : (Browse.goto url timeout).IsTimely := by
  have load : (do perform (.goto url timeout); onPage fun p => p.load url).IsTimely :=
    (timely_perform rfl).bind fun _ => timely_onPage _ fun _ => rfl
  refine (follows_read _).bind fun through => ?_
  cases through
  · exact load
  · exact (follows_update fun _ => .awaited "networkidle").bind fun _ => load

theorem timely_waitFor (selector : String) (timeout : Int) :
    (Browse.waitFor selector timeout).IsTimely := by
  refine (timely_perform rfl).bind fun _ => (follows_read _).bind fun there => ?_
  exact (follows_fail _).ite (follows_pure _)

theorem latency_applyEffect (p : Page) (e : ClickEffect) :
    (p.applyEffect e).latency = p.latency := rfl

theorem latency_click (p : Page) (selector : String) :
    (p.click selector).latency = p.latency := by
  have applied (effects : List ClickEffect) (q : Page) :
      (effects.foldl Page.applyEffect q).latency = q.latency := by
    induction effects generalizing q with
    | nil => rfl
    | cons e rest ih => rw [List.foldl_cons, ih, latency_applyEffect]
  exact applied _ _

theorem timely_click (selector : String) : (Browse.click selector).IsTimely :=
  (timely_perform rfl).bind fun _ => timely_onPage _ fun p => latency_click p selector

theorem timely_asking {c : Call} (operation : c.isOperation = true) (f : World → α) :
    (do perform c; read f).IsTimely :=
  (timely_perform operation).bind fun _ => follows_read f

/-- Elements that come as documents are read as what they were. -/
theorem queryAll_eq (selector : String) :
    Browse.queryAll selector = (do
      perform (.queryAll selector)
      read fun w => w.page.matched selector) := by
  have reading (found : List Snapshot) : Browse.readDocuments (found.map Snapshot.encode) =
      pure found := by
    rw [Browse.readDocuments, Decoder.list, Snapshot.items_encode]
  funext w
  unfold Browse.queryAll
  rcases asked : perform (.queryAll selector) w with ⟨a | e | _, u⟩
  · rw [bind_done asked, bind_done asked, bind_done (read_apply _ _), bind_done (read_apply _ _),
      reading]
    cases u.page.throughBrowser <;> rfl
  · rw [bind_failed asked, bind_failed asked]
  · rw [bind_cancelled asked, bind_cancelled asked]

theorem timely_queryAll (selector : String) : (Browse.queryAll selector).IsTimely := by
  rw [queryAll_eq]
  exact timely_asking rfl _

theorem onFiles_apply (x : Files.Act Unit) (w : World) :
    onFiles x w = (match (finish x w.files).1 with
        | .ok _ => .done ()
        | .error e => .failed ⟨.page, e.message⟩,
      { w with files := (finish x w.files).2 }) := by
  unfold onFiles
  rcases h : x.run.run w.files with ⟨e | a, t⟩ <;> simp only [finish, h]

theorem onFiles_cases (x : Files.Act Unit) (w : World) :
    ∃ t, onFiles x w = (.done (), { w with files := t }) ∨
      ∃ message, onFiles x w = (.failed ⟨.page, message⟩, { w with files := t }) := by
  rw [onFiles_apply]
  refine ⟨(finish x w.files).2, ?_⟩
  rcases (finish x w.files).1 with e | _
  · exact .inr ⟨e.message, rfl⟩
  · exact .inl rfl

theorem timely_makeDirectories (path : String) :
    (onFiles (Files.Act.makeDirectories path)).IsTimely := by
  intro w
  rw [onFiles_apply]
  refine .through ?_ (.single (.filed (Files.Act.grows_makeDirectories path w.files)))
  split <;> simp

theorem timely_screenshot (path : String) : (Browse.screenshot path).IsTimely := by
  refine (follows_read _).bind fun through => ?_
  cases through
  · exact timely_perform rfl
  · exact (timely_makeDirectories _).bind fun _ => timely_perform rfl

theorem timely_textContent (selector : String) : (Browse.textContent selector).IsTimely := by
  refine (follows_read _).bind fun through => ?_
  cases through
  · exact timely_asking rfl _
  · refine (timely_asking rfl _).bind fun there => ?_
    exact (timely_asking rfl _).ite (follows_pure _)

end Exec

/-! ## Conditions -/

namespace Condition

open Exec

theorem timely_compare (c : Condition) : c.compare.IsTimely := by
  unfold compare
  split
  · exact (follows_read _).bind fun _ => follows_pure _
  · exact (timely_textContent _).bind fun _ => follows_pure _
  · exact follows_pure _

theorem timely_contained (c : Condition) (selector : String) : (c.contained selector).IsTimely :=
  (timely_textContent selector).bind fun _ => follows_pure _

theorem timely_askElement (c : Condition) (selector : String) :
    (c.askElement selector).IsTimely := by
  unfold askElement
  split
  · exact timely_asking rfl _
  · exact (timely_asking rfl _).bind fun _ => follows_pure _
  · exact timely_asking rfl _
  · exact timely_asking rfl _
  · exact (timely_contained c selector).bind fun _ => follows_pure _
  · exact (timely_contained c selector).bind fun _ => follows_pure _
  · exact follows_pure _
  · exact follows_pure _

theorem timely_ask (c : Condition) : c.ask.IsTimely := by
  unfold ask
  split
  · exact (timely_compare c).bind fun _ => follows_pure _
  · refine (timely_compare c).bind fun found => ?_
    cases found <;> exact follows_pure _
  · split
    · exact timely_askElement c _
    · exact follows_pure _

theorem timely_evaluate (c : Condition) : c.evaluate.IsTimely := by
  refine (timely_ask c).attempt.bind fun answer => ?_
  cases answer <;> exact follows_pure _

theorem timely_evaluateAll (cs : List Condition) : (evaluateAll cs).IsTimely := by
  induction cs with
  | nil => exact follows_pure _
  | cons c rest ih => exact (timely_evaluate c).bind fun _ => ih.ite (follows_pure _)

end Condition

end Scout
