import Scout.Proofs.Run.Refusals
import Scout.Proofs.Run.Screenshots
import Scout.Proofs.Run.Visits

/-!
# Programs that are blind to a browser

A browser between a run and its page changes what is called: loading waits for the
network, a text is read only after its element was looked up, and a directory is made
before a picture is taken.  A program is blind when it leaves the latency and the
failures of its page as they are set, and ends behind a browser in the same way as
without one, in the same world but for the calls in its list and the files, as long as
looking up an element and reading its text take no time and cannot fail.  Only a
program that pictures its page may end otherwise, where the directory of the pictures
cannot be made.  The interpreter is blind: each operation is, and the programs of
actions are by induction over their trees.
-/

namespace Scout

open Exec

/-! ## What stays of a page -/

/-- What a failure is aimed at and what it shows, without how often it still does. -/
def FailureRule.aim (r : FailureRule) : String × Option Scalar × Fault :=
  (r.operation, r.target, r.fault)

namespace Page

/-- Operations take the same time, and failures are aimed alike and show the same. -/
structure SameSetting (p q : Page) : Prop where
  throughBrowser : q.throughBrowser = p.throughBrowser
  latency : q.latency = p.latency
  aims : q.failures.map FailureRule.aim = p.failures.map FailureRule.aim

theorem SameSetting.refl (p : Page) : p.SameSetting p :=
  ⟨rfl, rfl, rfl⟩

theorem SameSetting.trans {p q r : Page} (first : p.SameSetting q) (second : q.SameSetting r) :
    p.SameSetting r :=
  ⟨second.throughBrowser.trans first.throughBrowser, second.latency.trans first.latency,
    second.aims.trans first.aims⟩

theorem SameSetting.forall_aim {p q : Page} (same : p.SameSetting q)
    {P : String × Option Scalar × Fault → Prop} (h : ∀ r ∈ p.failures, P r.aim) :
    ∀ r ∈ q.failures, P r.aim := by
  intro r hr
  have aimed := List.mem_map_of_mem (f := FailureRule.aim) hr
  rw [same.aims] at aimed
  obtain ⟨r', hr', aims⟩ := List.mem_map.mp aimed
  exact aims ▸ h r' hr'

theorem aims_nextFailure (c : Call) (rules : List FailureRule) :
    (nextFailure c rules).2.map FailureRule.aim = rules.map FailureRule.aim := by
  induction rules with
  | nil => rfl
  | cons r rest ih =>
    unfold nextFailure
    split
    · split
      · exact congrArg (_ :: ·) ih
      · rfl
    · exact congrArg (_ :: ·) ih

theorem nextFailure_of_unnamed {c : Call} {rules : List FailureRule}
    (unnamed : ∀ r ∈ rules, r.operation ≠ c.name) : nextFailure c rules = (none, rules) := by
  induction rules with
  | nil => rfl
  | cons r rest ih =>
    obtain ⟨first, others⟩ := List.forall_mem_cons.mp unnamed
    simp [nextFailure, FailureRule.applies, first, ih others]

/-- Calls of one name fail alike where no rule of that name is aimed at an argument. -/
theorem nextFailure_congr (c c' : Call) (name : c.name = c'.name) {rules : List FailureRule}
    (unaimed : ∀ r ∈ rules, r.operation = c.name → r.target = none) :
    nextFailure c rules = nextFailure c' rules := by
  induction rules with
  | nil => rfl
  | cons r rest ih =>
    obtain ⟨first, others⟩ := List.forall_mem_cons.mp unaimed
    have applies : FailureRule.applies r c = FailureRule.applies r c' := by
      unfold FailureRule.applies
      rw [← name]
      by_cases named : r.operation = c.name
      · simp only [first named]
      · simp only [beq_eq_false_iff_ne.mpr named, Bool.false_and]
    simp only [nextFailure, applies, ih others]

/-- Looking up an element and reading its text take no time and are set to show no failure. -/
structure AnswersAtOnce (p : Page) : Prop where
  quickLookup : ¬ 0.0 < (p.latency.find? "exists").getD 0.0
  quickText : ¬ 0.0 < (p.latency.find? "text_content").getD 0.0
  soundLookup : ∀ r ∈ p.failures, r.operation ≠ "exists"
  soundText : ∀ r ∈ p.failures, r.operation ≠ "text_content"

/-- A page that answers at once, with no browser before it. -/
structure IsPlain (p : Page) : Prop extends p.AnswersAtOnce where
  direct : p.throughBrowser = false

theorem IsPlain.of_sameSetting {p q : Page} (plain : p.IsPlain) (same : p.SameSetting q) :
    q.IsPlain where
  quickLookup := by
    rw [same.latency]
    exact plain.quickLookup
  quickText := by
    rw [same.latency]
    exact plain.quickText
  soundLookup := same.forall_aim (P := fun aim => aim.1 ≠ "exists") plain.soundLookup
  soundText := same.forall_aim (P := fun aim => aim.1 ≠ "text_content") plain.soundText
  direct := same.throughBrowser.trans plain.direct

theorem textOf?_of_absent {p : Page} {selector : String}
    (absent : p.isPresent selector = false) : p.textOf? selector = none := by
  unfold isPresent at absent
  unfold textOf?
  cases h : p.matched selector with
  | nil => rfl
  | cons s rest => simp [h] at absent

/-- The same page behind a browser that asks for a user agent. -/
def behind (p : Page) (agent : String) : Page :=
  { p with throughBrowser := true, userAgent := agent }

end Page

namespace World

/-- The same world with its page behind a browser, with other calls listed and other files. -/
def behind (w : World) (agent : String) (calls : Array Call) (files : Files.Tree) : World :=
  { w with page := w.page.behind agent, calls, files }

/-- Taking a picture is among the calls. -/
def IsPictured (w : World) : Prop :=
  ∃ path, Call.screenshot path ∈ w.calls

/-- The setting of the page stays, and so do pictures among the calls. -/
structure KeepsPage (w v : World) : Prop where
  page : w.page.SameSetting v.page
  pictured : w.IsPictured → v.IsPictured

theorem KeepsPage.of_calls {w v : World} (page : w.page.SameSetting v.page)
    (same : v.calls = w.calls) : w.KeepsPage v := by
  refine ⟨page, fun pictured => ?_⟩
  rwa [IsPictured, same]

theorem KeepsPage.of_push {w v : World} (page : w.page.SameSetting v.page) {c : Call}
    (listed : v.calls = w.calls.push c) : w.KeepsPage v := by
  refine ⟨page, fun ⟨path, taken⟩ => ⟨path, ?_⟩⟩
  rw [listed]
  exact Array.mem_push_of_mem c taken

theorem KeepsPage.trans {w u v : World} (first : w.KeepsPage u) (second : u.KeepsPage v) :
    w.KeepsPage v :=
  ⟨first.page.trans second.page, fun pictured => second.pictured (first.pictured pictured)⟩

end World

/-! ## Blind programs -/

namespace Exec

variable {α β : Type} {g : Setting} {agent : String}

/-- How a program ends behind a browser that has such files, if it ends so without the browser: in
the same way, unless it pictures its page and the directory of the pictures cannot be made. -/
inductive EndsBehind (g : Setting) (agent : String) (files : Files.Tree)
    (end_ : Outcome α × World) : Outcome α × World → Prop
  | same (calls : Array Call) {files' : Files.Tree}
      (makes : files.canMake g.options.screenshotDir = true →
        files'.canMake g.options.screenshotDir = true) :
      EndsBehind g agent files end_ (end_.1, end_.2.behind agent calls files')
  | beyond {other : Outcome α × World} (fails : files.canMake g.options.screenshotDir = false)
      (pictured : end_.2.IsPictured) : EndsBehind g agent files end_ other

/-- Begun in a world, the program ends behind the browser as it does without it. -/
def SameBehind (x : Exec α) (g : Setting) (agent : String) (w : World) : Prop :=
  ∀ calls files, EndsBehind g agent files (x w) (x (w.behind agent calls files))

/-- The program leaves the setting of the page as it is. -/
def KeepsSetting (x : Exec α) : Prop :=
  ∀ w : World, w.KeepsPage (x w).2

/-- The program does not notice a browser before a plain page, and keeps its setting. -/
structure IsBlind (x : Exec α) (g : Setting) : Prop where
  keeps : x.KeepsSetting
  same : ∀ agent w, w.page.IsPlain → x.SameBehind g agent w

theorem KeepsSetting.of_blind {x : Exec α} (blind : ∀ g, x.IsBlind g) : x.KeepsSetting :=
  (blind ⟨.standard, .standard, 0⟩).keeps

theorem EndsBehind.of_eq {files : Files.Tree} {end_ other : Outcome α × World}
    (calls : Array Call) (h : other = (end_.1, end_.2.behind agent calls files)) :
    EndsBehind g agent files end_ other := by
  rw [h]
  exact .same calls id

/-- What goes before on the side of the browser may leave it other files. -/
theorem EndsBehind.after {files files' : Files.Tree} {end_ other : Outcome α × World}
    (h : EndsBehind g agent files' end_ other)
    (makes : files.canMake g.options.screenshotDir = true →
      files'.canMake g.options.screenshotDir = true) :
    EndsBehind g agent files end_ other := by
  cases h with
  | same calls makes' => exact .same calls fun h => makes' (makes h)
  | beyond fails pictured =>
    refine .beyond ?_ pictured
    by_contra made
    rw [makes (Bool.of_not_eq_false made)] at fails
    cases fails

theorem KeepsSetting.bind {x : Exec α} {f : α → Exec β} (hx : x.KeepsSetting)
    (hf : ∀ a, (f a).KeepsSetting) : (x >>= f).KeepsSetting := by
  intro w
  have first := hx w
  rw [bind_apply]
  rcases h : x w with ⟨a | e | _, u⟩ <;> rw [h] at first
  · exact first.trans (hf a u)
  · exact first
  · exact first

theorem SameBehind.bind {x : Exec α} {f : α → Exec β} {w : World}
    (hx : x.SameBehind g agent w) (keeps : ∀ a, (f a).KeepsSetting)
    (hf : ∀ a u, x w = (.done a, u) → (f a).SameBehind g agent u) :
    (x >>= f).SameBehind g agent w := by
  intro calls files
  rw [bind_apply, bind_apply]
  have first := hx calls files
  rcases h : x w with ⟨a | e | _, u⟩ <;> rw [h] at first
  · generalize x (w.behind agent calls files) = other at first
    cases first with
    | same calls' makes => exact (hf a u h calls' _).after makes
    | beyond fails pictured => exact .beyond fails ((keeps a u).pictured pictured)
  · generalize x (w.behind agent calls files) = other at first
    cases first with
    | same calls' makes => exact .same calls' makes
    | beyond fails pictured => exact .beyond fails pictured
  · generalize x (w.behind agent calls files) = other at first
    cases first with
    | same calls' makes => exact .same calls' makes
    | beyond fails pictured => exact .beyond fails pictured

theorem IsBlind.bind {x : Exec α} {f : α → Exec β} (hx : x.IsBlind g)
    (hf : ∀ a, (f a).IsBlind g) : (x >>= f).IsBlind g where
  keeps := hx.keeps.bind fun a => (hf a).keeps
  same agent w plain := by
    refine (hx.same agent w plain).bind (fun a => (hf a).keeps) fun a u h => ?_
    have kept := hx.keeps w
    rw [h] at kept
    exact (hf a).same agent u (plain.of_sameSetting kept.page)

theorem KeepsSetting.attempt {x : Exec α} (hx : x.KeepsSetting) : (attempt x).KeepsSetting := by
  intro w
  have kept := hx w
  unfold Exec.attempt
  rcases h : x w with ⟨a | e | _, u⟩ <;> rw [h] at kept <;> exact kept

/-- A program that ends as another one does but for the value, and in the same world but for a
change that the browser does not matter for, ends so behind the browser as well. -/
theorem EndsBehind.map {files : Files.Tree} {end_ other : Outcome α × World}
    {end' other' : Outcome β × World} (h : EndsBehind g agent files end_ other)
    (same : ∀ calls files', other = (end_.1, end_.2.behind agent calls files') →
      other' = (end'.1, end'.2.behind agent calls files'))
    (pictured : end_.2.IsPictured → end'.2.IsPictured) :
    EndsBehind g agent files end' other' := by
  cases h with
  | same calls makes =>
    rw [same calls _ rfl]
    exact .same calls makes
  | beyond fails taken => exact .beyond fails (pictured taken)

theorem SameBehind.attempt {x : Exec α} {w : World} (hx : x.SameBehind g agent w) :
    (attempt x).SameBehind g agent w := by
  intro calls files
  refine (hx calls files).map (fun calls' files' same => ?_) fun pictured => ?_
  · unfold Exec.attempt
    rw [same]
    rcases x w with ⟨a | e | _, u⟩ <;> rfl
  · rwa [attempt_world]

theorem IsBlind.attempt {x : Exec α} (hx : x.IsBlind g) : (attempt x).IsBlind g where
  keeps := hx.keeps.attempt
  same agent w plain := (hx.same agent w plain).attempt

theorem IsBlind.leavingRetry {x : Exec α} (hx : x.IsBlind g) :
    (ensuring x leaveRetry).IsBlind g where
  keeps w := ⟨(hx.keeps w).page, (hx.keeps w).pictured⟩
  same agent w plain calls files := by
    refine (hx.same agent w plain calls files).map (fun calls' files' same => ?_) id
    unfold ensuring
    rw [same]
    rfl

theorem IsBlind.ite {c : Prop} [Decidable c] {x y : Exec α} (hx : x.IsBlind g)
    (hy : y.IsBlind g) : (if c then x else y).IsBlind g := by
  split
  · exact hx
  · exact hy

theorem keeps_refl (w : World) : w.KeepsPage w :=
  .of_calls (.refl w.page) rfl

theorem blind_pure (a : α) : (pure a : Exec α).IsBlind g :=
  ⟨keeps_refl, fun _ _ _ calls _ => .of_eq calls rfl⟩

theorem blind_fail (e : Fault) : (fail e : Exec α).IsBlind g :=
  ⟨keeps_refl, fun _ _ _ calls _ => .of_eq calls rfl⟩

theorem blind_lift (x : Except Fault α) : (lift x).IsBlind g := by
  cases x with
  | ok a => exact blind_pure a
  | error e => exact blind_fail e

theorem blind_read {f : World → α}
    (blind : ∀ (w : World) agent calls files, f (w.behind agent calls files) = f w) :
    (read f).IsBlind g where
  keeps := keeps_refl
  same agent w _ calls files := by
    refine .of_eq calls ?_
    rw [read_apply, read_apply, blind]

/-- What is changed hangs neither on the browser nor on the calls nor on the files. -/
theorem blind_update {f : World → World} (keeps : ∀ w : World, w.KeepsPage (f w))
    (blind : ∀ (w : World) agent calls files, ∃ calls',
      f (w.behind agent calls files) = (f w).behind agent calls' files) :
    (update f).IsBlind g where
  keeps := keeps
  same agent w _ calls files := by
    obtain ⟨calls', same⟩ := blind w agent calls files
    refine .of_eq calls' ?_
    rw [update_apply, update_apply, same]

theorem blind_onContext (f : RunContext → RunContext) : (onContext f).IsBlind g :=
  blind_update (fun w => .of_calls (.refl w.page) rfl) fun _ _ calls _ => ⟨calls, rfl⟩

theorem blind_log (level : LogLevel) (message : String) : (log level message).IsBlind g :=
  blind_update (fun w => .of_calls (.refl w.page) rfl) fun _ _ calls _ => ⟨calls, rfl⟩

theorem blind_note (c : Call) : (note c).IsBlind g :=
  blind_update (fun w => .of_push (.refl w.page) rfl) fun _ _ calls _ => ⟨calls.push c, rfl⟩

theorem blind_onPage {f : Page → Page} (keeps : ∀ p : Page, p.SameSetting (f p))
    (blind : ∀ (p : Page) agent, f (p.behind agent) = (f p).behind agent) :
    (onPage f).IsBlind g :=
  blind_update (fun w => .of_calls (keeps w.page) rfl) fun w agent calls files =>
    ⟨calls, by simp only [World.behind, blind]⟩

/-! ### Time and failures -/

theorem pass_behind (seconds : Float) (w : World) (agent : String) (calls : Array Call)
    (files : Files.Tree) :
    pass seconds (w.behind agent calls files) =
      ((pass seconds w).1, (pass seconds w).2.behind agent calls files) := by
  unfold pass World.behind
  dsimp only
  split
  · split <;> rfl
  · rfl

theorem keeps_pass (seconds : Float) : (pass seconds).KeepsSetting := by
  intro w
  obtain ⟨t, h⟩ := pass_world seconds w
  rw [h]
  exact .of_calls (.refl w.page) rfl

theorem blind_pass (seconds : Float) : (pass seconds).IsBlind g where
  keeps := keeps_pass seconds
  same agent w _ calls files := .of_eq calls (pass_behind seconds w agent calls files)

theorem blind_pause (seconds : Float) : (pause seconds).IsBlind g :=
  (blind_read fun _ _ _ _ => rfl).bind fun _ =>
    ((blind_note _).bind fun _ => blind_pass _).ite (blind_pass _)

theorem blind_pauseMillis (n : Int) : (pauseMillis n).IsBlind g :=
  ((blind_lift _).bind fun s => blind_pause s).ite (blind_pure _)

theorem blind_pauseFloatMillis (x : Float) : (pauseFloatMillis x).IsBlind g :=
  (blind_pause _).ite (blind_pure _)

theorem failing_apply (c : Call) (w : World) :
    failing c w = (((Page.nextFailure c w.page.failures).1.elim (.done ()) .failed),
      { w with page := { w.page with failures := (Page.nextFailure c w.page.failures).2 } }) := by
  unfold failing
  rw [bind_done (read_apply _ _)]
  rcases Page.nextFailure c w.page.failures with ⟨_ | e, rules⟩ <;> rfl

/-- Where the rules let two calls fail alike, they fail alike behind a browser. -/
theorem failing_behind {c c' : Call} {w : World}
    (alike : Page.nextFailure c' w.page.failures = Page.nextFailure c w.page.failures)
    (agent : String) (calls : Array Call) (files : Files.Tree) :
    failing c' (w.behind agent calls files) =
      ((failing c w).1, (failing c w).2.behind agent calls files) := by
  rw [failing_apply, failing_apply,
    show (w.behind agent calls files).page.failures = w.page.failures from rfl, alike]
  rfl

theorem keeps_failing (c : Call) : (failing c).KeepsSetting := by
  intro w
  rw [failing_apply]
  exact .of_calls ⟨rfl, rfl, Page.aims_nextFailure c w.page.failures⟩ rfl

theorem blind_failing (c : Call) : (failing c).IsBlind g where
  keeps := keeps_failing c
  same agent _ _ calls files := .of_eq calls (failing_behind rfl agent calls files)

/-- Operations of one name take the same time behind a browser, and fail alike where the rules
let them. -/
theorem perform_behind (c c' : Call) {w : World} (name : c'.name = c.name)
    (alike : Page.nextFailure c' w.page.failures = Page.nextFailure c w.page.failures)
    (agent : String) (calls : Array Call) (files : Files.Tree) :
    perform c' (w.behind agent calls files) =
      ((perform c w).1, (perform c w).2.behind agent (calls.push c') files) := by
  have listed : (w.behind agent calls files).listed c' =
      (w.listed c).behind agent (calls.push c') files := rfl
  have latency : (w.behind agent calls files).latency c' = w.latency c := by
    unfold World.latency
    rw [name]
    rfl
  rw [perform_apply, perform_apply, latency, listed]
  split
  · rw [bind_apply, bind_apply, pass_behind]
    rcases pass_cases (w.latency c / 1000.0) (w.listed c) with ⟨-, h⟩ | ⟨d, -, -, h⟩ <;> rw [h]
    exact failing_behind (w := { w.listed c with clock := _ }) alike agent _ files
  · exact failing_behind (w := w.listed c) alike agent _ files

theorem keeps_perform (c : Call) : (perform c).KeepsSetting := by
  intro w
  have listing : w.KeepsPage (w.listed c) := .of_push (.refl w.page) rfl
  rw [perform_apply]
  split
  · exact listing.trans (((keeps_pass _).bind fun _ => keeps_failing c) _)
  · exact listing.trans (keeps_failing c _)

/-- An operation is listed, takes its time and may fail, behind a browser and without one. -/
theorem blind_perform (c : Call) : (perform c).IsBlind g where
  keeps := keeps_perform c
  same agent _ _ calls files := .of_eq (calls.push c) (perform_behind c c rfl rfl agent calls files)

theorem perform_of_quick {c : Call} {w : World} (quick : ¬ 0.0 < w.latency c)
    (sound : ∀ r ∈ w.page.failures, r.operation ≠ c.name) :
    perform c w = (.done (), w.listed c) := by
  rw [perform_apply, if_neg quick, failing_apply,
    show (w.listed c).page.failures = w.page.failures from rfl, Page.nextFailure_of_unnamed sound]
  rfl

/-! ### Operations of a page -/

theorem blind_address : Browse.address.IsBlind g :=
  (blind_failing _).bind fun _ => blind_read fun _ _ _ _ => rfl

theorem blind_asking (c : Call) {f : World → α}
    (blind : ∀ (w : World) agent calls files, f (w.behind agent calls files) = f w) :
    (do perform c; read f).IsBlind g :=
  (blind_perform c).bind fun _ => blind_read blind

theorem blind_waitFor (selector : String) (timeout : Int) :
    (Browse.waitFor selector timeout).IsBlind g := by
  refine (blind_perform _).bind fun _ => (blind_read fun _ _ _ _ => rfl).bind fun there => ?_
  exact (blind_fail _).ite (blind_pure _)

theorem blind_load (url : String) (timeout : Int) :
    (do perform (.goto url timeout); onPage fun p => p.load url).IsBlind g :=
  (blind_perform _).bind fun _ => blind_onPage (fun _ => ⟨rfl, rfl, rfl⟩) fun _ _ => rfl

theorem blind_goto (url : String) (timeout : Int) : (Browse.goto url timeout).IsBlind g where
  keeps := by
    refine (show (read _).KeepsSetting from keeps_refl).bind fun through => ?_
    cases through
    · exact (blind_load (g := g) url timeout).keeps
    · exact ((blind_note (g := g) _).bind fun _ => blind_load url timeout).keeps
  same agent w plain calls files := by
    -- the browser lists a wait besides, and does nothing else
    have direct : Browse.goto url timeout w =
        (do perform (.goto url timeout); onPage fun p => p.load url) w := by
      unfold Browse.goto
      rw [bind_done (read_apply _ _), plain.direct]
      rfl
    rw [direct]
    exact (blind_load url timeout).same agent w plain (calls.push (.waitUntil "networkidle")) files

theorem behind_click (p : Page) (selector agent : String) :
    (p.behind agent).click selector = (p.click selector).behind agent := by
  have applied (effects : List ClickEffect) (q : Page) :
      effects.foldl Page.applyEffect (q.behind agent) =
        (effects.foldl Page.applyEffect q).behind agent := by
    induction effects generalizing q with
    | nil => rfl
    | cons e rest ih => exact ih (q.applyEffect e)
  exact applied _ { p with clicks := p.clicks.put selector ((p.clicks.find? selector).getD 0 + 1) }

theorem throughBrowser_click (p : Page) (selector : String) :
    (p.click selector).throughBrowser = p.throughBrowser := by
  have applied (effects : List ClickEffect) (q : Page) :
      (effects.foldl Page.applyEffect q).throughBrowser = q.throughBrowser := by
    induction effects generalizing q with
    | nil => rfl
    | cons e rest ih => exact ih (q.applyEffect e)
  exact applied _ _

theorem blind_click (selector : String) : (Browse.click selector).IsBlind g := by
  refine (blind_perform _).bind fun _ => blind_onPage (fun p => ?_) fun p => behind_click p selector
  exact ⟨throughBrowser_click p selector, latency_click p selector, by rw [failures_click]⟩

theorem blind_queryAll (selector : String) : (Browse.queryAll selector).IsBlind g := by
  rw [queryAll_eq]
  exact blind_asking _ fun _ _ _ _ => rfl

theorem keeps_screenshot (path : String) : (Browse.screenshot path).KeepsSetting := by
  have making (act : Files.Act Unit) : (onFiles act).KeepsSetting := by
    intro w
    rw [onFiles_apply]
    exact .of_calls (.refl w.page) rfl
  refine (show (read _).KeepsSetting from keeps_refl).bind fun through => ?_
  cases through
  · exact keeps_perform _
  · exact (making _).bind fun _ => keeps_perform _

theorem blind_screenshot (g : Setting) (name : String) :
    (Browse.screenshot (screenshotPath g name)).IsBlind g where
  keeps := keeps_screenshot _
  same agent w plain calls files := by
    rw [screenshot_direct plain.direct]
    cases makes : files.canMake g.options.screenshotDir
    · refine .beyond makes ⟨screenshotPath g name, ?_⟩
      obtain ⟨t, rules, h⟩ := perform_world (.screenshot (screenshotPath g name)) w
      rw [h]
      exact Array.mem_push_self
    · obtain ⟨t, again, taken⟩ := screenshot_of_canMake (w := w.behind agent calls files) rfl
        makes name
      rw [taken]
      exact (EndsBehind.of_eq _ (perform_behind _ _ rfl rfl agent calls t)).after fun _ => again

theorem isPresent_apply {w : World} (plain : w.page.AnswersAtOnce) (selector : String) :
    Browse.isPresent selector w =
      (.done (w.page.isPresent selector), w.listed (.isPresent selector)) := by
  unfold Browse.isPresent
  rw [bind_done (perform_of_quick (c := .isPresent selector) plain.quickLookup plain.soundLookup)]
  rfl

theorem readText_apply {w : World} (plain : w.page.AnswersAtOnce) (selector : String) :
    Browse.readText selector w =
      (.done (w.page.textOf? selector), w.listed (.textContent selector)) := by
  unfold Browse.readText
  rw [bind_done (perform_of_quick (c := .textContent selector) plain.quickText plain.soundText)]
  rfl

/-- On a plain page reading a text gives the same whether or not its element is looked up first. -/
theorem textContent_apply {w : World} (plain : w.page.AnswersAtOnce) (selector : String) :
    ∃ calls, Browse.textContent selector w =
      (.done (w.page.textOf? selector), { w with calls }) := by
  unfold Browse.textContent
  rw [bind_done (read_apply _ _)]
  cases w.page.throughBrowser
  · exact ⟨_, readText_apply plain selector⟩
  · rw [if_pos rfl, bind_done (isPresent_apply plain selector)]
    cases there : w.page.isPresent selector
    · rw [Page.textOf?_of_absent there]
      exact ⟨_, rfl⟩
    · exact ⟨_, readText_apply (w := w.listed (.isPresent selector)) plain selector⟩

theorem blind_textContent (selector : String) : (Browse.textContent selector).IsBlind g where
  keeps := by
    have asking {γ : Type} (c : Call) (f : World → γ) : (do perform c; read f).KeepsSetting :=
      (keeps_perform c).bind fun _ => keeps_refl
    refine (show (read _).KeepsSetting from keeps_refl).bind fun through => ?_
    cases through
    · exact asking _ _
    · refine (asking _ _).bind fun there => ?_
      cases there
      · exact keeps_refl
      · exact asking _ _
  same agent w plain calls files := by
    have answers : (w.behind agent calls files).page.AnswersAtOnce :=
      ⟨plain.quickLookup, plain.quickText, plain.soundLookup, plain.soundText⟩
    have direct : Browse.textContent selector w = Browse.readText selector w := by
      unfold Browse.textContent
      rw [bind_done (read_apply _ _), plain.direct]
      rfl
    obtain ⟨later, h⟩ := textContent_apply answers selector
    rw [direct, readText_apply plain.toAnswersAtOnce selector, h]
    exact .of_eq later rfl

end Exec

variable {g : Setting}

/-! ## Conditions -/

namespace Condition

theorem blind_compare (c : Condition) : c.compare.IsBlind g := by
  unfold compare
  split
  · exact (blind_read fun _ _ _ _ => rfl).bind fun _ => blind_pure _
  · exact (blind_textContent _).bind fun _ => blind_pure _
  · exact blind_pure _

theorem blind_contained (c : Condition) (selector : String) : (c.contained selector).IsBlind g :=
  (blind_textContent selector).bind fun _ => blind_pure _

theorem blind_askElement (c : Condition) (selector : String) :
    (c.askElement selector).IsBlind g := by
  unfold askElement
  split
  · exact blind_asking _ fun _ _ _ _ => rfl
  · exact (blind_asking _ fun _ _ _ _ => rfl).bind fun _ => blind_pure _
  · exact blind_asking _ fun _ _ _ _ => rfl
  · exact blind_asking _ fun _ _ _ _ => rfl
  · exact (blind_contained c selector).bind fun _ => blind_pure _
  · exact (blind_contained c selector).bind fun _ => blind_pure _
  · exact blind_pure _
  · exact blind_pure _

theorem blind_ask (c : Condition) : c.ask.IsBlind g := by
  unfold ask
  split
  · exact (blind_compare c).bind fun _ => blind_pure _
  · refine (blind_compare c).bind fun found => ?_
    cases found <;> exact blind_pure _
  · split
    · exact blind_askElement c _
    · exact blind_pure _

theorem blind_evaluate (c : Condition) : c.evaluate.IsBlind g := by
  refine (blind_ask c).attempt.bind fun answer => ?_
  cases answer <;> exact blind_pure _

theorem blind_evaluateAll (cs : List Condition) : (evaluateAll cs).IsBlind g := by
  induction cs with
  | nil => exact blind_pure _
  | cons c rest ih => exact (blind_evaluate c).bind fun _ => ih.ite (blind_pure _)

end Condition

/-! ## Actions -/

theorem blind_takeScreenshot (g : Setting) (name : String) :
    (takeScreenshot g name).IsBlind g :=
  (Exec.blind_screenshot g name).bind fun _ => blind_pure _

theorem blind_errorScreenshot (g : Setting) (id : String) :
    (errorScreenshot g id).IsBlind g := by
  refine (blind_takeScreenshot g _).attempt.bind fun taken => ?_
  cases taken with
  | ok path => exact (blind_onContext _).bind fun _ => blind_pure _
  | error e => exact (blind_log _ _).bind fun _ => blind_pure _

theorem blind_warnAll (messages : List String) : (warnAll messages).IsBlind g := by
  induction messages with
  | nil => exact blind_pure _
  | cons m rest ih => exact (blind_onContext _).bind fun _ => ih

namespace Step

theorem blind_resolve (s : Step) : s.resolve.IsBlind g :=
  (blind_read fun _ _ _ _ => rfl).bind fun _ => (blind_warnAll _).bind fun _ => blind_pure _

theorem blind_refuse {α : Type} (s : Step) (message : String) :
    (s.refuse message : Exec α).IsBlind g :=
  blind_fail _

theorem blind_bindParts (data : Value) (extracting : Bool) (bindings : Members Value) :
    (bindParts data extracting bindings).IsBlind g := by
  induction bindings with
  | nil => exact blind_pure _
  | cons b rest ih => exact (blind_onContext _).bind fun _ => ih

theorem blind_navigate (s : Step) (g : Setting) : (s.navigate g).IsBlind g := by
  unfold navigate
  split
  · exact (blind_goto _ _).bind fun _ => blind_address.bind fun _ =>
      (blind_onContext _).bind fun _ => blind_pure _
  · exact s.blind_refuse _

theorem blind_wait (s : Step) (g : Setting) : (s.wait g).IsBlind g := by
  unfold wait
  split
  · exact s.blind_refuse _
  · exact (blind_waitFor _ _).bind fun _ => blind_pure _
  · exact (blind_lift _).bind fun x => (blind_pauseFloatMillis x).bind fun _ => blind_pure _
  · exact s.blind_refuse _

theorem blind_click (s : Step) (g : Setting) : (s.click g).IsBlind g := by
  unfold click
  split
  · exact (blind_waitFor _ _).bind fun _ => (Exec.blind_click _).bind fun _ => blind_pure _
  · exact s.blind_refuse _

theorem blind_fill (s : Step) (g : Setting) : (s.fill g).IsBlind g := by
  unfold fill
  split
  · exact (blind_waitFor _ _).bind fun _ => (blind_perform _).bind fun _ => blind_pure _
  · exact s.blind_refuse _

theorem blind_select (s : Step) (g : Setting) : (s.select g).IsBlind g := by
  unfold select
  split
  · exact (blind_waitFor _ _).bind fun _ => (blind_perform _).bind fun _ => blind_pure _
  · exact s.blind_refuse _

theorem blind_extract (s : Step) (g : Setting) : (s.extract g).IsBlind g := by
  unfold extract
  split
  · exact s.blind_refuse _
  · refine (blind_waitFor _ _).attempt.bind fun waited => ?_
    cases waited with
    | error e => exact ((blind_log _ _).bind fun _ => blind_pure _).ite (blind_fail e)
    | ok _ =>
      refine (blind_queryAll _).bind fun found => ?_
      exact (blind_bindParts _ _ _).bind fun _ => blind_pure _

theorem blind_scroll (s : Step) (g : Setting) : (s.scroll g).IsBlind g := by
  unfold scroll
  split
  · exact (blind_perform _).bind fun _ => blind_pure _
  · refine (blind_lift _).bind fun n => ?_
    split
    · exact (blind_perform _).bind fun _ => blind_pure _
    · exact (blind_perform _).bind fun _ => blind_pure _

theorem blind_screenshot (s : Step) (g : Setting) :
    (s.screenshot g).IsBlind g :=
  (blind_takeScreenshot g _).bind fun _ => (blind_onContext _).bind fun _ => blind_pure _

theorem blind_evaluate (s : Step) : s.evaluate.IsBlind g := by
  unfold evaluate
  split
  · exact (blind_asking _ fun _ _ _ _ => rfl).bind fun _ => (blind_bindParts _ _ _).bind fun _ =>
      blind_pure _
  · exact s.blind_refuse _

theorem blind_isAdmitted (s : Step) : s.isAdmitted.IsBlind g := by
  unfold isAdmitted
  split
  · exact Condition.blind_evaluateAll _
  · exact blind_pure _

end Step

/-! ### Programs of actions -/

section Composite

variable {body : Exec Unit} (s : Step) (size : Nat) (hb : body.IsBlind g)
include hb

theorem blind_loopRounds (bound left : Nat) : (loopRounds s body bound left).IsBlind g := by
  induction left with
  | zero => exact blind_pure _
  | succ left ih =>
    refine s.blind_isAdmitted.bind fun admitted => ?_
    exact ((blind_log _ _).bind fun _ => hb.bind fun _ => ih).ite
      ((blind_log _ _).bind fun _ => blind_pure _)

theorem blind_retryRounds (delay : Int) (bound left : Nat) :
    (retryRounds s body delay bound left).IsBlind g := by
  have entering : (update enterRetry).IsBlind g :=
    blind_update (fun w => .of_calls (.refl w.page) rfl) fun _ _ calls _ => ⟨calls, rfl⟩
  induction left with
  | zero => exact blind_fail _
  | succ left ih =>
    refine (blind_log _ _).bind fun _ => entering.bind fun _ => ?_
    refine hb.leavingRetry.attempt.bind fun tried => ?_
    cases tried with
    | ok _ => exact blind_pure _
    | error e =>
      exact ((blind_log _ _).bind fun _ => (blind_pauseMillis delay).bind fun _ => ih).ite
        (blind_fail e)

theorem blind_runConditional : (runConditional s size body).IsBlind g := by
  unfold runConditional
  split
  · refine (blind_fail _).ite (s.blind_isAdmitted.bind fun admitted => ?_)
    exact ((blind_log _ _).bind fun _ => hb.bind fun _ => blind_pure _).ite
      ((blind_log _ _).bind fun _ => blind_pure _)
  · exact blind_fail _

theorem blind_runLoop : (runLoop s size body).IsBlind g := by
  refine (blind_fail _).ite ((blind_lift _).bind fun bound => ?_)
  exact (blind_loopRounds s hb bound bound).bind fun _ => blind_pure _

theorem blind_runRetry : (runRetry s size body).IsBlind g := by
  refine (blind_fail _).ite ((blind_lift _).bind fun bound => ?_)
  exact (blind_retryRounds s hb _ bound bound).bind fun _ => blind_pure _

end Composite

theorem blind_dispatch (s : Step) (size : Nat) (g : Setting) {body : Exec Unit}
    (hb : body.IsBlind g) :
    (s.dispatch g size body).IsBlind g := by
  unfold Step.dispatch
  split
  · exact s.blind_navigate g
  · exact s.blind_wait g
  · exact s.blind_click g
  · exact s.blind_fill g
  · exact s.blind_select g
  · exact s.blind_extract g
  · exact s.blind_scroll g
  · exact s.blind_screenshot g
  · exact s.blind_evaluate
  · exact blind_runConditional s size hb
  · exact blind_runLoop s size hb
  · exact blind_runRetry s size hb

section Attempts

variable (s : Step) (start : Float)

theorem blind_elapsed : (elapsed start).IsBlind g :=
  blind_read fun _ _ _ _ => rfl

theorem blind_record (r : ActionResult) : (record r).IsBlind g :=
  (blind_onContext _).bind fun _ => blind_pure r

theorem blind_settleFailure (n : Nat) (shot : Option String) (e : Fault) :
    (settleFailure s start n shot e).IsBlind g := by
  refine (blind_elapsed start).bind fun _ => (blind_record _).bind fun r => ?_
  exact ((blind_log _ _).bind fun _ => (blind_onContext _).bind fun _ => blind_pure r).ite
    (blind_fail _)

theorem blind_attemptOnce {work : Exec Yield} (hw : work.IsBlind g)
    (k budget : Nat) :
    (attemptOnce g s start work k budget).IsBlind g := by
  refine (blind_log _ _).bind fun _ => hw.attempt.bind fun tried => ?_
  cases tried with
  | ok y =>
    exact (blind_elapsed start).bind fun _ => (blind_record _).bind fun r => blind_pure _
  | error e =>
    exact ((blind_errorScreenshot g s.id).bind fun _ => blind_pure _).ite
      ((blind_pure _).bind fun _ => blind_pure _)

theorem blind_attempts {work : Exec Yield} (hw : work.IsBlind g)
    (budget left : Nat) :
    (attempts g s start work budget left).IsBlind g := by
  induction left with
  | zero =>
    refine (blind_attemptOnce s start hw _ budget).bind fun tried => ?_
    cases tried with
    | ok r => exact blind_pure r
    | error failure => exact blind_settleFailure s start _ _ _
  | succ left ih =>
    refine (blind_attemptOnce s start hw _ budget).bind fun tried => ?_
    cases tried with
    | ok r => exact blind_pure r
    | error failure => exact (blind_log _ _).bind fun _ => (blind_pauseMillis _).bind fun _ => ih

theorem blind_executeStep (size : Nat) {body : Exec Unit}
    (hb : body.IsBlind g) (depth : Int) :
    (executeStep g s size body depth).IsBlind g := by
  refine (blind_read fun _ _ _ _ => rfl).bind fun start => (blind_fail _).ite ?_
  refine s.blind_isAdmitted.bind fun admitted => IsBlind.ite ?_ ?_
  · refine (blind_read fun _ _ _ _ => rfl).bind fun scope => blind_attempts s start ?_ _ _
    exact s.blind_resolve.bind fun resolved => blind_dispatch resolved size g hb
  · exact (blind_log _ _).bind fun _ => blind_record _

end Attempts

mutual

theorem blind_execute (g : Setting) :
    ∀ (a : Action) (depth : Int), (execute g a depth).IsBlind g
  | ⟨s, none⟩, depth => blind_executeStep s 0 (blind_pure ()) depth
  | ⟨s, some program⟩, depth =>
    blind_executeStep s program.length (blind_executeProgram g program (depth + 1)) depth

theorem blind_executeProgram (g : Setting) :
    ∀ (program : List Action) (depth : Int), (executeProgram g program depth).IsBlind g
  | [], _ => blind_pure ()
  | a :: rest, depth =>
    (blind_execute g a depth).bind fun _ => blind_executeProgram g rest depth

end

end Scout
