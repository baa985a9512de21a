import Scout.Proofs.Projections
import Scout.Proofs.Run.Filling
import Scout.Proofs.Run.Stillness

/-!
# Where the values of a run come from

Everything that a run adds to its variables, its fields and its results has one of a few sources.
A variable is set to the address of the page, or to what a path of an action leads to in the answer
of the page; a field to the latter, or to what a rule fills it with; and a result holds the answer
itself, a count of rounds, or nothing.  The invariant that carries this says so of the world after
every step, also when the step fails or is cut.
-/

namespace Scout

open Exec

/-! ## Invariants -/

namespace Exec

variable {α β : Type} {I : World → Prop} {P : α → Prop} {Q : β → Prop}

/-- The program keeps the invariant however it ends, and what it ends with has the property. -/
def Maintains (x : Exec α) (I : World → Prop) (P : α → Prop) : Prop :=
  ∀ w, I w → I (x w).2 ∧ ∀ a, (x w).1 = .done a → P a

theorem maintains_pure {a : α} (ha : P a) : (pure a : Exec α).Maintains I P := by
  refine fun w holds => ⟨holds, fun b done => ?_⟩
  cases done
  exact ha

theorem maintains_fail (e : Fault) : (fail e : Exec α).Maintains I P :=
  fun _ holds => ⟨holds, fun _ done => nomatch done⟩

theorem maintains_read {f : World → α} (h : ∀ w, I w → P (f w)) : (read f).Maintains I P := by
  refine fun w holds => ⟨holds, fun a done => ?_⟩
  cases done
  exact h w holds

theorem maintains_update {f : World → World} (h : ∀ w, I w → I (f w)) :
    (update f).Maintains I fun _ => True :=
  fun w holds => ⟨h w holds, fun _ _ => trivial⟩

theorem Maintains.bind {x : Exec α} {f : α → Exec β} (hx : x.Maintains I P)
    (hf : ∀ a, P a → (f a).Maintains I Q) : (x >>= f).Maintains I Q := by
  intro w holds
  have first := hx w holds
  rw [bind_apply]
  rcases h : x w with ⟨a | e | _, u⟩ <;> rw [h] at first
  · exact hf a (first.2 a rfl) u first.1
  · exact ⟨first.1, fun _ done => nomatch done⟩
  · exact ⟨first.1, fun _ done => nomatch done⟩

/-- Where the value does not matter for what follows. -/
theorem Maintains.next {x : Exec α} {f : α → Exec β} (hx : x.Maintains I fun _ => True)
    (hf : ∀ a, (f a).Maintains I Q) : (x >>= f).Maintains I Q :=
  hx.bind fun a _ => hf a

theorem Maintains.attempt {x : Exec α} (hx : x.Maintains I P) :
    (attempt x).Maintains I fun r => ∀ a, r = .ok a → P a := by
  intro w holds
  have all := hx w holds
  refine ⟨by rw [attempt_world]; exact all.1, ?_⟩
  unfold Exec.attempt
  rcases h : x w with ⟨a | e | _, u⟩ <;> rw [h] at all <;> rintro r done b rfl <;> cases done
  exact all.2 a rfl

theorem Maintains.ensuring {x : Exec α} {f : World → World} (hx : x.Maintains I P)
    (mend : ∀ w, I w → I (f w)) : (ensuring x f).Maintains I P := by
  intro w holds
  have all := hx w holds
  unfold Exec.ensuring
  rcases h : x w with ⟨out, u⟩
  rw [h] at all
  exact ⟨mend u all.1, all.2⟩

theorem Maintains.ite {c : Prop} [Decidable c] {x y : Exec α} (hx : x.Maintains I P)
    (hy : y.Maintains I P) : (if c then x else y).Maintains I P := by
  split
  · exact hx
  · exact hy

end Exec

/-! ## Sources -/

/-- What an action of the kind can find on a page, whatever the run has made of the page before. -/
inductive Page.Finds (page : Page) : ActionKind → Value → Prop
  | extracted {q : Page} (becomes : page.Becomes q) (selector : String) :
      Finds page .extract (Step.foundData (q.matched selector))
  | evaluated {q : Page} (becomes : page.Becomes q) (expression : String) :
      Finds page .evaluate (.ofOption (q.expressions.find? expression))

/-- What a rule can be answered for a selector. -/
inductive Page.Answers (page : Page) (selector : String) : Harvest.Answer → Prop
  | fault (e : Fault) : Answers page selector (.error e)
  | shown {q : Page} (becomes : page.Becomes q) : Answers page selector (.ok (q.matched selector))

/-- An action of the playbook, or one inside of such an action. -/
def Playbook.Performs (p : Playbook) (a : Action) : Prop :=
  ∃ b ∈ p.actions, a = b ∨ a.Inside b

/-- What a run of the playbook on a page can set a variable to. -/
inductive Playbook.Sets (p : Playbook) (page : Page) : String → Value → Prop
  | address {q : Page} (becomes : page.Becomes q) : Sets p page "currentUrl" (.text q.url)
  | bound {a : Action} {name : String} {path data : Value} (performed : p.Performs a)
      (binds : (name, path) ∈ a.step.bindings.getD []) (finds : page.Finds a.kind data) :
      Sets p page name (data.atPath path.display)

/-- What it can set a field to. -/
inductive Playbook.Fills (p : Playbook) (page : Page) : String → Value → Prop
  | bound {a : Action} {name : String} {path data : Value} (performed : p.Performs a)
      (binds : (name, path) ∈ a.step.bindings.getD []) (extracts : a.kind = .extract)
      (finds : page.Finds a.kind data) : Fills p page name (data.atPath path.display)
  | filled {r : ExtractionRule} {answer : Harvest.Answer} (rule : r ∈ p.rules)
      (answers : page.Answers r.selector answer) : Fills p page r.field (Harvest.fill r answer)

/-- What the result of one of its actions can hold. -/
inductive Playbook.Yields (p : Playbook) (page : Page) : Value → Prop
  | nothing : Yields p page .null
  | rounds (n : Nat) : Yields p page (.record [("iterations", .int n)])
  | tries (n : Nat) : Yields p page (.record [("attempts", .int n)])
  | found {a : Action} {data : Value} (performed : p.Performs a) (finds : page.Finds a.kind data) :
      Yields p page data

/-- Which variables, fields and results can come to hold which values. -/
structure Sources where
  vars : String → Value → Prop
  fields : String → Value → Prop
  results : Value → Prop

def Playbook.sources (p : Playbook) (page : Page) : Sources :=
  ⟨p.Sets page, p.Fills page, p.Yields page⟩

/-- Members that have come from the given ones by setting some of them to such values. -/
inductive Members.Grown (given : Members Value) (A : String → Value → Prop) : Members Value → Prop
  | given : Grown given A given
  | put {ms : Members Value} (before : Grown given A ms) {name : String} {v : Value}
      (added : A name v) : Grown given A (ms.put name v)

/-- Variables, fields and results have come from the given variables alone, by these sources. -/
structure RunContext.Grown (given : Members Value) (S : Sources) (c : RunContext) : Prop where
  vars : Members.Grown given S.vars c.vars
  extracted : Members.Grown [] S.fields c.extracted
  results : ∀ r ∈ c.results, S.results r.extracted

/-- They have done so on a page that has come from the given one. -/
structure World.Grown (page : Page) (given : Members Value) (S : Sources) (w : World) : Prop where
  page : page.Becomes w.page
  context : w.context.Grown given S

/-- The sources allow what any playbook can add. -/
structure Sources.Admits (S : Sources) (page : Page) : Prop where
  address : ∀ q, page.Becomes q → S.vars "currentUrl" (.text q.url)
  nothing : S.results .null
  rounds : ∀ n : Nat, S.results (.record [("iterations", .int n)])
  tries : ∀ n : Nat, S.results (.record [("attempts", .int n)])

/-- They allow what the step finds on the page and what it binds of that. -/
structure Step.AddsTo (s : Step) (page : Page) (S : Sources) : Prop where
  results : ∀ data, page.Finds s.kind data → S.results data
  vars : ∀ data, page.Finds s.kind data → ∀ b ∈ s.bindings.getD [],
    S.vars b.1 (data.atPath b.2.display)
  fields : s.kind = .extract → ∀ data, page.Finds s.kind data → ∀ b ∈ s.bindings.getD [],
    S.fields b.1 (data.atPath b.2.display)

/-- They allow what the rule fills its field with. -/
def ExtractionRule.AddsTo (r : ExtractionRule) (page : Page) (S : Sources) : Prop :=
  ∀ answer, page.Answers r.selector answer → S.fields r.field (Harvest.fill r answer)

namespace Playbook

variable {p : Playbook} {page : Page}

theorem admits_sources : (p.sources page).Admits page :=
  ⟨fun _ => .address, .nothing, .rounds, .tries⟩

theorem Performs.addsTo {a : Action} (performed : p.Performs a) :
    a.step.AddsTo page (p.sources page) where
  results _ finds := .found performed finds
  vars _ finds _ binds := .bound performed binds finds
  fields extracts _ finds _ binds := .bound performed binds extracts finds

theorem rule_addsTo {r : ExtractionRule} (rule : r ∈ p.rules) : r.AddsTo page (p.sources page) :=
  fun _ answers => .filled rule answers

end Playbook

variable {page : Page} {given : Members Value} {S : Sources}

theorem World.Mild.grown {w u : World} (h : w.Mild u) (before : w.Grown page given S) :
    u.Grown page given S := by
  refine ⟨before.page.trans h.page, ⟨?_, ?_, ?_⟩⟩
  · rw [h.vars]
    exact before.context.vars
  · rw [h.extracted]
    exact before.context.extracted
  · rw [h.results]
    exact before.context.results

theorem Exec.Relates.grows {α : Type} {x : Exec α} (hx : x.IsMild) :
    x.Maintains (World.Grown page given S) fun _ => True :=
  fun w before => ⟨(hx w).grown before, fun _ _ => trivial⟩

theorem grows_onContext {f : RunContext → RunContext}
    (h : ∀ c, RunContext.Grown given S c → RunContext.Grown given S (f c)) :
    (onContext f).Maintains (World.Grown page given S) fun _ => True :=
  maintains_update fun w before => ⟨before.page, h w.context before.context⟩

theorem grows_warn (message : String) :
    (warn message).Maintains (World.Grown page given S) fun _ => True :=
  grows_onContext fun _ before => ⟨before.vars, before.extracted, before.results⟩

/-! ## Leaf actions -/

theorem grows_queryAll (selector : String) :
    (Browse.queryAll selector).Maintains (World.Grown page given S) fun found =>
      ∃ q, page.Becomes q ∧ q.matched selector = found := by
  rw [queryAll_eq]
  exact (mild_perform _).grows.next fun _ =>
    maintains_read fun w before => ⟨w.page, before.page, rfl⟩

theorem grows_address :
    Browse.address.Maintains (World.Grown page given S) fun url =>
      ∃ q, page.Becomes q ∧ q.url = url :=
  (mild_failing _).grows.next fun _ => maintains_read fun w before => ⟨w.page, before.page, rfl⟩

theorem grows_evaluation (expression : String) :
    (Browse.evaluate expression).Maintains (World.Grown page given S) (page.Finds .evaluate) :=
  (mild_perform _).grows.next fun _ =>
    maintains_read fun _ before => .evaluated before.page expression

theorem grows_warnAll (messages : List String) :
    (warnAll messages).Maintains (World.Grown page given S) fun _ => True := by
  induction messages with
  | nil => exact (mild_pure _).grows
  | cons m rest ih =>
    refine Maintains.next (grows_onContext fun c before => ?_) fun _ => ih
    split
    · exact before
    · exact ⟨before.vars, before.extracted, before.results⟩

/-- The step of an execution is the given one in other words: it finds and binds the same. -/
theorem Step.grows_resolve {s : Step} (adds : s.AddsTo page S) :
    s.resolve.Maintains (World.Grown page given S) fun t => t.AddsTo page S :=
  (mild_read _).grows.next fun _ => (grows_warnAll _).next fun _ =>
    maintains_pure ⟨adds.results, adds.vars, adds.fields⟩

namespace Step

/-- An attempt that yields what the sources allow. -/
abbrev Grows (x : Exec Yield) (page : Page) (given : Members Value) (S : Sources) : Prop :=
  x.Maintains (World.Grown page given S) fun y => S.results y.extracted

theorem grows_nothing {x : Exec Unit} (admits : S.Admits page)
    (hx : x.Maintains (World.Grown page given S) fun _ => True) :
    Grows (do x; pure .nothing) page given S :=
  hx.next fun _ => maintains_pure admits.nothing

theorem grows_bindParts {data : Value} (extracting : Bool) {bindings : Members Value}
    (vars : ∀ b ∈ bindings, S.vars b.1 (data.atPath b.2.display))
    (fields : extracting = true → ∀ b ∈ bindings, S.fields b.1 (data.atPath b.2.display)) :
    (bindParts data extracting bindings).Maintains (World.Grown page given S) fun _ => True := by
  induction bindings with
  | nil => exact (mild_pure _).grows
  | cons b rest ih =>
    have later := ih (fun x mem => vars x (List.mem_cons_of_mem b mem)) fun extracts x mem =>
      fields extracts x (List.mem_cons_of_mem b mem)
    refine Maintains.next (grows_onContext fun c before => ?_) fun _ => later
    refine ⟨.put before.vars (vars b List.mem_cons_self), ?_, before.results⟩
    split
    · next extracts => exact .put before.extracted (fields extracts b List.mem_cons_self)
    · exact before.extracted

theorem grows_navigate (s : Step) (g : Setting) (admits : S.Admits page) :
    Grows (s.navigate g) page given S := by
  unfold navigate
  split
  · refine (mild_goto _ _).grows.next fun _ => grows_address.bind fun url shown => ?_
    obtain ⟨q, becomes, rfl⟩ := shown
    apply grows_nothing admits
    apply grows_onContext
    intro c before
    exact ⟨.put before.vars (admits.address q becomes), before.extracted, before.results⟩
  · exact maintains_fail _

theorem grows_wait (s : Step) (g : Setting) (admits : S.Admits page) :
    Grows (s.wait g) page given S := by
  unfold wait
  split
  · exact maintains_fail _
  · exact grows_nothing admits (mild_waitFor _ _).grows
  · exact (mild_lift _).grows.next fun x => grows_nothing admits (mild_pauseFloatMillis x).grows
  · exact maintains_fail _

theorem grows_click (s : Step) (g : Setting) (admits : S.Admits page) :
    Grows (s.click g) page given S := by
  unfold click
  split
  · exact (mild_waitFor _ _).grows.next fun _ => grows_nothing admits (Exec.mild_click _).grows
  · exact maintains_fail _

theorem grows_fill (s : Step) (g : Setting) (admits : S.Admits page) :
    Grows (s.fill g) page given S := by
  unfold fill
  split
  · exact (mild_waitFor _ _).grows.next fun _ => grows_nothing admits (mild_perform _).grows
  · exact maintains_fail _

theorem grows_select (s : Step) (g : Setting) (admits : S.Admits page) :
    Grows (s.select g) page given S := by
  unfold select
  split
  · exact (mild_waitFor _ _).grows.next fun _ => grows_nothing admits (mild_perform _).grows
  · exact maintains_fail _

theorem grows_scroll (s : Step) (g : Setting) (admits : S.Admits page) :
    Grows (s.scroll g) page given S := by
  unfold scroll
  split
  · exact grows_nothing admits (mild_perform _).grows
  · refine (mild_lift _).grows.next fun n => ?_
    split
    · exact grows_nothing admits (mild_perform _).grows
    · exact grows_nothing admits (mild_perform _).grows

theorem grows_screenshot (s : Step) (g : Setting) (admits : S.Admits page) :
    Grows (s.screenshot g) page given S := by
  refine (mild_takeScreenshot g _).grows.next fun path => ?_
  exact (mild_keepScreenshot path).grows.next fun _ => maintains_pure admits.nothing

theorem grows_extract {s : Step} (g : Setting) (kind : s.kind = .extract) (admits : S.Admits page)
    (adds : s.AddsTo page S) : Grows (s.extract g) page given S := by
  unfold extract
  split
  · exact maintains_fail _
  · next selector _ =>
    refine (mild_waitFor _ _).attempt.grows.next fun waited => ?_
    cases waited with
    | error e => exact (grows_nothing admits (mild_log _ _).grows).ite (maintains_fail e)
    | ok _ =>
      refine (grows_queryAll _).bind fun found shown => ?_
      obtain ⟨q, becomes, rfl⟩ := shown
      have finds : page.Finds s.kind (foundData (q.matched selector)) := by
        rw [kind]
        exact .extracted becomes selector
      refine (grows_bindParts true (adds.vars _ finds) fun _ => adds.fields kind _ finds).next ?_
      exact fun _ => maintains_pure (adds.results _ finds)

theorem grows_evaluate {s : Step} (kind : s.kind = .evaluate) (adds : s.AddsTo page S) :
    Grows s.evaluate page given S := by
  unfold evaluate
  split
  · refine (grows_evaluation _).bind fun data finds => ?_
    rw [← kind] at finds
    refine (grows_bindParts false (adds.vars data finds) fun extracts => ?_).next ?_
    · cases extracts
    · exact fun _ => maintains_pure (adds.results data finds)
  · exact maintains_fail _

end Step

/-! ## Composite actions -/

section Composite

variable {body : Exec Unit} (s : Step) (size : Nat)
  (hb : body.Maintains (World.Grown page given S) fun _ => True)

include hb

theorem grows_loopRounds (bound left : Nat) :
    (loopRounds s body bound left).Maintains (World.Grown page given S) fun _ => True := by
  induction left with
  | zero => exact (mild_pure _).grows
  | succ left ih =>
    refine s.mild_isAdmitted.grows.next fun admitted => Maintains.ite ?_ ?_
    · exact (mild_log _ _).grows.next fun _ => hb.next fun _ => ih
    · exact (mild_log _ _).grows.next fun _ => (mild_pure _).grows

theorem grows_retryRounds (delay : Int) (bound left : Nat) :
    (retryRounds s body delay bound left).Maintains (World.Grown page given S) fun _ => True := by
  have deeper (f : World → World) (same : ∀ w, (f w).page = w.page ∧ (f w).context = w.context)
      (w : World) (before : w.Grown page given S) : (f w).Grown page given S := by
    refine ⟨?_, ?_⟩
    · rw [(same w).1]
      exact before.page
    · rw [(same w).2]
      exact before.context
  induction left with
  | zero => exact maintains_fail _
  | succ left ih =>
    refine (mild_log _ _).grows.next fun _ =>
      (maintains_update (deeper enterRetry fun _ => ⟨rfl, rfl⟩)).next fun _ => ?_
    have tried := (hb.ensuring (deeper leaveRetry fun _ => ⟨rfl, rfl⟩)).attempt
    refine tried.bind fun ended _ => ?_
    cases ended with
    | ok _ => exact (mild_pure _).grows
    | error e =>
      refine Maintains.ite ?_ (maintains_fail e)
      exact (mild_log _ _).grows.next fun _ => (mild_pauseMillis delay).grows.next fun _ => ih

theorem grows_runConditional (admits : S.Admits page) :
    Step.Grows (runConditional s size body) page given S := by
  unfold runConditional
  split
  · refine (maintains_fail _).ite (s.mild_isAdmitted.grows.next fun admitted => Maintains.ite ?_ ?_)
    · exact (mild_log _ _).grows.next fun _ => Step.grows_nothing admits hb
    · exact Step.grows_nothing admits (mild_log _ _).grows
  · exact maintains_fail _

theorem grows_runLoop (admits : S.Admits page) : Step.Grows (runLoop s size body) page given S := by
  refine (maintains_fail _).ite ((mild_lift _).grows.next fun bound => ?_)
  exact (grows_loopRounds s hb bound bound).next fun n =>
    maintains_pure (admits.rounds n)

theorem grows_runRetry (admits : S.Admits page) :
    Step.Grows (runRetry s size body) page given S := by
  refine (maintains_fail _).ite ((mild_lift _).grows.next fun bound => ?_)
  exact (grows_retryRounds s hb _ bound bound).next fun n =>
    maintains_pure (admits.tries n)

theorem Step.grows_dispatch {s : Step} (g : Setting) (admits : S.Admits page)
    (adds : s.AddsTo page S) : Grows (s.dispatch g size body) page given S := by
  unfold dispatch
  cases kind : s.kind with
  | navigate => exact s.grows_navigate g admits
  | wait => exact s.grows_wait g admits
  | click => exact s.grows_click g admits
  | fill => exact s.grows_fill g admits
  | select => exact s.grows_select g admits
  | extract => exact grows_extract g kind admits adds
  | scroll => exact s.grows_scroll g admits
  | screenshot => exact s.grows_screenshot g admits
  | evaluate => exact grows_evaluate kind adds
  | conditional => exact grows_runConditional s size hb admits
  | loop => exact grows_runLoop s size hb admits
  | retry => exact grows_runRetry s size hb admits

end Composite

/-! ## Executions -/

section Executions

variable (g : Setting)

theorem grows_record {r : ActionResult} (added : S.results r.extracted) :
    (record r).Maintains (World.Grown page given S) fun _ => True := by
  refine Maintains.next (grows_onContext fun c before => ?_) fun _ => (mild_pure r).grows
  refine ⟨before.vars, before.extracted, fun x mem => ?_⟩
  obtain old | new := List.mem_append.mp mem
  · exact before.results x old
  · exact List.mem_singleton.mp new ▸ added

theorem grows_settleFailure (s : Step) (start : Float) (n : Nat) (shot : Option String) (e : Fault)
    (admits : S.Admits page) :
    (settleFailure s start n shot e).Maintains (World.Grown page given S) fun _ => True := by
  refine (mild_read _).grows.next fun duration => ?_
  refine (grows_record admits.nothing).next fun r => Maintains.ite ?_ (maintains_fail _)
  exact (mild_log _ _).grows.next fun _ => (grows_warn _).next fun _ => (mild_pure r).grows

theorem grows_attemptOnce (s : Step) (start : Float) {work : Exec Yield}
    (hw : Step.Grows work page given S) (k budget : Nat) :
    (attemptOnce g s start work k budget).Maintains (World.Grown page given S) fun _ => True := by
  refine (mild_log _ _).grows.next fun _ => hw.attempt.bind fun tried yields => ?_
  cases tried with
  | ok y =>
    refine (mild_read _).grows.next fun duration => ?_
    exact (grows_record (yields y rfl)).next fun _ => (mild_pure _).grows
  | error e =>
    refine Maintains.ite ?_ ((mild_pure _).grows)
    exact (mild_errorScreenshot g s.id).grows.next fun _ => (mild_pure _).grows

theorem grows_attempts (s : Step) (start : Float) {work : Exec Yield} (admits : S.Admits page)
    (hw : Step.Grows work page given S) (budget left : Nat) :
    (attempts g s start work budget left).Maintains (World.Grown page given S) fun _ => True := by
  induction left with
  | zero =>
    refine (grows_attemptOnce g s start hw _ budget).next fun tried => ?_
    match tried with
    | .ok r => exact (mild_pure r).grows
    | .error (e, shot) => exact grows_settleFailure s start _ shot e admits
  | succ left ih =>
    refine (grows_attemptOnce g s start hw _ budget).next fun tried => ?_
    match tried with
    | .ok r => exact (mild_pure r).grows
    | .error (e, _) =>
      exact (mild_log _ _).grows.next fun _ => (mild_pauseMillis _).grows.next fun _ => ih

theorem grows_executeStep {s : Step} (size : Nat) {body : Exec Unit} (depth : Int)
    (admits : S.Admits page) (adds : s.AddsTo page S)
    (hb : body.Maintains (World.Grown page given S) fun _ => True) :
    (executeStep g s size body depth).Maintains (World.Grown page given S) fun _ => True := by
  refine (mild_read _).grows.next fun start => Maintains.ite (maintains_fail _) ?_
  refine s.mild_isAdmitted.grows.next fun admitted => Maintains.ite ?_ ?_
  · refine (mild_read _).grows.next fun scope => grows_attempts g s start admits ?_ _ _
    exact (Step.grows_resolve adds).bind fun t adds => Step.grows_dispatch size hb g admits adds
  · exact (mild_log _ _).grows.next fun _ => grows_record admits.nothing

mutual

theorem grows_execute (admits : S.Admits page) : ∀ (a : Action) (depth : Int),
    (∀ b, b = a ∨ b.Inside a → b.step.AddsTo page S) →
      (execute g a depth).Maintains (World.Grown page given S) fun _ => True
  | ⟨s, none⟩, depth, adds =>
    grows_executeStep g 0 depth admits (adds ⟨s, none⟩ (.inl rfl)) (mild_pure ()).grows
  | ⟨s, some program⟩, depth, adds =>
    grows_executeStep g program.length depth admits (adds ⟨s, some program⟩ (.inl rfl))
      (grows_executeProgram admits program (depth + 1) fun b mem c within => by
        apply adds
        obtain rfl | inside := within
        · exact .inr (.direct mem)
        · exact .inr (.deeper mem inside))

theorem grows_executeProgram (admits : S.Admits page) : ∀ (program : List Action) (depth : Int),
    (∀ a ∈ program, ∀ b, b = a ∨ b.Inside a → b.step.AddsTo page S) →
      (executeProgram g program depth).Maintains (World.Grown page given S) fun _ => True
  | [], _, _ => (mild_pure ()).grows
  | a :: rest, depth, adds =>
    (grows_execute admits a depth (adds a List.mem_cons_self)).next fun _ =>
      grows_executeProgram admits rest depth fun b mem => adds b (List.mem_cons_of_mem a mem)

end

end Executions

/-! ## Rules -/

namespace Harvest

theorem grows_applyRule {r : ExtractionRule} (adds : r.AddsTo page S) :
    (applyRule r).Maintains (World.Grown page given S) fun _ => True := by
  intro w before
  obtain ⟨grown, told⟩ := (grows_queryAll r.selector).attempt w before
  rcases asked : attempt (Browse.queryAll r.selector) w with ⟨a | e | _, u⟩ <;>
    rw [asked] at grown told
  · have answered := applyRule_of_answer asked
    by_cases misses : Misses r a
    · rw [answered.1 misses]
      exact ⟨grown, fun _ _ => trivial⟩
    · have answers : page.Answers r.selector a := by
        cases a with
        | error e => exact .fault e
        | ok found =>
          obtain ⟨q, becomes, rfl⟩ := told _ rfl found rfl
          exact .shown becomes
      rw [answered.2 misses]
      exact ⟨⟨grown.page, grown.context.vars, .put grown.context.extracted (adds a answers),
        grown.context.results⟩, fun _ _ => trivial⟩
  · unfold applyRule
    rw [bind_failed asked]
    exact ⟨grown, fun _ _ => trivial⟩
  · unfold applyRule
    rw [bind_cancelled asked]
    exact ⟨grown, fun _ _ => trivial⟩

theorem grows_applyRules {rules : List ExtractionRule} (adds : ∀ r ∈ rules, r.AddsTo page S) :
    (applyRules rules).Maintains (World.Grown page given S) fun _ => True := by
  induction rules with
  | nil => exact (mild_pure _).grows
  | cons r rest ih =>
    exact (grows_applyRule (adds r List.mem_cons_self)).next fun _ =>
      ih fun x mem => adds x (List.mem_cons_of_mem r mem)

end Harvest

/-! ## Runs -/

namespace Run

variable {p : Playbook}

theorem grows_runActions (g : Setting) {actions : List Action} (admits : S.Admits page)
    (adds : ∀ a ∈ actions, ∀ b, b = a ∨ b.Inside a → b.step.AddsTo page S) :
    (runActions g actions).Maintains (World.Grown page given S) fun _ => True := by
  induction actions with
  | nil => exact (mild_pure _).grows
  | cons a rest ih =>
    have later := ih fun b mem => adds b (List.mem_cons_of_mem a mem)
    have first : (execute g a 1).Maintains (World.Grown page given S) fun _ => True :=
      grows_execute g admits a 1 (adds a List.mem_cons_self)
    refine first.attempt.bind fun ended _ => ?_
    cases ended with
    | ok r =>
      refine Maintains.ite ((mild_onContext ?_ ?_).grows.next fun _ => later) later
      · exact fun _ => ⟨rfl, rfl⟩
      · exact fun _ => ⟨rfl, rfl⟩
    | error e =>
      refine Maintains.ite ((mild_addError _).grows.next fun _ => ?_) (maintains_fail e)
      exact Maintains.ite ((mild_log _ _).grows.next fun _ => later) (mild_pure _).grows

theorem grows_body (g : Setting) (now : Moment) :
    (body g p now).Maintains (World.Grown page given (p.sources page)) fun _ => True := by
  have adds (a : Action) (mem : a ∈ p.actions) (b : Action) (within : b = a ∨ b.Inside a) :
      b.step.AddsTo page (p.sources page) := Playbook.Performs.addsTo ⟨a, mem, within⟩
  refine (grows_runActions g Playbook.admits_sources adds).next fun aborted => ?_
  cases aborted with
  | some message => exact (mild_pure _).grows
  | none =>
    refine Maintains.next ?_ fun found => (mild_pure _).grows
    exact (Harvest.grows_applyRules fun _ => Playbook.rule_addsTo).next fun _ =>
      (Harvest.mild_assemble p now).grows

theorem grows_underDeadline (budget : Float) {x : Exec Ending}
    (hx : x.Maintains (World.Grown page given S) fun _ => True) :
    (underDeadline budget x).Maintains (World.Grown page given S) fun _ => True := by
  intro w before
  obtain ⟨after, -⟩ := hx (underLimit budget w) ⟨before.page, before.context⟩
  rw [underDeadline_apply]
  exact ⟨⟨after.page, after.context⟩, fun _ _ => trivial⟩

theorem grows_visit (g : Setting) (now : Moment) :
    (visit g p now).Maintains (World.Grown page given (p.sources page)) fun _ => True := by
  have opens : Browse.openPage.IsMild := (mild_read _).bind fun _ => mild_perform _
  have closes : Browse.closePage.IsMild := mild_perform _
  refine opens.attempt.grows.next fun opened => ?_
  cases opened with
  | error e => exact (mild_reportFault p _ e).grows.next fun _ => (mild_pure _).grows
  | ok _ =>
    refine (grows_underDeadline _ (grows_body g now)).next fun ending => ?_
    refine (mild_reportEnding p _ ending).grows.next fun found => ?_
    refine Maintains.next (closes.attempt.grows.next fun closed => ?_) fun _ => (mild_pure _).grows
    cases closed with
    | ok _ => exact (mild_pure _).grows
    | error e => exact (mild_log _ _).grows.next fun _ => grows_warn _

/-- Whatever a run has at its end, it was given or has gathered. -/
theorem grown_start (o : RunOptions) (at_ : Stamp) (p : Playbook) (vars : Members Value)
    (w : World) :
    (start o at_ p vars w).1.context.Grown (p.vars.overlay vars) (p.sources w.page) := by
  obtain ⟨found, w', visited⟩ := visit_outset (settingOf o at_ p) p at_.moment vars w
  have before : (outset p vars w).Grown w.page (p.vars.overlay vars) (p.sources w.page) :=
    ⟨.same, ⟨.given, .given, fun _ mem => nomatch mem⟩⟩
  have after := (grows_visit (settingOf o at_ p) at_.moment _ before).1
  rw [visited] at after
  obtain ⟨_, _, -, started⟩ := start_of_visit visited
  rw [started]
  exact ⟨after.context.vars, after.context.extracted, after.context.results⟩

end Run

end Scout
