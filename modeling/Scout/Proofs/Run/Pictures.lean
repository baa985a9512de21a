import Scout.Proofs.Run.PageLife
import Scout.Proofs.Run.Stillness

/-!
# Pictures

A page is pictured by screenshot actions and after failures, and nowhere else.  Every program that
an execution is made of lists no screenshot but to a path that is made for some name, so a run does
not either.
-/

namespace Scout

open Exec

def Call.isScreenshot : Call → Bool
  | .screenshot _ => true
  | _ => false

/-- A screenshot goes to a path that is made for some name. -/
def Call.IsProper (g : Setting) (c : Call) : Prop :=
  ∀ path, c = .screenshot path → ∃ name, path = screenshotPath g name

/-- Between the worlds such operations are listed. -/
def World.ListsProper (g : Setting) (w w' : World) : Prop :=
  ∃ trace, w.Listed w' trace ∧ ∀ c ∈ trace, c.IsProper g

variable {g : Setting}

theorem Call.isProper_of_plain {c : Call} (plain : c.isScreenshot = false) : c.IsProper g := by
  rintro path rfl
  cases plain

theorem Call.plain_of_isQuestion {c : Call} (question : c.isQuestion = true) :
    c.isScreenshot = false := by
  cases c <;> first | rfl | cases question

namespace World

theorem Listed.unique {w w' : World} {trace trace' : List Call} (h : w.Listed w' trace)
    (h' : w.Listed w' trace') : trace = trace' := by
  have both : w.calls ++ trace.toArray = w.calls ++ trace'.toArray := h.symm.trans h'
  simpa using congrArg Array.toList both

theorem ListsProper.of_calls {w w' : World} (same : w'.calls = w.calls) : w.ListsProper g w' :=
  ⟨[], by simp [Listed, same], by simp⟩

theorem ListsProper.trans {w u v : World} (first : w.ListsProper g u) (second : u.ListsProper g v) :
    w.ListsProper g v := by
  obtain ⟨trace, listed, proper⟩ := first
  obtain ⟨later, listed', proper'⟩ := second
  refine ⟨trace ++ later, listed.append listed', fun c hc => ?_⟩
  exact (List.mem_append.mp hc).elim (proper c) (proper' c)

instance : IsTrans World (ListsProper g) :=
  ⟨fun _ _ _ => .trans⟩

theorem Questioned.listsProper {w w' : World} (h : w.Questioned w') : w.ListsProper g w' := by
  obtain ⟨asked, t, rules, questions, rfl⟩ := h
  refine ⟨asked, rfl, fun c hc => ?_⟩
  exact Call.isProper_of_plain (Call.plain_of_isQuestion (questions c hc))

end World

namespace Exec

variable {α : Type}

/-- However the program ends, it has pictured the page to such paths alone. -/
abbrev IsProper (g : Setting) (x : Exec α) : Prop :=
  x.Relates (World.ListsProper g)

theorem proper_of_calls {x : Exec α} (same : ∀ w, (x w).2.calls = w.calls) : x.IsProper g :=
  fun w => .of_calls (same w)

theorem OnlyAsks.isProper {x : Exec α} (hx : x.OnlyAsks) : x.IsProper g :=
  fun w => (hx w).listsProper

theorem proper_pure (a : α) : (pure a : Exec α).IsProper g :=
  proper_of_calls fun _ => rfl

theorem proper_fail (e : Fault) : (fail e : Exec α).IsProper g :=
  proper_of_calls fun _ => rfl

theorem proper_read (f : World → α) : (read f).IsProper g :=
  proper_of_calls fun _ => rfl

theorem proper_lift (x : Except Fault α) : (lift x).IsProper g := by
  cases x with
  | ok a => exact proper_pure a
  | error e => exact proper_fail e

theorem proper_onContext (f : RunContext → RunContext) : (onContext f).IsProper g :=
  proper_of_calls fun _ => rfl

theorem proper_onPage (f : Page → Page) : (onPage f).IsProper g :=
  proper_of_calls fun _ => rfl

theorem proper_log (level : LogLevel) (message : String) : (log level message).IsProper g :=
  proper_of_calls fun _ => rfl

theorem proper_note {c : Call} (plain : c.isScreenshot = false) : (note c).IsProper g :=
  fun w => ⟨[c], by simp [note, World.Listed], by simpa using Call.isProper_of_plain plain⟩

theorem proper_pass (seconds : Float) : (pass seconds).IsProper g := by
  refine proper_of_calls fun w => ?_
  obtain ⟨t, h⟩ := pass_world seconds w
  rw [h]

theorem proper_pause (seconds : Float) : (pause seconds).IsProper g :=
  (proper_read _).bind fun _ =>
    ((proper_note rfl).bind fun _ => proper_pass _).ite (proper_pass _)

theorem proper_pauseMillis (n : Int) : (pauseMillis n).IsProper g :=
  ((proper_lift _).bind fun s => proper_pause s).ite (proper_pure _)

theorem proper_operation {c : Call} (proper : c.IsProper g) : (perform c).IsProper g := by
  intro w
  obtain ⟨t, rules, h⟩ := perform_world c w
  exact ⟨[c], by simp [World.Listed, h], by simpa using proper⟩

theorem proper_perform {c : Call} (plain : c.isScreenshot = false) : (perform c).IsProper g :=
  proper_operation (Call.isProper_of_plain plain)

theorem proper_asking {c : Call} (plain : c.isScreenshot = false) (f : World → α) :
    (do perform c; read f).IsProper g :=
  (proper_perform plain).bind fun _ => proper_read f

theorem proper_ensuring {x : Exec α} {f : World → World} (hx : x.IsProper g)
    (same : ∀ w : World, (f w).calls = w.calls) : (ensuring x f).IsProper g := by
  intro w
  have ensured : (ensuring x f w).2 = f (x w).2 := by
    unfold ensuring
    rcases x w with ⟨_, u⟩
    rfl
  rw [ensured]
  exact (hx w).trans (.of_calls (same _))

theorem proper_address : Browse.address.IsProper g :=
  proper_of_calls Harvest.calls_address

theorem proper_waitFor (selector : String) (timeout : Int) :
    (Browse.waitFor selector timeout).IsProper g := by
  refine (proper_perform rfl).bind fun _ => (proper_read _).bind fun there => ?_
  exact (proper_fail _).ite (proper_pure _)

theorem proper_goto (url : String) (timeout : Int) : (Browse.goto url timeout).IsProper g := by
  have load : (do perform (.goto url timeout); onPage fun p => p.load url).IsProper g :=
    (proper_perform rfl).bind fun _ => proper_onPage _
  refine (proper_read _).bind fun through => ?_
  cases through
  · exact load
  · exact (proper_note rfl).bind fun _ => load

end Exec

/-! ### Screenshots -/

theorem proper_onFiles (x : Files.Act Unit) : (onFiles x).IsProper g :=
  proper_of_calls fun w => by rw [onFiles_apply]

theorem proper_takeScreenshot (name : String) : (takeScreenshot g name).IsProper g := by
  have shot : (perform (.screenshot (screenshotPath g name))).IsProper g := by
    refine proper_operation ?_
    rintro path ⟨⟩
    exact ⟨name, rfl⟩
  refine Relates.bind ?_ fun _ => proper_pure _
  refine (proper_read _).bind fun through => ?_
  cases through
  · exact shot
  · exact (proper_onFiles _).bind fun _ => shot

theorem proper_errorScreenshot (id : String) : (errorScreenshot g id).IsProper g := by
  refine (proper_takeScreenshot _).attempt.bind fun taken => ?_
  cases taken with
  | ok path => exact (proper_onContext _).bind fun _ => proper_pure _
  | error e => exact (proper_log _ _).bind fun _ => proper_pure _

/-! ### Actions -/

namespace Step

variable (s : Step)

theorem proper_isAdmitted : s.isAdmitted.IsProper g := by
  unfold isAdmitted
  split
  · exact OnlyAsks.isProper (Condition.asks_evaluateAll _)
  · exact proper_pure _

theorem proper_bindParts (data : Value) (extracting : Bool) (bindings : Members Value) :
    (bindParts data extracting bindings).IsProper g := by
  induction bindings with
  | nil => exact proper_pure _
  | cons b rest ih => exact (proper_onContext _).bind fun _ => ih

theorem proper_warnAll (messages : List String) : (warnAll messages).IsProper g := by
  induction messages with
  | nil => exact proper_pure _
  | cons m rest ih => exact (proper_onContext _).bind fun _ => ih

theorem proper_resolve : s.resolve.IsProper g :=
  (proper_read _).bind fun _ => (proper_warnAll _).bind fun _ => proper_pure _

theorem proper_navigate : (s.navigate g).IsProper g := by
  unfold navigate
  split
  · exact (proper_goto _ _).bind fun _ => proper_address.bind fun _ =>
      (proper_onContext _).bind fun _ => proper_pure _
  · exact proper_fail _

theorem proper_wait : (s.wait g).IsProper g := by
  unfold wait
  split
  · exact proper_fail _
  · exact (proper_waitFor _ _).bind fun _ => proper_pure _
  · refine (proper_lift _).bind fun x => Relates.bind ?_ fun _ => proper_pure _
    exact (proper_pause _).ite (proper_pure _)
  · exact proper_fail _

theorem proper_click : (s.click g).IsProper g := by
  unfold click
  split
  · refine (proper_waitFor _ _).bind fun _ => Relates.bind ?_ fun _ => proper_pure _
    exact (proper_perform rfl).bind fun _ => proper_onPage _
  · exact proper_fail _

theorem proper_fill : (s.fill g).IsProper g := by
  unfold fill
  split
  · exact (proper_waitFor _ _).bind fun _ => (proper_perform rfl).bind fun _ => proper_pure _
  · exact proper_fail _

theorem proper_select : (s.select g).IsProper g := by
  unfold select
  split
  · exact (proper_waitFor _ _).bind fun _ => (proper_perform rfl).bind fun _ => proper_pure _
  · exact proper_fail _

theorem proper_extract : (s.extract g).IsProper g := by
  unfold extract
  split
  · exact proper_fail _
  · refine (proper_waitFor _ _).attempt.bind fun waited => ?_
    cases waited with
    | error e => exact ((proper_log _ _).bind fun _ => proper_pure _).ite (proper_fail e)
    | ok _ =>
      rw [queryAll_eq]
      refine (proper_asking rfl _).bind fun found => ?_
      exact (proper_bindParts _ _ _).bind fun _ => proper_pure _

theorem proper_scroll : (s.scroll g).IsProper g := by
  unfold scroll
  split
  · exact (proper_perform rfl).bind fun _ => proper_pure _
  · refine (proper_lift _).bind fun n => ?_
    split
    · exact (proper_perform rfl).bind fun _ => proper_pure _
    · exact (proper_perform rfl).bind fun _ => proper_pure _

theorem proper_screenshot : (s.screenshot g).IsProper g :=
  (proper_takeScreenshot _).bind fun _ => (proper_onContext _).bind fun _ => proper_pure _

theorem proper_evaluate : s.evaluate.IsProper g := by
  unfold evaluate
  split
  · exact (proper_asking rfl _).bind fun _ => (proper_bindParts _ _ _).bind fun _ =>
      proper_pure _
  · exact proper_fail _

end Step

section Composite

variable {body : Exec Unit} (s : Step) (size : Nat) (hb : body.IsProper g)

include hb

theorem proper_loopRounds (bound left : Nat) : (loopRounds s body bound left).IsProper g := by
  induction left with
  | zero => exact proper_pure _
  | succ left ih =>
    refine s.proper_isAdmitted.bind fun met => Relates.ite ?_ ?_
    · exact (proper_log _ _).bind fun _ => hb.bind fun _ => ih
    · exact (proper_log _ _).bind fun _ => proper_pure _

theorem proper_retryRounds (delay : Int) (bound left : Nat) :
    (retryRounds s body delay bound left).IsProper g := by
  induction left with
  | zero => exact proper_fail _
  | succ left ih =>
    have round : (attempt (ensuring body leaveRetry)).IsProper g :=
      (proper_ensuring (f := leaveRetry) hb fun _ => rfl).attempt
    have entering : (update enterRetry).IsProper g := proper_of_calls fun _ => rfl
    refine (proper_log _ _).bind fun _ => entering.bind fun _ => round.bind fun tried => ?_
    cases tried with
    | ok _ => exact proper_pure _
    | error e =>
      refine Relates.ite ?_ (proper_fail e)
      exact (proper_log _ _).bind fun _ => (proper_pauseMillis _).bind fun _ => ih

theorem proper_runConditional : (runConditional s size body).IsProper g := by
  unfold runConditional
  split
  · refine Relates.ite (proper_fail _) (s.proper_isAdmitted.bind fun met => Relates.ite ?_ ?_)
    · exact (proper_log _ _).bind fun _ => hb.bind fun _ => proper_pure _
    · exact (proper_log _ _).bind fun _ => proper_pure _
  · exact proper_fail _

theorem proper_runLoop : (runLoop s size body).IsProper g :=
  Relates.ite (proper_fail _) ((proper_lift _).bind fun _ =>
    (proper_loopRounds s hb _ _).bind fun _ => proper_pure _)

theorem proper_runRetry : (runRetry s size body).IsProper g :=
  Relates.ite (proper_fail _) ((proper_lift _).bind fun _ =>
    (proper_retryRounds s hb _ _ _).bind fun _ => proper_pure _)

theorem proper_dispatch : (s.dispatch g size body).IsProper g := by
  unfold Step.dispatch
  split
  · exact s.proper_navigate
  · exact s.proper_wait
  · exact s.proper_click
  · exact s.proper_fill
  · exact s.proper_select
  · exact s.proper_extract
  · exact s.proper_scroll
  · exact s.proper_screenshot
  · exact s.proper_evaluate
  · exact proper_runConditional s size hb
  · exact proper_runLoop s size hb
  · exact proper_runRetry s size hb

end Composite

/-! ### Executions -/

theorem proper_record (r : ActionResult) : (record r).IsProper g :=
  (proper_onContext _).bind fun _ => proper_pure _

theorem proper_settleFailure (s : Step) (start : Float) (n : Nat) (shot : Option String)
    (e : Fault) : (settleFailure s start n shot e).IsProper g := by
  refine (proper_read _).bind fun _ => (proper_record _).bind fun _ => ?_
  refine Relates.ite ?_ (proper_fail _)
  exact (proper_log _ _).bind fun _ => (proper_onContext _).bind fun _ => proper_pure _

section Executions

variable (s : Step) (start : Float) {work : Exec Yield}

theorem proper_attemptOnce (hw : work.IsProper g) (k budget : Nat) :
    (attemptOnce g s start work k budget).IsProper g := by
  refine (proper_log _ _).bind fun _ => hw.attempt.bind fun tried => ?_
  cases tried with
  | ok y => exact (proper_read _).bind fun _ => (proper_record _).bind fun _ => proper_pure _
  | error e =>
    refine Relates.ite ((proper_errorScreenshot s.id).bind fun _ => proper_pure _) ?_
    exact (proper_pure _).bind fun _ => proper_pure _

theorem proper_attempts (hw : work.IsProper g) (budget left : Nat) :
    (attempts g s start work budget left).IsProper g := by
  induction left with
  | zero =>
    refine (proper_attemptOnce s start hw _ _).bind fun tried => ?_
    cases tried with
    | ok r => exact proper_pure r
    | error failed => exact proper_settleFailure s start _ failed.2 failed.1
  | succ left ih =>
    refine (proper_attemptOnce s start hw _ _).bind fun tried => ?_
    cases tried with
    | ok r => exact proper_pure r
    | error failed =>
      exact (proper_log _ _).bind fun _ => (proper_pauseMillis _).bind fun _ => ih

theorem proper_executeStep (size : Nat) {body : Exec Unit} (hb : body.IsProper g) (depth : Int) :
    (executeStep g s size body depth).IsProper g := by
  refine (proper_read _).bind fun start => Relates.ite (proper_fail _) ?_
  refine s.proper_isAdmitted.bind fun met => Relates.ite ?_ ?_
  · refine (proper_read _).bind fun _ => proper_attempts s start ?_ _ _
    exact s.proper_resolve.bind fun r => proper_dispatch r size hb
  · exact (proper_log _ _).bind fun _ => proper_record _

mutual

theorem proper_execute : ∀ (a : Action) (depth : Int), (execute g a depth).IsProper g
  | ⟨s, none⟩, depth => proper_executeStep s 0 (proper_pure ()) depth
  | ⟨s, some program⟩, depth =>
    proper_executeStep s program.length (proper_executeProgram program (depth + 1)) depth

theorem proper_executeProgram : ∀ (program : List Action) (depth : Int),
    (executeProgram g program depth).IsProper g
  | [], _ => proper_pure _
  | a :: rest, depth =>
    (proper_execute a depth).bind fun _ => proper_executeProgram rest depth

end

end Executions

/-! ### Runs -/

namespace Run

theorem proper_runActions (actions : List Action) : (runActions g actions).IsProper g := by
  induction actions with
  | nil => exact proper_pure _
  | cons a rest ih =>
    refine (proper_execute a 1).attempt.bind fun tried => ?_
    cases tried with
    | ok r => exact Relates.ite ((proper_onContext _).bind fun _ => ih) ih
    | error e =>
      refine Relates.ite ((proper_onContext _).bind fun _ => Relates.ite ?_ (proper_pure _))
        (proper_fail e)
      exact (proper_log _ _).bind fun _ => ih

theorem proper_body (p : Playbook) (now : Moment) : (body g p now).IsProper g := by
  refine (proper_runActions p.actions).bind fun aborted => ?_
  cases aborted with
  | some message => exact proper_pure _
  | none =>
    have harvested : (Harvest.run p now).IsProper g := by
      intro w
      obtain ⟨asked, -, -, listed, -⟩ := Harvest.listed_run p now w
      refine ⟨_, listed, fun c hc => ?_⟩
      obtain ⟨r, -, rfl⟩ := List.mem_map.mp hc
      exact Call.isProper_of_plain rfl
    exact harvested.bind fun _ => proper_pure _

/-- Whatever a run pictures of its page, it pictures to a path that is made for some name. -/
theorem proper_start (o : RunOptions) (at_ : Stamp) (p : Playbook) (vars : Members Value)
    (w : World) : w.ListsProper (settingOf o at_ p) (start o at_ p vars w).2 := by
  have pushed {u v : World} {c : Call} (plain : c.isScreenshot = false)
      (calls : v.calls = u.calls.push c) : u.ListsProper (settingOf o at_ p) v :=
    ⟨[c], by simpa [World.Listed] using calls, by simpa using Call.isProper_of_plain plain⟩
  obtain ⟨agent, t, page, first⟩ := openPage_world (outset p vars w)
  rcases ho : Browse.openPage (outset p vars w) with ⟨_ | e | _, w₁⟩ <;> rw [ho] at first
  · rcases ran : body (settingOf o at_ p) p at_.moment (underLimit o.budget w₁) with ⟨out, w₂⟩
    have acted := proper_body p at_.moment (underLimit o.budget w₁) (g := settingOf o at_ p)
    rw [ran] at acted
    obtain ⟨warnings, t', page', log, visited⟩ :=
      visit_opened (settingOf o at_ p) p at_.moment ho ran
    obtain ⟨t'', log', -, started⟩ := start_of_visit visited
    have opened : w.ListsProper (settingOf o at_ p) (underLimit o.budget w₁) :=
      pushed (c := .openPage agent) rfl (congrArg World.calls first)
    exact (opened.trans acted).trans (pushed (c := .closePage) rfl (by rw [started]))
  · obtain ⟨w', visited, log, reported⟩ :=
      visit_unopened (settingOf o at_ p) p at_.moment ho
    obtain ⟨t', log', -, started⟩ := start_of_visit visited
    refine pushed (c := .openPage agent) rfl ?_
    rw [started, reported]
    exact congrArg World.calls first
  · exact absurd (congrArg Prod.fst ho) (openPage_ne_cancelled rfl)

end Run

end Scout
