import Scout.Document.Report
import Scout.Files.Tree
import Scout.Page
import Scout.Playbook

/-!
# Sessions

What happens on a page is a program over the page, a clock, and the state that a run builds up.
It ends with a value, with a fault, or by the deadline of the run: a pause that would end at or
after the deadline is cut there, and nothing but the run itself can take that up.
-/

namespace Scout

/-- How a program over a page ends. -/
inductive Outcome (α : Type) where
  | done (value : α)
  | failed (fault : Fault)
  | cancelled

/-- The state of a session. -/
structure World where
  page : Page
  /-- Seconds. -/
  clock : Float
  deadline : Option Float
  calls : Array Call
  /-- Whether pauses are listed among the calls. -/
  listsPauses : Bool
  context : RunContext
  /-- How many retry actions are being executed around the current one. -/
  retryDepth : Nat
  log : Array (LogLevel × String)
  /-- Where a browser keeps its pictures. -/
  files : Files.Tree

def World.opening (page : Page) (vars : Members Value) : World :=
  ⟨page, 0.0, none, #[], true, RunContext.starting vars, 0, #[], Files.Tree.empty⟩

def Exec (α : Type) := World → Outcome α × World

namespace Exec

variable {α β : Type}

protected def pure (a : α) : Exec α := fun w => (.done a, w)

protected def bind (x : Exec α) (f : α → Exec β) : Exec β := fun w =>
  match x w with
  | (.done a, w') => f a w'
  | (.failed e, w') => (.failed e, w')
  | (.cancelled, w') => (.cancelled, w')

instance : Monad Exec where
  pure := Exec.pure
  bind := Exec.bind

def fail (fault : Fault) : Exec α := fun w => (.failed fault, w)

def cancel : Exec α := fun w => (.cancelled, w)

def read (f : World → α) : Exec α := fun w => (.done (f w), w)

def update (f : World → World) : Exec Unit := fun w => (.done (), f w)

/-- A fault becomes a value; a cancellation does not. -/
def attempt (x : Exec α) : Exec (Except Fault α) := fun w =>
  match x w with
  | (.done a, w') => (.done (.ok a), w')
  | (.failed e, w') => (.done (.error e), w')
  | (.cancelled, w') => (.cancelled, w')

/-- However the program ends, the state is mended afterwards. -/
def ensuring (x : Exec α) (f : World → World) : Exec α := fun w =>
  match x w with
  | (outcome, w') => (outcome, f w')

theorem bind_apply (x : Exec α) (f : α → Exec β) (w : World) :
    (x >>= f) w = match x w with
      | (.done a, w') => f a w'
      | (.failed e, w') => (.failed e, w')
      | (.cancelled, w') => (.cancelled, w') := rfl

theorem bind_done {x : Exec α} {w w' : World} {a : α} (h : x w = (.done a, w'))
    (f : α → Exec β) : (x >>= f) w = f a w' := by
  rw [bind_apply, h]

theorem bind_failed {x : Exec α} {w w' : World} {e : Fault} (h : x w = (.failed e, w'))
    (f : α → Exec β) : (x >>= f) w = (.failed e, w') := by
  rw [bind_apply, h]

theorem bind_cancelled {x : Exec α} {w w' : World} (h : x w = (.cancelled, w'))
    (f : α → Exec β) : (x >>= f) w = (.cancelled, w') := by
  rw [bind_apply, h]

theorem bind_eq_done_iff {x : Exec α} {f : α → Exec β} {w w' : World} {b : β} :
    (x >>= f) w = (.done b, w') ↔
      ∃ a w₁, x w = (.done a, w₁) ∧ f a w₁ = (.done b, w') := by
  rw [bind_apply]
  rcases x w with ⟨a | e | _, w₁⟩
  · constructor
    · exact fun h => ⟨a, w₁, rfl, h⟩
    · rintro ⟨a', w₁', ⟨⟩, h⟩
      exact h
  · simp
  · simp

theorem attempt_done {x : Exec α} {w w' : World} {a : α} (h : x w = (.done a, w')) :
    attempt x w = (.done (.ok a), w') := by
  rw [attempt, h]

theorem attempt_failed {x : Exec α} {w w' : World} {e : Fault} (h : x w = (.failed e, w')) :
    attempt x w = (.done (.error e), w') := by
  rw [attempt, h]

theorem attempt_cancelled {x : Exec α} {w w' : World} (h : x w = (.cancelled, w')) :
    attempt x w = (.cancelled, w') := by
  rw [attempt, h]

@[simp] theorem pure_apply (a : α) (w : World) : (Pure.pure a : Exec α) w = (.done a, w) := rfl

@[simp] theorem fail_apply (e : Fault) (w : World) : (fail e : Exec α) w = (.failed e, w) := rfl

@[simp] theorem read_apply (f : World → α) (w : World) : read f w = (.done (f w), w) := rfl

@[simp] theorem update_apply (f : World → World) (w : World) : update f w = (.done (), f w) := rfl

def onContext (f : RunContext → RunContext) : Exec Unit :=
  update fun w => { w with context := f w.context }

def onPage (f : Page → Page) : Exec Unit :=
  update fun w => { w with page := f w.page }

def log (level : LogLevel) (message : String) : Exec Unit :=
  update fun w => { w with log := w.log.push (level, message) }

def warn (message : String) : Exec Unit :=
  onContext fun c => { c with warnings := c.warnings ++ [message] }

/-- Changes the files; a fault among them is one of the page. -/
def onFiles (x : Files.Act Unit) : Exec Unit := fun w =>
  match x.run.run w.files with
  | (.ok _, t) => (.done (), { w with files := t })
  | (.error e, t) => (.failed ⟨.page, e.message⟩, { w with files := t })

def note (call : Call) : Exec Unit :=
  update fun w => { w with calls := w.calls.push call }

/-- Lets the clock run on, no further than the deadline. -/
def pass (seconds : Float) : Exec Unit := fun w =>
  let later := w.clock + seconds
  match w.deadline with
  | some d => if d ≤ later then (.cancelled, { w with clock := d })
    else (.done (), { w with clock := later })
  | none => (.done (), { w with clock := later })

/-- A pause that the run asks for. -/
def pause (seconds : Float) : Exec Unit := do
  if ← read World.listsPauses then note (.sleep seconds)
  pass seconds

/-- The milliseconds of the clock since the given second. -/
def elapsed (start : Float) : Exec Float :=
  read fun w => (w.clock - start) * 1000.0

/-- A call takes its time, then fails if a rule says so. -/
def failing (call : Call) : Exec Unit := do
  let (found, rules) ← read fun w => Page.nextFailure call w.page.failures
  onPage fun p => { p with failures := rules }
  match found with
  | some fault => fail fault
  | none => pure ()

def perform (call : Call) : Exec Unit := do
  note call
  let latency ← read fun w => (w.page.latency.find? call.name).getD 0.0
  if 0.0 < latency then pass (latency / 1000.0)
  failing call

end Exec

/-! ### The operations of a page -/

namespace Browse

open Exec

def address : Exec String := do
  failing .readUrl
  read fun w => w.page.url

def goto (url : String) (timeout : Int) : Exec Unit := do
  if ← read fun w => w.page.throughBrowser then note (.waitUntil "networkidle")
  perform (.goto url timeout)
  onPage fun p => p.load url

def waitFor (selector : String) (timeout : Int) : Exec Unit := do
  perform (.waitForSelector selector timeout)
  if !(← read fun w => w.page.isPresent selector) then
    fail ⟨.page, s!"Timeout {timeout}ms exceeded waiting for {selector}"⟩

def click (selector : String) : Exec Unit := do
  perform (.click selector)
  onPage fun p => p.click selector

def fill (selector value : String) : Exec Unit :=
  perform (.fill selector value)

def selectOption (selector value : String) : Exec Unit :=
  perform (.selectOption selector value)

/-- Elements that come as documents. -/
def readDocuments (documents : List Value) : Exec (List Snapshot) :=
  match Decoder.list Snapshot.decode (.list documents) with
  | .ok found => pure found
  | .invalid issues => fail ⟨.value, "\n".intercalate (issues.map Issue.text)⟩

/-- Through a browser the elements come as documents and are read again. -/
def queryAll (selector : String) : Exec (List Snapshot) := do
  perform (.queryAll selector)
  let found ← read fun w => w.page.matched selector
  if ← read fun w => w.page.throughBrowser then readDocuments (found.map Snapshot.encode)
  else pure found

def isPresent (selector : String) : Exec Bool := do
  perform (.isPresent selector)
  read fun w => w.page.isPresent selector

def isVisible (selector : String) : Exec Bool := do
  perform (.isVisible selector)
  read fun w => w.page.isVisible selector

def isHidden (selector : String) : Exec Bool := do
  perform (.isHidden selector)
  read fun w => w.page.isHidden selector

def readText (selector : String) : Exec (Option String) := do
  perform (.textContent selector)
  read fun w => w.page.textOf? selector

/-- Through a browser the element is looked up first, and read only when it is there. -/
def textContent (selector : String) : Exec (Option String) := do
  if ← read fun w => w.page.throughBrowser then
    if ← isPresent selector then readText selector else pure none
  else readText selector

def scrollIntoView (selector : String) (timeout : Int) : Exec Unit :=
  perform (.scrollIntoView selector timeout)

def scrollBy (pixels : Int) : Exec Unit :=
  perform (.scrollBy pixels)

def scrollTo (pixels : Int) : Exec Unit :=
  perform (.scrollTo pixels)

/-- Through a browser the directory of the picture is made first. -/
def screenshot (path : String) : Exec Unit := do
  if ← read fun w => w.page.throughBrowser then
    onFiles (Files.Act.makeDirectories (Files.parent path))
  perform (.screenshot path)

def evaluate (expression : String) : Exec Value := do
  perform (.evaluate expression)
  read fun w => .ofOption (w.page.expressions.find? expression)

def openPage : Exec Unit := do
  let agent ← read fun w =>
    if w.page.throughBrowser && w.page.userAgent != "" then some w.page.userAgent else none
  perform (.openPage agent)

def closePage : Exec Unit :=
  perform .closePage

end Browse

end Scout
