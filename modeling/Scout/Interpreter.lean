import Scout.Coercion
import Scout.Files.Path
import Scout.Guard
import Scout.Template

/-!
# Executing actions

An action is executed with the failure policy of its playbook: a guard that is not met skips it,
a failed attempt is repeated while there are attempts left, and the last failure becomes a
warning when the action is optional and an action failure otherwise. Composite actions execute
their programs in order, one level deeper. Each execution adds one result to the run, after
those of the actions inside it.
-/

namespace Scout

/-- Limits and places that hold for every run. -/
structure RunOptions where
  screenshotDir : String
  /-- Milliseconds. -/
  navigationTimeout : Int
  /-- Milliseconds. -/
  elementTimeout : Int
  maxDepth : Int
  /-- Seconds; no deadline when it is not positive. -/
  budget : Float

def RunOptions.standard : RunOptions :=
  ⟨"screenshots", 30000, 10000, 8, 0.0⟩

/-- What an execution may look up. -/
structure Setting where
  policy : ErrorPolicy
  options : RunOptions
  /-- Milliseconds since 1970. -/
  stamp : Int

/-- What an attempt at an action yields. -/
structure Yield where
  extracted : Value
  screenshot : Option String

def Yield.nothing : Yield := ⟨.null, none⟩

def Fault.ofAction (id message : String) : Fault :=
  ⟨.action id, message⟩

def Fault.isOfAction (e : Fault) : Bool :=
  match e.kind with
  | .action _ => true
  | _ => false

/-- The fault of an action: one that already names an action stays as it is. -/
def Fault.within (e : Fault) (id : String) : Fault :=
  if e.isOfAction then e else .ofAction id e.message

namespace Exec

def lift {α : Type} : Except Fault α → Exec α
  | .ok a => pure a
  | .error e => fail e

def pauseMillis (n : Int) : Exec Unit := do
  if 0 < n then pause (← lift (secondsOfMillis n))

def pauseFloatMillis (x : Float) : Exec Unit := do
  if 0.0 < x then pause (x / 1000.0)

def record (r : ActionResult) : Exec ActionResult := do
  onContext fun c => { c with results := c.results ++ [r] }
  pure r

end Exec

open Exec

/-! ### Screenshots -/

/-- A character that may stand in the name of a screenshot. -/
def isNameChar (c : Char) : Bool :=
  Text.isWord c || c == '.' || c == '-'

/-- Runs of other characters become one underscore each. -/
def plainName (inRun : Bool) : List Char → List Char
  | [] => []
  | c :: rest =>
    if isNameChar c then c :: plainName false rest
    else if inRun then plainName true rest
    else '_' :: plainName true rest

/-- The name of a screenshot without unsafe characters, never empty. -/
def safeName (name : String) : String :=
  let cs := Text.trimBy (· == '_') (plainName false name.toList)
  if cs.isEmpty then "screenshot" else String.ofList cs

def screenshotPath (g : Setting) (name : String) : String :=
  Files.join g.options.screenshotDir (safeName name ++ "_" ++ toString g.stamp ++ ".png")

def takeScreenshot (g : Setting) (name : String) : Exec String := do
  let path := screenshotPath g name
  Browse.screenshot path
  pure path

def keepScreenshot (path : String) : Exec Unit :=
  onContext fun c => { c with screenshots := c.screenshots ++ [path] }

/-- A screenshot after a failure, if it can be taken. -/
def errorScreenshot (g : Setting) (id : String) : Exec (Option String) := do
  match ← attempt (takeScreenshot g ("error_" ++ id)) with
  | .ok path =>
    keepScreenshot path
    pure (some path)
  | .error e =>
    log .warn s!"Failed to take error screenshot for {id}: {e.message}"
    pure none

/-! ### Resolving variables -/

def unresolvedWarning (id name : String) : String :=
  "Unresolved variable $\x7b" ++ name ++ "\x7d in action " ++ id

def warnOnce (message : String) : Exec Unit :=
  onContext fun c =>
    if c.warnings.contains message then c else { c with warnings := c.warnings ++ [message] }

/-- The templates of an action. -/
def Step.templates (s : Step) : List String :=
  (Condition.named? s.selector).toList ++ (match s.value with
    | some (.text t) => [t]
    | _ => [])

def Step.substitute (s : Step) (vars : Members Value) : Step :=
  { s with
    selector := s.selector.map (Template.substitute vars)
    value := match s.value with
      | some (.text t) => some (.text (Template.substitute vars t))
      | v => v }

def warnAll : List String → Exec Unit
  | [] => pure ()
  | m :: rest => do
    warnOnce m
    warnAll rest

/-- The action with its templates filled in; names without a value are warned about. -/
def Step.resolve (s : Step) : Exec Step := do
  let vars ← read fun w => w.context.vars
  warnAll ((s.templates.flatMap (Template.unresolved vars)).map (unresolvedWarning s.id))
  pure (s.substitute vars)

/-! ### Leaf actions -/

namespace Step

def elementTimeout (s : Step) (g : Setting) : Int :=
  s.timeout.getD g.options.elementTimeout

def waitFor (s : Step) (g : Setting) (selector : String) : Exec Unit :=
  Browse.waitFor selector (s.elementTimeout g)

def refuse {α : Type} (s : Step) (message : String) : Exec α :=
  fail (.ofAction s.id message)

/-- Binds the variables of an action to parts of what it found. -/
def bindParts (data : Value) (extracting : Bool) : Members Value → Exec Unit
  | [] => pure ()
  | (name, path) :: rest => do
    let v := data.atPath path.display
    onContext fun c => { c with
      vars := c.vars.put name v
      extracted := if extracting then c.extracted.put name v else c.extracted }
    bindParts data extracting rest

def navigate (s : Step) (g : Setting) : Exec Yield := do
  match s.value, Scalar.isGiven s.value with
  | some v, true =>
    Browse.goto v.stringify (s.timeout.getD g.options.navigationTimeout)
    let address ← Browse.address
    onContext fun c => { c with vars := c.vars.put "currentUrl" (.text address) }
    pure .nothing
  | _, _ => s.refuse "Navigate action requires a URL value"

def wait (s : Step) (g : Setting) : Exec Yield := do
  match Condition.named? s.selector, s.value, Scalar.isGiven s.value with
  | some _, _, true => s.refuse "Wait action takes either a selector or a time value, not both"
  | some selector, _, false =>
    s.waitFor g selector
    pure .nothing
  | none, some v, true =>
    pauseFloatMillis (← lift v.toNumber)
    pure .nothing
  | none, _, _ => s.refuse "Wait action requires either selector or time value"

def click (s : Step) (g : Setting) : Exec Yield := do
  match Condition.named? s.selector with
  | some selector =>
    s.waitFor g selector
    Browse.click selector
    pure .nothing
  | none => s.refuse "Click action requires a selector"

def fill (s : Step) (g : Setting) : Exec Yield := do
  match Condition.named? s.selector, s.value with
  | some selector, some v =>
    s.waitFor g selector
    Browse.fill selector v.stringify
    pure .nothing
  | _, _ => s.refuse "Fill action requires a selector and a value"

def select (s : Step) (g : Setting) : Exec Yield := do
  match Condition.named? s.selector, s.value with
  | some selector, some v =>
    s.waitFor g selector
    Browse.selectOption selector v.stringify
    pure .nothing
  | _, _ => s.refuse "Select action requires a selector and a value"

/-- What an extraction found: the one element, or the list of them. -/
def foundData : List Snapshot → Value
  | [x] => x.encode
  | xs => .list (xs.map Snapshot.encode)

def extract (s : Step) (g : Setting) : Exec Yield := do
  match Condition.named? s.selector with
  | none => s.refuse "Extract action requires a selector"
  | some selector =>
    match ← attempt (s.waitFor g selector) with
    | .error e =>
      if s.optional then
        log .debug s!"Optional extract {s.id} found nothing"
        pure .nothing
      else fail e
    | .ok _ =>
      let data := foundData (← Browse.queryAll selector)
      bindParts data true (s.bindings.getD [])
      pure ⟨data, none⟩

def scroll (s : Step) (g : Setting) : Exec Yield := do
  match Condition.named? s.selector with
  | some selector => Browse.scrollIntoView selector (s.elementTimeout g)
  | none =>
    let n ← lift (Scalar.pixels s.value)
    if 0 < n then Browse.scrollBy n else Browse.scrollTo n.natAbs
  pure .nothing

def screenshot (s : Step) (g : Setting) : Exec Yield := do
  let name := (Value.ofScalar? s.value).stringify
  let path ← takeScreenshot g (if name == "" then "screenshot" else name)
  keepScreenshot path
  pure ⟨.null, some path⟩

def evaluate (s : Step) : Exec Yield := do
  match s.value, Scalar.isGiven s.value with
  | some v, true =>
    let data ← Browse.evaluate v.stringify
    bindParts data false (s.bindings.getD [])
    pure ⟨data, none⟩
  | _, _ => s.refuse "Evaluate action requires an expression value"

end Step

/-! ### Composite actions -/

def standardLoopRounds : Nat := 10
def standardRetryRounds : Nat := 3
def standardRetryDelay : Int := 1000

/-- Whether the conditions of an action, if it has any, are met. -/
def Step.isAdmitted (s : Step) : Exec Bool :=
  match s.conditions with
  | some (c :: cs) => Condition.evaluateAll (c :: cs)
  | _ => pure true

/-- Goes on with a loop that has `left` of `bound` rounds to go; gives the number of rounds done. -/
def loopRounds (s : Step) (body : Exec Unit) (bound : Nat) : Nat → Exec Nat
  | 0 => pure bound
  | left + 1 => do
    if ← s.isAdmitted then
      log .debug s!"Loop {s.id} iteration {bound - left}/{bound}"
      body
      loopRounds s body bound left
    else
      log .debug s!"Loop {s.id} exit condition reached"
      pure (bound - (left + 1))

def enterRetry (w : World) : World := { w with retryDepth := w.retryDepth + 1 }
def leaveRetry (w : World) : World := { w with retryDepth := w.retryDepth - 1 }

/-- Tries a program until an attempt has no action failure; gives the number of that attempt. -/
def retryRounds (s : Step) (body : Exec Unit) (delay : Int) (bound : Nat) : Nat → Exec Nat
  | 0 => s.refuse "All retry attempts failed"
  | left + 1 => do
    let k := bound - left
    log .debug s!"Retry {s.id} attempt {k}/{bound}"
    update enterRetry
    match ← attempt (ensuring body leaveRetry) with
    | .ok _ => pure k
    | .error e =>
      if e.isOfAction && left != 0 then
        log .info s!"Retry {s.id} attempt {k} failed, retrying in {delay}ms"
        pauseMillis delay
        retryRounds s body delay bound left
      else fail e

def runConditional (s : Step) (size : Nat) (body : Exec Unit) : Exec Yield := do
  match s.conditions with
  | some (_ :: _) =>
    if size == 0 then s.refuse "Conditional action requires conditions and actions"
    else if ← s.isAdmitted then
      log .debug s!"Conditions met for {s.id}, executing {size} sub-actions"
      body
      pure .nothing
    else
      log .debug s!"Conditions not met for {s.id}, skipping sub-actions"
      pure .nothing
  | _ => s.refuse "Conditional action requires conditions and actions"

def runLoop (s : Step) (size : Nat) (body : Exec Unit) : Exec Yield := do
  if size == 0 then s.refuse "Loop action requires actions to execute"
  else
    let bound ← lift (Scalar.rounds standardLoopRounds s.value)
    let n ← loopRounds s body bound bound
    pure ⟨.record [("iterations", .int n)], none⟩

def runRetry (s : Step) (size : Nat) (body : Exec Unit) : Exec Yield := do
  if size == 0 then s.refuse "Retry action requires actions to execute"
  else
    let bound ← lift (Scalar.rounds standardRetryRounds s.value)
    let n ← retryRounds s body (s.timeout.getD standardRetryDelay) bound bound
    pure ⟨.record [("attempts", .int n)], none⟩

/-- One attempt at a resolved action; `body` executes its program of `size` actions. -/
def Step.dispatch (s : Step) (g : Setting) (size : Nat) (body : Exec Unit) : Exec Yield :=
  match s.kind with
  | .navigate => s.navigate g
  | .wait => s.wait g
  | .click => s.click g
  | .fill => s.fill g
  | .select => s.select g
  | .extract => s.extract g
  | .scroll => s.scroll g
  | .screenshot => s.screenshot g
  | .evaluate => s.evaluate
  | .conditional => runConditional s size body
  | .loop => runLoop s size body
  | .retry => runRetry s size body

/-! ### Attempts -/

/-- How often an action may be repeated: as often as it says itself; else never when it is
composite or inside a retry; else as the playbook says. -/
def Step.retryBudget (s : Step) (g : Setting) (retryDepth : Nat) : Nat :=
  match s.retries with
  | some n => n.toNat
  | none => if s.kind.isComposite || retryDepth != 0 then 0 else g.policy.maxRetries.toNat

def optionalWarning (id message : String) : String :=
  "Optional action " ++ id ++ " failed: " ++ message

/-- The result of an attempt that failed, recorded, with what follows from it. -/
def settleFailure (s : Step) (start : Float) (attempts : Nat) (shot : Option String) (e : Fault) :
    Exec ActionResult := do
  let duration ← elapsed start
  let r ← record ⟨s.id, false, duration, attempts, false, some e.message, .null, shot⟩
  if s.optional then
    let message := optionalWarning s.id e.message
    log .warn message
    warn message
    pure r
  else fail (e.within s.id)

/-- One attempt: its recorded success, or its fault and the screenshot taken of it. -/
def attemptOnce (g : Setting) (s : Step) (start : Float) (work : Exec Yield) (k budget : Nat) :
    Exec (Except (Fault × Option String) ActionResult) := do
  log .debug s!"Executing action {s.id} ({s.kind.word}) attempt {k}/{budget + 1}"
  match ← attempt work with
  | .ok y =>
    let duration ← elapsed start
    let r ← record ⟨s.id, true, duration, k, false, none, y.extracted, y.screenshot⟩
    pure (.ok r)
  | .error e =>
    let shot ← if g.policy.screenshotOnError then errorScreenshot g s.id else pure none
    pure (.error (e, shot))

/-- Attempts at an action while some number of `budget` repetitions remain. -/
def attempts (g : Setting) (s : Step) (start : Float) (work : Exec Yield) (budget : Nat) :
    Nat → Exec ActionResult
  | 0 => do
    match ← attemptOnce g s start work (budget + 1) budget with
    | .ok r => pure r
    | .error (e, shot) => settleFailure s start (budget + 1) shot e
  | left + 1 => do
    match ← attemptOnce g s start work (budget - left) budget with
    | .ok r => pure r
    | .error (e, _) =>
      log .info s!"Retrying action {s.id} ({left + 1} attempts remaining): {e.message}"
      pauseMillis g.policy.retryDelay
      attempts g s start work budget left

def depthFault (g : Setting) (id : String) : Fault :=
  .ofAction id s!"Maximum action nesting depth ({g.options.maxDepth}) exceeded"

/-- Executes an action whose program of `size` actions is executed by `body`. -/
def executeStep (g : Setting) (s : Step) (size : Nat) (body : Exec Unit) (depth : Int) :
    Exec ActionResult := do
  let start ← read World.clock
  if g.options.maxDepth < depth then fail (depthFault g s.id)
  else if ← s.isAdmitted then
    let scope ← read World.retryDepth
    let budget := s.retryBudget g scope
    attempts g s start (do (← s.resolve).dispatch g size body) budget budget
  else
    log .debug s!"Skipping action {s.id} — conditions not met"
    record ⟨s.id, true, 0.0, 1, true, none, .null, none⟩

mutual

/-- Executes an action at a depth; the actions of a playbook are at depth 1. -/
def execute (g : Setting) : Action → Int → Exec ActionResult
  | ⟨s, none⟩, depth => executeStep g s 0 (pure ()) depth
  | ⟨s, some program⟩, depth =>
    executeStep g s program.length (executeProgram g program (depth + 1)) depth

/-- Executes actions in order; the first one that fails ends the program. -/
def executeProgram (g : Setting) : List Action → Int → Exec Unit
  | [], _ => pure ()
  | a :: rest, depth => do
    let _ ← execute g a depth
    executeProgram g rest depth

end

end Scout
