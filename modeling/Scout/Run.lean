import Scout.Harvest
import Scout.Interpreter

/-!
# Runs

A run opens a page, executes the actions of a playbook, applies its rules, and closes the page.
Whatever goes wrong ends up in the report; a run always gives one.
-/

namespace Scout

open Exec

/-- The moment of a run, as calendar time and as milliseconds since 1970. -/
structure Stamp where
  moment : Moment
  millis : Int

namespace Run

/-- How the part of a run that the deadline governs ends. -/
inductive Ending where
  | finished (found : List Opportunity)
  | aborted (message : String)
  | failed (fault : Fault)
  | expired

def describeFailure (id : String) (e : Fault) : String :=
  let inner := match e.kind with
    | .action innerId => if innerId != "" && innerId != id then some innerId else none
    | _ => none
  match inner with
  | some innerId =>
    "Action " ++ id ++ " failed: " ++ e.message ++ " (in nested action " ++ innerId ++ ")"
  | none => "Action " ++ id ++ " failed: " ++ e.message

def addError (message : String) : Exec Unit :=
  onContext fun c => { c with errors := c.errors ++ [message] }

/-- Executes the actions of a playbook; gives the message of an abort, if one happens. -/
def runActions (g : Setting) : List Action → Exec (Option String)
  | [] => pure none
  | a :: rest => do
    match ← attempt (execute g a 1) with
    | .ok r =>
      if r.success then onContext fun c => { c with actionsExecuted := c.actionsExecuted + 1 }
      runActions g rest
    | .error e =>
      if e.isOfAction then
        addError (describeFailure a.id e)
        if g.policy.continueOnError then
          log .warn s!"Action {a.id} failed, continuing: {e.message}"
          runActions g rest
        else pure (some s!"Action {a.id} failed")
      else fail e

/-- The actions, then the rules unless an action aborted the run. -/
def body (g : Setting) (p : Playbook) (now : Moment) : Exec Ending := do
  match ← runActions g p.actions with
  | some message => pure (.aborted message)
  | none => pure (.finished (← Harvest.run p now))

/-- Runs a program under a deadline that ends with it; its faults and the deadline become its
ending. -/
def underDeadline (budget : Float) (x : Exec Ending) : Exec Ending := fun w =>
  let limit := if 0.0 < budget then some (w.clock + budget) else none
  match x { w with deadline := limit } with
  | (.done ending, w') => (.done ending, { w' with deadline := none })
  | (.failed e, w') => (.done (.failed e), { w' with deadline := none })
  | (.cancelled, w') => (.done .expired, { w' with deadline := none })

def overrunMessage (budget : Float) : String :=
  "Playbook execution exceeded the " ++ Decimal.generalText 6 budget ++ "s run deadline"

def reportOverrun (p : Playbook) (budget : Float) : Exec Unit := do
  addError (overrunMessage budget)
  log .warn s!"Playbook {p.id} exceeded its {Decimal.generalText 6 budget}s deadline"

def reportFault (p : Playbook) (budget : Float) (e : Fault) : Exec Unit := do
  match e.kind with
  | .extraction =>
    addError ("Opportunity extraction failed: " ++ e.message)
    log .warn s!"Playbook {p.id} extraction failed: {e.message}"
  | .timeout =>
    if 0.0 < budget then reportOverrun p budget
    else addError ("Playbook execution failed: " ++ e.message)
  | _ =>
    addError ("Playbook execution failed: " ++ e.message)
    log .error s!"Playbook {p.id} failed unexpectedly"

def reportEnding (p : Playbook) (budget : Float) : Ending → Exec (List Opportunity)
  | .finished found => pure found
  | .aborted message => do
    log .warn s!"Playbook {p.id} aborted: {message}"
    pure []
  | .failed e => do
    reportFault p budget e
    pure []
  | .expired => do
    reportOverrun p budget
    pure []

def close : Exec Unit := do
  match ← attempt Browse.closePage with
  | .ok _ => pure ()
  | .error e =>
    let message := "Failed to close page: " ++ e.message
    log .warn message
    warn message

/-- Opens a page, lets the playbook act on it, closes it. -/
def visit (g : Setting) (p : Playbook) (now : Moment) : Exec (List Opportunity) := do
  match ← attempt Browse.openPage with
  | .error e =>
    reportFault p g.options.budget e
    pure []
  | .ok _ =>
    let ending ← underDeadline g.options.budget (body g p now)
    let found ← reportEnding p g.options.budget ending
    close
    pure found

def closingLine (p : Playbook) (c : RunContext) (found : Nat) : String :=
  let verdict := if c.errors.isEmpty then "SUCCESS" else "FAILED"
  let time := Decimal.fixedText 0 c.executionTime
  s!"Playbook {p.id}: {verdict} ({c.actionsExecuted} actions, {found} opportunities in {time}ms)"

def report (c : RunContext) (found : List Opportunity) : RunReport :=
  ⟨c.errors.isEmpty, found, c, c.executionTime, c.errors, c.warnings⟩

def session (g : Setting) (p : Playbook) (now : Moment) : Exec RunReport := do
  let start ← read World.clock
  log .info s!"Executing playbook: {p.name} ({p.id})"
  let found ← visit g p now
  let time ← elapsed start
  onContext fun c => { c with executionTime := time }
  let c ← read World.context
  log .info (closingLine p c found.length)
  pure (report c found)

/-- Runs a playbook on a page that is opened in the given world; the given variables overlay
those of the playbook. No deadline holds before the page is open. -/
def start (o : RunOptions) (at_ : Stamp) (p : Playbook) (vars : Members Value) (w : World) :
    RunReport × World :=
  let vars := p.vars.overlay vars
  let g : Setting := ⟨p.policy, o, at_.millis⟩
  let w := { w with context := RunContext.starting vars, deadline := none }
  match session g p at_.moment w with
  | (.done r, w') => (r, w')
  | (_, w') => (report w'.context [], w')

end Run

end Scout
