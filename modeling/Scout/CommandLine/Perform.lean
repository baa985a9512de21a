import Scout.CommandLine.Command
import Scout.CommandLine.Display
import Scout.Log
import Scout.Registry
import Scout.Settings.Layers

/-!
# What commands do

A command reads the settings, opens the registry on the files that it finds, acts on it, and
shows what came of it. It ends with a status: 0, 1 when it did not succeed, 2 when its arguments
do not fit.
-/

namespace Scout.CommandLine

/-- What a command finds when it is called. -/
structure Surroundings where
  environment : Settings.Environment
  /-- The page that a browser opens. -/
  page : Page
  stamp : Stamp
  /-- The id under which an execution is recorded. -/
  historyId : String

/-- A browser that was started, the calls on its page, and whether a playbook was run in it. -/
structure Launch where
  headless : Bool
  /-- Milliseconds. -/
  timeout : Int
  calls : Array Call
  used : Bool

structure Terminal where
  files : Files.Tree
  shown : String
  /-- The lines that are still to be read. -/
  unread : List String
  launch : Option Launch

inductive Fault where
  | settings (e : Settings.Fault)
  | registry (e : Registry.Fault)
  | markup (e : Console.Markup.Fault)

def Fault.message : Fault → String
  | .settings e => e.message
  | .registry e => e.message
  | .markup e => e.message

/-- Why a command ends before its last step. -/
inductive Stop where
  | status (code : Nat)
  /-- A question was asked, and there is no line left to be read. -/
  | unanswered
  | fault (e : Fault)

/-- A command at work. What was done before it stops stays done. -/
abbrev Act := ExceptT Stop (StateM Terminal)

namespace Act

def showRaw (s : String) : Act Unit :=
  modify fun t => { t with shown := t.shown ++ s }

def consoleWidth : Nat := 200

def showLines : Except Console.Markup.Fault (List (List Char)) → Act Unit
  | .ok lines => showRaw (String.join (lines.map fun line => String.ofList (line ++ ['\n'])))
  | .error e => throw (.fault (.markup e))

/-- Shows a text with tags. -/
def say (s : String) : Act Unit :=
  showLines ((Console.Markup.plain s).map (Console.layOut consoleWidth .natural .fold))

def sayAll : List String → Act Unit
  | [] => pure ()
  | s :: rest => do
    say s
    sayAll rest

def sayTable (t : Console.Table) : Act Unit :=
  showLines (t.lines consoleWidth)

/-- Shows a document; its lines are never broken. -/
def sayDocument (v : Value) : Act Unit :=
  showRaw (Json.indented false v 0 ++ "\n")

def fail {α : Type} : Act α :=
  throw (.status 1)

/-- Acts on a registry and the files; gives the fault if there is one. -/
def attempt {α : Type} (r : Registry) (x : Registry.Act α) :
    Act (Except Registry.Fault α × Registry) := do
  let t ← get
  let (outcome, desk) := x.run.run ⟨r, t.files⟩
  set { t with files := desk.files }
  pure (outcome, desk.registry)

def raise {α : Type} (e : Registry.Fault) : Act α :=
  throw (.fault (.registry e))

def obtain {α : Type} : Except Registry.Fault α → Act α
  | .ok a => pure a
  | .error e => raise e

/-- The registry of the settings, loaded from the files. -/
def openRegistry (s : Settings) : Act Registry := do
  let (outcome, r) ← attempt (Registry.ofSettings s) Registry.load
  let _ ← obtain outcome
  pure r

end Act

open Act

/-! ### Reading playbooks -/

def list (s : Settings) (json : Bool) (tags : List String) (author : Option String) : Act Unit := do
  let r ← openRegistry s
  let filters :=
    { Filters.none with tags := if tags.isEmpty then none else some tags, author := author }
  match r.search filters with
  | [] => say ("No playbooks found in " ++ r.library.definitions)
  | ps =>
    if json then sayDocument (.list (ps.map summary))
    else
      sayTable (playbookTable ("Playbooks (" ++ r.library.definitions ++ ")") ps)
      say ("\n" ++ styled "bold" (toString ps.length) ++ " playbook(s) loaded")

def sayUnknown (id : String) : Act Unit :=
  say (bad "Playbook not found:" ++ " " ++ id)

/-- Shows which names there are, if any. -/
def sayChoices (label : String) (names : List String) : Act Unit :=
  if names.isEmpty then pure () else say ("  " ++ label ++ ": " ++ commaList names)

def display (s : Settings) (id : String) (json : Bool) : Act Unit := do
  let r ← openRegistry s
  match r.get? id with
  | none =>
    sayUnknown id
    sayChoices "Available" (r.list.map Playbook.id)
    fail
  | some p => if json then sayDocument p.encode else sayAll (playbookLines p)

def countOfItems : Option Value → Nat
  | some (.list items) => items.length
  | _ => 0

def check (s : Settings) (path : String) : Act Unit := do
  match Library.readDocument (← get).files path with
  | .error (.refused e) =>
    say (cross ++ " " ++ e.message)
    fail
  | .error e => raise (.library e)
  | .ok (.record ms) =>
    let report := checkDocument s.playbooks.maxDepth (.record ms)
    sayAll (report.warnings.map warningText)
    if report.isValid then
      let id := (Value.ofOption (Members.find? ms "id")).display
      let count := countOfItems (Members.find? ms "actions")
      say s!"{tick} Valid playbook: {id} ({count} actions)"
    else
      say (bad "✗ Validation errors:")
      sayAll (report.errors.map ("  " ++ ·))
      fail
  | .ok _ =>
    say (bad "✗ Playbook file must contain a JSON object")
    fail

/-! ### Statistics and history -/

def stats (s : Settings) (id : Option String) (json : Bool) : Act Unit := do
  let r ← openRegistry s
  let id := id.getD ""
  let rows ←
    if id == "" then pure r.stats.values
    else match r.stats.find? id with
      | some row => pure [row]
      | none =>
        sayUnknown id
        fail
  if json then sayDocument (.list (rows.map Stats.encode)) else sayTable (statsTable rows)

def history (s : Settings) (id : String) (limit : Int) (json : Bool) : Act Unit := do
  let r ← openRegistry s
  let entries := latest limit (r.historyOf id)
  if json then sayDocument (.list (entries.map HistoryEntry.encode))
  else if entries.isEmpty then say ("No executions recorded for " ++ id)
  else sayTable (historyTable id entries)

/-! ### Changing playbooks -/

def sayRefusal (lead : String) (e : Registry.Fault) : Act Unit :=
  say (lead ++ " " ++ e.message)

/-- Goes on unless the playbook is unknown. -/
def obtainKnown {α : Type} : Except Registry.Fault α → Act α
  | .ok a => pure a
  | .error e => do
    match e with
    | .unknown _ =>
      sayRefusal cross e
      fail
    | e => raise e

def exportTo (s : Settings) (id path : String) : Act Unit := do
  let r ← openRegistry s
  let path ← obtainKnown (← attempt r (Registry.exportTo id path)).1
  say s!"{tick} Exported {id} to {path}"

def importFrom (s : Settings) (path : String) : Act Unit := do
  let r ← openRegistry s
  match (← attempt r (Registry.importFrom (Files.normal path))).1 with
  | .ok p => say s!"{tick} Imported playbook: {p.id} ({p.name})"
  | .error e =>
    if e.isRefusal then
      sayRefusal (bad "✗ Import failed:") e
      fail
    else raise e

def fromTemplate (s : Settings) (template id : String) : Act Unit := do
  let r ← openRegistry s
  match (← attempt r (Registry.fromTemplate template id [])).1 with
  | .ok p => say s!"{tick} Created playbook: {p.id} ({p.name})"
  | .error e =>
    if e.isRefusal then
      sayRefusal cross e
      match r.library.templateNames (← get).files with
      | .ok names =>
        sayChoices "Templates" names
        fail
      | .error e => raise (.library e)
    else raise e

inductive Consent where
  | yes
  | no
  | unclear
deriving DecidableEq

/-- What an answer to a question means; no answer means no. -/
def Consent.ofText (s : String) : Consent :=
  let word := Text.trim (String.ofList (s.toList.map Char.toLower))
  if word == "y" || word == "yes" then .yes
  else if word == "n" || word == "no" || word == "" then .no
  else .unclear

/-- Asks a question until an answer is clear; goes on only when it is yes. Gives the lines left. -/
def askUntilClear (question : String) : List String → Act (List String)
  | [] => do
    showRaw question
    throw .unanswered
  | answer :: rest => do
    showRaw (question ++ answer ++ "\n")
    match Consent.ofText answer with
    | .yes => pure rest
    | .no => fail
    | .unclear => do
      showRaw "Error: invalid input\n"
      askUntilClear question rest

def ask (question : String) : Act Unit := do
  let rest ← askUntilClear (question ++ " [y/N]: ") (← get).unread
  modify fun t => { t with unread := rest }

def delete (s : Settings) (id : String) (confirmed : Bool) : Act Unit := do
  let r ← openRegistry s
  if !confirmed then ask s!"Delete playbook {id}?"
  obtainKnown (← attempt r (Registry.delete id)).1
  say s!"{tick} Deleted {id}"

/-! ### Runs -/

/-- A variable given as a name and a value around the first equals sign. -/
def splitVariable (pair : String) : Option (String × Value) :=
  let cs := pair.toList
  let name := cs.takeWhile (· != '=')
  if name.isEmpty || name.length == cs.length then none
  else some (String.ofList name, .text (String.ofList (cs.drop (name.length + 1))))

def readVariables : List String → Members Value → Act (Members Value)
  | [], ms => pure ms
  | pair :: rest, ms => do
    match splitVariable pair with
    | some (name, v) => readVariables rest (ms.put name v)
    | none =>
      say (bad "Invalid variable (expected key=value):" ++ " " ++ pair)
      fail

/-- The page as the browser of the settings opens it. -/
def worldOf (b : Settings.Browser) (page : Page) : World :=
  { World.opening { page with throughBrowser := true, userAgent := b.userAgent } [] with
    listsPauses := false }

def closeBrowser (headless : Bool) (b : Settings.Browser) (calls : Array Call) (used : Bool) :
    Act Unit :=
  modify fun t => { t with launch := some ⟨headless, b.timeout, calls, used⟩ }

def run (around : Surroundings) (s : Settings) (id : String) (vars : List String) (headed : Bool)
    (budget : Option Float) (json : Bool) : Act Unit := do
  let r ← openRegistry s
  let vars ← readVariables vars []
  let headless := !headed && s.browser.headless
  let visit : Registry.Visit :=
    ⟨worldOf s.browser around.page, vars, around.stamp, budget, around.historyId⟩
  match (← attempt r (Registry.execute id visit)).1 with
  | .ok (report, world) =>
    closeBrowser headless s.browser world.calls true
    if json then sayDocument report.encode else sayAll (runLines id report)
    if !report.success then fail
  | .error e =>
    closeBrowser headless s.browser #[] (r.get? id).isSome
    obtainKnown (.error e)

/-! ### Settings -/

def displaySettings (s : Settings) : Act Unit :=
  sayDocument s.encode

def checkSettings (s : Settings) : Act Unit :=
  sayAll [
    tick ++ " Settings are valid.",
    "  Environment:  " ++ s.environment,
    "  Definitions:  " ++ s.playbooks.definitionsDir,
    "  Templates:    " ++ s.playbooks.templatesDir,
    "  History:      " ++ s.playbooks.historyDir]

/-! ### Command lines -/

def carryOut (around : Surroundings) (s : Settings) : Command → Act Unit
  | .list json tags author => list s json tags author
  | .display id json => display s id json
  | .check path => check s path
  | .stats id json => stats s id json
  | .history id limit json => history s id limit json
  | .exportTo id path => exportTo s id path
  | .importFrom path => importFrom s path
  | .fromTemplate template id => fromTemplate s template id
  | .delete id confirmed => delete s id confirmed
  | .run id vars headed budget json => run around s id vars headed budget json
  | .displaySettings => displaySettings s
  | .checkSettings => checkSettings s

def misuseStatus : Nat := 2

/-- Goes on with what the arguments ask for. -/
def requested {α : Type} (r : Except Misuse (Request α)) (act : α → Act Unit) : Act Unit :=
  match r with
  | .ok (.act what) => act what
  | .ok .help => pure ()
  | .error _ => throw (.status misuseStatus)

/-- Performs a command line. The settings are read once its group is known, whatever is left of
it. -/
def perform (around : Surroundings) (args : List String) : Act Unit :=
  requested (Opening.ofArguments args) fun opening => do
    match Settings.load [] around.environment [] with
    | .error e => throw (.fault (.settings e))
    | .ok s =>
      requested (Command.ofArguments opening.group opening.rest) fun c => carryOut around s c

/-- How a command line ended. -/
structure Ending where
  stop : Option Stop
  terminal : Terminal

def Ending.status (e : Ending) : Nat :=
  match e.stop with
  | none => 0
  | some (.status code) => code
  | some .unanswered | some (.fault _) => 1

def Ending.fault (e : Ending) : Option Fault :=
  match e.stop with
  | some (.fault f) => some f
  | _ => none

def Ending.isUnanswered (e : Ending) : Bool :=
  match e.stop with
  | some .unanswered => true
  | _ => false

/-- The lines of what is typed. -/
def typedLines (s : String) : List String :=
  let parts := Text.splitOn '\n' (String.ofList (Files.plainLines s.toList))
  if parts.getLast? == some "" then parts.dropLast else parts

/-- Performs a command line on files, with what is typed while it runs. -/
def call (around : Surroundings) (files : Files.Tree) (typed : String) (args : List String) :
    Ending :=
  let (outcome, t) := (perform around args).run.run ⟨files, "", typedLines typed, none⟩
  match outcome with
  | .ok () => ⟨none, t⟩
  | .error stop => ⟨some stop, t⟩

end Scout.CommandLine
