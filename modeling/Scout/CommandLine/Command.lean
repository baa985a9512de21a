import Scout.CommandLine.Arguments
import Scout.Decimal.Read

/-!
# Commands

A command line names a group, a command of the group, and what the command is to work on. The
group is known before anything is done; the command is read only then.
-/

namespace Scout.CommandLine

inductive Command where
  | list (json : Bool) (tags : List String) (author : Option String)
  | display (id : String) (json : Bool)
  | check (path : String)
  | stats (id : Option String) (json : Bool)
  | history (id : String) (limit : Int) (json : Bool)
  | exportTo (id path : String)
  | importFrom (path : String)
  | fromTemplate (template id : String)
  | delete (id : String) (confirmed : Bool)
  | run (id : String) (vars : List String) (headed : Bool) (budget : Option Float) (json : Bool)
  | displaySettings
  | checkSettings

/-- What a command line asks for, as far as it can be told from its beginning. -/
inductive Request (α : Type) where
  | act (what : α)
  /-- Only what the program says about itself. -/
  | help

inductive Group where
  | playbook
  | settings
deriving DecidableEq

/-- The group that a command line names, the severity given for the log, and the arguments left. -/
structure Opening where
  group : Group
  logLevel : Option String
  rest : List String

def helpSwitch : Switch := ⟨"--help", none, false⟩

def openingSwitches : List Switch :=
  [helpSwitch, ⟨"--version", none, false⟩, ⟨"--log-level", none, true⟩,
    ⟨"--install-completion", none, false⟩, ⟨"--show-completion", none, false⟩]

def Group.ofName? : String → Option Group
  | "playbook" => some .playbook
  | "settings" => some .settings
  | _ => none

/-- Reads a command line up to its group. -/
def Opening.ofArguments (args : List String) : Except Misuse (Request Opening) := do
  let a ← Arguments.read openingSwitches false none args
  if a.has "--help" || a.has "--install-completion" || a.has "--show-completion" then pure .help
  else match a.words with
    | [] => pure .help
    | name :: rest =>
      match Group.ofName? name with
      | none => throw .unknownCommand
      | some group =>
        if a.has "--version" then pure .help
        else pure (.act ⟨group, a.value? "--log-level", rest⟩)

/-- How the arguments of a command are read. -/
structure Form where
  switches : List Switch
  build : Arguments → Except Misuse Command

def jsonSwitch : Switch := ⟨"--json", some 'j', false⟩

def noWord (a : Arguments) : Except Misuse Unit :=
  match a.words with
  | [] => pure ()
  | _ => throw .surplusWord

def oneWord (a : Arguments) : Except Misuse String :=
  match a.words with
  | [] => throw .missingWord
  | [w] => pure w
  | _ => throw .surplusWord

def twoWords (a : Arguments) : Except Misuse (String × String) :=
  match a.words with
  | [] | [_] => throw .missingWord
  | [v, w] => pure (v, w)
  | _ => throw .surplusWord

/-- The value of an option read in some way, if the option is given. -/
def valueAs? {α : Type} (a : Arguments) (name : String) (read : String → Option α) :
    Except Misuse (Option α) :=
  match a.value? name with
  | none => pure none
  | some s =>
    match read s with
    | some v => pure (some v)
    | none => throw .badValue

def listForm : Form where
  switches := [jsonSwitch, ⟨"--tag", some 't', true⟩, ⟨"--author", none, true⟩]
  build a := do
    noWord a
    pure (.list (a.has "--json") (a.values "--tag") (a.value? "--author"))

def displayForm : Form where
  switches := [jsonSwitch]
  build a := do
    pure (.display (← oneWord a) (a.has "--json"))

def checkForm : Form where
  switches := []
  build a := do
    pure (.check (← oneWord a))

def statsForm : Form where
  switches := [jsonSwitch]
  build a :=
    match a.words with
    | [] => pure (.stats none (a.has "--json"))
    | [id] => pure (.stats (some id) (a.has "--json"))
    | _ => throw .surplusWord

def historyLimit : Int := 20

def historyForm : Form where
  switches := [⟨"--limit", some 'n', true⟩, jsonSwitch]
  build a := do
    let limit ← valueAs? a "--limit" Decimal.intOfText?
    pure (.history (← oneWord a) (limit.getD historyLimit) (a.has "--json"))

def exportForm : Form where
  switches := []
  build a := do
    let (id, path) ← twoWords a
    pure (.exportTo id path)

def importForm : Form where
  switches := []
  build a := do
    pure (.importFrom (← oneWord a))

def templateForm : Form where
  switches := []
  build a := do
    let (template, id) ← twoWords a
    pure (.fromTemplate template id)

def deleteForm : Form where
  switches := [⟨"--yes", some 'y', false⟩]
  build a := do
    pure (.delete (← oneWord a) (a.has "--yes"))

def runForm : Form where
  switches := [⟨"--var", some 'v', true⟩, ⟨"--headed", none, false⟩, ⟨"--max-duration", none, true⟩,
    jsonSwitch]
  build a := do
    let budget ← valueAs? a "--max-duration" Decimal.ofText?
    pure (.run (← oneWord a) (a.values "--var") (a.has "--headed") budget (a.has "--json"))

def bareForm (c : Command) : Form where
  switches := []
  build a := do
    noWord a
    pure c

def Group.forms : Group → List (String × Form)
  | .playbook => [
    ("list", listForm),
    ("show", displayForm),
    ("validate", checkForm),
    ("stats", statsForm),
    ("history", historyForm),
    ("export", exportForm),
    ("import", importForm),
    ("from-template", templateForm),
    ("delete", deleteForm),
    ("run", runForm)]
  | .settings => [
    ("show", bareForm .displaySettings),
    ("validate", bareForm .checkSettings)]

/-- Reads the command of a group. -/
def Command.ofArguments (group : Group) (args : List String) :
    Except Misuse (Request Command) := do
  let a ← Arguments.read [helpSwitch] false none args
  if a.has "--help" then pure .help
  else match a.words with
    | [] => throw .unknownCommand
    | name :: rest =>
      match group.forms.find? fun f => f.1 == name with
      | none => throw .unknownCommand
      | some (_, form) =>
        let a ← Arguments.read (helpSwitch :: form.switches) true none rest
        if a.has "--help" then pure .help
        else pure (.act (← form.build a))

end Scout.CommandLine
