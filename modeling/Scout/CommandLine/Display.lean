import Scout.Console.Table
import Scout.Document.Report

/-!
# Displays

What the commands show of playbooks, statistics, past executions and runs: texts with tags, each
of which begins a new line, and tables.
-/

namespace Scout.CommandLine

/-- A text in a style. -/
def styled (style s : String) : String :=
  "[" ++ style ++ "]" ++ s ++ "[/" ++ style ++ "]"

def good (s : String) : String := styled "green" s
def bad (s : String) : String := styled "red" s

def tick : String := good "✓"
def cross : String := bad "✗"

/-- The text, or another one where there is none. -/
def orElse (s other : String) : String :=
  if s == "" then other else s

def commaList (ss : List String) : String :=
  ", ".intercalate ss

/-! ### Playbooks -/

def summary (p : Playbook) : Value :=
  .record [
    ("id", .text p.id),
    ("name", .text p.name),
    ("version", .text p.version),
    ("actions", .int p.actions.length),
    ("extractionRules", .int p.rules.length),
    ("tags", .texts p.tags)]

def playbookTable (title : String) (ps : List Playbook) : Console.Table where
  title := title
  columns := [
    { heading := "ID" },
    { heading := "Name", limit := some 40 },
    { heading := "Version" },
    { heading := "Actions", justify := .right },
    { heading := "Rules", justify := .right },
    { heading := "Tags" }]
  rows := ps.map fun p => [p.id, p.name, p.version, toString p.actions.length,
    toString p.rules.length, commaList p.tags]

def indentation (depth : Nat) : String :=
  Text.padRight (2 * depth) ""

def valueText : Option Scalar → String
  | none => ""
  | some s =>
    let shown := s.toValue.display
    if shown == "" then "" else " \"" ++ shown ++ "\""

/-- An action as an item of a numbered list. -/
def stepText (depth number : Nat) (s : Step) : String :=
  indentation depth ++ Text.padLeft 2 (toString number) ++ ". "
    ++ styled "yellow" (Text.padRight 11 s.kind.word) ++ " " ++ s.id
    ++ (match s.selector with
      | some selector => if selector == "" then "" else " " ++ selector
      | none => "")
    ++ valueText s.value
    ++ (if s.description == "" then "" else " — " ++ s.description)
    ++ (if s.optional then " " ++ styled "dim" "(optional)" else "")

mutual

/-- A program as a numbered list, the programs inside it two levels deeper. -/
def programLines (depth : Nat) : List Action → Nat → List String
  | [], _ => []
  | a :: rest, number => actionLines depth number a ++ programLines depth rest (number + 1)

def actionLines (depth number : Nat) : Action → List String
  | ⟨s, none⟩ => [stepText depth number s]
  | ⟨s, some inner⟩ => stepText depth number s :: programLines (depth + 2) inner 1

end

def ruleText (r : ExtractionRule) : String :=
  "  • " ++ Text.padRight 14 r.field ++ " " ++ r.selector
    ++ (match r.attributeName with
      | some name => if name == "" then "" else " @" ++ name
      | none => "")
    ++ (if r.required then " " ++ bad "required" else "")

def heading (name : String) (count : Nat) : String :=
  "\n" ++ styled "bold" (name ++ " (" ++ toString count ++ "):")

def playbookLines (p : Playbook) : List String :=
  let policy := if p.policy.continueOnError then "continue" else "abort"
  [styled "bold cyan" p.id ++ "  v" ++ p.version,
    "  Name:        " ++ p.name,
    "  Description: " ++ orElse p.description "(none)",
    "  Author:      " ++ orElse p.author "(unknown)",
    "  Target site: " ++ orElse p.metadata.targetSite "(none)",
    s!"  On error:    {policy} (retries={p.policy.maxRetries})"]
  ++ (if p.tags.isEmpty then [] else ["  Tags:        " ++ commaList p.tags])
  ++ heading "Actions" p.actions.length :: programLines 1 p.actions 1
  ++ (if p.rules.isEmpty then []
    else heading "Extraction rules" p.rules.length :: p.rules.map ruleText)

/-! ### Statistics and history -/

def statsTable (rows : List Stats) : Console.Table where
  title := "Playbook statistics"
  columns := [
    { heading := "ID" },
    { heading := "Runs", justify := .right },
    { heading := "OK", justify := .right },
    { heading := "Failed", justify := .right },
    { heading := "Success %", justify := .right },
    { heading := "Avg ms", justify := .right },
    { heading := "Avg found", justify := .right },
    { heading := "Last run" }]
  rows := rows.map fun s => [s.id, toString s.total, toString s.successful, toString s.failed,
    Decimal.fixedText 1 s.successRate, Decimal.fixedText 0 s.averageTime,
    Decimal.fixedText 1 s.averageFound, (s.lastExecuted.map Moment.toListing).getD "never"]

def historyTable (id : String) (entries : List HistoryEntry) : Console.Table where
  title := "History for " ++ id
  columns := [
    { heading := "Executed at" },
    { heading := "Result", justify := .center },
    { heading := "Found", justify := .right },
    { heading := "ms", justify := .right },
    { heading := "First error", limit := some 60 }]
  rows := entries.map fun e => [e.executedAt.toListing, if e.success then tick else cross,
    toString e.opportunitiesFound, Decimal.fixedText 0 e.executionTime, e.errors.head?.getD ""]

/-- The last entries, all of them unless the limit is positive. -/
def latest (limit : Int) (entries : List HistoryEntry) : List HistoryEntry :=
  if 0 < limit then entries.drop (entries.length - limit.toNat) else entries

/-! ### Runs -/

def opportunityText (o : Opportunity) : String :=
  "  • " ++ o.title
    ++ (if o.organization == "" then "" else " " ++ styled "dim" ("(" ++ o.organization ++ ")"))
    ++ "\n    " ++ o.url

def warningText (warning : String) : String :=
  "  " ++ styled "yellow" "warning:" ++ " " ++ warning

def runLines (id : String) (r : RunReport) : List String :=
  let verdict := if r.success then good "SUCCESS" else bad "FAILED"
  let time := Decimal.fixedText 0 r.executionTime
  s!"{verdict} {id}: {r.opportunities.length} opportunities in {time}ms"
    :: r.opportunities.map opportunityText
  ++ r.warnings.map warningText
  ++ r.errors.map fun e => "  " ++ bad "error:" ++ " " ++ e

end Scout.CommandLine
