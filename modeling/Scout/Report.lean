import Scout.Moment.Basic
import Scout.Value

/-!
# What a run leaves behind

The view of a matched element, the outcome of each action, the state that a run builds up, the
records assembled at its end, and the report that holds them all.
-/

namespace Scout

/-- A matched element: its text, its markup and its attributes. -/
structure Snapshot where
  text : String
  markup : String
  attributes : Members String

/-- The outcome of one action that was executed or skipped. -/
structure ActionResult where
  actionId : String
  success : Bool
  /-- Milliseconds. -/
  duration : Float
  attempts : Int
  skipped : Bool
  error : Option String
  extracted : Value
  screenshot : Option String

/-- What a run knows: its variables, what it extracted, and what went wrong. -/
structure RunContext where
  vars : Members Value
  extracted : Members Value
  errors : List String
  warnings : List String
  screenshots : List String
  /-- Milliseconds. -/
  executionTime : Float
  actionsExecuted : Int
  results : List ActionResult

def RunContext.starting (vars : Members Value) : RunContext :=
  ⟨vars, [], [], [], [], 0.0, 0, []⟩

/-- Where a record comes from. -/
structure Provenance where
  playbookId : String
  playbookName : String
  extractedAt : Moment
  sourceUrl : Option String

/-- A grant, a residency or an exhibition found on a page. -/
structure Opportunity where
  title : String
  url : String
  description : String
  organization : String
  deadline : Option Moment
  location : String
  amount : String
  tags : List String
  sourceType : String
  status : String
  processed : Bool
  applied : Bool
  starred : Bool
  source : Provenance

/-- The outcome of a whole run. -/
structure RunReport where
  success : Bool
  opportunities : List Opportunity
  context : RunContext
  /-- Milliseconds. -/
  executionTime : Float
  errors : List String
  warnings : List String

/-- The outcome of checking a playbook. -/
structure CheckReport where
  isValid : Bool
  errors : List String
  warnings : List String

/-- One execution of a playbook, as it is kept. -/
structure HistoryEntry where
  id : String
  playbookId : String
  executedAt : Moment
  success : Bool
  opportunitiesFound : Int
  executionTime : Float
  errors : List String
  warnings : List String
  vars : Members Value

/-- Statistics over the executions of a playbook. -/
structure Stats where
  id : String
  name : String
  total : Int
  successful : Int
  failed : Int
  averageTime : Float
  averageFound : Float
  lastExecuted : Option Moment
  successRate : Float

end Scout
