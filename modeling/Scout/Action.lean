import Scout.Value

/-!
# Actions

A playbook is a program of actions. Leaf actions touch the page; a conditional, a loop and a
retry hold a program of their own. Any action may carry conditions that guard it.
-/

namespace Scout

inductive ConditionKind where
  | present | absent | visible | hidden | contains | lacks | equals | differs
deriving DecidableEq

/-- A question about the page or a variable. -/
structure Condition where
  kind : ConditionKind
  selector : Option String
  variableName : Option String
  value : Option Scalar

inductive ActionKind where
  | navigate | wait | click | fill | select | extract | scroll | screenshot | evaluate
  | conditional | loop | retry
deriving DecidableEq

namespace ConditionKind

def all : List ConditionKind :=
  [.present, .absent, .visible, .hidden, .contains, .lacks, .equals, .differs]

def word : ConditionKind → String
  | .present => "exists"
  | .absent => "not_exists"
  | .visible => "visible"
  | .hidden => "hidden"
  | .contains => "contains"
  | .lacks => "not_contains"
  | .equals => "equals"
  | .differs => "not_equals"

end ConditionKind

namespace ActionKind

def all : List ActionKind :=
  [.navigate, .wait, .click, .fill, .select, .extract, .scroll, .screenshot, .evaluate,
    .conditional, .loop, .retry]

def word : ActionKind → String
  | .navigate => "navigate"
  | .wait => "wait"
  | .click => "click"
  | .fill => "fill"
  | .select => "select"
  | .extract => "extract"
  | .scroll => "scroll"
  | .screenshot => "screenshot"
  | .evaluate => "evaluate"
  | .conditional => "conditional"
  | .loop => "loop"
  | .retry => "retry"

/-- The kinds that run a program of their own. -/
def isComposite : ActionKind → Bool
  | .conditional | .loop | .retry => true
  | _ => false

end ActionKind

/-- An action without its program. -/
structure Step where
  id : String
  kind : ActionKind
  description : String
  selector : Option String
  value : Option Scalar
  /-- Milliseconds; the delay between attempts of a retry. -/
  timeout : Option Int
  retries : Option Int
  conditions : Option (List Condition)
  /-- Variable names with the paths of their values in what the action finds. -/
  bindings : Option (Members Value)
  optional : Bool

inductive Action where
  | mk (step : Step) (program : Option (List Action))

namespace Action

def step : Action → Step
  | ⟨s, _⟩ => s

def program : Action → Option (List Action)
  | ⟨_, p⟩ => p

def id (a : Action) : String := a.step.id
def kind (a : Action) : ActionKind := a.step.kind

end Action

end Scout
