import Scout.Session

/-!
# Evaluating conditions

A condition is a question that changes nothing. Whatever goes wrong while it is put to the page,
the answer is no; only the deadline of the run passes through. A list of conditions is asked in
order until one is not met.
-/

namespace Scout.Condition

open Exec

/-- A text that is given and not empty. -/
def named? : Option String → Option String
  | some "" => none
  | s => s

/-- Whether the first text occurs in the second one. -/
def occursIn (needle : List Char) : List Char → Bool
  | [] => needle.isEmpty
  | c :: rest => needle.isPrefixOf (c :: rest) || occursIn needle rest

/-- Whether the variable, or else the element, equals the value; `none` when neither is given. -/
def compare (c : Condition) : Exec (Option Bool) :=
  match named? c.variableName, named? c.selector with
  | some name, _ => do
    let found ← read fun w => Value.ofOption (w.context.vars.find? name)
    pure (some (found.equalsScalar c.value))
  | none, some selector => do
    let text ← Browse.textContent selector
    pure (some (match text with
      | some t => Text.trim t == (Value.ofScalar? c.value).stringify
      | none => false))
  | none, none => pure none

def contained (c : Condition) (selector : String) : Exec (Option Bool) := do
  let text ← Browse.textContent selector
  let needle := (Value.ofScalar? c.value).stringify
  pure (text.map fun t => occursIn needle.toList t.toList)

/-- Asks an element. -/
def askElement (c : Condition) (selector : String) : Exec Bool :=
  match c.kind with
  | .present => Browse.isPresent selector
  | .absent => do pure !(← Browse.isPresent selector)
  | .visible => Browse.isVisible selector
  | .hidden => Browse.isHidden selector
  | .contains => do pure ((← contained c selector).getD false)
  | .lacks => do pure !((← contained c selector).getD false)
  | .equals | .differs => pure false

def ask (c : Condition) : Exec Bool :=
  match c.kind with
  | .equals => do pure ((← compare c).getD false)
  | .differs => do
    match ← compare c with
    | some equal => pure !equal
    | none => pure false
  | _ =>
    match named? c.selector with
    | some selector => askElement c selector
    | none => pure false

/-- The answer, no when anything fails. -/
def evaluate (c : Condition) : Exec Bool := do
  match ← attempt (ask c) with
  | .ok answer => pure answer
  | .error _ => pure false

/-- Whether all are met; nothing is asked after the first that is not. -/
def evaluateAll : List Condition → Exec Bool
  | [] => pure true
  | c :: rest => do
    if ← c.evaluate then evaluateAll rest else pure false

/-! ### Without a page -/

/-- Where there is no page the answer is no, and nothing is asked. -/
def ifOpen (hasPage : Bool) (question : Exec Bool) : Exec Bool :=
  if hasPage then question else pure false

/-- The answer to one condition, of a page that may be missing. -/
def answer (hasPage : Bool) (c : Condition) : Exec Bool :=
  ifOpen hasPage c.evaluate

/-- The answer to a list of them; without a page it is no even when nothing is to be asked. -/
def answerAll (hasPage : Bool) (cs : List Condition) : Exec Bool :=
  ifOpen hasPage (evaluateAll cs)

end Scout.Condition
