import Scout.Document.Report
import Scout.Text.Split

/-!
# Paths into data

A path is a list of steps set apart by dots. A step into a record takes the member of that name,
a step into a list the item at that index, counted from the end when it is negative. A number
answers the names of its parts; any other step gives null, and null stays null. Dynamic values
and the parts of typed documents are walked alike, each by what it lets a step be taken into.
-/

namespace Scout

/-- The item at an index, counted from the end when it is negative. -/
def itemAt? {α : Type} (items : List α) (index : Int) : Option α :=
  if 0 ≤ index then items[index.toNat]?
  else if -(items.length : Int) ≤ index then items[(items.length + index).toNat]?
  else none

/-- What a step can be taken into. -/
inductive View (α : Type) where
  /-- Nothing: all further steps lead to nothing. -/
  | nothing
  /-- A record, with its members by their names. -/
  | members (find : String → Option α)
  | items (list : List α)
  /-- Anything else, with what it answers to a name. -/
  | parts (named : String → Option α)

def View.map {α β : Type} (f : α → β) : View α → View β
  | .nothing => .nothing
  | .members find => .members fun name => (find name).map f
  | .items list => .items (list.map f)
  | .parts named => .parts fun name => (named name).map f

/-- Things of a kind, from one of which steps lead to others. -/
structure Terrain (α : Type) where
  null : α
  view : α → View α
  view_null : view null = .nothing

namespace Terrain

variable {α : Type}

/-- What stands behind some steps; a step that leads nowhere ends the walk. -/
def walk (t : Terrain α) (x : α) : List String → α
  | [] => x
  | name :: rest =>
    match t.view x with
    | .nothing => t.null
    | .members find => t.walk ((find name).getD t.null) rest
    | .items list =>
      match (Decimal.intOfText? name).bind (itemAt? list) with
      | some y => t.walk y rest
      | none => t.null
    | .parts named => t.walk ((named name).getD t.null) rest

/-- What stands at the end of a path. -/
def atPath (t : Terrain α) (x : α) (path : String) : α :=
  t.walk x (Text.splitOn '.' path)

end Terrain

namespace Value

/-- The parts that a number names: its real and imaginary part, and for integers numerator and
denominator. -/
def part? (v : Value) (name : String) : Option Value :=
  match v with
  | .int n =>
    if name == "real" || name == "numerator" then some (.int n)
    else if name == "imag" then some (.int 0)
    else if name == "denominator" then some (.int 1)
    else none
  | .bool b =>
    if name == "real" || name == "numerator" then some (.int (Scalar.boolInt b))
    else if name == "imag" then some (.int 0)
    else if name == "denominator" then some (.int 1)
    else none
  | .float x =>
    if name == "real" then some (.float x)
    else if name == "imag" then some (.float 0.0)
    else none
  | _ => none

def view : Value → View Value
  | .null => .nothing
  | .record ms => .members (Members.find? ms)
  | .list items => .items items
  | v => .parts v.part?

def terrain : Terrain Value :=
  ⟨.null, view, rfl⟩

/-- The value at the end of a path. -/
def atPath (v : Value) (path : String) : Value :=
  terrain.atPath v path

end Value

/-- What a path can reach inside a typed document. -/
inductive Subject where
  | value (v : Value)
  /-- A word of a closed list, with its name. -/
  | word (text : String) (name : String)
  | snapshot (s : Snapshot)
  | condition (c : Condition)
  | conditions (cs : List Condition)
  | action (a : Action)
  | actions (as : List Action)

namespace Subject

def null : Subject := .value .null

def ofOption : Option Subject → Subject
  | some s => s
  | none => null

def upperName (word : String) : String :=
  String.ofList (word.toList.map Char.toUpper)

def ofSnapshot (s : Snapshot) (name : String) : Subject :=
  match name with
  | "text_content" => .value (.text s.text)
  | "inner_html" => .value (.text s.markup)
  | "attributes" => .value (.record (s.attributes.mapValues .text))
  | _ => null

def ofCondition (c : Condition) (name : String) : Subject :=
  match name with
  | "type" => .word c.kind.word (upperName c.kind.word)
  | "selector" => .value (.ofText? c.selector)
  | "variable" => .value (.ofText? c.variableName)
  | "value" => .value (.ofScalar? c.value)
  | _ => null

def ofAction (a : Action) (name : String) : Subject :=
  let s := a.step
  match name with
  | "id" => .value (.text s.id)
  | "type" => .word s.kind.word (upperName s.kind.word)
  | "description" => .value (.text s.description)
  | "selector" => .value (.ofText? s.selector)
  | "value" => .value (.ofScalar? s.value)
  | "timeout" => .value (.ofInt? s.timeout)
  | "retries" => .value (.ofInt? s.retries)
  | "conditions" => ofOption (s.conditions.map .conditions)
  | "actions" => ofOption (a.program.map .actions)
  | "variables" => ofOption (s.bindings.map fun bs => .value (.record bs))
  | "optional" => .value (.bool s.optional)
  | _ => null

def view : Subject → View Subject
  | .value v => v.view.map .value
  | .word text label => .parts fun name =>
    if name == "value" then some (.value (.text text))
    else if name == "name" then some (.value (.text label))
    else none
  | .snapshot s => .parts fun name => some (ofSnapshot s name)
  | .condition c => .parts fun name => some (ofCondition c name)
  | .conditions cs => .items (cs.map .condition)
  | .action a => .parts fun name => some (ofAction a name)
  | .actions as => .items (as.map .action)

def terrain : Terrain Subject :=
  ⟨null, view, rfl⟩

/-- What stands at the end of a path. -/
def atPath (subject : Subject) (path : String) : Subject :=
  terrain.atPath subject path

def toValue : Subject → Value
  | .value v => v
  | .word text _ => .text text
  | .snapshot s => s.encode
  | .condition c => c.encode
  | .conditions cs => .list (cs.map Condition.encode)
  | .action a => a.encode
  | .actions as => .list (Action.encodeItems as)

end Subject

end Scout
