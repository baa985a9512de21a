import Scout.Decimal.Read
import Scout.Members
import Scout.Text.Quoted

/-!
# Dynamic values

The free-form data of playbooks: variables, extracted fields, the results of page expressions.
Integers have no size limit and are of another kind than doubles; records keep the order of
their members.
-/

namespace Scout

inductive Value where
  | null
  | bool (b : Bool)
  | int (n : Int)
  | float (x : Float)
  | text (s : String)
  | list (items : List Value)
  | record (members : List (String × Value))

instance : Inhabited Value := ⟨.null⟩

/-- A value without parts. -/
inductive Scalar where
  | text (s : String)
  | bool (b : Bool)
  | int (n : Int)
  | float (x : Float)

namespace Scalar

def toValue : Scalar → Value
  | .text s => .text s
  | .bool b => .bool b
  | .int n => .int n
  | .float x => .float x

/-- Whether an integer and a double are the same number, compared exactly. -/
def intEqFloat (n : Int) (x : Float) : Bool :=
  Decimal.integer? x == some n

def boolInt (b : Bool) : Int :=
  if b then 1 else 0

/-- Equality of scalars: numbers and truth values compare as numbers, texts as texts. -/
def equal : Scalar → Scalar → Bool
  | .text a, .text b => a == b
  | .float a, .float b => a == b
  | .float a, .int b => intEqFloat b a
  | .float a, .bool b => intEqFloat (boolInt b) a
  | .int a, .float b => intEqFloat a b
  | .bool a, .float b => intEqFloat (boolInt a) b
  | .int a, .int b => a == b
  | .int a, .bool b => a == boolInt b
  | .bool a, .int b => boolInt a == b
  | .bool a, .bool b => a == b
  | _, _ => false

/-- Present and not the empty text. -/
def isGiven : Option Scalar → Bool
  | none => false
  | some (.text s) => s != ""
  | some _ => true

end Scalar

namespace Value

def ofOption : Option Value → Value
  | some v => v
  | none => .null

def ofScalar? : Option Scalar → Value
  | some s => s.toValue
  | none => .null

def ofText? : Option String → Value
  | some s => .text s
  | none => .null

def ofInt? : Option Int → Value
  | some n => .int n
  | none => .null

def texts (ss : List String) : Value :=
  .list (ss.map .text)

def scalar? : Value → Option Scalar
  | .text s => some (.text s)
  | .bool b => some (.bool b)
  | .int n => some (.int n)
  | .float x => some (.float x)
  | _ => none

/-- Whether a value is the scalar, or null when there is none. -/
def equalsScalar (v : Value) (s : Option Scalar) : Bool :=
  match v, s with
  | .null, none => true
  | v, some s => match v.scalar? with
    | some a => a.equal s
    | none => false
  | _, none => false

/-- Null, false, zero, and whatever is empty do not count as given. -/
def isTruthy : Value → Bool
  | .null => false
  | .bool b => b
  | .int n => n != 0
  | .float x => x != 0.0
  | .text s => s != ""
  | .list items => !items.isEmpty
  | .record members => !members.isEmpty

mutual

/-- The written form inside a list or a record. -/
def quoted : Value → String
  | .null => "None"
  | .bool b => if b then "True" else "False"
  | .int n => toString n
  | .float x => Decimal.shortestText x
  | .text s => Text.quote s
  | .list items => "[" ++ ", ".intercalate (quotedItems items) ++ "]"
  | .record members => "\x7b" ++ ", ".intercalate (quotedMembers members) ++ "\x7d"

def quotedItems : List Value → List String
  | [] => []
  | v :: rest => quoted v :: quotedItems rest

def quotedMembers : List (String × Value) → List String
  | [] => []
  | (k, v) :: rest => (Text.quote k ++ ": " ++ quoted v) :: quotedMembers rest

end

/-- The plain form: a text is itself, anything else its written form. -/
def display : Value → String
  | .text s => s
  | v => v.quoted

/-- The form in a template or a page field: as `display`, but nothing for null and the truth
values in lower case. -/
def stringify : Value → String
  | .null => ""
  | .bool b => if b then "true" else "false"
  | v => v.display

end Value

def Scalar.stringify (s : Scalar) : String :=
  s.toValue.stringify

end Scout
