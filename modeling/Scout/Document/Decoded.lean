import Scout.Moment.Document
import Scout.Value

/-!
# Reading documents

A document is read against the kinds of its members. Every member that does not fit gives an
issue with the place where it stands; all issues of a document are collected, in the order of
the members of its type. Kinds are read leniently where no information is lost: a whole number
may come as a float, a truth value as `"yes"`.
-/

namespace Scout

/-- A fault of a document and the names and indexes that lead to it. -/
structure Issue where
  path : List String
  message : String

def Issue.text (i : Issue) : String :=
  let place := ".".intercalate i.path
  if place == "" then i.message else place ++ ": " ++ i.message

/-- What was read, or everything that is wrong. -/
inductive Decoded (α : Type) where
  | ok (value : α)
  | invalid (issues : List Issue)

namespace Decoded

variable {α β : Type}

def map (f : α → β) : Decoded α → Decoded β
  | .ok a => .ok (f a)
  | .invalid issues => .invalid issues

/-- Issues of both parts are kept. -/
def seq (f : Decoded (α → β)) (a : Decoded α) : Decoded β :=
  match f, a with
  | .ok f, .ok a => .ok (f a)
  | .ok _, .invalid issues => .invalid issues
  | .invalid issues, .ok _ => .invalid issues
  | .invalid issues, .invalid more => .invalid (issues ++ more)

instance : Applicative Decoded where
  pure := .ok
  map := map
  seq f a := seq f (a ())

/-- The same outcome one member or index deeper. -/
def under (name : String) : Decoded α → Decoded α
  | .ok a => .ok a
  | .invalid issues => .invalid (issues.map fun i => { i with path := name :: i.path })

def fail (message : String) : Decoded α :=
  .invalid [⟨[], message⟩]

@[simp] theorem map_ok (f : α → β) (a : α) : f <$> Decoded.ok a = Decoded.ok (f a) := rfl

@[simp] theorem seq_ok (f : α → β) (a : α) :
    (Decoded.ok f <*> Decoded.ok a : Decoded β) = Decoded.ok (f a) := rfl

@[simp] theorem under_ok (name : String) (a : α) : under name (Decoded.ok a) = Decoded.ok a := rfl

end Decoded

abbrev Decoder (α : Type) := Value → Decoded α

namespace Decoder

variable {α : Type}

def text : Decoder String
  | .text s => .ok s
  | _ => .fail "Input should be a valid string"

def any : Decoder Value := .ok

def integerSizeLimit : Nat := 4300

/-- A text without the underscores that set groups apart; `none` when one starts or ends it or
follows another. -/
def ungrouped? (cs : List Char) : Option (List Char) :=
  let rec doubled : List Char → Bool
    | '_' :: '_' :: _ => true
    | _ :: rest => doubled rest
    | [] => false
  if cs.head? == some '_' || cs.getLast? == some '_' || doubled cs then none
  else some (cs.filter (· != '_'))

/-- The integer that a text gives: blanks around it, a sign, single underscores between digits and a
fraction of zeros are let through. -/
def integerText? (s : String) : Option Int :=
  let (negative, body) := Decimal.splitSign (Text.trimBy Text.isSpace s.toList)
  let fraction := (body.dropWhile (· != '.')).drop 1
  (Decimal.joinGroups (body.takeWhile (· != '.'))).bind fun ds =>
    if !ds.isEmpty && ds.all Char.isDigit && fraction.all (· == '0') then
      let n : Int := Decimal.valueOf ds
      some (if negative then -n else n)
    else none

def integer : Decoder Int
  | .int n => .ok n
  | .bool b => .ok (Scalar.boolInt b)
  | .float x =>
    if !Decimal.isFinite x then .fail "Input should be a finite number"
    else match Decimal.integer? x with
      | none => .fail "Input should be a valid integer, got a number with a fractional part"
      | some n =>
        if -Moment.wordBound < n && n < Moment.wordBound then .ok n
        else .fail "Unable to parse input string as an integer, exceeded maximum size"
  | .text s =>
    if (Text.trimBy Text.isSpace s.toList).length > integerSizeLimit then
      .fail "Unable to parse input string as an integer, exceeded maximum size"
    else match integerText? s with
      | some n => .ok n
      | none => .fail "Input should be a valid integer, unable to parse string as an integer"
  | _ => .fail "Input should be a valid integer"

/-- The double that a text gives, with or without single underscores. -/
def floatText? (s : String) : Option Float :=
  let cs := Text.trimBy Text.isSpace s.toList
  match Decimal.decimal? cs with
  | some x => some x
  | none => (ungrouped? s.toList).bind fun cs => Decimal.decimal? (Text.trimBy Text.isSpace cs)

def float : Decoder Float
  | .float x => .ok x
  | .int n =>
    let x := Decimal.ofInt n
    if Decimal.isFinite x then .ok x else .fail "Input should be a valid number"
  | .bool b => .ok (if b then 1.0 else 0.0)
  | .text s => match floatText? s with
    | some x => .ok x
    | none => .fail "Input should be a valid number, unable to parse string as a number"
  | _ => .fail "Input should be a valid number"

def yesWords : List String := ["1", "on", "t", "true", "y", "yes"]
def noWords : List String := ["0", "off", "f", "false", "n", "no"]

def boolOfInt (n : Int) : Decoded Bool :=
  if n == 0 then .ok false
  else if n == 1 then .ok true
  else .fail "Input should be a valid boolean, unable to interpret input"

def bool : Decoder Bool
  | .bool b => .ok b
  | .int n =>
    if -Moment.wordBound ≤ n && n < Moment.wordBound then boolOfInt n
    else .fail "Input should be a valid boolean"
  | .float x => match Decimal.integer? x with
    | some n =>
      if -Moment.wordBound < n && n < Moment.wordBound then boolOfInt n
      else .fail "Input should be a valid boolean"
    | none => .fail "Input should be a valid boolean"
  | .text s =>
    let word := String.ofList (s.toList.map Char.toLower)
    if yesWords.contains word then .ok true
    else if noWords.contains word then .ok false
    else .fail "Input should be a valid boolean, unable to interpret input"
  | _ => .fail "Input should be a valid boolean"

/-- Items with their indexes from `i` on. -/
def items (item : Decoder α) : Nat → List Value → Decoded (List α)
  | _, [] => .ok []
  | i, v :: rest =>
    (fun x xs => x :: xs) <$> (item v).under (toString i) <*> items item (i + 1) rest

def list (item : Decoder α) : Decoder (List α)
  | .list vs => items item 0 vs
  | _ => .fail "Input should be a valid list"

def entries (item : Decoder α) : List (String × Value) → Decoded (Members α)
  | [] => .ok []
  | (k, v) :: rest => (fun x xs => (k, x) :: xs) <$> (item v).under k <*> entries item rest

/-- A record with any names and members of one kind. -/
def dictionary (item : Decoder α) : Decoder (Members α)
  | .record ms => entries item ms
  | _ => .fail "Input should be a valid dictionary"

def nullable (d : Decoder α) : Decoder (Option α)
  | .null => .ok none
  | v => some <$> d v

/-- A scalar, kept as it is; anything else is tried against each of the four kinds. -/
def scalar : Decoder Scalar := fun v =>
  match v.scalar? with
  | some s => .ok s
  | none => .invalid [⟨["str"], "Input should be a valid string"⟩,
      ⟨["bool"], "Input should be a valid boolean"⟩, ⟨["int"], "Input should be a valid integer"⟩,
      ⟨["float"], "Input should be a valid number"⟩]

/-- `'a', 'b' or 'c'`. -/
def alternatives : List String → String
  | [] => ""
  | [a] => "'" ++ a ++ "'"
  | [a, b] => "'" ++ a ++ "' or '" ++ b ++ "'"
  | a :: rest => "'" ++ a ++ "', " ++ alternatives rest

/-- One of the values of a closed list, given by its word. -/
def oneOf (all : List α) (word : α → String) : Decoder α := fun v =>
  let refusal := Decoded.fail ("Input should be " ++ alternatives (all.map word))
  match v with
  | .text s => match all.find? fun a => word a == s with
    | some a => .ok a
    | none => refusal
  | _ => refusal

def momentFault (e : Moment.TextFault) (dated : Bool) : Decoded Moment :=
  .fail ((if dated then "Input should be a valid datetime or date, "
    else "Input should be a valid datetime, ") ++ e.message)

def moment : Decoder Moment
  | .text s => match Moment.ofDocumentText s with
    | .ok m => .ok m
    | .error e => momentFault e true
  | .int n =>
    let stamp := if -Moment.wordBound ≤ n && n < Moment.wordBound then Moment.ofTimestamp n 0
      else Moment.ofFloatStamp (Decimal.ofInt n)
    match stamp with
    | .ok m => .ok m
    | .error e => momentFault e false
  | .float x => match Moment.ofFloatStamp x with
    | .ok m => .ok m
    | .error e => momentFault e false
  | _ => .fail "Input should be a valid datetime"

end Decoder

/-- A member has two spellings in documents. -/
structure Label where
  camel : String
  snake : String

inductive Spelling where
  | camel
  | snake

def Spelling.name : Spelling → Label → String
  | .camel, l => l.camel
  | .snake, l => l.snake

namespace Label

/-- A name of one word, the same in both spellings. -/
def plain (name : String) : Label := ⟨name, name⟩

variable {α : Type}

/-- The member of a record: the first spelling wins. -/
def member? (l : Label) (ms : Members Value) : Option Value :=
  match ms.find? l.camel with
  | some v => some v
  | none => ms.find? l.snake

def required (l : Label) (d : Decoder α) (ms : Members Value) : Decoded α :=
  match l.member? ms with
  | some v => (d v).under l.camel
  | none => (Decoded.fail "Field required").under l.camel

def optional (l : Label) (d : Decoder α) (fallback : α) (ms : Members Value) : Decoded α :=
  match l.member? ms with
  | some v => (d v).under l.camel
  | none => .ok fallback

end Label

/-- A record of the named type. -/
def Decoder.model {α : Type} (name : String) (fields : Members Value → Decoded α) : Decoder α
  | .record ms => fields ms
  | _ => .fail ("Input should be a valid dictionary or instance of " ++ name)

end Scout
