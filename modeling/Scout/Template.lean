import Scout.Text.Word
import Scout.Value

/-!
# Templates

A template holds names between `$` and braces. A bound name is replaced by the form of its value
in page text; a name that is unbound, or bound to null, stays as it is and is reported where a
report is kept. What a value brings in is not looked at again, and a text in which no token can
begin is left alone.
-/

namespace Scout.Template

inductive Piece where
  | char (c : Char)
  | token (name : List Char)
deriving DecidableEq

/-- The name of the token at the start of a text, and what follows the token. -/
def tokenAt? : List Char → Option (List Char × List Char)
  | '$' :: '\x7b' :: rest =>
    let name := rest.takeWhile Text.isWord
    match rest.dropWhile Text.isWord with
    | '\x7d' :: after => if name.isEmpty then none else some (name, after)
    | _ => none
  | _ => none

theorem length_of_tokenAt? {cs name after : List Char} (h : tokenAt? cs = some (name, after)) :
    after.length < cs.length := by
  unfold tokenAt? at h
  split at h
  · rename_i rest
    simp only at h
    split at h
    · rename_i tail heq
      split at h
      · cases h
      · cases h
        have := (List.dropWhile_sublist (p := Text.isWord) (l := rest)).length_le
        rw [heq] at this
        simp only [List.length_cons] at this ⊢
        omega
    · cases h
  · cases h

/-- The pieces of a text, tokens taken from the left. -/
def pieces (cs : List Char) : List Piece :=
  match h : tokenAt? cs with
  | some (name, after) =>
    have := length_of_tokenAt? h
    .token name :: pieces after
  | none =>
    match cs with
    | [] => []
    | c :: rest => .char c :: pieces rest
termination_by cs.length

/-- The bound value of a name that is not null. -/
def bound? (vars : Members Value) (name : String) : Option Value :=
  match vars.find? name with
  | some .null => none
  | found => found

def tokenText (name : List Char) : List Char :=
  '$' :: '\x7b' :: name ++ ['\x7d']

def Piece.expand (vars : Members Value) : Piece → List Char
  | .char c => [c]
  | .token name =>
    match bound? vars (String.ofList name) with
    | some v => v.stringify.toList
    | none => tokenText name

def Piece.missing? (vars : Members Value) : Piece → Option String
  | .char _ => none
  | .token name =>
    match bound? vars (String.ofList name) with
    | some _ => none
    | none => some (String.ofList name)

/-- Whether a token can begin somewhere in a text. -/
def hasOpening : List Char → Bool
  | '$' :: '\x7b' :: _ => true
  | _ :: rest => hasOpening rest
  | [] => false

/-- The text of some pieces, and a report with the names that have no value added to it, if one is
kept. -/
def expandAll (vars : Members Value) :
    List Piece → Option (List String) → List Char × Option (List String)
  | [], report => ([], report)
  | p :: rest, report =>
    let (cs, told) := expandAll vars rest (report.map (· ++ (p.missing? vars).toList))
    (p.expand vars ++ cs, told)

/-- The text with every bound token replaced, and the report of the tokens that stay. -/
def fillIn (vars : Members Value) (template : String) (report : Option (List String)) :
    String × Option (List String) :=
  if hasOpening template.toList then
    let (cs, told) := expandAll vars (pieces template.toList) report
    (String.ofList cs, told)
  else (template, report)

/-- The text with every bound token replaced. -/
def substitute (vars : Members Value) (template : String) : String :=
  (fillIn vars template none).1

/-- The names of the tokens that stay, in order and with repetitions. -/
def unresolved (vars : Members Value) (template : String) : List String :=
  (fillIn vars template (some [])).2.getD []

end Scout.Template
