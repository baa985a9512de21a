import Scout.Decimal.Places
import Scout.Text.Blank
import Scout.Text.Digit

/-!
# Numbers read from text

An integer is a sign and digits, a decimal has a fraction and an exponent besides. Single
underscores may stand between digits. Free text admits the digits of every script; a document
member only ASCII ones, and its own rules for underscores.
-/

namespace Scout.Decimal

/-- The parts of a decimal text: all its digits, and the exponent of the last one. -/
structure Scientific where
  digits : Nat
  exponent : Int

def ofDigits (ds : List Nat) : Nat :=
  ds.foldl (fun n d => 10 * n + d) 0

def splitSign : List Char → Bool × List Char
  | '-' :: rest => (true, rest)
  | '+' :: rest => (false, rest)
  | rest => (false, rest)

def asciiDigit? (c : Char) : Option Nat :=
  if c.isDigit then some (c.toNat - 48) else none

/-- The number that a text of digits gives. -/
def valueOf (cs : List Char) : Nat :=
  ofDigits (cs.filterMap asciiDigit?)

/-- Every digit of any script as the ASCII digit of its value. -/
def plainDigit (c : Char) : Char :=
  match Text.digitValue? c with
  | some d => Char.ofNat (48 + d)
  | none => c

/-- The text without single underscores between digits; `none` when one stands elsewhere. -/
def joinGroups : List Char → Option (List Char)
  | [] => some []
  | a :: '_' :: b :: rest =>
    if a.isDigit && b.isDigit then (joinGroups (b :: rest)).map (a :: ·) else none
  | c :: rest => if c == '_' then none else (joinGroups rest).map (c :: ·)

/-- The digits after a point, if one comes first, and what is left. -/
def splitFraction : List Char → List Char × List Char
  | '.' :: rest => (rest.takeWhile Char.isDigit, rest.dropWhile Char.isDigit)
  | rest => ([], rest)

/-- The exponent that ends a decimal, zero when nothing is left. -/
def exponent? : List Char → Option Int
  | [] => some 0
  | e :: rest =>
    if e == 'e' || e == 'E' then
      let (negative, ds) := splitSign rest
      if !ds.isEmpty && ds.all Char.isDigit then
        some (if negative then -(valueOf ds : Int) else valueOf ds)
      else none
    else none

/-- An unsigned decimal without underscores. -/
def scientific? (cs : List Char) : Option Scientific :=
  let whole := cs.takeWhile Char.isDigit
  let (frac, rest) := splitFraction (cs.dropWhile Char.isDigit)
  if whole.isEmpty && frac.isEmpty then none
  else (exponent? rest).map fun e => ⟨valueOf (whole ++ frac), e - frac.length⟩

/-- A signed decimal without underscores, or one of the names of infinity and of what is no
number. -/
def decimal? (cs : List Char) : Option Float :=
  let (negative, rest) := splitSign cs
  let word := String.ofList (rest.map Char.toLower)
  if word == "inf" || word == "infinity" then some (if negative then -(1.0 / 0.0) else 1.0 / 0.0)
  else if word == "nan" then some (0.0 / 0.0)
  else (scientific? rest).map fun s => nearest negative s.digits s.exponent

/-- A decimal in free text. -/
def ofText? (s : String) : Option Float :=
  let cs := (Text.trimBy Text.isBlank s.toList).map plainDigit
  (joinGroups cs).bind decimal?

/-- An integer in free text. -/
def intOfText? (s : String) : Option Int :=
  let cs := (Text.trimBy Text.isBlank s.toList).map plainDigit
  let (negative, rest) := splitSign cs
  (joinGroups rest).bind fun ds =>
    if !ds.isEmpty && ds.all Char.isDigit then
      let n : Int := valueOf ds
      some (if negative then -n else n)
    else none

end Scout.Decimal
