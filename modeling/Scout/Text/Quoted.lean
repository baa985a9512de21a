import Scout.Text.Printable

/-!
# Quoted text

A text inside a list or a record is written between quotes: single ones, or double ones when it
holds a single quote and no double one. The quote and the backslash are escaped by a backslash,
line feed, carriage return and tab by a letter, and every other character without a visible form
by its number.
-/

namespace Scout.Text

/-- A number in base sixteen, lower case, with at least the given count of digits. -/
def hex (digits n : Nat) : String :=
  let ds := Nat.toDigits 16 n
  String.ofList (List.replicate (digits - ds.length) '0' ++ ds)

/-- The quote that surrounds a text. -/
def quoteMark (cs : List Char) : Char :=
  if cs.contains '\'' && !cs.contains '"' then '"' else '\''

def quotedChar (mark c : Char) : String :=
  if c == mark || c == '\\' then String.ofList ['\\', c]
  else if c == '\n' then "\\n"
  else if c == '\r' then "\\r"
  else if c == '\t' then "\\t"
  else if isPrintable c then c.toString
  else if c.toNat < 0x100 then "\\x" ++ hex 2 c.toNat
  else if c.toNat < 0x10000 then "\\u" ++ hex 4 c.toNat
  else "\\U" ++ hex 8 c.toNat

/-- The text between quotes. -/
def quote (s : String) : String :=
  let mark := quoteMark s.toList
  mark.toString ++ String.join (s.toList.map (quotedChar mark)) ++ mark.toString

end Scout.Text
