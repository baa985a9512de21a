import Scout.Value

/-!
# JSON text

Texts are written with ASCII escapes, or as they are except for the quote, the backslash and
controls. The indented form puts every item and member on its own line, two blanks deeper than
its parent; an empty list or record stays on one line.
-/

namespace Scout.Json

def unitEscape (n : Nat) : String :=
  "\\u" ++ Text.hex 4 n

/-- A character beyond the basic plane is written as two units. -/
def asciiEscape (c : Char) : String :=
  let n := c.toNat
  if n < 0x10000 then unitEscape n
  else unitEscape (0xD800 + (n - 0x10000) / 0x400) ++ unitEscape (0xDC00 + (n - 0x10000) % 0x400)

def escapeChar (ascii : Bool) (c : Char) : String :=
  if c == '"' then "\\\""
  else if c == '\\' then "\\\\"
  else if c == '\n' then "\\n"
  else if c == '\r' then "\\r"
  else if c == '\t' then "\\t"
  else if c.toNat == 8 then "\\b"
  else if c.toNat == 12 then "\\f"
  else if c.toNat < 32 then unitEscape c.toNat
  else if ascii && 127 ≤ c.toNat then asciiEscape c
  else c.toString

def writeText (ascii : Bool) (s : String) : String :=
  "\"" ++ String.join (s.toList.map (escapeChar ascii)) ++ "\""

def writeFloat (x : Float) : String :=
  match Decimal.FloatForm.of x with
  | .nan => "NaN"
  | .infinite negative => if negative then "-Infinity" else "Infinity"
  | .finite _ => Decimal.shortestText x

mutual

/-- The form on one line, items set apart by a comma and a blank. -/
def compact (ascii : Bool) : Value → String
  | .null => "null"
  | .bool b => if b then "true" else "false"
  | .int n => toString n
  | .float x => writeFloat x
  | .text s => writeText ascii s
  | .list items => "[" ++ ", ".intercalate (compactItems ascii items) ++ "]"
  | .record members => "\x7b" ++ ", ".intercalate (compactMembers ascii members) ++ "\x7d"

def compactItems (ascii : Bool) : List Value → List String
  | [] => []
  | v :: rest => compact ascii v :: compactItems ascii rest

def compactMembers (ascii : Bool) : List (String × Value) → List String
  | [] => []
  | (k, v) :: rest => (writeText ascii k ++ ": " ++ compact ascii v) :: compactMembers ascii rest

end

def margin (depth : Nat) : String :=
  "\n" ++ String.ofList (List.replicate (2 * depth) ' ')

def bracketed (opening closing : Char) (depth : Nat) (parts : List String) : String :=
  if parts.isEmpty then String.ofList [opening, closing]
  else opening.toString ++ margin (depth + 1) ++ ("," ++ margin (depth + 1)).intercalate parts
    ++ margin depth ++ closing.toString

mutual

/-- The indented form of a value that stands at the given depth. -/
def indented (ascii : Bool) : Value → Nat → String
  | .list items, depth => bracketed '[' ']' depth (indentedItems ascii items depth)
  | .record members, depth => bracketed '\x7b' '\x7d' depth (indentedMembers ascii members depth)
  | .null, _ => "null"
  | .bool b, _ => if b then "true" else "false"
  | .int n, _ => toString n
  | .float x, _ => writeFloat x
  | .text s, _ => writeText ascii s

def indentedItems (ascii : Bool) : List Value → Nat → List String
  | [], _ => []
  | v :: rest, depth => indented ascii v (depth + 1) :: indentedItems ascii rest depth

def indentedMembers (ascii : Bool) : List (String × Value) → Nat → List String
  | [], _ => []
  | (k, v) :: rest, depth =>
    (writeText ascii k ++ ": " ++ indented ascii v (depth + 1)) :: indentedMembers ascii rest depth

end

/-- The text of a stored document. -/
def document (v : Value) : String :=
  indented true v 0

end Scout.Json
