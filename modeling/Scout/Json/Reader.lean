import Scout.Value

/-!
# Reading JSON text

A reader works on the characters that are left. It stops at the first fault and says what was
expected and at which character; the caller turns the position into a line and a column. `NaN`
and the infinities are numbers, a repeated member keeps its first place and takes its last
value, and a number without fraction and exponent is an integer.
-/

namespace Scout.Json

/-- What is wrong with a text, and at which character. -/
structure Fault where
  message : String
  position : Nat

/-- The characters before `position`, counted from the start: line, column and place. -/
def Fault.describe (f : Fault) (text : List Char) : String :=
  let before := text.take f.position
  let line := before.count '\n' + 1
  let column := (before.reverse.takeWhile (· != '\n')).length + 1
  s!"{f.message}: line {line} column {column} (char {f.position})"

/-- The rest of a text with the number of characters read so far. -/
structure Cursor where
  rest : List Char
  position : Nat

namespace Cursor

def fail (c : Cursor) (message : String) : Fault :=
  ⟨message, c.position⟩

def advance (c : Cursor) (n : Nat) : Cursor :=
  ⟨c.rest.drop n, c.position + n⟩

def isSeparator (c : Char) : Bool :=
  c == ' ' || c == '\t' || c == '\n' || c == '\r'

/-- Past blanks. -/
def skip (c : Cursor) : Cursor :=
  let blanks := (c.rest.takeWhile isSeparator).length
  c.advance blanks

def startsWith (c : Cursor) (word : String) : Bool :=
  word.toList.isPrefixOf c.rest

def isAt (c : Cursor) (x : Char) : Bool :=
  c.rest.head? == some x

end Cursor

def hexDigit? (c : Char) : Option Nat :=
  if c.isDigit then some (c.toNat - 48)
  else if 'a' ≤ c && c ≤ 'f' then some (c.toNat - 87)
  else if 'A' ≤ c && c ≤ 'F' then some (c.toNat - 55)
  else none

def hexNumber? (cs : List Char) : Option Nat :=
  cs.foldl (fun n c => n.bind fun n => (hexDigit? c).map (16 * n + ·)) (some 0)

/-- A unit of a pair that stands alone has no character. -/
def charOfUnit (n : Nat) : Char :=
  if 0xD800 ≤ n && n < 0xE000 then Char.ofNat 0xFFFD else Char.ofNat n

def isHighUnit (n : Nat) : Bool :=
  0xD800 ≤ n && n < 0xDC00

def isLowUnit (n : Nat) : Bool :=
  0xDC00 ≤ n && n < 0xE000

def plainEscape? (c : Char) : Option Char :=
  match c with
  | '"' => some '"'
  | '\\' => some '\\'
  | '/' => some '/'
  | 'b' => some (Char.ofNat 8)
  | 'f' => some (Char.ofNat 12)
  | 'n' => some '\n'
  | 'r' => some '\r'
  | 't' => some '\t'
  | _ => none

/-- Four hexadecimal digits, followed by at least one more character. -/
def unit? (cs : List Char) (position : Nat) : Except Fault Nat :=
  if (cs.take 5).length < 5 then .error ⟨"Invalid \\uXXXX escape", position⟩
  else match hexNumber? (cs.take 4) with
    | some n => .ok n
    | none => .error ⟨"Invalid \\uXXXX escape", position⟩

/-- The low unit that follows a high one. A unit that is not half of a pair stands alone. -/
def lowUnit? (high : Nat) (cs : List Char) (position : Nat) : Except Fault (Option Nat) :=
  match cs with
  | '\\' :: 'u' :: low =>
    if isHighUnit high && 4 < (low.take 5).length then
      match hexNumber? (low.take 4) with
      | some m => .ok (if isLowUnit m then some m else none)
      | none => .error ⟨"Invalid \\uXXXX escape", position⟩
    else .ok none
  | _ => .ok none

def unterminated (start : Nat) : Fault :=
  ⟨"Unterminated string starting at", start⟩

/-- The character that stands first inside quotes, and how many characters it is written with;
`start` is the place of the opening quote. -/
def readChar (start : Nat) (c : Cursor) : Except Fault (Char × Nat) :=
  match c.rest with
  | [] => .error (unterminated start)
  | '\\' :: [] => .error (unterminated start)
  | '\\' :: 'u' :: more => do
    let n ← unit? more (c.position + 1)
    match ← lowUnit? n (more.drop 4) (c.position + 7) with
    | some m => pure (Char.ofNat (0x10000 + (n - 0xD800) * 0x400 + (m - 0xDC00)), 12)
    | none => pure (charOfUnit n, 6)
  | '\\' :: e :: _ =>
    match plainEscape? e with
    | some x => .ok (x, 2)
    | none => .error ⟨"Invalid \\escape", c.position⟩
  | x :: _ =>
    if x.toNat < 32 then .error ⟨"Invalid control character at", c.position⟩
    else .ok (x, 1)

/-- The rest of a text up to its closing quote. -/
def readText (start : Nat) : Nat → Cursor → List Char → Except Fault (String × Cursor)
  | 0, _, _ => .error (unterminated start)
  | fuel + 1, c, acc =>
    if c.isAt '"' then .ok (String.ofList acc.reverse, c.advance 1)
    else do
      let (x, written) ← readChar start c
      readText start fuel (c.advance written) (x :: acc)

/-- The digits before the point: a leading zero stands alone. -/
def wholeDigits : List Char → List Char
  | '0' :: _ => ['0']
  | cs => cs.takeWhile Char.isDigit

def fractionDigits : List Char → List Char
  | '.' :: rest => rest.takeWhile Char.isDigit
  | _ => []

/-- An exponent with its letter and its sign; nothing when no digits come after them. -/
def exponentPart : List Char → List Char
  | e :: rest =>
    if e == 'e' || e == 'E' then
      let signs := (rest.take 1).filter fun c => c == '+' || c == '-'
      let ds := (rest.drop signs.length).takeWhile Char.isDigit
      if ds.isEmpty then [] else e :: signs ++ ds
    else []
  | [] => []

/-- The longest number without a sign at the start of the text, with its length. -/
def readUnsigned? (negative : Bool) (cs : List Char) : Option (Value × Nat) :=
  let whole := wholeDigits cs
  if whole.isEmpty then none
  else
    let rest := cs.drop whole.length
    let frac := fractionDigits rest
    let point := if frac.isEmpty then [] else '.' :: frac
    let power := exponentPart (rest.drop point.length)
    let text := whole ++ point ++ power
    if frac.isEmpty && power.isEmpty then
      let n : Int := Decimal.valueOf whole
      some (.int (if negative then -n else n), text.length)
    else
      (Decimal.scientific? text).map fun s =>
        (.float (Decimal.nearest negative s.digits s.exponent), text.length)

/-- The longest number at the start of the text, with its length. -/
def readNumber? : List Char → Option (Value × Nat)
  | '-' :: rest => (readUnsigned? true rest).map fun (v, n) => (v, n + 1)
  | cs => readUnsigned? false cs

def literals : List (String × Value) :=
  [("null", .null), ("true", .bool true), ("false", .bool false), ("NaN", .float (0.0 / 0.0)),
    ("Infinity", .float (1.0 / 0.0)), ("-Infinity", .float (-(1.0 / 0.0)))]

mutual

/-- A value at the cursor. -/
def readValue : Nat → Cursor → Except Fault (Value × Cursor)
  | 0, c => .error (c.fail "Expecting value")
  | fuel + 1, c =>
    match c.rest with
    | '"' :: _ => do
      let (s, c') ← readText c.position fuel (c.advance 1) []
      pure (.text s, c')
    | '\x7b' :: _ =>
      let c := (c.advance 1).skip
      if c.isAt '\x7d' then .ok (.record [], c.advance 1)
      else readMembers fuel c []
    | '[' :: _ =>
      let c := (c.advance 1).skip
      if c.isAt ']' then .ok (.list [], c.advance 1)
      else readItems fuel c []
    | cs =>
      match literals.find? fun l => c.startsWith l.1 with
      | some (word, v) => .ok (v, c.advance word.length)
      | none =>
        match readNumber? cs with
        | some (v, n) => .ok (v, c.advance n)
        | none => .error (c.fail "Expecting value")

def readItems : Nat → Cursor → List Value → Except Fault (Value × Cursor)
  | 0, c, _ => .error (c.fail "Expecting value")
  | fuel + 1, c, acc => do
    let (v, c) ← readValue fuel c
    let c := c.skip
    if c.isAt ']' then pure (.list (v :: acc).reverse, c.advance 1)
    else if c.isAt ',' then readItems fuel (c.advance 1).skip (v :: acc)
    else .error (c.fail "Expecting ',' delimiter")

def readMembers : Nat → Cursor → Members Value → Except Fault (Value × Cursor)
  | 0, c, _ => .error (c.fail "Expecting value")
  | fuel + 1, c, acc => do
    if !c.isAt '"' then
      .error (c.fail "Expecting property name enclosed in double quotes")
    let (name, c) ← readText c.position fuel (c.advance 1) []
    let c := c.skip
    if !c.isAt ':' then .error (c.fail "Expecting ':' delimiter")
    let (v, c) ← readValue fuel (c.advance 1).skip
    let c := c.skip
    let acc := acc.put name v
    if c.isAt '\x7d' then pure (.record acc, c.advance 1)
    else if c.isAt ',' then readMembers fuel (c.advance 1).skip acc
    else .error (c.fail "Expecting ',' delimiter")

end

/-- The value that the whole text holds. Entering a list or a record takes two steps for one
character, and every other step reads one, so twice the length of the text is enough. -/
def parse (text : String) : Except Fault Value := do
  let cs := text.toList
  if cs.head? == some (Char.ofNat 0xFEFF) then
    .error ⟨"Unexpected UTF-8 BOM (decode using utf-8-sig)", 0⟩
  let (v, c) ← readValue (2 * cs.length + 2) (Cursor.skip ⟨cs, 0⟩)
  let c := c.skip
  if c.rest.isEmpty then pure v else .error (c.fail "Extra data")

end Scout.Json
