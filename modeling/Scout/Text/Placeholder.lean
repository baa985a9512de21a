import Scout.Value

/-!
# Percent placeholders

A message holds placeholders that are filled from a list of arguments, or by name from a record.
A placeholder is a percent sign, a name in parentheses, flags, a width, a precision and a letter
that says how its argument is written.
-/

namespace Scout.Placeholder

/-- Why a message cannot be filled. -/
inductive Fault where
  | tooFewArguments
  | tooManyArguments
  | endsInside
  | nameNotClosed
  | nameWithoutRecord
  | unknownName (name : String)
  | unknownLetter (letter : Char) (position : Nat)
  | widthNotInteger
  | widthTooLarge
  | precisionTooLarge
  | widthArgumentTooLarge
  | precisionArgumentTooLarge
  | notNumber (letter : Char) (kind : String)
  | notInteger (letter : Char) (kind : String)
  | notReal (kind : String)
  | notCharacter
  | characterOutOfRange
  | infinite
  | notWhole
  | tooLarge
deriving DecidableEq

def Fault.message : Fault → String
  | .tooFewArguments => "not enough arguments for format string"
  | .tooManyArguments => "not all arguments converted during string formatting"
  | .endsInside => "incomplete format"
  | .nameNotClosed => "incomplete format key"
  | .nameWithoutRecord => "format requires a mapping"
  | .unknownName name => Text.quote name
  | .unknownLetter letter position =>
    let shown := if 31 < letter.toNat && letter.toNat < 127 then letter else '?'
    s!"unsupported format character '{shown}' (0x{Text.hex 1 letter.toNat}) at index {position}"
  | .widthNotInteger => "* wants int"
  | .widthTooLarge => "width too big"
  | .precisionTooLarge => "precision too big"
  | .widthArgumentTooLarge => "Python int too large to convert to C ssize_t"
  | .precisionArgumentTooLarge => "Python int too large to convert to C int"
  | .notNumber letter kind => s!"%{letter} format: a real number is required, not {kind}"
  | .notInteger letter kind => s!"%{letter} format: an integer is required, not {kind}"
  | .notReal kind => s!"must be real number, not {kind}"
  | .notCharacter => "%c requires int or char"
  | .characterOutOfRange => "%c arg not in range(0x110000)"
  | .infinite => "cannot convert float infinity to integer"
  | .notWhole => "cannot convert float NaN to integer"
  | .tooLarge => "int too large to convert to float"

/-! ### Reading placeholders -/

inductive Name where
  | absent
  | unclosed
  | given (name : String)

/-- A width or a precision. -/
inductive Size where
  | absent
  | given (n : Nat)
  | fromArgument

structure Flags where
  left : Bool
  plus : Bool
  blank : Bool
  alternate : Bool
  zeros : Bool

structure Holder where
  name : Name
  flags : Flags
  width : Size
  precision : Size
  /-- Absent when the message ends inside the placeholder. -/
  letter : Option Char
  /-- Where the letter stands. -/
  position : Nat

inductive Piece where
  | char (c : Char)
  | holder (h : Holder)

/-- The characters up to the parenthesis that closes the open ones. -/
def closing? : Nat → List Char → List Char → Option (List Char × List Char)
  | _, _, [] => none
  | depth, seen, c :: rest =>
    if c == ')' then
      match depth with
      | 0 => some (seen.reverse, rest)
      | depth + 1 => closing? depth (c :: seen) rest
    else closing? (if c == '(' then depth + 1 else depth) (c :: seen) rest

def readName : List Char → Name × List Char
  | '(' :: rest => match closing? 0 [] rest with
    | some (name, rest) => (.given (String.ofList name), rest)
    | none => (.unclosed, [])
  | cs => (.absent, cs)

def isFlag (c : Char) : Bool :=
  c == '-' || c == '+' || c == ' ' || c == '#' || c == '0'

def flagsOf (cs : List Char) : Flags :=
  ⟨cs.contains '-', cs.contains '+', cs.contains ' ', cs.contains '#', cs.contains '0'⟩

def readDigits (cs : List Char) : Nat × List Char :=
  (Decimal.valueOf (cs.takeWhile Char.isDigit),
    cs.dropWhile Char.isDigit)

def readWidth : List Char → Size × List Char
  | '*' :: rest => (.fromArgument, rest)
  | c :: rest =>
    if c.isDigit then
      let (n, rest) := readDigits (c :: rest)
      (.given n, rest)
    else (.absent, c :: rest)
  | [] => (.absent, [])

def readPrecision : List Char → Size × List Char
  | '.' :: '*' :: rest => (.fromArgument, rest)
  | '.' :: rest =>
    let (n, rest) := readDigits rest
    (.given n, rest)
  | cs => (.absent, cs)

/-- A mark of the size of a number, which says nothing here. -/
def skipSizeMark : List Char → List Char
  | c :: rest => if c == 'h' || c == 'l' || c == 'L' then rest else c :: rest
  | [] => []

/-- The placeholder after a percent sign, and what follows it; `length` is that of the message. -/
def readHolder (length : Nat) (cs : List Char) : Holder × List Char :=
  let (name, cs) := readName cs
  let flags := flagsOf (cs.takeWhile isFlag)
  let (width, cs) := readWidth (cs.dropWhile isFlag)
  let (precision, cs) := readPrecision cs
  let cs := skipSizeMark cs
  (⟨name, flags, width, precision, cs.head?, length - cs.length⟩, cs.drop 1)

/-- The pieces of a message that is `length` characters long. Two percent signs are one
character. -/
def pieces (length : Nat) : Nat → List Char → List Piece
  | 0, _ => []
  | _, [] => []
  | fuel + 1, '%' :: '%' :: rest => .char '%' :: pieces length fuel rest
  | fuel + 1, '%' :: rest =>
    let (h, rest) := readHolder length rest
    .holder h :: pieces length fuel rest
  | fuel + 1, c :: rest => .char c :: pieces length fuel rest

/-! ### Filling them -/

/-- What is left to fill in. -/
structure Arguments where
  named : Option (Members Value)
  left : List Value

def Arguments.next (a : Arguments) : Except Fault (Value × Arguments) :=
  match a.left with
  | [] => .error .tooFewArguments
  | v :: rest => .ok (v, { a with left := rest })

def Arguments.select (a : Arguments) : Name → Except Fault Arguments
  | .absent => .ok a
  | .unclosed => .error (if a.named.isNone then .nameWithoutRecord else .nameNotClosed)
  | .given name => match a.named with
    | none => .error .nameWithoutRecord
    | some ms => match ms.find? name with
      | none => .error (.unknownName name)
      | some v => .ok { a with left := [v] }

/-- How large a size can be, and the faults of one that is larger. -/
structure SizeLimit where
  bound : Nat
  given : Fault
  argument : Fault

def widthLimit : SizeLimit := ⟨0x8000000000000000, .widthTooLarge, .widthArgumentTooLarge⟩
def precisionLimit : SizeLimit := ⟨0x80000000, .precisionTooLarge, .precisionArgumentTooLarge⟩

/-- A size that is given or taken from the arguments. -/
def Arguments.size (a : Arguments) (limit : SizeLimit) :
    Size → Except Fault (Option Int × Arguments)
  | .absent => .ok (none, a)
  | .given n => if n < limit.bound then .ok (some n, a) else .error limit.given
  | .fromArgument => do
    let (v, a) ← a.next
    match v with
    | .int n =>
      if -(limit.bound : Int) ≤ n && n < limit.bound then pure (some n, a)
      else .error limit.argument
    | .bool b => pure (some (Scalar.boolInt b), a)
    | _ => .error .widthNotInteger

def kindOf : Value → String
  | .null => "NoneType"
  | .bool _ => "bool"
  | .int _ => "int"
  | .float _ => "float"
  | .text _ => "str"
  | .list _ => "list"
  | .record _ => "dict"

def integerOf (letter : Char) (v : Value) : Except Fault Int :=
  let strict := letter == 'o' || letter == 'x' || letter == 'X'
  let refusal (kind : String) : Fault :=
    if strict then .notInteger letter kind else .notNumber letter kind
  match v with
  | .int n => .ok n
  | .bool b => .ok (Scalar.boolInt b)
  | .float x =>
    if strict then .error (refusal "float")
    else match Decimal.FloatForm.of x with
      | .nan => .error .notWhole
      | .infinite _ => .error .infinite
      | .finite b => .ok b.truncate
  | v => .error (refusal (kindOf v))

def realOf (v : Value) : Except Fault Float :=
  let ofInteger (n : Int) : Except Fault Float :=
    let x := Decimal.ofInt n
    if Decimal.isFinite x then .ok x else .error .tooLarge
  match v with
  | .float x => .ok x
  | .int n => ofInteger n
  | .bool b => ofInteger (Scalar.boolInt b)
  | v => .error (.notReal (kindOf v))

def characterOf (v : Value) : Except Fault String :=
  let ofInteger (n : Int) : Except Fault String :=
    if 0 ≤ n && n < 0x110000 then .ok (Char.ofNat n.toNat).toString
    else .error .characterOutOfRange
  match v with
  | .text s => if s.length == 1 then .ok s else .error .notCharacter
  | .int n => ofInteger n
  | .bool b => ofInteger (Scalar.boolInt b)
  | _ => .error .notCharacter

/-- An argument as written, before it is padded: its sign, its mark of the base, and the rest. -/
structure Written where
  sign : String
  mark : String
  body : String

def Written.ofText (precision : Option Nat) (s : String) : Written :=
  ⟨"", "", match precision with
    | some p => String.ofList (s.toList.take p)
    | none => s⟩

def signOf (f : Flags) (negative : Bool) : String :=
  if negative then "-" else if f.plus then "+" else if f.blank then " " else ""

def baseOf (letter : Char) : Nat :=
  match letter with
  | 'o' => 8
  | 'x' | 'X' => 16
  | _ => 10

def Written.ofInteger (f : Flags) (precision : Option Nat) (letter : Char) (n : Int) : Written :=
  let digits := Nat.toDigits (baseOf letter) n.natAbs
  let digits := List.replicate (precision.getD 0 - digits.length) '0' ++ digits
  let body := String.ofList (if letter == 'X' then digits.map Char.toUpper else digits)
  let mark := if f.alternate && baseOf letter != 10 then String.ofList ['0', letter] else ""
  ⟨signOf f (n < 0), mark, body⟩

def floatText (f : Flags) (precision : Nat) (letter : Char) (x : Float) : String :=
  match letter.toLower with
  | 'e' => Decimal.scientificText f.alternate precision x
  | 'f' =>
    let s := Decimal.fixedText precision x
    if f.alternate && precision == 0 && Decimal.isFinite x then s ++ "." else s
  | _ => Decimal.generalForm f.alternate (max precision 1) x

def Written.ofFloat (f : Flags) (precision : Option Nat) (letter : Char) (x : Float) : Written :=
  let s := floatText f (precision.getD 6) letter x
  let s := if letter.isUpper then String.ofList (s.toList.map Char.toUpper) else s
  match s.toList with
  | '-' :: rest => ⟨"-", "", String.ofList rest⟩
  | _ => ⟨signOf f false, "", s⟩

def blanks (n : Nat) : String :=
  String.ofList (List.replicate n ' ')

/-- Pads to the width: on the right, with zeros after the sign and the mark, or on the left. -/
def Written.padded (w : Written) (f : Flags) (zeros left : Bool) (width : Nat) : String :=
  let head := w.sign ++ w.mark
  let missing := width - (head.length + w.body.length)
  if left then head ++ w.body ++ blanks missing
  else if zeros && f.zeros then
    head ++ String.ofList (List.replicate missing '0') ++ w.body
  else blanks missing ++ head ++ w.body

/-- The text without characters beyond ASCII. -/
def asciiOnly (s : String) : String :=
  String.join (s.toList.map fun c =>
    let n := c.toNat
    if n < 128 then c.toString
    else if n < 0x100 then "\\x" ++ Text.hex 2 n
    else if n < 0x10000 then "\\u" ++ Text.hex 4 n
    else "\\U" ++ Text.hex 8 n)

/-- How a letter writes an argument, and whether zeros may pad it. -/
def write (f : Flags) (precision : Option Nat) (letter : Char) (position : Nat) (v : Value) :
    Except Fault (Written × Bool) :=
  match letter with
  | 's' => .ok (.ofText precision v.display, false)
  | 'r' => .ok (.ofText precision v.quoted, false)
  | 'a' => .ok (.ofText precision (asciiOnly v.quoted), false)
  | 'c' => (characterOf v).map fun s => (.ofText none s, false)
  | 'd' | 'i' | 'u' | 'o' | 'x' | 'X' =>
    (integerOf letter v).map fun n => (.ofInteger f precision letter n, true)
  | 'e' | 'E' | 'f' | 'F' | 'g' | 'G' =>
    (realOf v).map fun x => (.ofFloat f precision letter x, true)
  | _ => .error (.unknownLetter letter position)

def fillHolder (h : Holder) (a : Arguments) : Except Fault (String × Arguments) := do
  let a ← a.select h.name
  let (width, a) ← a.size widthLimit h.width
  let (precision, a) ← a.size precisionLimit h.precision
  match h.letter with
  | none => .error .endsInside
  | some letter =>
    let (v, a) ← a.next
    let (w, zeros) ← write h.flags (precision.map Int.toNat) letter h.position v
    let size := width.getD 0
    pure (w.padded h.flags zeros (h.flags.left || size < 0) size.natAbs, a)

def fillPieces : List Piece → Arguments → Except Fault (String × Arguments)
  | [], a => .ok ("", a)
  | .char c :: rest, a => do
    let (s, a) ← fillPieces rest a
    pure (c.toString ++ s, a)
  | .holder h :: rest, a => do
    let (text, a) ← fillHolder h a
    let (s, a) ← fillPieces rest a
    pure (text ++ s, a)

/-- The arguments of a message: a single record that is not empty gives its members by name. -/
def Arguments.ofList : List Value → Arguments
  | [.record (m :: ms)] => ⟨some (m :: ms), [.record (m :: ms)]⟩
  | vs => ⟨none, vs⟩

/-- Fills a message; without arguments it is taken as it is. -/
def fill (message : String) (arguments : List Value) : Except Fault String :=
  if arguments.isEmpty then .ok message
  else do
    let cs := message.toList
    let (s, a) ← fillPieces (pieces cs.length cs.length cs) (.ofList arguments)
    if a.named.isNone && !a.left.isEmpty then .error .tooManyArguments else pure s

end Scout.Placeholder
