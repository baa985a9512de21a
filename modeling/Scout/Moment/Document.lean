import Scout.Decimal.Read
import Scout.Moment.Basic

/-!
# Moments in documents

A document gives a moment as a date with or without a time, or as a number of seconds since 1970 (of
milliseconds beyond 2·10^10). A text that is neither is blamed on its date part.
-/

namespace Scout.Moment

/-- What is wrong with the text of a moment. -/
inductive TextFault where
  | tooShort
  | yearDigit
  | dateSeparator
  | monthDigit
  | dayDigit
  | monthRange
  | dayRange
  | trailing
  | beforeRange
  | afterRange
  | notANumber

def TextFault.message : TextFault → String
  | .tooShort => "input is too short"
  | .yearDigit => "invalid character in year"
  | .dateSeparator => "invalid date separator, expected `-`"
  | .monthDigit => "invalid character in month"
  | .dayDigit => "invalid character in day"
  | .monthRange => "month value is outside expected range of 1-12"
  | .dayRange => "day value is outside expected range"
  | .trailing => "unexpected extra characters at the end of the input"
  | .beforeRange => "dates before 1600 are not supported as unix timestamps"
  | .afterRange => "dates after 9999 are not supported as unix timestamps"
  | .notANumber => "NaN values not permitted"

def number? (cs : List Char) : Option Nat :=
  if cs.all Char.isDigit then some (Decimal.valueOf cs) else none

/-- The date at the start of a text. -/
def leadingDate (cs : List Char) : Except TextFault (Nat × Nat × Nat) := do
  if (String.ofList cs).utf8ByteSize < 10 then throw .tooShort
  let some year := number? (cs.take 4) | throw .yearDigit
  if cs[4]? != some '-' then throw .dateSeparator
  let some month := number? ((cs.drop 5).take 2) | throw .monthDigit
  if cs[7]? != some '-' then throw .dateSeparator
  let some day := number? ((cs.drop 8).take 2) | throw .dayDigit
  if month < 1 || 12 < month then throw .monthRange
  if !Calendar.isDate year month day then throw .dayRange
  pure (year, month, day)

/-- Two digits below a bound. -/
def twoDigits? (cs : List Char) (bound : Nat) : Option (Nat × List Char) :=
  if cs.length < 2 then none
  else (number? (cs.take 2)).bind fun n => if n < bound then some (n, cs.drop 2) else none

/-- Digits of a fraction as millionths; those after the sixth are dropped. -/
def millionths (ds : List Char) : Nat :=
  let kept := ds.take 6
  (number? kept).getD 0 * Nat.pow 10 (6 - kept.length)

structure TimeOfDay where
  hour : Nat
  minute : Nat
  second : Nat
  micro : Nat

def secondsOf? (cs : List Char) : Option (Nat × Nat × List Char) := do
  match cs with
  | ':' :: rest =>
    let (second, rest) ← twoDigits? rest 60
    match rest with
    | mark :: r =>
      if mark == '.' || mark == ',' then
        let ds := r.takeWhile Char.isDigit
        if ds.isEmpty then none else some (second, millionths ds, r.dropWhile Char.isDigit)
      else some (second, 0, rest)
    | [] => some (second, 0, [])
  | rest => some (0, 0, rest)

def timeOfDay? (cs : List Char) : Option (TimeOfDay × List Char) := do
  let (hour, rest) ← twoDigits? cs 24
  match rest with
  | ':' :: rest =>
    let (minute, rest) ← twoDigits? rest 60
    let (second, micro, rest) ← secondsOf? rest
    some (⟨hour, minute, second, micro⟩, rest)
  | _ => none

def zoneSign? (c : Char) : Option Int :=
  if c == '+' then some 1
  else if c == '-' || c.toNat == 0x2212 then some (-1)
  else none

/-- The distance from universal time that ends a text; `none` when something else stands there. -/
def zone? (cs : List Char) : Option (Option Int) :=
  match cs with
  | [] => some none
  | ['Z'] | ['z'] => some (some 0)
  | c :: rest => do
    let sign ← zoneSign? c
    let (hour, rest) ← twoDigits? rest 100
    let rest := match rest with
      | ':' :: r => r
      | r => r
    let (minute, rest) ← twoDigits? rest 60
    let size := hour * 3600 + minute * 60
    if rest.isEmpty && size < 86400 then some (some (sign * size)) else none

def isDateTimeMark (c : Char) : Bool :=
  c == 'T' || c == 't' || c == ' ' || c == '_'

/-- A date with a time of day. -/
def dateTime? (cs : List Char) : Option Moment := do
  let (year, month, day) ← (leadingDate cs).toOption
  let mark ← cs[10]?
  if !isDateTimeMark mark then none
  let (t, rest) ← timeOfDay? (cs.drop 11)
  let offset ← zone? rest
  some ⟨year, month, day, t.hour, t.minute, t.second, t.micro, offset⟩

/-- Seconds since 1970, or milliseconds when there are more than 2·10^10. -/
def ofTimestamp (stamp : Int) (micro : Nat) : Except TextFault Moment :=
  let (seconds, extra) : Int × Nat :=
    if stamp.natAbs ≤ 20000000000 then (stamp, 0)
    else (stamp.fdiv 1000, (stamp.fmod 1000).toNat * 1000)
  let total := micro + extra
  let seconds := seconds + (total / 1000000 : Nat)
  if seconds < -11676096000 then .error .beforeRange
  else if 253402300799 < seconds then .error .afterRange
  else .ok (ofEpoch seconds (total % 1000000))

/-- What the integers of 64 bits stay below. -/
def wordBound : Int := 0x8000000000000000

/-- A float cut to its floor, and the size of its fraction in millionths. -/
def splitStamp (x : Float) : Int × Nat :=
  let floor := x.floor
  let whole := match Decimal.FloatForm.of floor with
    | .finite b => b.truncate
    | .infinite negative => if negative then -wordBound else wordBound - 1
    | .nan => 0
  let fraction := (x - (if x < 0.0 then x.ceil else floor)).abs
  let micro := if Decimal.isFinite x then (fraction * 1000000.0).round.toUInt64.toNat else 0
  (whole, micro)

def ofFloatStamp (x : Float) : Except TextFault Moment :=
  if x.isNaN then .error .notANumber
  else
    let (whole, micro) := splitStamp x
    ofTimestamp (max (-wordBound) (min (wordBound - 1) whole)) micro

/-- A text of digits with an optional sign, within 64 bits. -/
def stampText? (cs : List Char) : Option Int :=
  let (negative, ds) := Decimal.splitSign cs
  if ds.isEmpty then none
  else (number? ds).bind fun n =>
    let v : Int := if negative then -(n : Int) else n
    if -wordBound ≤ v && v < wordBound then some v else none

/-- A text of digits with a point. -/
def floatStampText? (cs : List Char) : Option Float :=
  let (negative, body) := Decimal.splitSign cs
  match body.span Char.isDigit with
  | (whole, '.' :: frac) =>
    if !whole.isEmpty && frac.all Char.isDigit then
      (Decimal.scientific? body).map fun s => Decimal.nearest negative s.digits s.exponent
    else none
  | _ => none

/-- Seconds with a fraction, or milliseconds when there are more than 2·10^10. -/
def ofFloatText (x : Float) : Except TextFault Moment :=
  let scaled := if x.abs > 20000000000.0 then x / 1000.0 else x
  let floor := scaled.floor
  match Decimal.FloatForm.of floor with
  | .finite b => ofTimestamp b.truncate ((scaled - floor) * 1000000.0).round.toUInt64.toNat
  | _ => .error .afterRange

/-- Why a text is no date. -/
def dateFault (cs : List Char) : TextFault :=
  match leadingDate cs with
  | .error e =>
    match stampText? cs with
    | some n => match ofTimestamp n 0 with
      | .error e => e
      | .ok _ => e
    | none => e
  | .ok _ => .trailing

/-- The moment that a document text gives. -/
def ofDocumentText (s : String) : Except TextFault Moment :=
  let cs := s.toList
  let stamp := match stampText? cs with
    | some n => ofTimestamp n 0
    | none => match floatStampText? cs with
      | some x => ofFloatText x
      | none => .error .tooShort
  match dateTime? cs, stamp with
  | some m, _ => .ok m
  | none, .ok m => .ok m
  | none, .error _ =>
    match leadingDate cs with
    | .ok (year, month, day) =>
      if cs.length == 10 then .ok ⟨year, month, day, 0, 0, 0, 0, none⟩ else .error .trailing
    | .error _ => .error (dateFault cs)

end Scout.Moment
