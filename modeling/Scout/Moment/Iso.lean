import Scout.Moment.Document

/-!
# Moments in page text

A deadline on a page is read in the forms of ISO 8601: basic and extended dates, dates by week,
any one character between date and time, and times with or without separators. Anything else is
no moment.
-/

namespace Scout.Moment.Iso

def isDigitAt (cs : List Char) (i : Nat) : Bool :=
  (cs[i]?.map Char.isDigit).getD false

/-- Where the date ends and the character before the time stands. -/
def dateLength (cs : List Char) : Option Nat :=
  let n := cs.length
  if n == 7 then some 7
  else if cs[4]? == some '-' then
    if cs[5]? == some 'W' then
      if 8 < n && cs[8]? == some '-' then
        if n == 9 then none
        else if 10 < n && isDigitAt cs 10 then some 8
        else some 10
      else some 8
    else some 10
  else if cs[4]? == some 'W' then
    let stop := 7 + ((cs.drop 7).takeWhile Char.isDigit).length
    if stop < 9 then some stop
    else if stop % 2 == 0 then some 7
    else some 8
  else some 8

/-- A number of exactly the given count of digits at the start of a text. -/
def digits? (count : Nat) (cs : List Char) : Option (Nat × List Char) :=
  if cs.length < count then none
  else (number? (cs.take count)).map fun n => (n, cs.drop count)

/-- The day of the week that ends a date by week: the first one when nothing is left. -/
def weekDay? (dashed : Bool) (cs : List Char) : Option Nat :=
  match cs with
  | [] => some 1
  | '-' :: rest =>
    if dashed then (digits? 1 rest).bind fun (d, r) => if r.isEmpty then some d else none
    else none
  | rest => if dashed then none
    else (digits? 1 rest).bind fun (d, r) => if r.isEmpty then some d else none

/-- The date that a text is, in one of the four forms. -/
def date? (cs : List Char) : Option (Int × Nat × Nat) := do
  let (year, rest) ← digits? 4 cs
  if year == 0 then none
  let (dashed, rest) := match rest with
    | '-' :: r => (true, r)
    | r => (false, r)
  match rest with
  | 'W' :: rest =>
    let (week, rest) ← digits? 2 rest
    let day ← weekDay? dashed rest
    let days ← Calendar.ofWeek? year week day
    some (Calendar.ofDayNumber days)
  | rest =>
    let (month, rest) ← digits? 2 rest
    let rest ← match rest with
      | '-' :: r => if dashed then some r else none
      | r => if dashed then none else some r
    let (day, rest) ← digits? 2 rest
    if rest.isEmpty && Calendar.isDate year month day then some (year, month, day) else none

/-- Hours, minutes, seconds and millionths, and whether something was left over. -/
structure Reading where
  hour : Nat
  minute : Nat
  second : Nat
  micro : Nat
  leftOver : Bool

/-- The fraction at the end: at least one digit unless the text is at its end, the first six
count. -/
def fraction? (cs : List Char) (followed : Bool) : Option (Nat × Bool) :=
  let kept := cs.take 6
  if cs.isEmpty then some (0, followed)
  else (number? kept).map fun _ =>
    let rest := (cs.drop 6).dropWhile Char.isDigit
    (millionths kept, !rest.isEmpty || followed)

/-- Reads `hh[:mm[:ss]]` with the separators that the first one sets, then a fraction.
`followed` says whether a zone comes after the text. -/
def clock? (cs : List Char) (followed : Bool) : Option Reading :=
  let rec go (left : Nat) (separated : Option Bool) (cs : List Char) (parts : List Nat) :
      Option (List Nat × Nat × Bool) :=
    match left with
    | 0 => (fraction? cs followed).map fun (micro, excess) => (parts, micro, excess)
    | left + 1 => do
      let (n, rest) ← digits? 2 cs
      let parts := parts ++ [n]
      match rest with
      | [] => some (parts, 0, followed)
      | c :: after =>
        let separated := separated.getD (c == ':')
        if after.isEmpty then some (parts, 0, true)
        else if separated && c == ':' then
          if left == 0 then
            (fraction? after followed).map fun (micro, excess) => (parts, micro, excess)
          else go left (some separated) after parts
        else if c == '.' || c == ',' then
          (fraction? after followed).map fun (micro, excess) => (parts, micro, excess)
        else if !separated then
          if left == 0 then
            (fraction? rest followed).map fun (micro, excess) => (parts, micro, excess)
          else go left (some separated) rest parts
        else none
  (go 3 none cs []).map fun (parts, micro, excess) =>
    ⟨parts[0]?.getD 0, parts[1]?.getD 0, parts[2]?.getD 0, micro, excess⟩

def isZoneMark (c : Char) : Bool :=
  c == '+' || c == '-' || c == 'Z'

/-- The time of day and the distance from universal time. -/
def time? (cs : List Char) : Option (Reading × Option Int) := do
  let clockPart := cs.takeWhile (!isZoneMark ·)
  match cs.dropWhile (!isZoneMark ·) with
  | [] =>
    let r ← clock? clockPart false
    if r.leftOver then none else some (r, none)
  | ['Z'] =>
    let r ← clock? clockPart true
    some (r, some 0)
  | 'Z' :: _ => none
  | sign :: zone =>
    let r ← clock? clockPart true
    let z ← clock? zone false
    if z.leftOver then none
    else
      let size : Int := (z.hour * 3600 + z.minute * 60 + z.second : Nat)
      some (r, some (if sign == '-' then -size else size))

/-- The moment that the text is. -/
def moment? (s : String) : Option Moment := do
  let cs := s.toList
  if s.utf8ByteSize < 7 then none
  let stop ← dateLength cs
  let (year, month, day) ← date? (cs.take stop)
  if year < 1 || 9999 < year then none
  if cs.length ≤ stop then
    some ⟨year.toNat, month, day, 0, 0, 0, 0, none⟩
  else
    let (t, offset) ← time? (cs.drop (stop + 1))
    if t.hour < 24 && t.minute < 60 && t.second < 60 && (offset.getD 0).natAbs < 86400 then
      some ⟨year.toNat, month, day, t.hour, t.minute, t.second, t.micro, offset⟩
    else none

end Scout.Moment.Iso
