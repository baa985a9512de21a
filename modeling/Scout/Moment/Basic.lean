import Scout.Calendar

/-!
# Moments

A date with a time of day, to the microsecond, and the distance from universal time if it is
known. A moment without that distance is *naive*; it cannot be compared with one that has it.
-/

namespace Scout

structure Moment where
  year : Nat
  month : Nat
  day : Nat
  hour : Nat
  minute : Nat
  second : Nat
  micro : Nat
  /-- Seconds east of universal time. -/
  offset : Option Int
deriving DecidableEq

namespace Moment

/-- Seconds since 1970, read as universal time when the moment is naive. -/
def epochSeconds (m : Moment) : Int :=
  Calendar.dayNumber m.year m.month m.day * 86400 + (m.hour * 3600 + m.minute * 60 + m.second : Nat)
    - m.offset.getD 0

/-- Microseconds since 1970. -/
def epochMicros (m : Moment) : Int :=
  m.epochSeconds * 1000000 + m.micro

def isNaive (m : Moment) : Bool :=
  m.offset.isNone

/-- A count of seconds since 1970 as a moment of universal time. -/
def ofEpoch (seconds : Int) (micro : Nat) : Moment :=
  let days := seconds.fdiv 86400
  let rest := (seconds - days * 86400).toNat
  let (year, month, day) := Calendar.ofDayNumber days
  ⟨year.toNat, month, day, rest / 3600, rest / 60 % 60, rest % 60, micro, some 0⟩

/-- A number with leading zeros. -/
def zeroPadded (width n : Nat) : String :=
  let ds := Nat.toDigits 10 n
  String.ofList (List.replicate (width - ds.length) '0' ++ ds)

def dateText (m : Moment) : String :=
  zeroPadded 4 m.year ++ "-" ++ zeroPadded 2 m.month ++ "-" ++ zeroPadded 2 m.day

def clockText (m : Moment) : String :=
  zeroPadded 2 m.hour ++ ":" ++ zeroPadded 2 m.minute ++ ":" ++ zeroPadded 2 m.second

def signedClock (seconds : Int) : String :=
  let size := seconds.natAbs
  (if seconds < 0 then "-" else "+") ++ zeroPadded 2 (size / 3600) ++ ":"
    ++ zeroPadded 2 (size / 60 % 60)

/-- The document form: a fraction only when there is one, `Z` for universal time, seconds of the
distance left out. -/
def toText (m : Moment) : String :=
  let fraction := if m.micro == 0 then "" else "." ++ zeroPadded 6 m.micro
  let zone := match m.offset with
    | none => ""
    | some 0 => "Z"
    | some s => signedClock s
  m.dateText ++ "T" ++ m.clockText ++ fraction ++ zone

/-- The form in listings: whole seconds, the distance always in numbers. -/
def toListing (m : Moment) : String :=
  let zone := match m.offset with
    | none => ""
    | some s =>
      signedClock s ++ (if s.natAbs % 60 == 0 then "" else ":" ++ zeroPadded 2 (s.natAbs % 60))
  m.dateText ++ "T" ++ m.clockText ++ zone

end Moment

end Scout
