import Scout.Page

/-!
# Numbers from action values

The value of an action may stand for a number: a count of rounds, a number of milliseconds or of
pixels. A text is read as a decimal. Integers too large for a double, and infinities where a
whole number is needed, are out of range.
-/

namespace Scout

namespace Fault

def tooLarge : Fault := ⟨.overflow, "int too large to convert to float"⟩
def infinite : Fault := ⟨.overflow, "cannot convert float infinity to integer"⟩
def notWhole : Fault := ⟨.value, "cannot convert float NaN to integer"⟩
def quotientTooLarge : Fault := ⟨.overflow, "integer division result too large for a float"⟩

def notNumeric (s : String) : Fault :=
  ⟨.value, "could not convert string to float: " ++ Text.quote s⟩

def truthValue (b : Bool) : Fault :=
  ⟨.value, "Expected a number, got " ++ (Value.bool b).quoted⟩

end Fault

namespace Scalar

/-- A scalar as a double, truth values as 0 and 1. -/
def toFloat : Scalar → Except Fault Float
  | .text s => match Decimal.ofText? s with
    | some x => .ok x
    | none => .error (Fault.notNumeric s)
  | .bool b => .ok (if b then 1.0 else 0.0)
  | .int n =>
    let x := Decimal.ofInt n
    if Decimal.isFinite x then .ok x else .error Fault.tooLarge
  | .float x => .ok x

/-- A scalar as a double; a truth value is not a number. -/
def toNumber : Scalar → Except Fault Float
  | .bool b => .error (Fault.truthValue b)
  | s => s.toFloat

/-- The integer part of a double. -/
def whole (x : Float) : Except Fault Int :=
  match Decimal.FloatForm.of x with
  | .finite b => .ok b.truncate
  | .infinite _ => .error Fault.infinite
  | .nan => .error Fault.notWhole

/-- A fault about the value itself gives the fallback, one about its range stays. -/
def orElseValue {α : Type} (fallback : α) : Except Fault α → Except Fault α
  | .ok a => .ok a
  | .error e => if e.kind == .value then .ok fallback else .error e

/-- How many rounds a value asks for: its integer part if that is positive, else the fallback. -/
def rounds (fallback : Nat) : Option Scalar → Except Fault Nat
  | none => .ok fallback
  | some (.bool _) => .ok fallback
  | some s => orElseValue fallback do
    let n ← whole (← s.toFloat)
    pure (if 0 < n then n.toNat else fallback)

/-- How many pixels a value asks for; what is no number asks for none. -/
def pixels : Option Scalar → Except Fault Int
  | none => .ok 0
  | some (.text "") => .ok 0
  | some s => orElseValue 0 do whole (← s.toNumber)

end Scalar

/-- Milliseconds as seconds. -/
def secondsOfMillis (n : Int) : Except Fault Float :=
  let x := Decimal.nearest (decide (n < 0)) n.natAbs (-3)
  if Decimal.isFinite x then .ok x else .error Fault.quotientTooLarge

end Scout
