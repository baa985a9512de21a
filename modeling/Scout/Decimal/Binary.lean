/-!
# Binary fractions

A finite double is a sign and an exact fraction `m · 2^q`. Everything that is said about the
decimal text of a double is said about that fraction. Without the sign the bits of doubles are
numbers in the order of the doubles, so that rounding a fraction means finding the number of its
nearest double.
-/

namespace Scout.Decimal

/-- A finite double as `± m · 2^q`. -/
structure Binary where
  negative : Bool
  mantissa : Nat
  exponent : Int

inductive FloatForm where
  | nan
  | infinite (negative : Bool)
  | finite (b : Binary)

/-- The parts of a double, read from its bits. -/
def FloatForm.of (x : Float) : FloatForm :=
  let bits : Nat := x.toBits.toNat
  let negative := bits / Nat.pow 2 63 == 1
  let expo : Nat := bits / Nat.pow 2 52 % Nat.pow 2 11
  let frac : Nat := bits % Nat.pow 2 52
  if expo == 2047 then
    if frac == 0 then .infinite negative else .nan
  else if expo == 0 then
    .finite ⟨negative, frac, -1074⟩
  else
    .finite ⟨negative, Nat.pow 2 52 + frac, (expo : Int) - 1075⟩

/-- `m · 2^q` as numerator and denominator. -/
def Binary.ratio (b : Binary) : Nat × Nat :=
  match b.exponent with
  | .ofNat e => (b.mantissa * Nat.pow 2 e, 1)
  | .negSucc e => (b.mantissa, Nat.pow 2 (e + 1))

/-- The integer part, cut toward zero. -/
def Binary.truncate (b : Binary) : Int :=
  let (n, d) := b.ratio
  if b.negative then -((n / d : Nat) : Int) else ((n / d : Nat) : Int)

/-- The integer that the fraction is, if it is one. -/
def Binary.integer? (b : Binary) : Option Int :=
  let (n, d) := b.ratio
  if n % d == 0 then some b.truncate else none

def isFinite (x : Float) : Bool :=
  match FloatForm.of x with
  | .finite _ => true
  | _ => false

/-- The integer that a double is, if it is one. -/
def integer? (x : Float) : Option Int :=
  match FloatForm.of x with
  | .finite b => b.integer?
  | _ => none

/-- The quotient rounded to the nearest integer, a half to the even neighbour. -/
def roundDiv (n d : Nat) : Nat :=
  let q := n / d
  let twice := 2 * (n % d)
  if twice < d then q
  else if twice > d then q + 1
  else if q % 2 == 0 then q else q + 1

/-! ### Nearest doubles -/

/-- The bits of a finite double without its sign. -/
def Binary.magnitude (b : Binary) : Nat :=
  (b.exponent + 1074).toNat * Nat.pow 2 52 + b.mantissa

def infinityBits : Nat := 2047 * Nat.pow 2 52

/-- The bits of the double nearest to `n / d`, a half to the even neighbour. The fraction is
counted in units of the smallest double, and its leading 53 bits are kept. -/
@[irreducible] def nearestBits (n d : Nat) : Nat :=
  let units := n * Nat.pow 2 1074
  let shift := (units / d).log2 - 52
  min (shift * Nat.pow 2 52 + roundDiv units (d * Nat.pow 2 shift)) infinityBits

def ofMagnitude (negative : Bool) (bits : Nat) : Float :=
  Float.ofBits (UInt64.ofNat ((if negative then Nat.pow 2 63 else 0) + bits))

/-- `digits · 10^exponent` as numerator and denominator. -/
def fraction (digits : Nat) (exponent : Int) : Nat × Nat :=
  match exponent with
  | .ofNat e => (digits * Nat.pow 10 e, 1)
  | .negSucc e => (digits, Nat.pow 10 (e + 1))

/-- The bits of the double nearest to `digits · 10^exponent`. -/
def decimalBits (digits : Nat) (exponent : Int) : Nat :=
  nearestBits (fraction digits exponent).1 (fraction digits exponent).2

/-- `digits · 10^exponent` as the nearest double. Far exponents are settled without computing
the power. -/
def nearest (negative : Bool) (digits : Nat) (exponent : Int) : Float :=
  ofMagnitude negative
    (if digits == 0 || (digits.log2 : Int) + 3 * exponent < -1080 then 0
    else if 400 < exponent then infinityBits
    else decimalBits digits exponent)

end Scout.Decimal
