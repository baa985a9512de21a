import Scout.Decimal.Shortest

/-!
# Decimals with a fixed number of places or digits

The exact value of the double is rounded, a half to the even neighbour.
-/

namespace Scout.Decimal

/-- Absolute value with the given number of places, times ten to their number. -/
def Binary.scaled (places : Nat) (b : Binary) : Nat :=
  let (n, d) := b.ratio
  roundDiv (n * Nat.pow 10 places) d

def pointed (places n : Nat) : String :=
  let digits := Nat.toDigits 10 n
  let padded := List.replicate (places + 1 - digits.length) '0' ++ digits
  let whole := padded.length - places
  if places == 0 then String.ofList padded
  else String.ofList (padded.take whole ++ '.' :: padded.drop whole)

def nonFiniteText (negative : Bool) : String :=
  if negative then "-inf" else "inf"

/-- The text with a fixed number of places. -/
def fixedText (places : Nat) (x : Float) : String :=
  match FloatForm.of x with
  | .nan => "nan"
  | .infinite negative => nonFiniteText negative
  | .finite b => (if b.negative then "-" else "") ++ pointed places (b.scaled places)

/-- A positive fraction as `digits · 10^(exponent - precision + 1)` with exactly `precision`
digits. -/
def Binary.significant (precision : Nat) (b : Binary) : Nat × Int :=
  let (n, d) := b.ratio
  let top := floorLog n d
  let digits := match (precision : Int) - 1 - top with
    | .ofNat e => roundDiv (n * Nat.pow 10 e) d
    | .negSucc e => roundDiv n (d * Nat.pow 10 (e + 1))
  if digits == Nat.pow 10 precision then (Nat.pow 10 (precision - 1), top + 1) else (digits, top)

/-- Digits before and after the point; the point is left out when nothing follows it, unless it
is kept. -/
def withPoint (keepPoint : Bool) (whole rest : List Char) : String :=
  String.ofList (if rest.isEmpty && !keepPoint then whole else whole ++ '.' :: rest)

def exponentText (exponent : Int) : String :=
  let size := exponent.natAbs
  (if exponent < 0 then "e-" else "e+") ++ (if size < 10 then "0" else "") ++ toString size

/-- The digits and the exponent of the first one, a given number of digits in all. -/
def Binary.digits (precision : Nat) (b : Binary) : List Char × Int :=
  if b.mantissa == 0 then (List.replicate precision '0', 0)
  else
    let (n, exponent) := b.significant precision
    (Nat.toDigits 10 n, exponent)

/-- Scientific form with a number of digits after the point. -/
def scientificText (keepPoint : Bool) (places : Nat) (x : Float) : String :=
  match FloatForm.of x with
  | .nan => "nan"
  | .infinite negative => nonFiniteText negative
  | .finite b =>
    let (digits, exponent) := b.digits (places + 1)
    (if b.negative then "-" else "") ++ withPoint keepPoint (digits.take 1) (digits.drop 1)
      ++ exponentText exponent

/-- General form with a number of significant digits: positional for exponents from -4 up to the
number of digits, scientific otherwise. Trailing zeros are dropped unless they are kept. -/
def generalForm (keepZeros : Bool) (precision : Nat) (x : Float) : String :=
  match FloatForm.of x with
  | .nan => "nan"
  | .infinite negative => nonFiniteText negative
  | .finite b =>
    let sign := if b.negative then "-" else ""
    let (all, exponent) := b.digits precision
    let digits :=
      if keepZeros then all
      else if b.mantissa == 0 then ['0']
      else (all.reverse.dropWhile (· == '0')).reverse
    if -4 ≤ exponent && exponent < precision then
      if exponent < 0 then
        sign ++ withPoint keepZeros ['0']
          (List.replicate ((-exponent).toNat - 1) '0' ++ digits)
      else
        let whole := exponent.toNat + 1
        sign ++ withPoint keepZeros
          (digits.take whole ++ List.replicate (whole - digits.length) '0') (digits.drop whole)
    else
      sign ++ withPoint keepZeros (digits.take 1) (digits.drop 1) ++ exponentText exponent

def generalText (precision : Nat) (x : Float) : String :=
  generalForm false precision x

/-- The double nearest to the value rounded to a number of places. -/
def roundPlaces (places : Nat) (x : Float) : Float :=
  match FloatForm.of x with
  | .finite b => nearest b.negative (b.scaled places) (-(places : Int))
  | _ => x

/-- The double nearest to an integer. -/
def ofInt (n : Int) : Float :=
  nearest (decide (n < 0)) n.natAbs 0

/-- The double nearest to a quotient, an infinity when it is beyond the doubles; divided by zero
nothing is a number. -/
def ofRatio (n : Int) : Nat → Float
  | 0 => 0.0 / 0.0
  | d + 1 => ofMagnitude (decide (n < 0)) (nearestBits n.natAbs (d + 1))

end Scout.Decimal
