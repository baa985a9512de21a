import Scout.Decimal.Binary

/-!
# Shortest decimal text of a double

Among the decimals that read back as the double, one with the fewest digits is chosen, and of
those the nearest. Exponents from -4 to 15 are written positionally, others with a signed
exponent of at least two digits; a whole number keeps `.0` in positional form.
-/

namespace Scout.Decimal

/-- Whether the decimal `digits · 10^k` reads back as the double. -/
def Binary.isNearestTo (b : Binary) (digits : Nat) (k : Int) : Bool :=
  decimalBits digits k == b.magnitude

/-- The fraction counted in units of `10^k`, as numerator and denominator. -/
def Binary.onGrid (b : Binary) (k : Int) : Nat × Nat :=
  let (n, d) := b.ratio
  match k with
  | .ofNat e => (n, d * Nat.pow 10 e)
  | .negSucc e => (n * Nat.pow 10 (e + 1), d)

/-- Among the multiples of `10^k`: the nearest one that reads back as the double, if one does. -/
def Binary.gridPoint? (b : Binary) (k : Int) : Option Nat :=
  let (value, unit) := b.onGrid k
  let below := value / unit
  let above := below + 1
  let nearBelow := 2 * (value % unit) < unit || (2 * (value % unit) == unit && below % 2 == 0)
  if b.isNearestTo below k && b.isNearestTo above k then some (if nearBelow then below else above)
  else if b.isNearestTo below k then some below
  else if b.isNearestTo above k then some above
  else none

/-- The fraction itself as a decimal. -/
def Binary.exact (b : Binary) : Nat × Int :=
  match b.exponent with
  | .ofNat e => (b.mantissa * Nat.pow 2 e, 0)
  | .negSucc e => (b.mantissa * Nat.pow 5 (e + 1), .negSucc e)

/-- The greatest `e` with `10^e ≤ n / d`, found from below. -/
def floorLog (n d : Nat) : Int :=
  let guess : Int := (((n.log2 : Int) - (d.log2 : Int)) * 30103) / 100000 - 2
  let reaches (e : Int) : Bool := match e with
    | .ofNat e => Nat.pow 10 e * d ≤ n
    | .negSucc e => d ≤ n * Nat.pow 10 (e + 1)
  let rec climb : Nat → Int → Int
    | 0, e => e
    | fuel + 1, e => if reaches (e + 1) then climb fuel (e + 1) else e
  climb 6 guess

def stripZeros : Nat → Nat → Int → Nat × Int
  | 0, n, k => (n, k)
  | fuel + 1, n, k => if n % 10 == 0 && n != 0 then stripZeros fuel (n / 10) (k + 1) else (n, k)

/-- The first of the grids on which a point reads back as the double gives the decimal; if there
is none, the exact digits do. -/
def Binary.search (b : Binary) (grids : List Int) : Nat × Int :=
  (grids.findSome? fun k => (b.gridPoint? k).map fun n => (n, k)).getD b.exact

/-- The shortest decimal `digits · 10^exponent` of a positive fraction. -/
def Binary.shortest (b : Binary) : Nat × Int :=
  let top := floorLog b.ratio.1 b.ratio.2
  let found := b.search ((List.range 18).map fun i : Nat => top - i)
  stripZeros 20 found.1 found.2

/-- Digits, with the exponent of the first one, in positional or scientific form. -/
def layout (digits : List Char) (exponent : Int) : String :=
  let count := digits.length
  if -4 ≤ exponent && exponent < 16 then
    if exponent < 0 then
      "0." ++ String.ofList (List.replicate ((-exponent).toNat - 1) '0' ++ digits)
    else
      let whole := exponent.toNat + 1
      if count ≤ whole then
        String.ofList (digits ++ List.replicate (whole - count) '0') ++ ".0"
      else
        String.ofList (digits.take whole ++ '.' :: digits.drop whole)
  else
    let head := match digits with
      | [d] => [d]
      | d :: rest => d :: '.' :: rest
      | [] => []
    let size := exponent.natAbs
    String.ofList head ++ (if exponent < 0 then "e-" else "e+")
      ++ (if size < 10 then "0" else "") ++ toString size

def Binary.signText (b : Binary) : String :=
  if b.negative then "-" else ""

/-- The text of `n · 10^k`. -/
def decimalText (n : Nat) (k : Int) : String :=
  let digits := Nat.toDigits 10 n
  layout digits (k + digits.length - 1)

/-- The text of a double. -/
def shortestText (x : Float) : String :=
  match FloatForm.of x with
  | .nan => "nan"
  | .infinite negative => if negative then "-inf" else "inf"
  | .finite b => b.signText ++ if b.mantissa == 0 then "0.0"
    else decimalText b.shortest.1 b.shortest.2

end Scout.Decimal
