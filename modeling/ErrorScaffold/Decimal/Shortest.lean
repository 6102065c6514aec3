/-
The shortest decimal that reads back to a binary number, written positionally.

The numbers that round to m · 2 ^ e form an interval around it, which holds its ends when m is
even.  Of the grids of multiples of a power of ten the coarsest with a point in the interval gives
the fewest digits; of two such points the nearer is taken, and of two equally near the greater.
-/
import ErrorScaffold.Decimal.Binary64

namespace ErrorScaffold.Decimal

/-- The interval of the numbers that round to a finite number, in quarters of its unit. -/
structure RoundingInterval where
  low : Nat
  value : Nat
  high : Nat
  /-- Whether the ends belong to it. -/
  closed : Bool
  deriving Repr

/-- The interval of a positive mantissa.  Below the least mantissa of an exponent the numbers are
twice as dense. -/
def RoundingInterval.of (mantissa : Nat) (exponent : Int) : RoundingInterval :=
  let step := if mantissa = Binary64.leastNormal && Binary64.leastExponent < exponent then 1 else 2
  ⟨4 * mantissa - step, 4 * mantissa, 4 * mantissa + 2, mantissa % 2 == 0⟩

/-- The point of the grid of multiples of ten to `grid` that stands for a number, if one of the two
beside the number is in its interval. -/
def gridPoint? (mantissa : Nat) (exponent grid : Int) : Option Nat :=
  let interval := RoundingInterval.of mantissa exponent
  -- the quarter of the unit, as a quotient of whole numbers, in steps of the grid
  let (n, d) := scale 2 (exponent - 2) 1 1
  let (n, d) := scale 10 (-grid) n d
  let below := interval.value * n / d
  let inside := fun (point : Nat) =>
    if interval.closed then interval.low * n ≤ point * d && point * d ≤ interval.high * n
    else interval.low * n < point * d && point * d < interval.high * n
  let toBelow := interval.value * n - below * d
  let toAbove := (below + 1) * d - interval.value * n
  if inside below && (toBelow < toAbove || !inside (below + 1)) then some below
  else if inside (below + 1) then some (below + 1)
  else none

/-- The powers of ten of the grids, from one with no point but zero below all numbers to one finer
than all of them. -/
def grids : List Int :=
  (List.range 660).map fun (i : Nat) => 310 - (i : Int)

/-- The digits of the shortest decimal of a positive number, and their power of ten. -/
def shortest (mantissa : Nat) (exponent : Int) : Nat × Int :=
  (grids.findSome? fun grid =>
    (gridPoint? mantissa exponent grid).map fun point => (point, grid)).getD (0, 0)

/-- A decimal written without an exponent, with at least one digit on each side of the point. -/
def positional (digits : Nat) (exponent : Int) : String :=
  let shown := Nat.toDigits 10 digits
  if 0 ≤ exponent then
    String.ofList (shown ++ List.replicate exponent.natAbs '0') ++ ".0"
  else
    let places := exponent.natAbs
    let padded := List.replicate (places + 1 - shown.length) '0' ++ shown
    let whole := padded.length - places
    String.ofList (padded.take whole) ++ "." ++ String.ofList (padded.drop whole)

/-- The text of a number: the shortest decimal that reads back, with a decimal point. -/
def Binary64.text : Binary64 → String
  | .finite negative mantissa exponent =>
    let magnitude :=
      if mantissa = 0 then "0.0"
      else
        let (digits, power) := shortest mantissa exponent
        positional digits power
    (if negative then "-" else "") ++ magnitude
  | .infinite negative => if negative then "-inf" else "inf"
  | .nan => "NaN"

end ErrorScaffold.Decimal
