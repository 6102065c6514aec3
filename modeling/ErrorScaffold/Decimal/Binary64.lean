/-
Binary floating point numbers of 64 bits, as exact values.

A finite number is a whole mantissa below 2 ^ 53 times a power of two, with 2 ^ (-1074) the least
power.  `Binary64.ofDecimal` rounds a decimal to the nearest such number, a tie to the even
mantissa; a decimal too large for all of them is infinite.
-/

namespace ErrorScaffold.Decimal

/-- A binary floating point number of 64 bits. -/
inductive Binary64
  /-- The mantissa times two to the exponent. -/
  | finite (negative : Bool) (mantissa : Nat) (exponent : Int)
  | infinite (negative : Bool)
  | nan
  deriving DecidableEq, Repr

/-- A quotient as a numerator and a denominator, times a power of `base`. -/
def scale (base : Nat) (exponent : Int) (num den : Nat) : Nat × Nat :=
  if exponent < 0 then (num, den * Nat.pow base exponent.natAbs)
  else (num * Nat.pow base exponent.natAbs, den)

/-- A quotient rounded to the nearest whole number, a tie to the even one. -/
def roundHalfEven (num den : Nat) : Nat :=
  let whole := num / den
  let rest := 2 * (num % den)
  if rest < den || (rest == den && whole % 2 == 0) then whole else whole + 1

namespace Binary64

/-- The least mantissa beside a power of two other than the least: 2 ^ 52. -/
def leastNormal : Nat := 4503599627370496

/-- The least power of two that a mantissa stands beside. -/
def leastExponent : Int := -1074

/-- The greatest power of two that a mantissa stands beside. -/
def greatestExponent : Int := 971

/-- The number nearest to the quotient of two positive numbers. -/
def ofQuotient (negative : Bool) (num den : Nat) : Binary64 :=
  -- the quotient over this power of two is at least 2 ^ 52 and less than 2 ^ 54
  let low := max leastExponent ((Nat.log2 num : Int) - (Nat.log2 den : Int) - 53)
  let (n, d) := scale 2 (-low) num den
  let exponent := if n / d < 2 * leastNormal then low else low + 1
  let (n, d) := scale 2 (-exponent) num den
  let mantissa := roundHalfEven n d
  let (mantissa, exponent) :=
    if mantissa = 2 * leastNormal then (leastNormal, exponent + 1) else (mantissa, exponent)
  if greatestExponent < exponent then .infinite negative
  else .finite negative mantissa exponent

/-- The number nearest to `digits` times ten to `exponent`.  A magnitude that is far out of range
is settled by the number of its digits, without the power. -/
def ofDecimal (negative : Bool) (digits : Nat) (exponent : Int) : Binary64 :=
  let magnitude : Int := (Nat.toDigits 10 digits).length + exponent
  if digits = 0 || magnitude < -400 then .finite negative 0 0
  else if 400 < magnitude then .infinite negative
  else
    let (num, den) := scale 10 exponent digits 1
    ofQuotient negative num den

end Binary64

end ErrorScaffold.Decimal
