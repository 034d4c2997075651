/-!
# Binary floating point numbers

A JSON number with a fraction or an exponent is kept as the double nearest to it.  The value is held
exactly, as an integer mantissa and a power of two, so that every question asked of it (is it
integral, which digits show it) is settled by integer arithmetic.

A finite value is in *canonical form* when its mantissa has at most 53 bits, its exponent lies in
`-1074..971`, and the mantissa uses all 53 bits unless the exponent is the least one.  `ofRatio` and
`ofDecimal` only produce canonical values, so equal doubles are equal as data.
-/

namespace CodeScan

/-- A double: not a number, an infinity, or `± mantissa · 2 ^ exponent`. -/
inductive Binary64 where
  | nan
  | infinite (negative : Bool)
  | finite (negative : Bool) (mantissa : Nat) (exponent : Int)
  deriving DecidableEq

namespace Binary64

/-- The least exponent, that of the subnormal numbers. -/
def leastExponent : Int := -1074

/-- The greatest exponent of a finite number. -/
def greatestExponent : Int := 971

/-- The least mantissa of 53 bits. -/
def leastMantissa : Nat := 0x10000000000000

/-- The least mantissa that has more than 53 bits. -/
def mantissaBound : Nat := 0x20000000000000

/-- The canonical finite values. -/
def IsCanonical : Binary64 → Prop
  | .finite _ mantissa exponent =>
    mantissa < mantissaBound ∧ leastExponent ≤ exponent ∧ exponent ≤ greatestExponent ∧
      (leastMantissa ≤ mantissa ∨ exponent = leastExponent)
  | _ => True

/-- The quotient rounded to the nearest integer, a half going to the even neighbour. -/
def roundHalfEven (numerator denominator : Nat) : Nat :=
  let quotient := numerator / denominator
  let twice := 2 * (numerator % denominator)
  if twice < denominator then quotient
  else if denominator < twice then quotient + 1
  else quotient + quotient % 2

/-- The value of `mantissa · base ^ exponent` as a quotient. -/
def ratio (base mantissa : Nat) (exponent : Int) : Nat × Nat :=
  match exponent with
  | .ofNat e => (mantissa * base.pow e, 1)
  | .negSucc e => (mantissa, base.pow (e + 1))

/-- The quotient `numerator / denominator` in units of `base ^ exponent`, again as a quotient. -/
def inUnits (base numerator denominator : Nat) (exponent : Int) : Nat × Nat :=
  match exponent with
  | .ofNat e => (numerator, denominator * base.pow e)
  | .negSucc e => (numerator * base.pow (e + 1), denominator)

/-- The unit of a positive quotient: the power of two in which it has 53 bits, or the least one. -/
def unitExponent (numerator denominator : Nat) : Int :=
  -- The quotient lies between `2 ^ (guess + 52)` and `2 ^ (guess + 54)`.
  let guess : Int := (Nat.log2 numerator : Int) - (Nat.log2 denominator : Int) - 53
  let scaled := inUnits 2 numerator denominator guess
  max leastExponent (if scaled.1 / scaled.2 < mantissaBound then guess else guess + 1)

/-- The double nearest to a quotient, a half going to the even mantissa. -/
def ofRatio (negative : Bool) (numerator denominator : Nat) : Binary64 :=
  if numerator = 0 then .finite negative 0 leastExponent
  else
    let exponent := unitExponent numerator denominator
    let scaled := inUnits 2 numerator denominator exponent
    let mantissa := roundHalfEven scaled.1 scaled.2
    -- Rounding up may have carried into a bit too many.
    let (mantissa, exponent) :=
      if mantissa < mantissaBound then (mantissa, exponent) else (leastMantissa, exponent + 1)
    if exponent ≤ greatestExponent then .finite negative mantissa exponent
    else .infinite negative

/-- The double nearest to `± digits · 10 ^ exponent`.  Numbers far outside the range are settled by
their magnitude alone, so that no huge power is computed. -/
def ofDecimal (negative : Bool) (digits : Nat) (exponent : Int) : Binary64 :=
  let magnitude : Int := (Nat.toDigits 10 digits).length + exponent
  if digits = 0 ∨ magnitude < -330 then .finite negative 0 leastExponent
  else if 310 < magnitude then .infinite negative
  else
    let (numerator, denominator) := ratio 10 digits exponent
    ofRatio negative numerator denominator

/-- The integer a value equals, if it is integral. -/
def toInt? : Binary64 → Option Int
  | .finite negative mantissa exponent =>
    let (numerator, denominator) := ratio 2 mantissa exponent
    if numerator % denominator = 0 then
      let magnitude : Int := numerator / denominator
      some (if negative then -magnitude else magnitude)
    else none
  | _ => none

/-- Whether the value is a zero of either sign. -/
def isZero : Binary64 → Bool
  | .finite _ mantissa _ => mantissa == 0
  | _ => false

/-- Whether the value is an infinity or not a number. -/
def isFinite : Binary64 → Bool
  | .finite .. => true
  | _ => false

end Binary64

end CodeScan
