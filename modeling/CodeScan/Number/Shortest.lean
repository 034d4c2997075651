import CodeScan.Number.Binary64
import CodeScan.Text.CodePoint

/-!
# The shortest decimal that reads back

A double is shown with the fewest significant digits that read back as the same double, and with the
nearest such decimal where several have that length, the even one where two are equally near.  For
each length from one digit on, the two decimals of that length around the value are tried against
`Binary64.ofDecimal`; the first length with a hit wins.  Seventeen digits always suffice, and if
they did not the value's own exact digits would be shown, so whatever is shown reads back.

## Layout

Values from `10 ^ -4` up to `10 ^ 16` are written positionally and always keep a point; the others
have one digit before the point, and an exponent with a sign and at least two digits.
-/

namespace CodeScan

/-- The decimal `digits · 10 ^ exponent`. -/
structure Decimal where
  digits : Nat
  exponent : Int

namespace Binary64

/-- How many digits a positive quotient has before the point; zero or less when it is below one. -/
def pointPosition (numerator denominator : Nat) : Int :=
  -- Comparing digit counts is off by at most one.
  let guess : Int :=
    ((Nat.toDigits 10 numerator).length : Int) - ((Nat.toDigits 10 denominator).length : Int)
  let reaches : Bool := match guess with
    | .ofNat e => denominator * Nat.pow 10 e ≤ numerator
    | .negSucc e => denominator ≤ numerator * Nat.pow 10 (e + 1)
  if reaches then guess + 1 else guess

/-- The decimal of the given length that reads back as the value, the nearer one if there are
two. -/
def decimalOfLength? (mantissa : Nat) (exponent : Int) (length : Nat) : Option Decimal :=
  let (numerator, denominator) := ratio 2 mantissa exponent
  let unit := pointPosition numerator denominator - length
  let (n, d) := inUnits 10 numerator denominator unit
  let below := n / d
  let readsBack (digits : Nat) : Bool :=
    ofDecimal false digits unit = .finite false mantissa exponent
  -- Halfway between the two, the even one counts as nearer.
  let nearerBelow : Bool := 2 * (n % d) + below % 2 ≤ d
  match readsBack below, readsBack (below + 1) with
  | true, true => some ⟨if nearerBelow then below else below + 1, unit⟩
  | true, false => some ⟨below, unit⟩
  | false, true => some ⟨below + 1, unit⟩
  | false, false => none

/-- All digits of a finite value. -/
def exactDecimal (mantissa : Nat) (exponent : Int) : Decimal :=
  match exponent with
  | .ofNat e => ⟨mantissa * Nat.pow 2 e, 0⟩
  | .negSucc e => ⟨mantissa * Nat.pow 5 (e + 1), .negSucc e⟩

/-- The shortest decimal that reads back as a positive finite value. -/
def shortestDecimal (mantissa : Nat) (exponent : Int) : Decimal :=
  (((List.range 17).findSome? fun n => decimalOfLength? mantissa exponent (n + 1))).getD
    (exactDecimal mantissa exponent)

/-- Drops the zeros at the end of a list of digits. -/
def dropTrailingZeros (digits : List Char) : List Char :=
  (digits.reverse.dropWhile (· == '0')).reverse

/-- Lays out significant digits around the decimal point, which stands `point` digits from the
left. -/
def layOut (digits : List Char) (point : Int) : List Char :=
  if -4 < point ∧ point ≤ 16 then
    match point with
    | .negSucc zeros => '0' :: '.' :: List.replicate (zeros + 1) '0' ++ digits
    | .ofNat 0 => '0' :: '.' :: digits
    | .ofNat places =>
      let whole := digits.take places ++ List.replicate (places - digits.length) '0'
      let fraction := digits.drop places
      whole ++ '.' :: (if fraction.isEmpty then ['0'] else fraction)
  else
    let power := point - 1
    let exponent := Nat.toDigits 10 power.natAbs
    let leading := match digits with
      | [] => ['0']
      | [digit] => [digit]
      | digit :: more => digit :: '.' :: more
    leading ++ 'e' :: (if power < 0 then '-' else '+') ::
      (List.replicate (2 - exponent.length) '0' ++ exponent)

/-- The digits of a finite magnitude. -/
def magnitudeDigits (mantissa : Nat) (exponent : Int) : List Char :=
  if mantissa = 0 then "0.0".toList
  else
    let decimal := shortestDecimal mantissa exponent
    let digits := Nat.toDigits 10 decimal.digits
    layOut (dropTrailingZeros digits) (digits.length + decimal.exponent)

/-- The spellings of the values that are no finite number. -/
structure SpecialNames where
  nan : Text
  infinity : Text

/-- The text of a value. -/
def toText (names : SpecialNames) : Binary64 → Text
  | .nan => names.nan
  | .infinite negative => (if negative then [.char '-'] else []) ++ names.infinity
  | .finite negative mantissa exponent =>
    Text.ofChars ((if negative then ['-'] else []) ++ magnitudeDigits mantissa exponent)

end Binary64

end CodeScan
