import CodeScan.Text.Blank
import CodeScan.Text.Digit

/-!
# Integers written as text

Two places accept an integer that is written as text, and they differ in what they let pass.

* A *setting* is a literal: blanks around it, an optional sign, decimal digits of any script, single
  underscores between digits, leading zeros.
* A *field* of a record that expects an integer also takes a string.  There only ASCII digits count,
  and a fraction of zeros is dropped.  The string is tried as it stands first; if that fails, it is
  cleaned of blanks, a plus sign, leading zeros, the zero fraction and underscores, and tried once
  more.  Only the first try tells that there are too many digits.

Both drop the blanks around the text, the four information separators excepted.  Neither takes more
than `maxDigits` digits.
-/

namespace CodeScan

namespace Literal

/-- The greatest number of digits that is converted. -/
def maxDigits : Nat := 4300

/-- The blanks that may stand around a written integer. -/
def isOuterBlank (c : Char) : Bool := isBlank c && !(0x1C ≤ c.toNat && c.toNat ≤ 0x1F)

/-- The number that a list of digit values writes. -/
def ofDigits (digits : List Nat) : Nat := digits.foldl (fun n d => n * 10 + d) 0

/-! ## Settings -/

/-- The digit values of a literal in which single underscores may stand between digits.  The flag
says that a digit must come next. -/
def groupedDigits? (needDigit : Bool) : List Char → Option (List Nat)
  | [] => if needDigit then none else some []
  | c :: rest =>
    if c = '_' then
      if needDigit then none else groupedDigits? true rest
    else do
      let digit ← digitValue? c
      return digit :: (← groupedDigits? false rest)

/-- The magnitude that a literal without a sign writes. -/
def magnitude? (cs : List Char) : Option Nat := do
  let digits ← groupedDigits? true cs
  if digits.length ≤ maxDigits then some (ofDigits digits) else none

/-- The integer that a setting writes. -/
def setting? (cs : List Char) : Option Int :=
  match Text.trimWhere isOuterBlank cs with
  | '-' :: rest => (magnitude? rest).map fun n => -(n : Int)
  | '+' :: rest => (magnitude? rest).map Int.ofNat
  | rest => (magnitude? rest).map Int.ofNat

/-! ## Fields -/

/-- What stands after the minus sign of a text, if it has one. -/
def afterMinus : List Char → List Char
  | '-' :: rest => rest
  | rest => rest

/-- Whether a text starts with an integer that has too many digits, whatever follows it. -/
def isOverlong (cs : List Char) : Bool :=
  let digits := (afterMinus cs).takeWhile Char.isDigit
  digits.head? != some '0' && maxDigits < digits.length

/-- ASCII digits without a leading zero, or a single zero. -/
def plainMagnitude? (cs : List Char) : Option Nat :=
  if cs.isEmpty || !cs.all Char.isDigit then none
  else if cs.head? = some '0' && 1 < cs.length then none
  else some (ofDigits (cs.map fun c => c.toNat - '0'.toNat))

/-- ASCII digits without leading zeros, with an optional minus sign. -/
def plain? (cs : List Char) : Option Int :=
  if isOverlong cs then none
  else match cs with
    | '-' :: rest => (plainMagnitude? rest).map fun n => -(n : Int)
    | rest => (plainMagnitude? rest).map Int.ofNat

/-- Drops the zeros and underscores after a first zero, up to another digit or a minus sign.  The
last zero is kept before a point and at the end. -/
def dropZerosAfter (previous : Char) : List Char → Option (List Char)
  | [] => some [previous]
  | c :: rest =>
    if c = '0' ∨ c = '_' then dropZerosAfter c rest
    else if c.isDigit ∨ c = '-' then some (c :: rest)
    else if c = '.' then some (previous :: c :: rest)
    else none

/-- Drops leading zeros.  The text must start with a digit. -/
def dropLeadingZeros : List Char → Option (List Char)
  | [] => none
  | c :: rest =>
    if c = '0' then dropZerosAfter c rest
    else if c.isDigit then some (c :: rest)
    else none

/-- Drops the first point with what follows, if zeros follow and nothing else. -/
def dropZeroFraction (cs : List Char) : List Char :=
  let places := (cs.dropWhile (· ≠ '.')).drop 1
  if !places.isEmpty && places.all (· == '0') then cs.takeWhile (· ≠ '.') else cs

/-- Whether two underscores stand side by side. -/
def hasDoubleUnderscore : List Char → Bool
  | '_' :: '_' :: _ => true
  | _ :: rest => hasDoubleUnderscore rest
  | [] => false

/-- Drops underscores, if each stands alone between two other characters. -/
def dropUnderscores (cs : List Char) : List Char :=
  if cs.head? = some '_' ∨ cs.getLast? = some '_' ∨ hasDoubleUnderscore cs then cs
  else cs.filter (· ≠ '_')

/-- Digits cleaned of leading zeros, a zero fraction and underscores. -/
def cleanDigits (cs : List Char) : Option (List Char) :=
  (dropLeadingZeros cs).map fun digits => dropUnderscores (dropZeroFraction digits)

/-- The text cleaned of a plus sign, and of what its digits are cleaned of. -/
def clean : List Char → Option (List Char)
  | '+' :: rest => cleanDigits rest
  | '-' :: rest => (cleanDigits rest).map ('-' :: ·)
  | rest => cleanDigits rest

/-- The integer that a string in an integer field writes. -/
def field? (cs : List Char) : Option Int :=
  plain? cs <|> (clean (Text.trimWhere isOuterBlank cs)).bind plain?

end Literal

end CodeScan
