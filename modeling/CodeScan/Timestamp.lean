import CodeScan.Number.Binary64
import CodeScan.Text.Utf8

/-!
# Timestamps

A timestamp is a calendar date and a time of day to the microsecond, with an offset from UTC in
minutes or none at all.

## Text

Records write `YYYY-MM-DDTHH:MM:SS`, six digits of fraction unless they are zero, and the offset,
with `Z` for UTC.  An export block spells out the offset of UTC as `+00:00` instead.

## Reading

A string is read as a date and a time; seconds, fraction and offset may be absent, and a date alone
is midnight.  A number counts seconds from the start of 1970, or milliseconds if it is too large for
that; it may also be written as a string.  Dates and counts may fall into the year zero, but no
timestamp has that year, so they are refused.
-/

namespace CodeScan

/-- A date and time of day. -/
structure Timestamp where
  year : Nat
  month : Nat
  day : Nat
  hour : Nat
  minute : Nat
  second : Nat
  microsecond : Nat
  /-- Minutes east of UTC, unknown for a local time. -/
  offset : Option Int
  deriving DecidableEq

namespace Timestamp

/-! ## Writing -/

/-- A number with at least so many digits. -/
def padded (width n : Nat) : Text := (Text.ofNat n).padZeros width

/-- An offset as sign, hours and minutes. -/
def offsetText (minutes : Int) : Text :=
  .char (if minutes < 0 then '-' else '+') :: padded 2 (minutes.natAbs / 60) ++ ":" ++
    padded 2 (minutes.natAbs % 60)

/-- The fraction of a second, left out where it is zero. -/
def fractionText (microsecond : Nat) : Text :=
  if microsecond = 0 then [] else .char '.' :: padded 6 microsecond

/-- The timestamp up to its offset. -/
def localText (t : Timestamp) : Text :=
  padded 4 t.year ++ "-" ++ padded 2 t.month ++ "-" ++ padded 2 t.day ++ "T" ++
    padded 2 t.hour ++ ":" ++ padded 2 t.minute ++ ":" ++ padded 2 t.second ++
    fractionText t.microsecond

/-- The timestamp as records write it: `Z` stands for UTC. -/
def recordText (t : Timestamp) : Text :=
  t.localText ++ match t.offset with
    | none => []
    | some 0 => "Z"
    | some minutes => offsetText minutes

/-- The timestamp with every offset spelled out. -/
def isoText (t : Timestamp) : Text :=
  t.localText ++ (t.offset.map offsetText).getD []

/-! ## The calendar -/

/-- Whether a year has a 29th of February. -/
def isLeapYear (year : Nat) : Bool :=
  year % 4 == 0 && (year % 100 != 0 || year % 400 == 0)

/-- The number of days in a month. -/
def daysInMonth (year month : Nat) : Nat :=
  match month with
  | 2 => if isLeapYear year then 29 else 28
  | 4 | 6 | 9 | 11 => 30
  | _ => 31

/-- Whether the fields name a moment of the calendar, in which there is a year zero. -/
def IsValid (t : Timestamp) : Prop :=
  t.year ≤ 9999 ∧ 1 ≤ t.month ∧ t.month ≤ 12 ∧
    1 ≤ t.day ∧ t.day ≤ daysInMonth t.year t.month ∧
    t.hour < 24 ∧ t.minute < 60 ∧ t.second < 60 ∧ t.microsecond < 1000000 ∧
    ∀ minutes ∈ t.offset, minutes.natAbs < 1440

instance (t : Timestamp) : Decidable t.IsValid :=
  inferInstanceAs (Decidable (_ ∧ _ ∧ _ ∧ _ ∧ _ ∧ _ ∧ _ ∧ _ ∧ _ ∧ _))

/-- The date of a day, counted from the first of March of the year zero.  Counting from March puts
the leap day last, so that the months have a regular pattern. -/
def civilOfDays (days : Nat) : Nat × Nat × Nat :=
  let era := days / 146097
  let dayOfEra := days % 146097
  let yearOfEra := (dayOfEra - dayOfEra / 1460 + dayOfEra / 36524 - dayOfEra / 146096) / 365
  let dayOfYear := dayOfEra - (365 * yearOfEra + yearOfEra / 4 - yearOfEra / 100)
  let shifted := (5 * dayOfYear + 2) / 153
  let day := dayOfYear - (153 * shifted + 2) / 5 + 1
  let month := if shifted < 10 then shifted + 3 else shifted - 9
  let year := yearOfEra + era * 400 + (if month ≤ 2 then 1 else 0)
  (year, month, day)

/-- The day 1970-01-01 in the count of `civilOfDays`. -/
def unixDay : Int := 719468

/-- The first second of the year zero, counted from the start of 1970. -/
def yearZeroSecond : Int := -62167219200

/-- The first second of the year one, counted from the start of 1970. -/
def firstSecond : Int := -62135596800

/-- The last second of the year 9999, counted from the start of 1970. -/
def lastSecond : Int := 253402300799

/-- Past this magnitude a number counts milliseconds. -/
def watershed : Int := 20000000000

/-- Why a value gives no timestamp. -/
inductive Fault where
  /-- A count that ends before the year zero. -/
  | tooEarly
  /-- A count that ends after the year 9999. -/
  | tooLate
  /-- A moment of the year zero, which can be written but is no year of a timestamp. -/
  | yearZero
  | notANumber
  /-- A text that writes neither a date nor a count. -/
  | unreadable (reason : Text)

/-- The wording of a fault. -/
def Fault.message : Fault → Text
  | .tooEarly => "dates before 0000 are not supported as unix timestamps"
  | .tooLate => "dates after 9999 are not supported as unix timestamps"
  | .yearZero => "year 0 is out of range"
  | .notANumber => "NaN values not permitted"
  | .unreadable reason => reason

/-- The moment a number of seconds and microseconds after the start of 1970, in UTC. -/
def ofSeconds (seconds : Int) (microseconds : Nat) : Except Fault Timestamp :=
  let second := seconds + (microseconds / 1000000 : Nat)
  if second < yearZeroSecond then .error .tooEarly
  else if lastSecond < second then .error .tooLate
  else if second < firstSecond then .error .yearZero
  else
    let (year, month, day) := civilOfDays (second / 86400 + unixDay).toNat
    let timeOfDay := (second % 86400).toNat
    .ok ⟨year, month, day, timeOfDay / 3600, timeOfDay / 60 % 60, timeOfDay % 60,
      microseconds % 1000000, some 0⟩

/-- The moment a number of milliseconds and microseconds after the start of 1970, in UTC. -/
def ofMilliseconds (milliseconds : Int) (microseconds : Nat) : Except Fault Timestamp :=
  ofSeconds (milliseconds / 1000) ((milliseconds % 1000).toNat * 1000 + microseconds)

/-- The moment that a whole count from the start of 1970 names. -/
def ofUnix (count : Int) : Except Fault Timestamp :=
  if count.natAbs ≤ watershed.natAbs then ofSeconds count 0 else ofMilliseconds count 0

/-- A share of a unit in microseconds, where the unit has so many of them.  Share and product are
rounded to doubles, and then half a microsecond goes up. -/
def microsecondsOf (perUnit numerator denominator : Nat) : Nat :=
  match Binary64.ofRatio false numerator denominator with
  | .finite _ mantissa exponent =>
    let (n, d) := Binary64.ratio 2 mantissa exponent
    match Binary64.ofRatio false (n * perUnit) d with
    | .finite _ mantissa exponent =>
      let (n, d) := Binary64.ratio 2 mantissa exponent
      (2 * n + d) / (2 * d)
    | _ => 0
  | _ => 0

/-- The moment that a floating point count names.  The fraction is measured from the next whole
number below, in the unit that the magnitude tells. -/
def ofUnixFloat : Binary64 → Except Fault Timestamp
  | .nan => .error .notANumber
  | .infinite negative => .error (if negative then .tooEarly else .tooLate)
  | .finite negative mantissa exponent =>
    let (numerator, denominator) := Binary64.ratio 2 mantissa exponent
    let signed : Int := if negative then -numerator else numerator
    let whole := signed / denominator
    let rest := (signed % denominator).toNat
    if numerator ≤ watershed.natAbs * denominator then
      ofSeconds whole (microsecondsOf 1000000 rest denominator)
    else ofMilliseconds whole (microsecondsOf 1000 rest denominator)

/-! ## Reading -/

/-- The number that exactly so many digits at the front write, with what remains. -/
def digits? : Nat → Nat → List Char → Option (Nat × List Char)
  | 0, value, cs => some (value, cs)
  | n + 1, value, c :: rest =>
    if c.isDigit then digits? n (value * 10 + (c.toNat - '0'.toNat)) rest else none
  | _ + 1, _, [] => none

/-- What remains after one of the given characters. -/
def oneOf? (choices : List Char) : List Char → Option (List Char)
  | c :: rest => if choices.contains c then some rest else none
  | [] => none

/-- The fraction of a second at the front, in microseconds.  Digits past the sixth are dropped. -/
def fraction? : List Char → Option (Nat × List Char)
  | c :: rest =>
    if c = '.' ∨ c = ',' then
      let digits := rest.takeWhile Char.isDigit
      if digits.isEmpty then none
      else
        let six := (digits ++ List.replicate 6 '0').take 6
        (digits? 6 0 six).map fun (value, _) => (value, rest.dropWhile Char.isDigit)
    else some (0, c :: rest)
  | [] => some (0, [])

/-- The offset that makes up the rest of a text. -/
def offset? : List Char → Option (Option Int)
  | [] => some none
  | ['Z'] | ['z'] => some (some 0)
  | sign :: rest =>
    if sign = '+' ∨ sign = '-' ∨ sign = '\u2212' then do
      let (hours, rest) ← digits? 2 0 rest
      let rest := (oneOf? [':'] rest).getD rest
      let (minutes, rest) ← digits? 2 0 rest
      let total : Int := hours * 60 + minutes
      if rest.isEmpty ∧ minutes < 60 ∧ total < 1440 then
        some (some (if sign = '+' then total else -total))
      else none
    else none

/-- Seconds with their fraction, if the time gives them. -/
def seconds? (cs : List Char) : Option (Nat × Nat × List Char) :=
  match oneOf? [':'] cs with
  | none => some (0, 0, cs)
  | some rest => do
    let (second, rest) ← digits? 2 0 rest
    let (microsecond, rest) ← fraction? rest
    return (second, microsecond, rest)

/-- A date at the front of a text. -/
def date? (cs : List Char) : Option ((Nat × Nat × Nat) × List Char) := do
  let (year, cs) ← digits? 4 0 cs
  let cs ← oneOf? ['-'] cs
  let (month, cs) ← digits? 2 0 cs
  let cs ← oneOf? ['-'] cs
  let (day, cs) ← digits? 2 0 cs
  return ((year, month, day), cs)

/-- The timestamp that a text writes. -/
def ofChars? (cs : List Char) : Option Timestamp := do
  let ((year, month, day), cs) ← date? cs
  let read ← match cs with
    | [] => some ⟨year, month, day, 0, 0, 0, 0, none⟩
    | cs => do
      let cs ← oneOf? ['T', 't', ' ', '_'] cs
      let (hour, cs) ← digits? 2 0 cs
      let cs ← oneOf? [':'] cs
      let (minute, cs) ← digits? 2 0 cs
      let (second, microsecond, cs) ← seconds? cs
      let offset ← offset? cs
      some ⟨year, month, day, hour, minute, second, microsecond, offset⟩
  if IsValid read then some read else none

/-- The sign and the rest of a written count. -/
def splitSign : List Char → Bool × List Char
  | '-' :: rest => (true, rest)
  | '+' :: rest => (false, rest)
  | rest => (false, rest)

/-- The whole count that a text writes, if it fits 64 bits with its sign. -/
def wholeCount? (cs : List Char) : Option Int :=
  let (negative, digits) := splitSign cs
  if digits.isEmpty then none
  else do
    let (value, rest) ← digits? digits.length 0 digits
    let count : Int := if negative then -value else value
    if rest.isEmpty ∧ -0x8000000000000000 ≤ count ∧ count < 0x8000000000000000 then some count
    else none

/-- The exponent that makes up the rest of a count; zero if nothing is left. -/
def exponent? : List Char → Option Int
  | [] => some 0
  | mark :: rest => do
    let (negative, digits) := splitSign rest
    let (value, _) ← digits? digits.length 0 digits
    if (mark = 'e' ∨ mark = 'E') ∧ digits ≠ [] then some (if negative then -value else value)
    else none

/-- The count with a point that a text writes, perhaps with an exponent after it.  Digits may be
absent on one side of the point, and those before it fit 64 bits. -/
def decimalCount? (cs : List Char) : Option Binary64 := do
  let (negative, written) := splitSign cs
  let whole := written.takeWhile Char.isDigit
  let (units, _) ← digits? whole.length 0 whole
  let rest ← oneOf? ['.'] (written.dropWhile Char.isDigit)
  let places := rest.takeWhile Char.isDigit
  let (value, _) ← digits? places.length units places
  let exponent ← exponent? (rest.dropWhile Char.isDigit)
  if whole ++ places = [] ∨ 0x8000000000000000 ≤ units then none
  else some (Binary64.ofDecimal negative value (exponent - places.length))

/-- Why the date at the front of a text cannot be read, as the first thing that is wrong with it. -/
def dateFault (cs : List Char) : Text :=
  let digitAt (n : Nat) : Bool := cs[n]?.any Char.isDigit
  if Utf8.size cs < 10 then "input is too short"
  else if !([0, 1, 2, 3].all digitAt) then "invalid character in year"
  else if cs[4]? ≠ some '-' then "invalid date separator, expected \x60-\x60"
  else if !([5, 6].all digitAt) then "invalid character in month"
  else if cs[7]? ≠ some '-' then "invalid date separator, expected \x60-\x60"
  else if !([8, 9].all digitAt) then "invalid character in day"
  else match date? cs with
    | none => "input is too short"
    | some ((year, month, day), _) =>
      if month < 1 ∨ 12 < month then "month value is outside expected range of 1-12"
      else if day < 1 ∨ daysInMonth year month < day then "day value is outside expected range"
      else "unexpected extra characters at the end of the input"

/-- The timestamp that a text gives, as a date or as a count from the start of 1970.  A count with a
point that lies outside the calendar is reported as a bad date. -/
def ofText (cs : List Char) : Except Fault Timestamp :=
  match ofChars? cs, wholeCount? cs, (decimalCount? cs).map ofUnixFloat with
  | some t, _, _ => if t.year = 0 then .error .yearZero else .ok t
  | none, some count, _ => ofUnix count
  | none, none, some (.ok t) => .ok t
  | none, none, some (.error .yearZero) => .error .yearZero
  | none, none, _ => .error (.unreadable (dateFault cs))

end Timestamp

end CodeScan
