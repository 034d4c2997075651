import CodeScan.Json.Basic
import CodeScan.Text.Hex

/-!
# Reading JSON

The reader works on "what remains": every step takes the code points that are left and returns a
value with the code points after it, or a fault with those at which it was noticed.  A position is a
count of code points from the start, so it is computed once, at the end, as the length of the source
less the length of what remains.

## What is accepted

Besides the standard grammar, the constants `NaN`, `Infinity` and `-Infinity`; only space, tab, line
feed and carriage return count as blank; and a surrogate that has no partner is kept, escaped or
not.  In an object the last of several members of one name counts, at the place of the first.  An
integer may have `maxDigits` digits.

## Recursion

Arrays and objects nest, so reading recurses on a budget that bounds the number of calls still to be
made.  Each value takes at least one code point and costs at most two calls, so twice the length of
the input is always enough.
-/

namespace CodeScan

namespace Json

/-- What is wrong with a text that is no JSON. -/
inductive Problem where
  | expectedValue
  | expectedName
  | expectedColon
  | expectedComma
  | unterminatedString
  | controlCharacter
  | badEscape
  | badUnicodeEscape
  | extraData
  | overlongInteger
  | byteOrderMark
  deriving DecidableEq

/-- The wording of a problem. -/
def Problem.message : Problem → Text
  | .expectedValue => "Expecting value"
  | .expectedName => "Expecting property name enclosed in double quotes"
  | .expectedColon => "Expecting ':' delimiter"
  | .expectedComma => "Expecting ',' delimiter"
  | .unterminatedString => "Unterminated string starting at"
  | .controlCharacter => "Invalid control character at"
  | .badEscape => "Invalid \\escape"
  | .badUnicodeEscape => "Invalid \\uXXXX escape"
  | .extraData => "Extra data"
  | .overlongInteger => "Exceeds the limit (4300 digits) for integer string conversion"
  | .byteOrderMark => "Unexpected UTF-8 BOM (decode using utf-8-sig)"

/-- A problem noticed with the given number of code points left. -/
structure Fault where
  problem : Problem
  left : Nat

/-- Reports a problem at the code points that remain. -/
def faultAt {α : Type} (problem : Problem) (rest : Text) : Except Fault α :=
  .error ⟨problem, rest.length⟩

/-- The blanks between tokens. -/
def isSpace (c : Char) : Bool := c == ' ' || c == '\t' || c == '\n' || c == '\r'

/-- What remains after blanks. -/
def skipSpace (source : Text) : Text := source.dropWhile (CodePoint.satisfies isSpace)

/-- The value of a hexadecimal digit. -/
def hexDigit? (c : CodePoint) : Option Nat := c.char?.bind Text.hexValue?

/-- The number that four hexadecimal digits write. -/
def hex4? (a b c d : CodePoint) : Option Nat := do
  let high := (← hexDigit? a) * 16 + (← hexDigit? b)
  let low := (← hexDigit? c) * 16 + (← hexDigit? d)
  return high * 256 + low

/-- What a backslash and one letter stand for. -/
def simpleEscape? : CodePoint → Option Char
  | .char '"' => some '"'
  | .char '\\' => some '\\'
  | .char '/' => some '/'
  | .char 'b' => some '\x08'
  | .char 'f' => some '\x0C'
  | .char 'n' => some '\n'
  | .char 'r' => some '\r'
  | .char 't' => some '\t'
  | _ => none

/-- Whether an escape by number comes next. -/
def startsWithEscape : Text → Bool
  | .char '\\' :: .char 'u' :: _ => true
  | _ => false

/-- Puts an escaped code point in front of a string.  The first half of a surrogate pair is joined
with the second half, if that is escaped as well. -/
def consEscaped (unit : CodePoint) (nextEscaped : Bool) (t : Text) : Text :=
  match unit, t with
  | .surrogate first, .surrogate second :: rest =>
    if nextEscaped ∧ first.val < 0x400 ∧ 0x400 ≤ second.val then
      .ofValue (0x10000 + first.val * 0x400 + (second.val - 0x400)) :: rest
    else unit :: t
  | _, _ => unit :: t

/-- A string up to its closing quote.  The first argument is the string from its opening quote on,
where an unterminated one is reported. -/
def readUpToQuote (opening : Text) : Text → Except Fault (Text × Text)
  | [] => faultAt .unterminatedString opening
  | .char '"' :: rest => .ok ([], rest)
  | .char '\\' :: [] => faultAt .unterminatedString opening
  | .char '\\' :: .char 'u' :: a :: b :: c :: d :: e :: rest =>
    match hex4? a b c d with
    | none => faultAt .badUnicodeEscape (.char 'u' :: a :: b :: c :: d :: e :: rest)
    | some unit => do
      let (t, after) ← readUpToQuote opening (e :: rest)
      return (consEscaped (.ofValue unit) (startsWithEscape (e :: rest)) t, after)
  | .char '\\' :: .char 'u' :: rest => faultAt .badUnicodeEscape (.char 'u' :: rest)
  | .char '\\' :: letter :: rest =>
    match simpleEscape? letter with
    | none => faultAt .badEscape (.char '\\' :: letter :: rest)
    | some c => do
      let (t, rest) ← readUpToQuote opening rest
      return (.char c :: t, rest)
  | c :: rest =>
    if c.value < 0x20 then faultAt .controlCharacter (c :: rest)
    else do
      let (t, rest) ← readUpToQuote opening rest
      return (c :: t, rest)

/-- A string, from the code points after its opening quote. -/
def readString (rest : Text) : Except Fault (Text × Text) :=
  readUpToQuote (.char '"' :: rest) rest

/-- Whether a code point is a decimal digit. -/
def isDigit (c : CodePoint) : Bool := c.satisfies Char.isDigit

/-- The number that a list of decimal digits writes. -/
def digitsValue (digits : Text) : Nat :=
  digits.foldl (fun n c => n * 10 + (c.value - '0'.toNat)) 0

/-- The digits at the front, and what remains after them. -/
def spanDigits (source : Text) : Text × Text := (source.takeWhile isDigit, source.dropWhile isDigit)

/-- The fraction at the front: its digits, if a point and at least one digit are there. -/
def readFraction (source : Text) : Option Text × Text :=
  match source with
  | .char '.' :: rest =>
    match spanDigits rest with
    | ([], _) => (none, source)
    | (digits, rest) => (some digits, rest)
  | _ => (none, source)

/-- The exponent at the front, if a mark and at least one digit are there. -/
def readExponent (source : Text) : Option Int × Text :=
  let read (sign : Int) (rest : Text) : Option Int × Text :=
    match spanDigits rest with
    | ([], _) => (none, source)
    | (digits, rest) => (some (sign * (digitsValue digits : Int)), rest)
  match source with
  | .char mark :: rest =>
    if mark = 'e' ∨ mark = 'E' then
      match rest with
      | .char '-' :: rest => read (-1) rest
      | .char '+' :: rest => read 1 rest
      | rest => read 1 rest
    else (none, source)
  | _ => (none, source)

/-- A number without its sign: an integer, or a float if a fraction or an exponent is present. -/
def readMagnitude? (negative : Bool) (source : Text) : Option (Json × Text) :=
  let finish (whole rest : Text) : Json × Text :=
    let (fraction, rest) := readFraction rest
    let (exponent, rest) := readExponent rest
    if fraction.isNone ∧ exponent.isNone then
      let n : Int := digitsValue whole
      (.int (if negative then -n else n), rest)
    else
      let places := fraction.getD []
      let value := Binary64.ofDecimal negative (digitsValue (whole ++ places))
        (exponent.getD 0 - places.length)
      (.float value, rest)
  match source with
  | .char '0' :: rest => some (finish [.char '0'] rest)
  | source =>
    match spanDigits source with
    | ([], _) => none
    | (whole, rest) => some (finish whole rest)

/-- The greatest number of digits of an integer. -/
def maxDigits : Nat := 4300

/-- The number of digits at the front, after a minus sign if there is one. -/
def digitCount : Text → Nat
  | .char '-' :: rest => (spanDigits rest).1.length
  | rest => (spanDigits rest).1.length

/-- What remains after a word, if the text starts with it. -/
def dropWord? : Text → Text → Option Text
  | [], source => some source
  | w :: word, c :: source => if w = c then dropWord? word source else none
  | _ :: _, [] => none

/-- A constant or a number. -/
def readScalar (source : Text) : Except Fault (Json × Text) :=
  let constants : List (Text × Json) :=
    [("null", .null), ("true", .bool true), ("false", .bool false), ("NaN", .float .nan),
     ("Infinity", .float (.infinite false)), ("-Infinity", .float (.infinite true))]
  let constant? := constants.findSome? fun (word, value) =>
    (dropWord? word source).map fun rest => (value, rest)
  let number? := match source with
    | .char '-' :: rest => readMagnitude? true rest
    | rest => readMagnitude? false rest
  match constant? <|> number? with
  | some (.int n, rest) =>
    if maxDigits < digitCount source then faultAt .overlongInteger source
    else .ok (.int n, rest)
  | some result => .ok result
  | none => faultAt .expectedValue source

mutual

/-- A value at the front of a text that starts with no blank. -/
def readValue : Nat → Text → Except Fault (Json × Text)
  | 0, source => faultAt .expectedValue source
  | _ + 1, .char '"' :: rest => do
    let (t, rest) ← readString rest
    return (.string t, rest)
  | budget + 1, .char '[' :: rest =>
    match skipSpace rest with
    | .char ']' :: rest => .ok (.array [], rest)
    | rest => do
      let (items, rest) ← readItems budget rest
      return (.array items, rest)
  | budget + 1, .char '\x7b' :: rest =>
    match skipSpace rest with
    | .char '\x7d' :: rest => .ok (.object [], rest)
    | rest => do
      let (pairs, rest) ← readPairs budget rest
      return (.object (Members.ofPairs pairs), rest)
  | _ + 1, source => readScalar source

/-- The elements of an array up to its closing bracket, at least one. -/
def readItems : Nat → Text → Except Fault (List Json × Text)
  | 0, source => faultAt .expectedValue source
  | budget + 1, source => do
    let (item, rest) ← readValue budget source
    match skipSpace rest with
    | .char ']' :: rest => return ([item], rest)
    | .char ',' :: rest => do
      let (items, rest) ← readItems budget (skipSpace rest)
      return (item :: items, rest)
    | rest => faultAt .expectedComma rest

/-- The members of an object up to its closing brace, at least one. -/
def readPairs : Nat → Text → Except Fault (List (Text × Json) × Text)
  | 0, source => faultAt .expectedName source
  | budget + 1, .char '"' :: rest => do
    let (name, rest) ← readString rest
    match skipSpace rest with
    | .char ':' :: rest => do
      let (value, rest) ← readValue budget (skipSpace rest)
      match skipSpace rest with
      | .char '\x7d' :: rest => return ([(name, value)], rest)
      | .char ',' :: rest => do
        let (pairs, rest) ← readPairs budget (skipSpace rest)
        return ((name, value) :: pairs, rest)
      | rest => faultAt .expectedComma rest
    | rest => faultAt .expectedColon rest
  | _ + 1, source => faultAt .expectedName source

end

/-- A problem and the number of code points before it. -/
structure ReadError where
  problem : Problem
  position : Nat

/-- Reads a text that is one value, with blanks around it. -/
def readDocument (source : Text) : Except ReadError Json :=
  let located (fault : Fault) : ReadError := ⟨fault.problem, source.length - fault.left⟩
  match readValue (2 * source.length + 2) (skipSpace source) with
  | .error fault => .error (located fault)
  | .ok (value, rest) =>
    match skipSpace rest with
    | [] => .ok value
    | rest => .error (located ⟨.extraData, rest.length⟩)

/-- Reads a text that is one value and does not start with a byte order mark. -/
def read (source : Text) : Except ReadError Json :=
  if source.head? = some (.char '\uFEFF') then .error ⟨.byteOrderMark, 0⟩ else readDocument source

/-- The line of a position, counted from one. -/
def lineOf (source : Text) (position : Nat) : Nat :=
  (source.take position).count (.char '\n') + 1

/-- The column of a position, counted from one after the last line feed before it. -/
def columnOf (source : Text) (position : Nat) : Nat :=
  ((source.take position).reverse.takeWhile (· ≠ .char '\n')).length + 1

/-- The wording of an error, with line, column and position. -/
def ReadError.message (source : Text) (e : ReadError) : Text :=
  e.problem.message ++ ": line " ++ Text.ofNat (lineOf source e.position) ++ " column " ++
    Text.ofNat (columnOf source e.position) ++ " (char " ++ Text.ofNat e.position ++ ")"

end Json

end CodeScan
