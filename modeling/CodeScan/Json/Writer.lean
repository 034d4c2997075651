import CodeScan.Json.Basic
import CodeScan.Number.Shortest
import CodeScan.Text.Hex

/-!
# Written JSON

`Json.write` gives a value in ASCII on one line: a blank follows every comma and colon, and every
code point outside the printable ASCII range is escaped, as a surrogate pair above the basic plane.
A lone surrogate is escaped like any other code unit, so it is written as it was read.
-/

namespace CodeScan

namespace Json

/-- How floating point numbers that are no JSON number are spelled. -/
def specialNumbers : Binary64.SpecialNames := ⟨"NaN", "Infinity"⟩

/-- One UTF-16 code unit as an escape. -/
def escapeUnit (unit : Nat) : Text := "\\u" ++ Text.hex 4 unit

/-- One code point inside a written string. -/
def writeCodePoint (c : CodePoint) : Text :=
  if c = .char '"' then "\\\""
  else if c = .char '\\' then "\\\\"
  else if c = .char '\n' then "\\n"
  else if c = .char '\r' then "\\r"
  else if c = .char '\t' then "\\t"
  else if c = .char '\x08' then "\\b"
  else if c = .char '\x0C' then "\\f"
  else if 0x20 ≤ c.value ∧ c.value < 0x7F then [c]
  else if c.value < 0x10000 then escapeUnit c.value
  else
    let offset := c.value - 0x10000
    escapeUnit (0xD800 + offset / 0x400) ++ escapeUnit (0xDC00 + offset % 0x400)

/-- A written string, with its quotes. -/
def writeString (t : Text) : Text := .char '"' :: t.flatMap writeCodePoint ++ [.char '"']

mutual

/-- A value in ASCII on one line. -/
def write : Json → Text
  | .null => "null"
  | .bool true => "true"
  | .bool false => "false"
  | .int n => Text.ofInt n
  | .float x => x.toText specialNumbers
  | .string t => writeString t
  | .array items => .char '[' :: Text.join ", " (writeItems items) ++ [.char ']']
  | .object members => .char '\x7b' :: Text.join ", " (writeMembers members) ++ [.char '\x7d']

/-- The written elements of an array. -/
def writeItems : List Json → List Text
  | [] => []
  | item :: rest => write item :: writeItems rest

/-- The written members of an object. -/
def writeMembers : List (Text × Json) → List Text
  | [] => []
  | (name, value) :: rest => (writeString name ++ ": " ++ write value) :: writeMembers rest

end

end Json

end CodeScan
