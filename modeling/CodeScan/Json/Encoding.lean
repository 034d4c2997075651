import CodeScan.Text.Utf8

/-!
# The encoding of a JSON document

A document that arrives as bytes does not say how it is encoded.  It starts with an ASCII character,
and mostly with two of them, so the zero bytes among the first four tell how wide a character is and
which of its bytes comes first.

Surrogates are read as they stand: only in UTF-16 do two of them make one character, and one without
a partner is kept.
-/

namespace CodeScan

namespace Json

/-- How a document is encoded. -/
inductive Encoding where
  | utf8
  | utf16 (bigEndian : Bool)
  | utf32 (bigEndian : Bool)
  deriving DecidableEq

namespace Encoding

/-- The encoding that the first bytes tell.  Of the short documents only one of two bytes can be in
a wide encoding. -/
def ofBytes : List UInt8 → Encoding
  | [a, b] => if a = 0 then .utf16 true else if b = 0 then .utf16 false else .utf8
  | a :: b :: c :: d :: _ =>
    if a = 0 then (if b = 0 then .utf32 true else .utf16 true)
    else if b = 0 then (if c = 0 ∧ d = 0 then .utf32 false else .utf16 false)
    else .utf8
  | _ => .utf8

/-- The number that some bytes write. -/
def number (bigEndian : Bool) (bytes : List UInt8) : Nat :=
  (if bigEndian then bytes else bytes.reverse).foldl (fun n b => n * 256 + b.toNat) 0

/-- The units of two bytes each, as code points. -/
def units16? (bigEndian : Bool) : List UInt8 → Option Text
  | [] => some []
  | a :: b :: rest => do
    let more ← units16? bigEndian rest
    return .ofValue (number bigEndian [a, b]) :: more
  | _ => none

/-- The units of four bytes each, as code points. -/
def units32? (bigEndian : Bool) : List UInt8 → Option Text
  | [] => some []
  | a :: b :: c :: d :: rest => do
    let value := number bigEndian [a, b, c, d]
    if value < 0x110000 then
      let more ← units32? bigEndian rest
      return .ofValue value :: more
    else none
  | _ => none

/-- Joins each first half of a surrogate pair with the second half right after it. -/
def joinSurrogates : Text → Text
  | .surrogate first :: .surrogate second :: rest =>
    if first.val < 0x400 ∧ 0x400 ≤ second.val then
      .ofValue (0x10000 + first.val * 0x400 + (second.val - 0x400)) :: joinSurrogates rest
    else .surrogate first :: joinSurrogates (.surrogate second :: rest)
  | c :: rest => c :: joinSurrogates rest
  | [] => []

end Encoding

/-- The text of a document whose bytes are the UTF-8 form of the given characters.  A byte order
mark is dropped.  There is none if the bytes tell a wide encoding and then break it. -/
def documentText? (sent : List Char) : Option Text :=
  let bytes := Utf8.encode sent
  match Encoding.ofBytes bytes with
  | .utf8 =>
    match sent with
    | '\uFEFF' :: rest => some (Text.ofChars rest)
    | rest => some (Text.ofChars rest)
  | .utf16 bigEndian => (Encoding.units16? bigEndian bytes).map Encoding.joinSurrogates
  | .utf32 bigEndian => Encoding.units32? bigEndian bytes

end Json

end CodeScan
