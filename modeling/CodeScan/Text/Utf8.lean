import CodeScan.Text.CodePoint

/-!
# UTF-8

Sizes are counted in UTF-8 bytes, and files are read as UTF-8.  Reading never fails: in a file, what
is not well formed is replaced; in standard input, each byte of it is kept as a lone surrogate.

## The replacing decoder

The decoder is a machine over the bytes.  Between characters it expects a lead byte; inside one it
is `Pending`, knowing how many bytes are missing and which range the next one must lie in (the range
is narrower than `80..BF` right after the lead bytes `E0`, `ED`, `F0` and `F4`, which is how
overlong forms, surrogates and numbers past the last plane are refused).  A byte outside that range
ends the ill-formed piece: the piece becomes a single replacement character and the byte is looked
at afresh as a lead.  So each maximal ill-formed piece gives exactly one replacement.
-/

namespace CodeScan

namespace Utf8

/-- The number of bytes that a list of characters takes. -/
def size (cs : List Char) : Nat := cs.foldr (fun c size => c.utf8Size + size) 0

/-- The bytes of a list of characters. -/
def encode (cs : List Char) : List UInt8 := cs.flatMap String.utf8EncodeChar

/-- The character that stands for an ill-formed piece. -/
def replacement : Char := '\uFFFD'

/-- A character whose lead byte has been read. -/
structure Pending where
  /-- How many bytes are still missing after the next one. -/
  further : Nat
  /-- The least value the next byte may have. -/
  low : UInt8
  /-- The greatest value the next byte may have. -/
  high : UInt8
  /-- The bits read so far. -/
  bits : Nat

/-- What a byte means where a character starts. -/
inductive Lead where
  | ascii (c : Char)
  | longer (pending : Pending)
  | illFormed

/-- Reads a byte where a character starts. -/
def lead (b : UInt8) : Lead :=
  if b < 0x80 then .ascii (Char.ofNat b.toNat)
  else if b < 0xC2 then .illFormed
  else if b < 0xE0 then .longer ⟨0, 0x80, 0xBF, b.toNat - 0xC0⟩
  else if b = 0xE0 then .longer ⟨1, 0xA0, 0xBF, 0⟩
  else if b = 0xED then .longer ⟨1, 0x80, 0x9F, 0xD⟩
  else if b < 0xF0 then .longer ⟨1, 0x80, 0xBF, b.toNat - 0xE0⟩
  else if b = 0xF0 then .longer ⟨2, 0x90, 0xBF, 0⟩
  else if b < 0xF4 then .longer ⟨2, 0x80, 0xBF, b.toNat - 0xF0⟩
  else if b = 0xF4 then .longer ⟨2, 0x80, 0x8F, 4⟩
  else .illFormed

/-- Decodes the rest of the bytes, inside a pending character or between two. -/
def decodeFrom : Option Pending → List UInt8 → List Char
  | none, [] => []
  | some _, [] => [replacement]
  | none, b :: rest =>
    match lead b with
    | .ascii c => c :: decodeFrom none rest
    | .longer pending => decodeFrom (some pending) rest
    | .illFormed => replacement :: decodeFrom none rest
  | some pending, b :: rest =>
    if pending.low ≤ b ∧ b ≤ pending.high then
      let bits := pending.bits * 64 + (b.toNat - 0x80)
      match pending.further with
      | 0 => Char.ofNat bits :: decodeFrom none rest
      | further + 1 => decodeFrom (some ⟨further, 0x80, 0xBF, bits⟩) rest
    else
      match lead b with
      | .ascii c => replacement :: c :: decodeFrom none rest
      | .longer next => replacement :: decodeFrom (some next) rest
      | .illFormed => replacement :: replacement :: decodeFrom none rest

/-- The characters of a sequence of bytes, with one replacement for each maximal ill-formed
piece. -/
def decode (bytes : List UInt8) : List Char := decodeFrom none bytes

/-! ## The keeping decoder -/

/-- The character whose bytes are in front, if one's are. -/
def front? (bytes : List UInt8) : Option Char :=
  (decode (bytes.take 4)).head?.filter fun c => (String.utf8EncodeChar c).isPrefixOf bytes

/-- The lone surrogate that stands for a byte. -/
def surrogateOf (b : UInt8) : CodePoint :=
  .surrogate ⟨0x400 + b.toNat, by have := b.toNat_lt; omega⟩

/-- Decodes the bytes after those that belong to the character before. -/
def decodeKeepingFrom : Nat → List UInt8 → Text
  | _, [] => []
  | taken + 1, _ :: rest => decodeKeepingFrom taken rest
  | 0, b :: rest =>
    match front? (b :: rest) with
    | some c => .char c :: decodeKeepingFrom (c.utf8Size - 1) rest
    | none => surrogateOf b :: decodeKeepingFrom 0 rest

/-- The text of a sequence of bytes, with a lone surrogate for each byte that belongs to no
character. -/
def decodeKeeping (bytes : List UInt8) : Text := decodeKeepingFrom 0 bytes

end Utf8

end CodeScan
