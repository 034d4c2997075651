import CodeScan.Text.CodePoint

/-!
# Blank characters

One set of blank characters serves the whole library: `\s` in a pattern, the trimming of a reported
line and the trimming of settings all mean `isBlank`.  That the three agree is what makes a reported
snippet scan like the line it was taken from.
-/

namespace CodeScan

/-- The blank code points: the ASCII controls from tab to carriage return, the four information
separators, the space, next line, the no-break space and the Unicode space and line separators. -/
def blanks : List Nat :=
  [0x09, 0x0A, 0x0B, 0x0C, 0x0D, 0x1C, 0x1D, 0x1E, 0x1F, 0x20, 0x85, 0xA0, 0x1680,
   0x2000, 0x2001, 0x2002, 0x2003, 0x2004, 0x2005, 0x2006, 0x2007, 0x2008, 0x2009, 0x200A,
   0x2028, 0x2029, 0x202F, 0x205F, 0x3000]

/-- A blank character.  Printable ASCII is decided by one comparison. -/
def isBlank (c : Char) : Bool :=
  if 0x21 ≤ c.toNat ∧ c.toNat < 0x7F then false else blanks.contains c.toNat

/-- Whether a code point is blank; a lone surrogate is not. -/
def CodePoint.isBlank (c : CodePoint) : Bool := c.satisfies CodeScan.isBlank

namespace Text

/-- Drops the leading and trailing elements that satisfy a test. -/
def trimWhere {α : Type} (test : α → Bool) (xs : List α) : List α :=
  ((xs.dropWhile test).reverse.dropWhile test).reverse

/-- A line without the blanks around it. -/
def strip (line : List Char) : List Char := trimWhere isBlank line

/-- A text without the blanks around it. -/
def trim (t : Text) : Text := trimWhere CodePoint.isBlank t

/-- Whether nothing but blanks is present. -/
def isAllBlank (line : List Char) : Bool := line.all isBlank

end Text

end CodeScan
