import CodeScan.Text.Blank
import CodeScan.Text.Digit
import CodeScan.Text.Word

/-!
# Patterns

A pattern is a tree.  It describes pieces of a line: a piece matches or it does not, and nothing is
recorded about how.  So a group is just its contents, and a repeat that prefers few turns is the
same pattern as one that prefers many.

Anchors and look-around take no characters; they are conditions on what stands before and after.

A repeat is given by the number of turns it needs and the number of turns it may take on top, so
that there is no pair of bounds that contradict each other.
-/

namespace CodeScan

/-- The kinds of character that have an escape of their own. -/
inductive CharKind where
  | digit
  | blank
  | word
  deriving DecidableEq

/-- Whether a character is of a kind. -/
def CharKind.holds : CharKind → Char → Bool
  | .digit => isDecimalDigit
  | .blank => isBlank
  | .word => isWord

/-- One entry of a character set.  Code points are given by number, since the bounds of a range may
be lone surrogates, which no character equals. -/
inductive CharItem where
  | single (n : Nat)
  | range (first last : Nat)
  | kind (k : CharKind) (negated : Bool)
  deriving DecidableEq

/-- Whether a character is covered by an entry. -/
def CharItem.contains : CharItem → Char → Bool
  | .single n, c => c.toNat == n
  | .range first last, c => first ≤ c.toNat && c.toNat ≤ last
  | .kind k negated, c => k.holds c != negated

/-- A character set: the characters covered by some entry, or by none if it is negated. -/
structure CharSet where
  negated : Bool
  items : List CharItem
  deriving DecidableEq

/-- Whether a character belongs to a set. -/
def CharSet.contains (set : CharSet) (c : Char) : Bool :=
  set.items.any (·.contains c) != set.negated

/-- A pattern. -/
inductive Pattern where
  /-- The empty piece. -/
  | empty
  /-- One given character. -/
  | char (c : Char)
  /-- Any one character but a line feed. -/
  | any
  /-- One character of a set. -/
  | set (s : CharSet)
  /-- The start of the line. -/
  | start
  /-- The end of the line, or before a line feed that is its last character. -/
  | finish
  /-- The very end. -/
  | veryEnd
  /-- A word character on exactly one side (`here`), or not so.  On the empty line neither holds. -/
  | boundary (here : Bool)
  | seq (first second : Pattern)
  | alt (left right : Pattern)
  /-- As many turns as `least` says and further ones, at most `further` if there is a bound. -/
  | repeated (body : Pattern) (least : Nat) (further : Option Nat)
  /-- What follows matches (`wanted`), or does not. -/
  | ahead (wanted : Bool) (body : Pattern)
  /-- What stands right before matches (`wanted`), or does not. -/
  | behind (wanted : Bool) (body : Pattern)
  deriving DecidableEq

namespace Pattern

/-- All patterns of a list, one after the other. -/
def concat : List Pattern → Pattern
  | [] => .empty
  | [p] => p
  | p :: rest => .seq p (concat rest)

/-- Any one pattern of a list; the empty piece if there is none. -/
def oneOf : List Pattern → Pattern
  | [] => .empty
  | [p] => p
  | p :: rest => .alt p (oneOf rest)

/-- The least and the greatest number of characters of a matching piece; no greatest if there is no
bound. -/
def width : Pattern → Nat × Option Nat
  | .empty | .start | .finish | .veryEnd | .boundary _ | .ahead .. | .behind .. => (0, some 0)
  | .char _ | .any | .set _ => (1, some 1)
  | .seq p q =>
    let (a, b) := p.width
    let (c, d) := q.width
    (a + c, do return (← b) + (← d))
  | .alt p q =>
    let (a, b) := p.width
    let (c, d) := q.width
    (min a c, do return max (← b) (← d))
  | .repeated p least further =>
    let (a, b) := p.width
    let greatest := match b, further with
      | some 0, _ => some 0
      | some b, some k => some (b * (least + k))
      | none, some k => if least + k = 0 then some 0 else none
      | _, none => none
    (a * least, greatest)

/-- The bound on widths and on the counts of a repeat, which all have 32 bits. -/
def countBound : Nat := 0xFFFFFFFF

/-- Whether all matching pieces have the same length, and one below the bound. -/
def isFixedWidth (p : Pattern) : Bool := p.width.2 == some p.width.1 && p.width.1 < countBound

/-- Whether every look-behind in the pattern has a fixed width. -/
def hasFixedLookBehind : Pattern → Bool
  | .empty | .start | .finish | .veryEnd | .boundary _ | .char _ | .any | .set _ => true
  | .seq p q | .alt p q => p.hasFixedLookBehind && q.hasFixedLookBehind
  | .repeated p _ _ | .ahead _ p => p.hasFixedLookBehind
  | .behind _ p => p.isFixedWidth && p.hasFixedLookBehind

end Pattern

end CodeScan
