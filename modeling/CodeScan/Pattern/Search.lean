import CodeScan.Pattern.Basic

/-!
# Searching a line

A `Cursor` is a place in a line: the characters before it, nearest first, and those after it.
`Pattern.run` matches a pattern at a cursor and hands every place where the match can end to a
continuation, until the continuation accepts one.  The pattern is taken apart by structural
recursion; the only loop is `turns`, which repeats a body.

## Why repeating ends

`turns` may be asked for as many further turns as there are characters left.  A turn that takes no
character is never followed by another: it would only reach places that are reached without it.  So
each further turn leaves fewer characters, and the count handed to `turns` is never what stops an
unbounded repeat.
-/

namespace CodeScan

/-- A place in a line. -/
structure Cursor where
  /-- The characters before the place, nearest first. -/
  before : List Char
  /-- The characters after the place. -/
  after : List Char

namespace Cursor

/-- The place a number of characters further back, if there are so many. -/
def back : Nat → Cursor → Option Cursor
  | 0, c => some c
  | _ + 1, ⟨[], _⟩ => none
  | n + 1, ⟨x :: before, after⟩ => back n ⟨before, x :: after⟩

/-- Whether exactly one of the neighbouring characters is a word character. -/
def atBoundary (c : Cursor) : Bool :=
  c.before.head?.any isWord != c.after.head?.any isWord

/-- Whether the line has a character at all. -/
def hasText (c : Cursor) : Bool := !(c.before.isEmpty && c.after.isEmpty)

/-- Whether the line ends here, a line feed at its end left aside. -/
def atFinish (c : Cursor) : Bool :=
  match c.after with
  | [] => true
  | ['\n'] => true
  | _ => false

/-- Takes one character that passes a test, and goes on behind it. -/
def take (test : Char → Bool) (next : Cursor → Bool) (c : Cursor) : Bool :=
  match c.after with
  | [] => false
  | x :: after => test x && next ⟨x :: c.before, after⟩

end Cursor

namespace Pattern

/-- What a pattern does at a cursor, given what is to follow. -/
abbrev Matcher := (Cursor → Bool) → Cursor → Bool

/-- Exactly `n` turns of a body, then what follows. -/
def exactly (body : Matcher) : Nat → Matcher
  | 0, next, c => next c
  | n + 1, next, c => body (exactly body n next) c

/-- At most `n` turns of a body, then what follows.  Only a turn that took a character is followed
by another; where every turn takes one (`mayStall` is false) nothing has to be compared. -/
def turns (body : Matcher) (mayStall : Bool) : Nat → Matcher
  | 0, next, c => next c
  | n + 1, next, c =>
    body (fun d =>
      (!mayStall || d.after.length < c.after.length) && turns body mayStall n next d) c || next c

/-- Matches a pattern at a cursor and passes the places where it can end to `next`. -/
def run : Pattern → Matcher
  | .empty, next, c => next c
  | .char x, next, c => c.take (· == x) next
  | .any, next, c => c.take (· != '\n') next
  | .set s, next, c => c.take s.contains next
  | .start, next, c => c.before.isEmpty && next c
  | .finish, next, c => c.atFinish && next c
  | .veryEnd, next, c => c.after.isEmpty && next c
  | .boundary here, next, c => (c.hasText && c.atBoundary == here) && next c
  | .seq p q, next, c => p.run (q.run next) c
  | .alt p q, next, c => p.run next c || q.run next c
  | .repeated p least further, next, c =>
    let mayStall := p.width.1 == 0
    exactly p.run least
      (fun d => turns p.run mayStall (further.getD d.after.length) next d) c
  | .ahead wanted p, next, c => p.run (fun _ => true) c == wanted && next c
  | .behind wanted p, next, c =>
    (c.back p.width.1).any (p.run fun _ => true) == wanted && next c

/-- Whether the pattern matches a piece of the line that starts at the cursor or after it. -/
def searchFrom (p : Pattern) (before : List Char) : List Char → Bool
  | [] => p.run (fun _ => true) ⟨before, []⟩
  | x :: after => p.run (fun _ => true) ⟨before, x :: after⟩ || searchFrom p (x :: before) after

/-- Whether some piece of the line matches. -/
def search (p : Pattern) (line : List Char) : Bool := p.searchFrom [] line

end Pattern

end CodeScan
