import CodeScan.Pattern.Lexer

/-!
# Reading patterns

`assemble` folds the tokens of a source into a tree with a stack of open groups, and `parse` reads a
source.  The faults of a pattern are reported in the order in which a reader meets them from left to
right.  The width of a look-behind is judged last, when everything else is known to be in order.

A reader also needs a stack that is deep enough for the groups of the pattern.  How deep it is
depends on who calls the reader, so `Resources` says for which sources the stack is exhausted.
-/

namespace CodeScan

namespace Pattern

/-! ## Groups -/

/-- The groups with a number that were opened so far. -/
structure Groups where
  count : Nat
  names : List (Text × Nat)

namespace Groups

/-- No group was opened. -/
def initial : Groups := ⟨0, []⟩

/-- Opens a further group, whose name must be new. -/
def openFurther (groups : Groups) (name? : Option (Text × Nat)) : Except PatternError Groups :=
  let number := groups.count + 1
  match name? with
  | none => .ok { groups with count := number }
  | some (name, position) =>
    match groups.names.lookup name with
    | some earlier => .error (.repeatedGroupName name number earlier position)
    | none => .ok ⟨number, (name, number) :: groups.names⟩

/-- Opens a group of some kind; only some have a number. -/
def opened (groups : Groups) : GroupKind → Except PatternError Groups
  | .numbered name? => groups.openFurther name?
  | .plain | .ahead _ | .behind _ => .ok groups

end Groups

/-! ## Assembly -/

/-- How a part of a sequence may be repeated. -/
inductive Tag where
  | anchor
  | single
  /-- A repeat; a mark right after a fresh one is part of it. -/
  | repeated (fresh : Bool)
  deriving DecidableEq

/-- An open group: what has been read of it so far, latest first. -/
structure Frame where
  kind : GroupKind
  start : Nat
  branches : List Pattern
  parts : List (Pattern × Tag)

namespace Frame

/-- A group that has just been opened. -/
def new (kind : GroupKind) (start : Nat) : Frame := ⟨kind, start, [], []⟩

/-- Adds a part to the current branch. -/
def push (frame : Frame) (p : Pattern) (tag : Tag) : Frame :=
  { frame with parts := (p, tag) :: frame.parts }

/-- Passes over a comment: a mark behind it is no part of a repeat before it. -/
def passComment (frame : Frame) : Frame :=
  match frame.parts with
  | (p, .repeated _) :: parts => { frame with parts := (p, .repeated false) :: parts }
  | _ => frame

/-- The pattern of the current branch. -/
def branch (frame : Frame) : Pattern := concat (frame.parts.reverse.map Prod.fst)

/-- Starts the next branch. -/
def nextBranch (frame : Frame) : Frame :=
  { frame with branches := frame.branch :: frame.branches, parts := [] }

/-- The pattern of the whole group. -/
def pattern (frame : Frame) : Pattern :=
  let contents := oneOf (frame.branch :: frame.branches).reverse
  match frame.kind with
  | .numbered _ | .plain => contents
  | .ahead wanted => .ahead wanted contents
  | .behind wanted => .behind wanted contents

/-- Repeats the last part of the current branch.  A question mark after a repeat says that few turns
are preferred, which does not change what matches; a plus says that no turn is given back. -/
def quantify (frame : Frame) (position : Nat) (mark : Char) (least : Nat) (most : Option Nat) :
    Except PatternError Frame :=
  match frame.parts with
  | [] | (_, .anchor) :: _ => .error (.nothingToRepeat position)
  | (p, .single) :: parts =>
    let further := most.map (· - least)
    .ok { frame with parts := (.repeated p least further, .repeated true) :: parts }
  | (p, .repeated fresh) :: parts =>
    if fresh ∧ mark = '?' then .ok { frame with parts := (p, .repeated false) :: parts }
    else if fresh ∧ mark = '+' then .error (.unsupported .possessive position)
    else .error (.multipleRepeat position)

end Frame

/-- Folds tokens into the innermost open group, with the groups around it. -/
def assemble : List (Nat × Token) → Groups → Frame → List Frame → Except PatternError Pattern
  | [], _, frame, [] => .ok frame.pattern
  | [], _, frame, _ :: _ => .error (.unterminatedGroup frame.start)
  | (position, token) :: rest, groups, frame, outer =>
    match token with
    | .fault e => .error e
    | .atom p => assemble rest groups (frame.push p .single) outer
    | .anchor p => assemble rest groups (frame.push p .anchor) outer
    | .comment => assemble rest groups frame.passComment outer
    | .bar => assemble rest groups frame.nextBranch outer
    | .opening kind =>
      match groups.opened kind with
      | .error e => .error e
      | .ok groups => assemble rest groups (.new kind position) (frame :: outer)
    | .closing =>
      match outer with
      | [] => .error (.unbalancedBracket position)
      | enclosing :: outer => assemble rest groups (enclosing.push frame.pattern .single) outer
    | .quantifier mark least most =>
      match frame.quantify position mark least most with
      | .error e => .error e
      | .ok frame => assemble rest groups frame outer

/-! ## Reading -/

/-- What a reader of patterns is given from outside. -/
structure Resources where
  /-- The character database, if there is one. -/
  database? : Option CharacterDatabase
  /-- Whether the stack is exhausted by reading a source. -/
  exhausts : Text → Bool

/-- The greatest number of groups that are open at once, if `depth` are open now. -/
def nesting (depth : Nat) : List (Nat × Token) → Nat
  | [] => depth
  | (_, .opening _) :: rest => max depth (nesting (depth + 1) rest)
  | (_, .closing) :: rest => max depth (nesting (depth - 1) rest)
  | _ :: rest => nesting depth rest

/-- No character database, and a stack of the usual size, which bears close to five hundred open
groups. -/
def Resources.standard : Resources where
  database? := none
  exhausts source := 495 < nesting 0 (tokens none source)

/-- Reads a pattern. -/
def parse (resources : Resources) (source : Text) : Except PatternError Pattern :=
  if resources.exhausts source then .error .stackExhausted
  else match assemble (tokens resources.database? source) .initial (.new .plain 0) [] with
    | .error e => .error e
    | .ok p => if p.hasFixedLookBehind then .ok p else .error .lookBehindWidth

/-- Reads a pattern, and tells a fault as an error with its wording. -/
def compile (resources : Resources) (source : Text) : Except Refusal Pattern :=
  (parse resources source).mapError (PatternError.refusal source)

end Pattern

end CodeScan
