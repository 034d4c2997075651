import CodeScan.Number.Literal
import CodeScan.Record.Issue
import CodeScan.Timestamp

/-!
# Reading records

`Checked α` is a value or the issues that stand in its way.  It is an applicative and no monad:
combining two checked values keeps the issues of both, in order, which is what makes a reader report
every wrong field.

A field has two names.  Records are written with the `wire` name; readers accept that name or the
`plain` one, and the wire name counts if both are present.  An issue names the field by the name
that was used, and a missing field by its wire name.
-/

namespace CodeScan

/-- A value, or what stands in its way. -/
inductive Checked (α : Type) where
  | ok (value : α)
  | bad (issues : List Issue)

namespace Checked

/-- Applies a function to the value. -/
def map {α β : Type} (f : α → β) : Checked α → Checked β
  | .ok value => .ok (f value)
  | .bad issues => .bad issues

/-- Applies a checked function; the issues of both sides are kept. -/
def apply {α β : Type} : Checked (α → β) → Checked α → Checked β
  | .ok f, .ok value => .ok (f value)
  | .ok _, .bad issues => .bad issues
  | .bad issues, .ok _ => .bad issues
  | .bad issues, .bad more => .bad (issues ++ more)

instance : Applicative Checked where
  pure := .ok
  map := map
  seq f x := apply f (x ())

/-- Puts a step in front of the path of every issue. -/
def within {α : Type} (step : PathStep) : Checked α → Checked α
  | .ok value => .ok value
  | .bad issues => .bad (issues.map fun issue => { issue with path := step :: issue.path })

/-- A single issue at the value itself. -/
def issue {α : Type} (kind : IssueKind) (input : Json) : Checked α := .bad [⟨kind, [], input⟩]

/-- Adds a condition on the value read; where it fails, the issue shows the input. -/
def ensure {α : Type} (holds : α → Bool) (kind : IssueKind) (input : Json) : Checked α → Checked α
  | .ok value => if holds value then .ok value else issue kind input
  | .bad issues => .bad issues

/-- The value, or all issues as a report on the named record. -/
def toExcept {α : Type} (record : Text) : Checked α → Except IssueReport α
  | .ok value => .ok value
  | .bad issues => .error ⟨record, issues⟩

end Checked

/-- Reads one value. -/
abbrev Reader (α : Type) := Json → Checked α

namespace Reader

/-- A string. -/
def text : Reader Text
  | .string t => .ok t
  | input => .issue .notString input

/-- Null, or what another reader reads. -/
def optional {α : Type} (read : Reader α) : Reader (Option α)
  | .null => .ok none
  | input => (read input).map some

/-- An integer: a number without a fraction, a truth value, or a string that writes an integer.  A
floating point number has to fit 64 bits. -/
def integer : Reader Int
  | .int n => .ok n
  | .bool b => .ok (if b then 1 else 0)
  | .float x =>
    match x.toInt? with
    | some n =>
      if n.natAbs < 0x8000000000000000 then .ok n else .issue .integerTooLarge (.float x)
    | none => .issue (if x.isFinite then .fractionalInteger else .notFinite) (.float x)
  | .string t =>
    match t.chars?.bind Literal.field? with
    | some n => .ok n
    | none =>
      let overlong := t.chars?.any Literal.isOverlong
      .issue (if overlong then .integerTooLarge else .unreadableInteger) (.string t)
  | input => .issue .notInteger input

/-- An integer no less than a bound. -/
def integerFrom (bound : Int) : Reader Int := fun input =>
  (integer input).ensure (fun n => bound ≤ n) (.atLeast bound) input

/-- An integer between two bounds. -/
def integerWithin (least most : Int) : Reader Int := fun input =>
  ((integer input).ensure (fun n => n ≤ most) (.atMost most) input).ensure
    (fun n => least ≤ n) (.atLeast least) input

/-- An integer greater than a bound. -/
def integerAbove (bound : Int) : Reader Int := fun input =>
  (integer input).ensure (fun n => bound < n) (.above bound) input

/-- A timestamp: a string, or a count from the start of 1970 that is not past all doubles.  A string
that can be read but names a moment of the year zero is reported like a count. -/
def timestamp : Reader Timestamp := fun input =>
  match input with
  | .string t =>
    match Timestamp.ofText (t.chars?.getD []) with
    | .ok moment => .ok moment
    | .error .yearZero => .issue (.impossibleDatetime Timestamp.Fault.yearZero.message) input
    | .error fault => .issue (.unreadableDatetime fault.message) input
  | .int n =>
    if (Binary64.ofRatio (n < 0) n.natAbs 1).isFinite then ofCount input (Timestamp.ofUnix n)
    else .issue .notDatetime input
  | .float x => ofCount input (Timestamp.ofUnixFloat x)
  | _ => .issue .notDatetime input
where
  /-- The moment of a count. -/
  ofCount (input : Json) : Except Timestamp.Fault Timestamp → Checked Timestamp
    | .ok moment => .ok moment
    | .error fault => .issue (.impossibleDatetime fault.message) input

/-- The elements of a list, each with its index in the path of its issues. -/
def elements {α : Type} (read : Reader α) : Nat → List Json → Checked (List α)
  | _, [] => .ok []
  | n, item :: rest =>
    List.cons <$> (read item).within (.index n) <*> elements read (n + 1) rest

/-- A list.  `kind` is the issue of everything else. -/
def list {α : Type} (kind : IssueKind) (read : Reader α) : Reader (List α)
  | .array items => elements read 0 items
  | input => .issue kind input

/-- A record: its fields are read from the members of an object. -/
def record {α : Type} (name : Text) (read : Json.Members → Checked α) : Reader α
  | .object members => read members
  | input => .issue (.notRecord name) input

end Reader

/-- The two names of a field. -/
structure FieldName where
  /-- The name that is written. -/
  wire : Text
  /-- The name that is read as well. -/
  plain : Text

namespace FieldName

/-- A field whose two names are the same. -/
def same (t : Text) : FieldName := ⟨t, t⟩

/-- The value of a field, with the name under which it was found. -/
def find? (field : FieldName) (members : Json.Members) : Option (Text × Json) :=
  match members.get? field.wire with
  | some value => some (field.wire, value)
  | none => (members.get? field.plain).map fun value => (field.plain, value)

/-- A field that must be present. -/
def required {α : Type} (field : FieldName) (read : Reader α) (members : Json.Members) :
    Checked α :=
  match field.find? members with
  | some (name, value) => (read value).within (.name name)
  | none => .bad [⟨.missing, [.name field.wire], .object members⟩]

/-- A field with a value to fall back on. -/
def withDefault {α : Type} (field : FieldName) (fallback : α) (read : Reader α)
    (members : Json.Members) : Checked α :=
  match field.find? members with
  | some (name, value) => (read value).within (.name name)
  | none => .ok fallback

end FieldName

end CodeScan
