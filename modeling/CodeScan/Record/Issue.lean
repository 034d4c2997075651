import CodeScan.Json.Display
import CodeScan.Text.Utf8

/-!
# Issues

Reading a record looks at every field and reports each one that is wrong.  An `Issue` is one such
report: what is wrong, where (a path of names and indexes from the record down), and the value found
there.  A `Report` is the full list for one record, and `Report.text` is how it is printed.
-/

namespace CodeScan

/-- One step of the path to a value. -/
inductive PathStep where
  | name (t : Text)
  | index (n : Nat)
  deriving DecidableEq

/-- What can be wrong with a value. -/
inductive IssueKind where
  | missing
  | notString
  | notInteger
  | unreadableInteger
  | integerTooLarge
  | fractionalInteger
  | notFinite
  | atLeast (bound : Int)
  | atMost (bound : Int)
  | above (bound : Int)
  /-- Not one of the given names. -/
  | notListed (names : List Text)
  | notDatetime
  | unreadableDatetime (reason : Text)
  | impossibleDatetime (reason : Text)
  | notList
  | notTuple
  | notRecord (record : Text)
  | notObject
  | refused (reason : Text)

/-- One value that is wrong. -/
structure Issue where
  kind : IssueKind
  path : List PathStep
  input : Json

namespace IssueKind

/-- The short code of an issue. -/
def code : IssueKind → Text
  | .missing => "missing"
  | .notString => "string_type"
  | .notInteger => "int_type"
  | .unreadableInteger => "int_parsing"
  | .integerTooLarge => "int_parsing_size"
  | .fractionalInteger => "int_from_float"
  | .notFinite => "finite_number"
  | .atLeast _ => "greater_than_equal"
  | .atMost _ => "less_than_equal"
  | .above _ => "greater_than"
  | .notListed _ => "enum"
  | .notDatetime => "datetime_type"
  | .unreadableDatetime _ => "datetime_from_date_parsing"
  | .impossibleDatetime _ => "datetime_parsing"
  | .notList => "list_type"
  | .notTuple => "tuple_type"
  | .notRecord _ => "model_type"
  | .notObject => "model_attributes_type"
  | .refused _ => "value_error"

/-- Quoted alternatives, the last one after an "or". -/
def alternatives : List Text → Text
  | [] => []
  | [name] => name.quoted
  | [name, last] => name.quoted ++ " or " ++ last.quoted
  | name :: rest => name.quoted ++ ", " ++ alternatives rest

/-- The wording of an issue. -/
def message : IssueKind → Text
  | .missing => "Field required"
  | .notString => "Input should be a valid string"
  | .notInteger => "Input should be a valid integer"
  | .unreadableInteger =>
    "Input should be a valid integer, unable to parse string as an integer"
  | .integerTooLarge => "Unable to parse input string as an integer, exceeded maximum size"
  | .fractionalInteger => "Input should be a valid integer, got a number with a fractional part"
  | .notFinite => "Input should be a finite number"
  | .atLeast bound => "Input should be greater than or equal to " ++ Text.ofInt bound
  | .atMost bound => "Input should be less than or equal to " ++ Text.ofInt bound
  | .above bound => "Input should be greater than " ++ Text.ofInt bound
  | .notListed names => "Input should be " ++ alternatives names
  | .notDatetime => "Input should be a valid datetime"
  | .unreadableDatetime reason => "Input should be a valid datetime or date, " ++ reason
  | .impossibleDatetime reason => "Input should be a valid datetime, " ++ reason
  | .notList => "Input should be a valid list"
  | .notTuple => "Input should be a valid tuple"
  | .notRecord record => "Input should be a valid dictionary or instance of " ++ record
  | .notObject => "Input should be a valid dictionary or object to extract fields from"
  | .refused reason => "Value error, " ++ reason

end IssueKind

namespace Issue

/-- The longest prefix of a text that takes at most so many bytes. -/
def takeBytes : Nat → Text → Text
  | _, [] => []
  | budget, c :: rest =>
    let size := (c.char?.map Char.utf8Size).getD 3
    if size ≤ budget then c :: takeBytes (budget - size) rest else []

/-- The bytes of a text; a lone surrogate would take three. -/
def byteSize (t : Text) : Nat :=
  t.foldr (fun c size => (c.char?.map Char.utf8Size).getD 3 + size) 0

/-- A shown value, cut in the middle if it takes more than fifty bytes. -/
def excerpt (t : Text) : Text :=
  if byteSize t ≤ 50 then t
  else takeBytes 25 t ++ "..." ++ (takeBytes 24 t.reverse).reverse

/-- The path with a point between its steps. -/
def pathText (path : List PathStep) : Text :=
  Text.join "." (path.map fun
    | .name t => t
    | .index n => Text.ofNat n)

/-- The page that explains a code. -/
def helpPage (code : Text) : Text :=
  "https://errors.pydantic.dev/2.14/v/" ++ code

/-- The printed lines of one issue. -/
def lines (issue : Issue) : List Text :=
  let code := issue.kind.code
  [pathText issue.path,
   "  " ++ issue.kind.message ++ " [type=" ++ code ++ ", input_value=" ++
     excerpt issue.input.shown ++ ", input_type=" ++ issue.input.typeName ++ "]",
   "    For further information visit " ++ helpPage code]

end Issue

/-- All issues of one record. -/
structure IssueReport where
  record : Text
  issues : List Issue

/-- A report as it is printed: a headline, then three lines for each issue. -/
def IssueReport.text (report : IssueReport) : Text :=
  let count := report.issues.length
  let noun : Text := if count = 1 then " validation error" else " validation errors"
  let headline := Text.ofNat count ++ noun ++ " for " ++ report.record
  Text.join "\n" (headline :: report.issues.flatMap Issue.lines)

end CodeScan
