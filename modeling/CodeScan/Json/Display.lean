import CodeScan.Json.Basic
import CodeScan.Number.Shortest
import CodeScan.Text.Quoted

/-!
# Values shown in messages

Messages show a value in two ways.  `Json.shown` quotes strings, so that a reader sees where a value
ends; `Json.asName` leaves a string that stands alone unquoted, for a value that is used as a name.
Both spell the constants `None`, `True` and `False`.
-/

namespace CodeScan

namespace Json

/-- How messages spell floating point values that are no finite number. -/
def shownSpecials : Binary64.SpecialNames := ⟨"nan", "inf"⟩

mutual

/-- A value as messages show it, strings quoted. -/
def shown : Json → Text
  | .null => "None"
  | .bool true => "True"
  | .bool false => "False"
  | .int n => Text.ofInt n
  | .float x => x.toText shownSpecials
  | .string t => t.quoted
  | .array items => .char '[' :: Text.join ", " (shownItems items) ++ [.char ']']
  | .object members => .char '\x7b' :: Text.join ", " (shownMembers members) ++ [.char '\x7d']

/-- The shown elements of an array. -/
def shownItems : List Json → List Text
  | [] => []
  | item :: rest => shown item :: shownItems rest

/-- The shown members of an object. -/
def shownMembers : List (Text × Json) → List Text
  | [] => []
  | (name, value) :: rest => (name.quoted ++ ": " ++ shown value) :: shownMembers rest

end

/-- A value used as a name: a string is its own name. -/
def asName : Json → Text
  | .string t => t
  | value => value.shown

end Json

end CodeScan
