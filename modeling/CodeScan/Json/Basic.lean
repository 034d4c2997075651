import CodeScan.Number.Binary64
import CodeScan.Text.CodePoint

/-!
# JSON values

Integers and floating point numbers are told apart, because the records distinguish `1` from `1.0`
in their messages.  An object keeps its members in the order in which their names first appeared,
and no name occurs twice: `insert` replaces the value of a name that is already there, in place.
-/

namespace CodeScan

/-- A JSON value. -/
inductive Json where
  | null
  | bool (b : Bool)
  | int (n : Int)
  | float (x : Binary64)
  | string (t : Text)
  | array (items : List Json)
  | object (members : List (Text × Json))

namespace Json

instance : Inhabited Json := ⟨.null⟩

/-- The members of an object by name, in order. -/
abbrev Members := List (Text × Json)

/-- The value of a member. -/
def Members.get? (members : Members) (name : Text) : Option Json := members.lookup name

/-- Sets the value of a name: in place if the name is there, at the end otherwise. -/
def Members.insert : Members → Text → Json → Members
  | [], name, value => [(name, value)]
  | (other, old) :: rest, name, value =>
    if other = name then (other, value) :: rest
    else (other, old) :: Members.insert rest name value

/-- The members read from a list of pairs: a later pair replaces an earlier one of its name. -/
def Members.ofPairs (pairs : List (Text × Json)) : Members :=
  pairs.foldl (fun members pair => Members.insert members pair.1 pair.2) []

/-- A value that counts as given: everything but null, false, zero and what is empty. -/
def isGiven : Json → Bool
  | .null => false
  | .bool b => b
  | .int n => n ≠ 0
  | .float x => !x.isZero
  | .string t => !t.isEmpty
  | .array items => !items.isEmpty
  | .object members => !members.isEmpty

/-- The name of a value's type, as messages spell it. -/
def typeName : Json → Text
  | .null => "NoneType"
  | .bool _ => "bool"
  | .int _ => "int"
  | .float _ => "float"
  | .string _ => "str"
  | .array _ => "list"
  | .object _ => "dict"

end Json

end CodeScan
