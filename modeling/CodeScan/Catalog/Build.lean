import CodeScan.Catalog.Rule
import CodeScan.Json.Display
import CodeScan.Pattern.Parser

/-!
# Building a catalog

A catalog is built from definitions, each of which gives the fields of a rule by name.  A value is a
JSON value, or a category as such.  Definitions are taken in order, and the first fault ends the
building.  Within one definition the checks are: the identifier is there, it is new, a pattern is
there, the pattern can be read, no matcher is given ready-made, and the fields are those of a rule.

An identifier and a pattern are first taken by the name they show as.  An identifier that is no
string is then refused as a field, while a pattern is just that text.  A category shows as its
constant and reads as its label, so an identifier that is a category has two names: the one by which
it is compared with earlier ones, and the one that the rule gets.

How patterns are read is left to a compiler, which is handed to the builder.
-/

namespace CodeScan

/-- A value of a definition. -/
inductive FieldValue where
  | plain (value : Json)
  | category (c : Category)

namespace FieldValue

/-- The name that a value shows as. -/
def asName : FieldValue → Text
  | .plain value => value.asName
  | .category c => c.shown

/-- The value as a field of a rule reads it: a category is its label. -/
def content : FieldValue → Json
  | .plain value => value
  | .category c => .string c.label

end FieldValue

/-- The fields that a definition gives, by name. -/
abbrev Fields := List (Text × FieldValue)

namespace Fields

/-- The value of a field. -/
def get? (fields : Fields) (name : Text) : Option FieldValue := fields.lookup name

/-- The fields as the record of a rule reads them. -/
def contents (fields : Fields) : Json.Members :=
  fields.map fun field => (field.1, field.2.content)

end Fields

/-- Why a catalog cannot be built.  Faults after the first check name the rule. -/
inductive CatalogError where
  | missingId
  | duplicateId (id : Text)
  | missingPattern (id : Text)
  | invalidPattern (id : Text) (refusal : Refusal)
  | givenMatcher
  | malformed (id : Text) (issues : List Issue)

namespace CatalogError

/-- The kinds of error that end the building of a catalog. -/
inductive Kind where
  /-- A fault of the catalog. -/
  | catalog
  /-- The matcher is given twice. -/
  | argument
  /-- An error of the compiler that is no fault of the pattern. -/
  | compiler (kind : RefusalKind)
  deriving DecidableEq

/-- The kind of an error.  What the compiler does not refuse as a fault of the pattern is not told
as a fault of the catalog. -/
def kind : CatalogError → Kind
  | .givenMatcher => .argument
  | .invalidPattern _ refusal =>
    if refusal.kind = .malformed then .catalog else .compiler refusal.kind
  | _ => .catalog

/-- The wording of an error.  What is no fault of the pattern is reported on its own. -/
def message : CatalogError → Text
  | .missingId => "Rule entry is missing 'id'"
  | .duplicateId id => "Duplicate rule id: " ++ id
  | .missingPattern id => "Rule " ++ id ++ " is missing 'pattern'"
  | .invalidPattern id refusal =>
    if refusal.kind = .malformed then
      "Rule " ++ id ++ " has an invalid pattern: " ++ refusal.message
    else refusal.message
  | .givenMatcher =>
    "guardian_scan.models.Rule() got multiple values for keyword argument 'matcher'"
  | .malformed id _ => "Rule " ++ id ++ " is malformed"

end CatalogError

namespace Catalog

/-- What reads the patterns of a catalog. -/
abbrev Compiler := Text → Except Refusal Pattern

/-- Reads the fields of a rule whose pattern is known. -/
def readRule (source : Text) (pattern : Pattern) (members : Json.Members) : Checked Rule :=
  let text (name : Text) : Checked Text := (FieldName.same name).required Reader.text members
  let make (id kind : Text) (category : Category)
      (description explanation mitigation safeCode : Text) : Rule :=
    { id, source, pattern, kind, category, description, explanation, mitigation, safeCode }
  make <$> text "id" <*> text "vulnerability_type"
    <*> (FieldName.same "category").required Category.read members
    <*> text "description" <*> text "explanation" <*> text "mitigation" <*> text "safe_code"

/-- The identifier that a definition goes by; empty if it has none. -/
def definitionId (fields : Fields) : Text := ((fields.get? "id").map FieldValue.asName).getD []

/-- Builds one rule, given the identifiers that are taken. -/
def buildRule (compile : Compiler) (taken : List Text) (fields : Fields) :
    Except CatalogError Rule := do
  let id := definitionId fields
  if id.isEmpty then throw .missingId
  if taken.contains id then throw (.duplicateId id)
  let some written := fields.get? "pattern" | throw (.missingPattern id)
  let source := written.asName
  let pattern ← (compile source).mapError (.invalidPattern id)
  if (fields.get? "matcher").isSome then throw .givenMatcher
  match readRule source pattern fields.contents with
  | .ok rule => return rule
  | .bad issues => throw (.malformed id issues)

/-- Builds the rules of the definitions that remain, given the identifiers that are taken. -/
def buildFrom (compile : Compiler) (taken : List Text) :
    List Fields → Except CatalogError (List Rule)
  | [] => return []
  | fields :: rest => do
    let rule ← buildRule compile taken fields
    let rules ← buildFrom compile (definitionId fields :: taken) rest
    return rule :: rules

/-- Builds a catalog: one rule for each definition, in order. -/
def build (compile : Compiler) (definitions : List Fields) : Except CatalogError (List Rule) :=
  buildFrom compile [] definitions

end Catalog

end CodeScan
