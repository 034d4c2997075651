import CodeScan.Catalog.Rule

/-!
# Findings

A finding is one match of a rule on one line.  It carries what the rule says about the issue, so
that it can be shown without the catalog.
-/

namespace CodeScan

/-- One match of a rule on one line. -/
structure Finding where
  /-- Rule, line and occurrence in one name. -/
  id : Text
  fileName : Text
  /-- Counted from one. -/
  lineNumber : Int
  kind : Text
  category : Category
  description : Text
  mitigation : Text
  explanation : Text
  /-- The line without the blanks around it. -/
  unsafeCode : Text
  safeCode : Text

namespace Finding

/-- The field of the file name. -/
def fileNameField : FieldName := ⟨"fileName", "file_name"⟩

/-- The field of the line number. -/
def lineNumberField : FieldName := ⟨"lineNumber", "line_number"⟩

/-- The field of the offending line. -/
def unsafeCodeField : FieldName := ⟨"unsafeCode", "unsafe_code"⟩

/-- The field of the safe alternative. -/
def safeCodeField : FieldName := ⟨"safeCode", "safe_code"⟩

/-- Reads the fields of a finding. -/
def readMembers (members : Json.Members) : Checked Finding :=
  let text (field : FieldName) : Checked Text := field.required Reader.text members
  Finding.mk <$> text (.same "id") <*> text fileNameField
    <*> lineNumberField.required (Reader.integerFrom 1) members
    <*> text (.same "type") <*> (FieldName.same "category").required Category.read members
    <*> text (.same "description") <*> text (.same "mitigation") <*> text (.same "explanation")
    <*> text unsafeCodeField <*> text safeCodeField

/-- Reads a finding. -/
def read : Reader Finding := Reader.record "Finding" readMembers

/-- A finding as an object. -/
def toJson (f : Finding) : Json :=
  .object
    [("id", .string f.id), (fileNameField.wire, .string f.fileName),
     (lineNumberField.wire, .int f.lineNumber), ("type", .string f.kind),
     ("category", .string f.category.label), ("description", .string f.description),
     ("mitigation", .string f.mitigation), ("explanation", .string f.explanation),
     (unsafeCodeField.wire, .string f.unsafeCode), (safeCodeField.wire, .string f.safeCode)]

/-- The name of an occurrence: rule, line and running number, with dashes between. -/
def occurrenceId (ruleId : Text) (lineNumber occurrence : Nat) : Text :=
  ruleId ++ "-" ++ Text.ofNat lineNumber ++ "-" ++ Text.ofNat occurrence

/-- The finding of a rule on a line. -/
def ofMatch (rule : Rule) (fileName : Text) (lineNumber : Nat) (line : List Char)
    (occurrence : Nat) : Finding where
  id := occurrenceId rule.id lineNumber occurrence
  fileName := fileName
  lineNumber := lineNumber
  kind := rule.kind
  category := rule.category
  description := rule.description
  mitigation := rule.mitigation
  explanation := rule.explanation
  unsafeCode := Text.ofChars (Text.strip line)
  safeCode := rule.safeCode

end Finding

end CodeScan
