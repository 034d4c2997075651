import CodeScan.Json.Encoding
import CodeScan.Json.Reader
import CodeScan.Report.Basic
import CodeScan.Service.Message

/-!
# Scan requests

The two scanning routes take a record with code and an optional file name.  The body of a request is
read as JSON if its type says so, and as a plain string otherwise; the record is then read from that
value.  Whatever is wrong is reported field by field, with the value that was found; members whose
name starts with `_sa` are never shown.
-/

namespace CodeScan

/-- Code to scan, with an optional file name. -/
structure ScanRequest where
  code : Text
  fileName : Option Text

namespace ScanRequest

/-- Reads the fields of a request. -/
def readMembers (members : Json.Members) : Checked ScanRequest :=
  ScanRequest.mk <$> (FieldName.same "code").required Reader.text members
    <*> Finding.fileNameField.withDefault none (Reader.optional Reader.text) members

/-- Reads a request. -/
def read : Reader ScanRequest := Reader.record "ScanRequest" readMembers

/-- A request as an object. -/
def toJson (r : ScanRequest) : Json :=
  .object
    [("code", .string r.code),
     (Finding.fileNameField.wire, (r.fileName.map Json.string).getD .null)]

end ScanRequest

/-- What is shown of a rule. -/
structure RuleInfo where
  id : Text
  kind : Text
  category : Category
  description : Text
  explanation : Text
  mitigation : Text
  safeCode : Text
  pattern : Text

namespace RuleInfo

/-- What is shown of a rule of the catalog. -/
def ofRule (rule : Rule) : RuleInfo :=
  ⟨rule.id, rule.kind, rule.category, rule.description, rule.explanation, rule.mitigation,
    rule.safeCode, rule.source⟩

/-- Reads what is shown of a rule. -/
def read : Reader RuleInfo := Reader.record "RuleInfo" fun members =>
  let text (field : FieldName) : Checked Text := field.required Reader.text members
  RuleInfo.mk <$> text (.same "id") <*> text (.same "type")
    <*> (FieldName.same "category").required Category.read members
    <*> text (.same "description") <*> text (.same "explanation") <*> text (.same "mitigation")
    <*> text Finding.safeCodeField <*> text (.same "pattern")

/-- What is shown of a rule as an object. -/
def toJson (r : RuleInfo) : Json :=
  .object
    [("id", .string r.id), ("type", .string r.kind), ("category", .string r.category.label),
     ("description", .string r.description), ("explanation", .string r.explanation),
     ("mitigation", .string r.mitigation), (Finding.safeCodeField.wire, .string r.safeCode),
     ("pattern", .string r.pattern)]

end RuleInfo

namespace Service

/-- Whether a content type means JSON: `application/json`, or another application type that is
written in JSON.  Parameters and case do not matter. -/
def isJsonType (contentType : Text) : Bool :=
  let essence := Text.lowerAscii (Text.trimWhere (CodePoint.satisfies isBlank)
    (contentType.takeWhile (· ≠ .char ';')))
  match Text.splitOn (.char '/') essence with
  | [main, sub] =>
    main == ("application" : Text) &&
      (sub == ("json" : Text) || ("+json" : Text).isSuffixOf sub)
  | _ => false

/-- Whether a report on a bad request may show a member of this name. -/
def isShownName (name : Text) : Bool := !("_sa" : Text).isPrefixOf name

mutual

/-- A value as a report on a bad request shows it, without the members that are kept back. -/
def shownInput : Json → Json
  | .array items => .array (shownItems items)
  | .object members => .object (shownMembers members)
  | .null => .null
  | .bool b => .bool b
  | .int n => .int n
  | .float x => .float x
  | .string t => .string t

/-- The shown elements of an array. -/
def shownItems : List Json → List Json
  | [] => []
  | item :: rest => shownInput item :: shownItems rest

/-- The shown members of an object. -/
def shownMembers : List (Text × Json) → List (Text × Json)
  | [] => []
  | (name, value) :: rest =>
    if isShownName name then (name, shownInput value) :: shownMembers rest else shownMembers rest

end

/-- One entry of the report on a bad request. -/
def issueJson (kind message : Text) (path : List Json) (input : Json)
    (more : Json.Members := []) : Json :=
  let entry : Json.Members :=
    [("type", .string kind), ("loc", .array (.string "body" :: path)), ("msg", .string message),
     ("input", shownInput input)]
  .object (entry ++ more)

/-- A step of a path as a value. -/
def stepJson : PathStep → Json
  | .name t => .string t
  | .index n => .int n

/-- The response to a bad request. -/
def unprocessable (entries : List Json) : Response :=
  .json 422 (.object [("detail", .array entries)])

/-- The response that reports issues. -/
def reportIssues (issues : List Issue) : Response :=
  unprocessable (issues.map fun issue =>
    issueJson issue.kind.code issue.kind.message (issue.path.map stepJson) issue.input)

/-- The response that reports a body that is no JSON. -/
def reportUnreadable (e : Json.ReadError) : Response :=
  unprocessable [issueJson "json_invalid" "JSON decode error" [.int e.position] (.object [])
    [("ctx", .object [("error", .string e.problem.message)])]]

/-- The response to a body that cannot even be looked at as JSON. -/
def unparsable : Response := .detail 400 "There was an error parsing the body"

/-- The value of the body of a request: nothing if it is empty. -/
def bodyValue (request : Request) : Except Response (Option Json) :=
  if request.body.isEmpty then .ok none
  else if (request.header? "content-type").any isJsonType then
    match (Json.documentText? request.body).map Json.readDocument with
    | none | some (.error ⟨.overlongInteger, _⟩) => .error unparsable
    | some (.error e) => .error (reportUnreadable e)
    | some (.ok value) => .ok (some value)
  else .ok (some (.string (Text.ofChars request.body)))

/-- The scan request in the body of a request, or the response that refuses it. -/
def scanRequest (request : Request) : Except Response ScanRequest := do
  match ← bodyValue request with
  | none => .error (reportIssues [⟨.missing, [], .null⟩])
  | some (.object members) =>
    match ScanRequest.readMembers members with
    | .ok scan => .ok scan
    | .bad issues => .error (reportIssues issues)
  | some value => .error (reportIssues [⟨.notObject, [], value⟩])

end Service

end CodeScan
