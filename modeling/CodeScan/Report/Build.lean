import CodeScan.Json.Display
import CodeScan.Report.Basic
import CodeScan.Session

/-!
# Building reports

Every record of a report is checked when it is made: the findings one by one while the code is
scanned, then the metrics, and at last the summary, the line counts and the report itself.  A record
that fails its check ends the building, and the list of its issues stands in place of the report.

The file name is taken as it comes, which may be as a value of any type.  It is refused by the first
record that has to carry it: by a finding, else by the report.  The identifier of a report is drawn
once the metrics are known, so it is used up by a report that is refused as well.
-/

namespace CodeScan

/-- The fields of a finding by their plain names, with the file name that it is to carry. -/
def Finding.arguments (f : Finding) (fileName : Json) : Json.Members :=
  [("id", .string f.id), (fileNameField.plain, fileName),
   (lineNumberField.plain, .int f.lineNumber), ("type", .string f.kind),
   ("category", .string f.category.label), ("description", .string f.description),
   ("mitigation", .string f.mitigation), ("explanation", .string f.explanation),
   (unsafeCodeField.plain, .string f.unsafeCode), (safeCodeField.plain, .string f.safeCode)]

/-- Makes the record of a finding. -/
def Finding.make (fileName : Json) (f : Finding) : Except IssueReport Finding :=
  (readMembers (f.arguments fileName)).toExcept "Finding"

/-- Makes the record of metrics. -/
def Metrics.make (m : Metrics) : Except IssueReport Metrics :=
  let arguments : Json.Members :=
    [(totalLinesField.plain, .int m.totalLines),
     (vulnerableLinesField.plain, .int m.vulnerableLines),
     (cleanLinesField.plain, .int m.cleanLines), (healthField.plain, .int m.healthPercentage)]
  (read (.object arguments)).toExcept "Metrics"

/-- Makes the record of the line counts of a report. -/
def CodeMetrics.make (m : CodeMetrics) : Except IssueReport CodeMetrics :=
  let arguments : Json.Members :=
    [(Metrics.cleanLinesField.plain, .int m.cleanLines),
     (Metrics.vulnerableLinesField.plain, .int m.vulnerableLines),
     (Metrics.healthField.plain, .int m.healthPercentage)]
  (read (.object arguments)).toExcept "CodeMetrics"

/-- Makes the record of a summary. -/
def ScanSummary.make (s : ScanSummary) : Except IssueReport ScanSummary :=
  (read s.toJson).toExcept "ScanSummary"

namespace ScanReport

/-- Makes the record of a report.  Its other parts have been checked before it, so only the file
name is left. -/
def make (fileName : Json) (r : ScanReport) : Except IssueReport ScanReport :=
  let field := Finding.fileNameField
  let checked : Checked ScanReport :=
    (fun name => { r with fileName := name }) <$>
      field.required Reader.text [(field.plain, fileName)]
  checked.toExcept "ScanResult"

/-- Makes the records of a report on findings whose metrics are known. -/
def assemble (fileName : Json) (findings : List Finding) (metrics : Metrics) (id : Text)
    (now : Timestamp) : Except IssueReport ScanReport := do
  let summary ← ScanSummary.make ⟨findings.length⟩
  let codeMetrics ← CodeMetrics.make (.ofMetrics metrics)
  make fileName
    { id := id
      timestamp := now
      fileName := fileName.asName
      findings := findings
      summary := summary
      totalLines := metrics.totalLines
      codeMetrics := codeMetrics }

/-- What came of building a report. -/
structure Built where
  outcome : Except IssueReport ScanReport
  logs : List LogRecord
  /-- How many identifiers of the session are used up now. -/
  serial : Nat

/-- Scans code with the built-in catalog and builds the report on it, after `serial` identifiers
were given out. -/
def build (session : Session) (serial : Nat) (code : List Char) (fileName : Json) : Built :=
  let scan := Scan.detect Catalog.builtIn code fileName.asName
  match scan.findings.mapM (Finding.make fileName) with
  | .error issues => ⟨.error issues, [], serial⟩
  | .ok findings =>
    match (Metrics.ofLineNumbers code (findings.map Finding.lineNumber)).make with
    | .error issues => ⟨.error issues, scan.logs, serial⟩
    | .ok metrics =>
      ⟨assemble fileName findings metrics (session.identifier serial) session.now, scan.logs,
        serial + 1⟩

end ScanReport

end CodeScan
