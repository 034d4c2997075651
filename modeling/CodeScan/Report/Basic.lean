import CodeScan.Catalog.BuiltIn
import CodeScan.Scan.Detect
import CodeScan.Scan.Metrics

/-!
# Scan reports

A report puts together what one scan of one file found: the findings, their number, the line counts,
and an identifier and a time that come from outside.
-/

namespace CodeScan

/-- The line counts that a report carries. -/
structure CodeMetrics where
  cleanLines : Int
  vulnerableLines : Int
  healthPercentage : Int
  deriving DecidableEq

namespace CodeMetrics

/-- Reads the line counts of a report. -/
def read : Reader CodeMetrics := Reader.record "CodeMetrics" fun members =>
  CodeMetrics.mk <$> Metrics.cleanLinesField.required Reader.integer members
    <*> Metrics.vulnerableLinesField.required Reader.integer members
    <*> Metrics.healthField.required Reader.integer members

/-- The line counts as an object. -/
def toJson (m : CodeMetrics) : Json :=
  .object
    [(Metrics.cleanLinesField.wire, .int m.cleanLines),
     (Metrics.vulnerableLinesField.wire, .int m.vulnerableLines),
     (Metrics.healthField.wire, .int m.healthPercentage)]

/-- The part of the metrics that a report carries. -/
def ofMetrics (m : Metrics) : CodeMetrics :=
  ⟨m.cleanLines, m.vulnerableLines, m.healthPercentage⟩

end CodeMetrics

/-- The number of findings. -/
structure ScanSummary where
  total : Int := 0
  deriving DecidableEq

namespace ScanSummary

/-- Reads a summary. -/
def read : Reader ScanSummary := Reader.record "ScanSummary" fun members =>
  ScanSummary.mk <$> (FieldName.same "total").withDefault 0 Reader.integer members

/-- A summary as an object. -/
def toJson (s : ScanSummary) : Json := .object [("total", .int s.total)]

/-- A summary in one line. -/
def text (s : ScanSummary) : Text :=
  let detail : Text :=
    if 0 < s.total then "Found various security issues in the code"
    else "No security issues detected in the code"
  Text.ofInt s.total ++ " vulnerabilities: " ++ detail

end ScanSummary

/-- The report of one scan. -/
structure ScanReport where
  id : Text
  timestamp : Timestamp
  fileName : Text
  findings : List Finding
  summary : ScanSummary
  totalLines : Int
  codeMetrics : CodeMetrics

namespace ScanReport

/-- The field of the line counts. -/
def codeMetricsField : FieldName := ⟨"codeMetrics", "code_metrics"⟩

/-- Reads the fields of a report. -/
def readMembers (members : Json.Members) : Checked ScanReport :=
  ScanReport.mk <$> (FieldName.same "id").required Reader.text members
    <*> (FieldName.same "timestamp").required Reader.timestamp members
    <*> Finding.fileNameField.required Reader.text members
    <*> (FieldName.same "vulnerabilities").withDefault []
      (Reader.list .notList Finding.read) members
    <*> (FieldName.same "summary").withDefault {} ScanSummary.read members
    <*> Metrics.totalLinesField.required Reader.integer members
    <*> codeMetricsField.required CodeMetrics.read members

/-- Reads a report. -/
def read : Reader ScanReport := Reader.record "ScanResult" readMembers

/-- The members of a report as an object. -/
def members (r : ScanReport) : Json.Members :=
  [("id", .string r.id), ("timestamp", .string r.timestamp.recordText),
   (Finding.fileNameField.wire, .string r.fileName),
   ("vulnerabilities", .array (r.findings.map Finding.toJson)), ("summary", r.summary.toJson),
   (Metrics.totalLinesField.wire, .int r.totalLines),
   (codeMetricsField.wire, r.codeMetrics.toJson)]

/-- A report as an object. -/
def toJson (r : ScanReport) : Json := .object r.members

/-- The report on findings that were made in code. -/
def ofFindings (code : List Char) (fileName : Text) (findings : List Finding) (id : Text)
    (now : Timestamp) : ScanReport :=
  let metrics := Metrics.ofLineNumbers code (findings.map Finding.lineNumber)
  { id := id
    timestamp := now
    fileName := fileName
    findings := findings
    summary := ⟨findings.length⟩
    totalLines := metrics.totalLines
    codeMetrics := .ofMetrics metrics }

/-- Scans code with the built-in catalog and reports on it. -/
def ofScan (code : List Char) (fileName id : Text) (now : Timestamp) :
    ScanReport × List LogRecord :=
  let scan := Scan.detect Catalog.builtIn code fileName
  (ofFindings code fileName scan.findings id now, scan.logs)

/-- Findings by category, in order of first sight. -/
def breakdown (findings : List Finding) : Tally Text :=
  .ofList (findings.map fun f => f.category.label)

end ScanReport

/-- A tally of names as an object. -/
def Tally.toJson (tally : Tally Text) : Json :=
  .object (tally.entries.map fun (name, n) => (name, .int n))

end CodeScan
