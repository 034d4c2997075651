import CodeScan.Record.Checked
import CodeScan.Text.Lines

/-!
# Metrics

The health of code is the share of its lines that no finding points at, as a whole percentage.  It
is rounded to the nearest percent, a half going up, by integer arithmetic: half up of `100 c / t` is
the floor of `(200 c + t) / (2 t)`.
-/

namespace CodeScan

/-- The share of clean lines in percent, half a percent rounded up.  Code without lines is
healthy. -/
def healthPercentage (clean total : Int) : Int :=
  if total ≤ 0 then 100 else (clean * 200 + total).fdiv (total * 2)

/-- The line counts of scanned code. -/
structure Metrics where
  totalLines : Int
  vulnerableLines : Int
  cleanLines : Int
  healthPercentage : Int
  deriving DecidableEq

namespace Metrics

/-- The field of the line count. -/
def totalLinesField : FieldName := ⟨"totalLines", "total_lines"⟩

/-- The field of the number of lines with findings. -/
def vulnerableLinesField : FieldName := ⟨"vulnerableLines", "vulnerable_lines"⟩

/-- The field of the number of lines without findings. -/
def cleanLinesField : FieldName := ⟨"cleanLines", "clean_lines"⟩

/-- The field of the health percentage. -/
def healthField : FieldName := ⟨"codeHealthPercentage", "code_health_percentage"⟩

/-- Reads metrics. -/
def read : Reader Metrics := Reader.record "Metrics" fun members =>
  Metrics.mk <$> totalLinesField.required (Reader.integerFrom 0) members
    <*> vulnerableLinesField.required (Reader.integerFrom 0) members
    <*> cleanLinesField.required (Reader.integerFrom 0) members
    <*> healthField.required (Reader.integerWithin 0 100) members

/-- Metrics as an object. -/
def toJson (m : Metrics) : Json :=
  .object
    [(totalLinesField.wire, .int m.totalLines), (vulnerableLinesField.wire, .int m.vulnerableLines),
     (cleanLinesField.wire, .int m.cleanLines), (healthField.wire, .int m.healthPercentage)]

/-- The metrics of code, given the line numbers that findings point at.  Numbers of no line are
ignored, and a line counts once however often it is pointed at. -/
def ofLineNumbers (code : List Char) (lineNumbers : List Int) : Metrics :=
  let total : Int := (Text.splitLines code).length
  let vulnerable : Int :=
    (lineNumbers.filter fun n => 1 ≤ n && n ≤ total).eraseDups.length
  let clean := max 0 (total - vulnerable)
  ⟨total, vulnerable, clean, CodeScan.healthPercentage clean total⟩

end Metrics

end CodeScan
