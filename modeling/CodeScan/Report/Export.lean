import CodeScan.Report.Basic

/-!
# Exported reports

An exported report is the report with a block that tells when and by what it was exported.  It is
offered under a download name made from the file name and the identifier; every character that could
trouble a header or a file system becomes an underscore.
-/

namespace CodeScan

/-- The name of the tool in exports. -/
def toolName : Text := "Guardian Code Scan"

/-- The version of the tool in exports. -/
def toolVersion : Text := "1.0.0"

namespace ScanReport

/-- The block that describes an export. -/
def exportInfo (exportedAt : Timestamp) : Json :=
  .object
    [("exportedAt", .string exportedAt.isoText), ("toolName", .string toolName),
     ("version", .string toolVersion), ("format", .string "JSON")]

/-- The exported report. -/
def exportPayload (r : ScanReport) (exportedAt : Timestamp) : Json :=
  let block : Json.Members := [("exportInfo", exportInfo exportedAt)]
  .object (r.members ++ block)

/-- Keeps ASCII letters and digits and replaces everything else by an underscore. -/
def sanitize (t : Text) : Text :=
  t.map fun c => if c.satisfies Char.isAlphanum then c else .char '_'

/-- The download name of an export. -/
def exportName (fileName id extension : Text) : Text :=
  "guardian-scan-report-" ++ sanitize fileName ++ "-" ++ id ++ "." ++ extension

end ScanReport

end CodeScan
