import CodeScan.CommandLine
import CodeScan.Proofs.Catalog.BuiltIn
import CodeScan.Proofs.Scan.Metrics
import CodeScan.Service.Handler

/-!
# Reports are consistent

A report is built record by record, and each record can be refused.  `build_string` says that none
ever is, whatever the code and the name are: building gives the report on the findings of the scan.
So a branch that handles a failed scan is never taken.

The numbers of a report come from two places.  The findings are counted by the scan, the lines by
the metrics, which see only the line numbers of the findings.  `IsConsistent` lists what the two
must agree on.  The bounds between them rest on `length_kept_search`: there are as many findings as
there are lines paired with a rule that matches them.
-/

namespace CodeScan

/-! ## Records that are never refused -/

/-- A finding on a line that counts from one is never refused. -/
theorem Finding.make_eq_ok {f : Finding} (h : 1 ≤ f.lineNumber) :
    make (.string f.fileName) f = .ok f := by
  simp [make, arguments, readMembers, FieldName.required, FieldName.find?, FieldName.same,
    fileNameField, lineNumberField, unsafeCodeField, safeCodeField,
    Category.read_label, Reader.integerFrom_int h]

/-- Metrics in their ranges are never refused. -/
theorem Metrics.make_eq_ok {m : Metrics} (htotal : 0 ≤ m.totalLines)
    (hvulnerable : 0 ≤ m.vulnerableLines) (hclean : 0 ≤ m.cleanLines)
    (hhealth : 0 ≤ m.healthPercentage ∧ m.healthPercentage ≤ 100) : m.make = .ok m := by
  simp [make, read, Reader.record, FieldName.required, FieldName.find?, totalLinesField,
    vulnerableLinesField, cleanLinesField, healthField, Reader.integerFrom_int htotal,
    Reader.integerFrom_int hvulnerable, Reader.integerFrom_int hclean,
    Reader.integerWithin_int hhealth.1 hhealth.2]

/-- Metrics of code are within all bounds there are. -/
@[simp] theorem CodeMetrics.make_eq_ok (m : CodeMetrics) : m.make = .ok m := by
  simp [make, read, Reader.record, FieldName.required, FieldName.find?, Metrics.cleanLinesField,
    Metrics.vulnerableLinesField, Metrics.healthField]

@[simp] theorem ScanSummary.make_eq_ok (s : ScanSummary) : s.make = .ok s := by
  simp [make, read, toJson, Reader.record, FieldName.withDefault, FieldName.find?, FieldName.same]

/-! ## Findings and metrics of a scan -/

namespace Scan

open Sighting

/-- The findings of a scan carry its file name and point at lines of the code. -/
theorem fields_of_mem_findings {rules : List Rule} {code : List Char} {fileName : Text}
    {f : Finding} (h : f ∈ (detect rules code fileName).findings) :
    f.fileName = fileName ∧ 1 ≤ f.lineNumber ∧
      f.lineNumber ≤ ((Text.splitLines code).length : Int) := by
  rw [detect, detectWith_findings] at h
  obtain ⟨s, hs, k, rfl⟩ := exists_of_mem_report h
  obtain ⟨hline, -, -⟩ := mem_kept_search hs
  have hlow := List.le_snd_of_mem_zipIdx hline
  have hhigh := List.snd_lt_of_mem_zipIdx hline
  refine ⟨rfl, ?_, ?_⟩ <;> simp only [finding] <;> omega

/-- A search keeps, line by line, as many sightings as there are rules that match the line. -/
theorem length_kept_search (rules : List Rule) (code : List Char) :
    (kept search rules code).length =
      ((Text.splitLines code).flatMap fun line =>
        rules.filter fun rule => rule.matchesLine line).length := by
  rw [kept_search, candidates, List.filter_flatMap, List.length_flatMap, List.length_flatMap]
  conv_rhs => rw [← List.zipIdx_map_fst 1 (Text.splitLines code), List.map_map]
  refine congrArg List.sum (List.map_congr_left fun p _ => ?_)
  simp [List.filter_map, Function.comp_def]

/-- Each line that some rule matches has a finding, and at most one for each rule. -/
theorem length_findings_bounds (rules : List Rule) (code : List Char) (fileName : Text) :
    let vulnerable := (Text.splitLines code).countP fun line =>
      rules.any fun rule => rule.matchesLine line
    vulnerable ≤ (detect rules code fileName).findings.length ∧
      (detect rules code fileName).findings.length ≤ rules.length * vulnerable := by
  intro vulnerable
  rw [detect, detectWith_findings, length_report, length_kept_search]
  simp only [vulnerable]
  induction Text.splitLines code with
  | nil => simp
  | cons line lines ih =>
    have hle := List.length_filter_le (fun rule : Rule => rule.matchesLine line) rules
    rw [List.flatMap_cons, List.length_append, List.countP_cons]
    -- A flagged line has a finding at least and one for each rule at most; the others have none.
    by_cases hmatch : (rules.any fun rule => rule.matchesLine line) = true
    · obtain ⟨rule, hrule, hline⟩ := List.any_eq_true.1 hmatch
      have hpos : 0 < (rules.filter fun rule => rule.matchesLine line).length :=
        List.length_pos_of_mem (List.mem_filter.2 ⟨hrule, hline⟩)
      rw [if_pos hmatch, Nat.mul_add]
      omega
    · have hnone : (rules.filter fun rule => rule.matchesLine line) = [] := by
        rw [List.filter_eq_nil_iff]
        simpa using hmatch
      rw [if_neg hmatch, hnone]
      simpa using ih

/-- The metrics of a scan are in their ranges. -/
theorem ownMetrics_make (rules : List Rule) (code : List Char) (fileName : Text) :
    (ownMetrics rules code fileName).make = .ok (ownMetrics rules code fileName) := by
  rw [ownMetrics_eq]
  refine Metrics.make_eq_ok (Int.natCast_nonneg _) (Int.natCast_nonneg _) (Int.natCast_nonneg _) ?_
  exact healthPercentage_mem_range (Int.natCast_nonneg _)
    (Int.ofNat_le.2 List.countP_le_length)

end Scan

namespace ScanReport

/-! ## Building -/

/-- Findings with line numbers and one file name can all be made. -/
theorem mapM_make_eq_ok {fileName : Text} {findings : List Finding}
    (h : ∀ f ∈ findings, f.fileName = fileName ∧ 1 ≤ f.lineNumber) :
    findings.mapM (Finding.make (.string fileName)) = .ok findings := by
  induction findings with
  | nil => rfl
  | cons f findings ih =>
    rw [List.forall_mem_cons] at h
    obtain ⟨⟨rfl, hline⟩, hrest⟩ := h
    rw [List.mapM_cons, Finding.make_eq_ok hline, ih hrest]
    rfl

/-- Building a report under a name that is a string gives the report on the scan. -/
theorem build_string (session : Session) (serial : Nat) (code : List Char) (fileName : Text) :
    let scanned := ofScan code fileName (session.identifier serial) session.now
    build session serial code (.string fileName) = ⟨.ok scanned.1, scanned.2, serial + 1⟩ := by
  intro scanned
  have hfields : ∀ f ∈ (Scan.detect Catalog.builtIn code fileName).findings,
      f.fileName = fileName ∧ 1 ≤ f.lineNumber := fun f hf =>
    ⟨(Scan.fields_of_mem_findings hf).1, (Scan.fields_of_mem_findings hf).2.1⟩
  have hmetrics := Scan.ownMetrics_make Catalog.builtIn code fileName
  simp only [build, Json.asName, mapM_make_eq_ok hfields]
  rw [← Scan.ownMetrics, hmetrics]
  simp [assemble, make, FieldName.required, FieldName.find?, Finding.fileNameField, bind,
    Except.bind, scanned, ofScan, ofFindings, Scan.ownMetrics]

/-- What the numbers of a report on code say about each other and about the code. -/
structure IsConsistent (code : List Char) (r : ScanReport) : Prop where
  /-- The total is the number of findings, -/
  total_eq_length : r.summary.total = r.findings.length
  /-- and what the categories add up to. -/
  total_eq_breakdown : r.summary.total = (breakdown r.findings).total
  totalLines_eq : r.totalLines = (Text.splitLines code).length
  /-- The vulnerable lines are those that some rule matches, -/
  vulnerableLines_eq : r.codeMetrics.vulnerableLines =
    (Text.splitLines code).countP fun line =>
      Catalog.builtIn.any fun rule => rule.matchesLine line
  /-- and the clean lines are those that no rule matches. -/
  cleanLines_eq : r.codeMetrics.cleanLines =
    (Text.splitLines code).countP fun line =>
      Catalog.builtIn.all fun rule => !rule.matchesLine line
  lineNumber_mem : ∀ f ∈ r.findings, 1 ≤ f.lineNumber ∧ f.lineNumber ≤ r.totalLines
  vulnerableLines_le_total : r.codeMetrics.vulnerableLines ≤ r.summary.total
  total_le_mul_vulnerableLines : r.summary.total ≤ 22 * r.codeMetrics.vulnerableLines
  health_mem_range : 0 ≤ r.codeMetrics.healthPercentage ∧ r.codeMetrics.healthPercentage ≤ 100
  health_of_findings_nil : r.findings = [] → r.codeMetrics.healthPercentage = 100

/-- The report on a scan, with its line counts read off the lines. -/
theorem ofScan_eq (code : List Char) (fileName id : Text) (now : Timestamp) :
    let lines := Text.splitLines code
    let vulnerable := lines.countP fun line =>
      Catalog.builtIn.any fun rule => rule.matchesLine line
    let clean := lines.countP fun line => Catalog.builtIn.all fun rule => !rule.matchesLine line
    let findings := (Scan.detect Catalog.builtIn code fileName).findings
    (ofScan code fileName id now).1 =
      { id := id
        timestamp := now
        fileName := fileName
        findings := findings
        summary := ⟨findings.length⟩
        totalLines := lines.length
        codeMetrics := ⟨clean, vulnerable, healthPercentage clean lines.length⟩ } := by
  have hmetrics := Scan.ownMetrics_eq Catalog.builtIn code fileName
  simp only [List.not_any_eq_all_not] at hmetrics
  simp only [ofScan, ofFindings]
  rw [← Scan.ownMetrics, hmetrics]
  rfl

/-- A report on code is consistent with the code. -/
theorem isConsistent_ofScan (code : List Char) (fileName id : Text) (now : Timestamp) :
    (ofScan code fileName id now).1.IsConsistent code := by
  have hbounds := Scan.length_findings_bounds Catalog.builtIn code fileName
  rw [Catalog.length_builtIn] at hbounds
  rw [ofScan_eq]
  refine
    { total_eq_length := rfl
      total_eq_breakdown := by simp [breakdown]
      totalLines_eq := rfl
      vulnerableLines_eq := rfl
      cleanLines_eq := rfl
      lineNumber_mem := fun f hf => (Scan.fields_of_mem_findings hf).2
      vulnerableLines_le_total := Int.ofNat_le.2 hbounds.1
      total_le_mul_vulnerableLines := Int.ofNat_le.2 hbounds.2
      health_mem_range := healthPercentage_mem_range (Int.natCast_nonneg _)
        (Int.ofNat_le.2 List.countP_le_length)
      health_of_findings_nil := fun hnil => ?_ }
  -- Without findings no line is vulnerable, so all of them are clean.
  have hvulnerable : ∀ line ∈ Text.splitLines code,
      ¬ (Catalog.builtIn.any fun rule => rule.matchesLine line) = true := by
    have hnone : (Scan.detect Catalog.builtIn code fileName).findings.length = 0 :=
      congrArg List.length hnil
    rw [← List.countP_eq_zero]
    omega
  have hclean : ((Text.splitLines code).countP fun line =>
      Catalog.builtIn.all fun rule => !rule.matchesLine line) = (Text.splitLines code).length := by
    rw [List.countP_eq_length]
    intro line hline
    rw [← List.not_any_eq_all_not, Bool.not_eq_true', ← Bool.not_eq_true]
    exact hvulnerable line hline
  simp only [hclean, healthPercentage_self]

end ScanReport

/-! ## The front ends -/

/-- The command line answers code without lone surrogates by its size alone, under a name that is a
string. -/
theorem CommandLine.scanCode_eq {settings : Settings} {name : Json} {shown : Text}
    (hname : (if name.isGiven then name else .string settings.defaultFileName) = .string shown)
    (session : Session) (serial : Nat) (code : List Char) :
    let limit := settings.maxCodeBytes
    let scan := Batch.scanPayload session serial code shown
    scanCode settings session serial (.string (Text.ofChars code)) name =
      if limit < Utf8.size code then
        ⟨.error (failure ("Code exceeds " ++ Text.ofInt limit ++ " bytes")), [], serial⟩
      else ⟨.ok scan.1, scan.2, serial + 1⟩ := by
  intro limit scan
  simp only [scanCode, Text.chars?_ofChars, hname]
  split
  · rfl
  · rw [ScanReport.build_string]
    rfl

namespace Service

/-- A service in order answers code without lone surrogates by its size alone: code that is too long
is refused, and for all other code there is a report. -/
theorem scan_outcome {service : Service} (houtage : service.outage = none) {request : ScanRequest}
    {code : List Char} (hcode : request.code.chars? = some code) :
    let size := Utf8.size code
    let limit := service.settings.maxCodeBytes
    let session := service.session
    (service.scan request).outcome =
      if limit < size then
        .error (.detail 413 ("Code is " ++ Text.ofNat size ++ " bytes; the limit is " ++
          Text.ofInt limit))
      else
        .ok (ScanReport.ofScan code (service.reportedName request)
          (session.identifier service.serial) session.now).1 := by
  intro size limit session
  simp only [scan, hcode, houtage]
  split
  · rfl
  · rw [ScanReport.build_string]

/-- The response for a failed scan is never given. -/
theorem scan_outcome_ne_scanFailed {service : Service} (houtage : service.outage = none)
    (request : ScanRequest) (reason : Text) :
    (service.scan request).outcome ≠ .error (scanFailed reason) := by
  cases hcode : request.code.chars? with
  | none =>
    simp [scan, hcode, scanFailed, Response.internalError, Response.detail, Response.json,
      Response.text]
  | some code =>
    rw [scan_outcome houtage hcode]
    split <;> simp [scanFailed, Response.detail, Response.json]

end Service

/-- Building a report on any code under any name succeeds, the report is consistent, and so the
service never has a failed scan to report. -/
theorem ScanReport.build_isConsistent (session : Session) (serial : Nat) (code : List Char)
    (fileName : Text) :
    (∃ report : ScanReport,
      (build session serial code (.string fileName)).outcome = .ok report ∧
        report.fileName = fileName ∧
        report.findings = (Scan.detect Catalog.builtIn code fileName).findings ∧
        report.IsConsistent code) ∧
      ∀ service : Service, service.outage = none →
        ∀ request reason, (service.scan request).outcome ≠ .error (Service.scanFailed reason) := by
  refine ⟨⟨(ofScan code fileName (session.identifier serial) session.now).1, ?_, ?_, ?_, ?_⟩, ?_⟩
  · rw [build_string]
  · rw [ofScan_eq]
  · rw [ofScan_eq]
  · exact isConsistent_ofScan code fileName _ _
  · exact fun service houtage => Service.scan_outcome_ne_scanFailed houtage

end CodeScan
