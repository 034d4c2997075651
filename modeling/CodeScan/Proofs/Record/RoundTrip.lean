import CodeScan.Proofs.Report.Consistency
import CodeScan.Proofs.Timestamp.Written
import CodeScan.Report.Export
import CodeScan.Service.ScanRequest

/-!
# Records that are written read back

Readers are generous: a number may be a truth value or a string, a timestamp a count, a field may go
by either of its names, and members that no field asks for are passed over.  Writers have one form
for each value.  `RoundTrips` says that a reader takes what the writer makes of any value it has
read, and reads the same value; so writing and reading again changes nothing any more.

The bounds that a reader checks are all that a record has to keep.  For each record they come first
(`lineNumber_of_readMembers` and the like), and then the written record is read under these bounds.
-/

namespace CodeScan

/-! ## Values that were read -/

namespace FieldName

variable {α : Type} {field : FieldName} {read : Reader α} {members : Json.Members} {a : α}

/-- The value of a required field was read from some value. -/
theorem exists_read_of_required (h : field.required read members = .ok a) :
    ∃ input, read input = .ok a := by
  rw [required] at h
  split at h
  · exact ⟨_, Checked.within_eq_ok_iff.1 h⟩
  · cases h

/-- The value of another field was read from some value, or it is the one to fall back on. -/
theorem exists_read_of_withDefault {fallback : α}
    (h : field.withDefault fallback read members = .ok a) :
    a = fallback ∨ ∃ input, read input = .ok a := by
  rw [withDefault] at h
  split at h
  · exact .inr ⟨_, Checked.within_eq_ok_iff.1 h⟩
  · cases h
    exact .inl rfl

end FieldName

namespace Reader

/-- Written again, what a reader has read reads as the same value. -/
def RoundTrips {α : Type} (read : Reader α) (write : α → Json) : Prop :=
  ∀ ⦃input : Json⦄ ⦃value : α⦄, read input = .ok value → read (write value) = .ok value

/-- An integer that was read is at least its bound, whatever it was read from. -/
theorem le_of_integerFrom {bound n : Int} {input : Json} (h : integerFrom bound input = .ok n) :
    bound ≤ n :=
  of_decide_eq_true (Checked.ensure_eq_ok_iff.1 h).2

/-- An integer that was read is above its bound, whatever it was read from. -/
theorem lt_of_integerAbove {bound n : Int} {input : Json} (h : integerAbove bound input = .ok n) :
    bound < n :=
  of_decide_eq_true (Checked.ensure_eq_ok_iff.1 h).2

/-- An integer that was read is within its bounds, whatever it was read from. -/
theorem bounds_of_integerWithin {least most n : Int} {input : Json}
    (h : integerWithin least most input = .ok n) : least ≤ n ∧ n ≤ most := by
  obtain ⟨hmost, hleast⟩ := Checked.ensure_eq_ok_iff.1 h
  exact ⟨of_decide_eq_true hleast, of_decide_eq_true (Checked.ensure_eq_ok_iff.1 hmost).2⟩

/-- An integer above the bound is read as itself. -/
theorem integerAbove_int {bound n : Int} (h : bound < n) : integerAbove bound (.int n) = .ok n := by
  simp [integerAbove, Checked.ensure, h]

/-- The elements of a list were read one by one. -/
theorem exists_read_of_mem_list {α : Type} {kind : IssueKind} {read : Reader α} {input : Json}
    {values : List α} (h : list kind read input = .ok values) :
    ∀ a ∈ values, ∃ item, read item = .ok a := by
  have helements : ∀ (n : Nat) (items : List Json) (values : List α),
      elements read n items = .ok values → ∀ a ∈ values, ∃ item, read item = .ok a := by
    intro n items
    induction items generalizing n with
    | nil =>
      rintro values h a ha
      cases h
      cases ha
    | cons item items ih =>
      intro values h a ha
      simp only [elements, Checked.seq_eq_ok_iff, Checked.map_eq_ok_iff,
        Checked.within_eq_ok_iff] at h
      obtain ⟨-, rest, ⟨first, hfirst, rfl⟩, hrest, rfl⟩ := h
      rcases List.mem_cons.1 ha with rfl | ha
      · exact ⟨item, hfirst⟩
      · exact ih _ _ hrest a ha
  cases input with
  | array items => exact helements 0 items values h
  | _ => cases h

/-- A written list is read element by element. -/
theorem list_array {α : Type} {kind : IssueKind} {read : Reader α} {write : α → Json}
    {values : List α} (h : ∀ a ∈ values, read (write a) = .ok a) :
    list kind read (.array (values.map write)) = .ok values := by
  have helements : ∀ n, elements read n (values.map write) = .ok values := by
    induction values with
    | nil => exact fun n => rfl
    | cons a values ih =>
      rw [List.forall_mem_cons] at h
      intro n
      rw [List.map_cons, elements, h.1, ih h.2]
      rfl
  exact helements 0

end Reader

/-! ## The records -/

namespace Finding

/-- Line numbers that are read start at one. -/
theorem lineNumber_of_readMembers {members : Json.Members} {f : Finding}
    (h : readMembers members = .ok f) : 1 ≤ f.lineNumber := by
  simp only [readMembers, Checked.seq_eq_ok_iff, Checked.map_eq_ok_iff] at h
  obtain ⟨_, _, ⟨_, _, ⟨_, _, ⟨_, _, ⟨_, _, ⟨_, _, ⟨_, _, ⟨_, n, ⟨_, _, ⟨_, _, rfl⟩, _, rfl⟩, hn,
    rfl⟩, _, rfl⟩, _, rfl⟩, _, rfl⟩, _, rfl⟩, _, rfl⟩, _, rfl⟩, _, rfl⟩ := h
  obtain ⟨input, hread⟩ := FieldName.exists_read_of_required hn
  exact Reader.le_of_integerFrom hread

/-- A finding with such a line number is read back. -/
theorem read_toJson {f : Finding} (h : 1 ≤ f.lineNumber) : read f.toJson = .ok f := by
  simp [read, toJson, Reader.record, readMembers, FieldName.required, FieldName.find?,
    FieldName.same, fileNameField, lineNumberField, unsafeCodeField, safeCodeField,
    Category.read_label, Reader.integerFrom_int h]

/-- A finding that was read has such a line number. -/
theorem lineNumber_of_read {input : Json} {f : Finding} (h : read input = .ok f) :
    1 ≤ f.lineNumber := by
  cases input with
  | object members => exact lineNumber_of_readMembers h
  | _ => cases h

/-- So whatever is read as a finding is read back. -/
theorem roundTrips : Reader.RoundTrips read toJson :=
  fun _ _ h => read_toJson (lineNumber_of_read h)

end Finding

/-- Metrics that are read are read back, within the bounds of their counts. -/
theorem Metrics.roundTrips : Reader.RoundTrips read toJson := by
  rintro input m h
  cases input with
  | object members =>
    simp only [read, Reader.record, Checked.seq_eq_ok_iff, Checked.map_eq_ok_iff] at h
    obtain ⟨_, _, ⟨_, _, ⟨_, _, ⟨_, htotal, rfl⟩, hvulnerable, rfl⟩, hclean, rfl⟩, hhealth,
      rfl⟩ := h
    obtain ⟨_, htotal⟩ := FieldName.exists_read_of_required htotal
    obtain ⟨_, hvulnerable⟩ := FieldName.exists_read_of_required hvulnerable
    obtain ⟨_, hclean⟩ := FieldName.exists_read_of_required hclean
    obtain ⟨_, hhealth⟩ := FieldName.exists_read_of_required hhealth
    have hbounds := Reader.bounds_of_integerWithin hhealth
    simp [read, toJson, Reader.record, FieldName.required, FieldName.find?, totalLinesField,
      vulnerableLinesField, cleanLinesField, healthField,
      Reader.integerFrom_int (Reader.le_of_integerFrom htotal),
      Reader.integerFrom_int (Reader.le_of_integerFrom hvulnerable),
      Reader.integerFrom_int (Reader.le_of_integerFrom hclean),
      Reader.integerWithin_int hbounds.1 hbounds.2]
  | _ => cases h

@[simp] theorem CodeMetrics.read_toJson (m : CodeMetrics) : read m.toJson = .ok m := by
  simp [read, toJson, Reader.record, FieldName.required, FieldName.find?, Metrics.cleanLinesField,
    Metrics.vulnerableLinesField, Metrics.healthField]

@[simp] theorem ScanSummary.read_toJson (s : ScanSummary) : read s.toJson = .ok s := by
  simp [read, toJson, Reader.record, FieldName.withDefault, FieldName.find?, FieldName.same]

/-- A request for a scan is read back; a name that is absent is written as null. -/
theorem ScanRequest.read_toJson (r : ScanRequest) : read r.toJson = .ok r := by
  obtain ⟨code, fileName⟩ := r
  cases fileName <;>
    simp [read, toJson, Reader.record, readMembers, FieldName.required, FieldName.withDefault,
      FieldName.find?, FieldName.same, Finding.fileNameField, Reader.optional, Reader.text,
      Checked.map]

theorem RuleInfo.read_toJson (r : RuleInfo) : read r.toJson = .ok r := by
  simp [read, toJson, Reader.record, FieldName.required, FieldName.find?, FieldName.same,
    Finding.safeCodeField, Category.read_label]

/-- Reading the name of a log level gives the level back. -/
theorem Settings.readLogLevel_name (level : LogLevel) :
    readLogLevel (.string level.name) = .ok level := by
  have hfind : LogLevel.ofName? level.name = some level := by
    cases level <;> simp [LogLevel.ofName?, LogLevel.all, LogLevel.name, Text.ofString_inj]
  simp only [readLogLevel, hfind]

/-- Settings that are read are read back. -/
theorem Settings.roundTrips : Reader.RoundTrips read toJson := by
  rintro input s h
  cases input with
  | object members =>
    simp only [read, Reader.record, readMembers, Checked.seq_eq_ok_iff, Checked.map_eq_ok_iff] at h
    obtain ⟨_, _, ⟨_, _, ⟨_, size, ⟨_, _, rfl⟩, hsize, rfl⟩, _, rfl⟩, _, rfl⟩ := h
    have hpositive : 0 < size := by
      rcases FieldName.exists_read_of_withDefault hsize with rfl | ⟨_, hread⟩
      · decide
      · exact Reader.lt_of_integerAbove hread
    have horigins (origins : List Text) :
        Reader.list .notTuple Reader.text (.array (origins.map .string)) = .ok origins :=
      Reader.list_array fun _ _ => rfl
    simp [read, toJson, Reader.record, readMembers, FieldName.withDefault, FieldName.find?,
      FieldName.same, Reader.integerAbove_int hpositive, horigins, readLogLevel_name]
  | _ => cases h

namespace ScanReport

/-- What a report needs to be read again: a time of the calendar, and findings that count their
lines from one. -/
def IsReadable (r : ScanReport) : Prop :=
  r.timestamp.IsProper ∧ ∀ f ∈ r.findings, 1 ≤ f.lineNumber

variable {r : ScanReport}

/-- A written report is read whatever other members follow. -/
theorem readMembers_append (h : r.IsReadable) (more : Json.Members) :
    readMembers (r.members ++ more) = .ok r := by
  have hfindings : Reader.list .notList Finding.read (.array (r.findings.map Finding.toJson)) =
      .ok r.findings := Reader.list_array fun f hf => Finding.read_toJson (h.2 f hf)
  simp [readMembers, members, FieldName.required, FieldName.withDefault, FieldName.find?,
    FieldName.same, Finding.fileNameField, Metrics.totalLinesField, codeMetricsField,
    Reader.timestamp_recordText h.1, hfindings]

/-- A report that was read is readable: its findings have line numbers, and its time is one of the
calendar. -/
theorem isReadable_of_readMembers {members : Json.Members} (h : readMembers members = .ok r) :
    r.IsReadable := by
  simp only [readMembers, Checked.seq_eq_ok_iff, Checked.map_eq_ok_iff] at h
  obtain ⟨_, _, ⟨_, _, ⟨_, _, ⟨_, findings, ⟨_, _, ⟨_, _, ⟨_, _, rfl⟩, htime, rfl⟩, _, rfl⟩,
    hfindings, rfl⟩, _, rfl⟩, _, rfl⟩, _, rfl⟩ := h
  constructor
  · obtain ⟨_, hread⟩ := FieldName.exists_read_of_required htime
    exact Reader.isProper_of_timestamp hread
  · intro f hf
    rcases FieldName.exists_read_of_withDefault hfindings with rfl | ⟨_, hread⟩
    · cases hf
    · obtain ⟨_, hitem⟩ := Reader.exists_read_of_mem_list hread f hf
      exact Finding.lineNumber_of_read hitem

/-- The same for the report as a whole. -/
theorem isReadable_of_read {input : Json} (h : read input = .ok r) : r.IsReadable := by
  cases input with
  | object members => exact isReadable_of_readMembers h
  | _ => cases h

/-- Findings are made only with line numbers that can be read back. -/
theorem lineNumber_of_mapM_make {fileName : Json} {found findings : List Finding}
    (h : found.mapM (Finding.make fileName) = .ok findings) :
    ∀ f ∈ findings, 1 ≤ f.lineNumber := by
  induction found generalizing findings with
  | nil =>
    cases h
    exact List.forall_mem_nil _
  | cons f found ih =>
    rw [List.mapM_cons] at h
    cases hmake : Finding.make fileName f with
    | error issues =>
      rw [hmake] at h
      cases h
    | ok made =>
      cases hrest : found.mapM (Finding.make fileName) with
      | error issues =>
        rw [hmake, hrest] at h
        cases h
      | ok rest =>
        rw [hmake, hrest] at h
        cases h
        rw [Finding.make, Checked.toExcept_eq_ok_iff] at hmake
        exact List.forall_mem_cons.2 ⟨Finding.lineNumber_of_readMembers hmake, ih hrest⟩

/-- A report that is built at a time of the calendar can be read again. -/
theorem isReadable_of_build {session : Session} (hnow : session.now.IsProper) {serial : Nat}
    {code : List Char} {fileName : Json}
    (h : (build session serial code fileName).outcome = .ok r) : r.IsReadable := by
  rw [build] at h
  split at h
  · cases h
  · rename_i findings hfindings
    split at h
    · cases h
    · simp only [assemble, ScanSummary.make_eq_ok, CodeMetrics.make_eq_ok, bind, Except.bind, make,
        Checked.toExcept_eq_ok_iff, Checked.map_eq_ok_iff] at h
      obtain ⟨name, -, rfl⟩ := h
      exact ⟨hnow, lineNumber_of_mapM_make hfindings⟩

theorem roundTrips : Reader.RoundTrips read toJson := by
  intro input r h
  have hread := readMembers_append (isReadable_of_read h) []
  rwa [List.append_nil] at hread

/-- An exported report is read as the report. -/
theorem read_exportPayload (h : r.IsReadable) (exportedAt : Timestamp) :
    read (r.exportPayload exportedAt) = .ok r := readMembers_append h _

end ScanReport

/-- Each record that was read in any of the accepted forms is written so that it reads back.  An
exported report reads back as the report, whether that was read or built, and whenever it is
exported. -/
theorem records_roundTrip :
    Reader.RoundTrips Finding.read Finding.toJson ∧
      Reader.RoundTrips Metrics.read Metrics.toJson ∧
      Reader.RoundTrips CodeMetrics.read CodeMetrics.toJson ∧
      Reader.RoundTrips ScanSummary.read ScanSummary.toJson ∧
      Reader.RoundTrips ScanReport.read ScanReport.toJson ∧
      Reader.RoundTrips ScanRequest.read ScanRequest.toJson ∧
      Reader.RoundTrips RuleInfo.read RuleInfo.toJson ∧
      Reader.RoundTrips Settings.read Settings.toJson ∧
      ∀ (r : ScanReport) (exportedAt : Timestamp),
        ((∃ input, ScanReport.read input = .ok r) ∨
          ∃ session serial code fileName, session.now.IsProper ∧
            (ScanReport.build session serial code fileName).outcome = .ok r) →
        ScanReport.read (r.exportPayload exportedAt) = .ok r := by
  refine ⟨Finding.roundTrips, Metrics.roundTrips, fun _ m _ => m.read_toJson,
    fun _ s _ => s.read_toJson, ScanReport.roundTrips, fun _ r _ => r.read_toJson,
    fun _ r _ => r.read_toJson, Settings.roundTrips, ?_⟩
  rintro r exportedAt (⟨input, hread⟩ | ⟨session, serial, code, fileName, hnow, hbuild⟩)
  · exact ScanReport.read_exportPayload (ScanReport.isReadable_of_read hread) exportedAt
  · exact ScanReport.read_exportPayload (ScanReport.isReadable_of_build hnow hbuild) exportedAt

/-- A report in a generous form, with a count for the time, a string and a truth value for numbers
and plain names, is exported and read back. -/
theorem records_roundTrip_generous :
    let lenient : Json := .object
      [("id", .string "r"), ("timestamp", .int 86401), ("file_name", .string "a.js"),
       ("total_lines", .string "+007"), ("other", .null),
       ("code_metrics", .object [("clean_lines", .bool true), ("vulnerableLines", .int 6),
         ("code_health_percentage", .int 14)])]
    let report : ScanReport :=
      ⟨"r", ⟨1970, 1, 2, 0, 0, 1, 0, some 0⟩, "a.js", [], {}, 7, ⟨1, 6, 14⟩⟩
    ScanReport.read lenient = .ok report ∧
      ScanReport.read (report.exportPayload ⟨2024, 2, 29, 12, 30, 0, 5, none⟩) = .ok report := by
  intro lenient report
  have hread : ScanReport.read lenient = .ok report := by rfl
  exact ⟨hread, records_roundTrip.2.2.2.2.2.2.2.2 report _ (.inl ⟨lenient, hread⟩)⟩

end CodeScan
