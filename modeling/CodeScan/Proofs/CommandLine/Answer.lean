import CodeScan.Proofs.Batch.Written
import CodeScan.Proofs.CommandLine.Script
import CodeScan.Proofs.Json.Equality
import CodeScan.Proofs.Settings.Load

/-!
# One line and an exit code

Every answer of the command line is a value that its text writes (`wellFormed_answer`): a report,
the yield of a batch, or a message in an object of its own.  So the one line that is printed can be
read, and the exit code tells nothing that the answer does not tell: it is one exactly if the answer
is an object with the member `error` (`run_prints_answer`).

What is read is the answer itself unless the halves of a surrogate pair stand side by side in it.
They cannot if all text comes from characters.  But an input with lone surrogates of its own can
echo an escaped first half right before such a second half, and the line then shows two escapes that
are read as one character (`run_prints_answer_joined`).
-/

namespace CodeScan

open Json

/-- A report is built only under a name that is a string. -/
theorem ScanReport.exists_string_of_build {session : Session} {serial : Nat} {code : List Char}
    {fileName : Json} {report : ScanReport}
    (h : (build session serial code fileName).outcome = .ok report) :
    ∃ name, fileName = .string name := by
  rw [build] at h
  split at h
  · cases h
  · split at h
    · cases h
    · simp only [assemble, ScanSummary.make_eq_ok, CodeMetrics.make_eq_ok, bind, Except.bind, make,
        Checked.toExcept_eq_ok_iff, Checked.map_eq_ok_iff] at h
      obtain ⟨name, hname, -⟩ := h
      cases fileName with
      | string t => exact ⟨t, rfl⟩
      | _ => cases hname

namespace CommandLine

variable {P : Text → Prop} [Text.IsKept P]

/-- A failure can be written if its message can. -/
theorem wellFormed_failure {message : Text} (h : P message) : (failure message).WellFormed P := by
  have hnames : ["error"].Nodup := by decide
  exact wellFormed_object hnames rfl (List.forall_mem_singleton.2 h)

/-- So it can if the message has a UTF-8 form. -/
theorem wellFormed_failure_of_isEncodable {message : Text} (h : isEncodable message = true) :
    (failure message).WellFormed P :=
  wellFormed_failure (Text.IsKept.of_isEncodable h)

/-- The answer to a request with nothing to scan can be written. -/
theorem wellFormed_usage : usage.WellFormed P := by
  have hplain (s : String) : (Json.string s).WellFormed P := Text.IsKept.ofString s
  have hcode : ["code", "file_name"].Nodup := by decide
  have hentry : ["path", "original_name"].Nodup := by decide
  have hfiles : ["files"].Nodup := by decide
  have hexamples : ["code", "files"].Nodup := by decide
  have husage : ["error", "examples"].Nodup := by decide
  refine wellFormed_object husage rfl (List.forall_mem_cons.2
    ⟨hplain _, List.forall_mem_singleton.2 (wellFormed_object hexamples rfl (List.forall_mem_cons.2
      ⟨?_, List.forall_mem_singleton.2 (wellFormed_object hfiles rfl
        (List.forall_mem_singleton.2 ⟨?_, trivial⟩))⟩))⟩)
  · exact wellFormed_object hcode rfl
      (List.forall_mem_cons.2 ⟨hplain _, List.forall_mem_singleton.2 (hplain _)⟩)
  · exact wellFormed_object hentry rfl
      (List.forall_mem_cons.2 ⟨hplain _, List.forall_mem_singleton.2 (hplain _)⟩)

/-- The answer to a request that got as far as scanning, whatever came of it. -/
def Work.answer (work : Work) : Json :=
  match work.outcome with
  | .ok v => v
  | .error v => v

/-- The exit code is all that is decided after the answer. -/
theorem runWith_answer (settings : Settings) (call : Invocation) (members : Json.Members) :
    (runWith settings call members).answer = (answer settings call members).answer := by
  simp only [runWith, Work.answer]
  cases (answer settings call members).outcome <;> rfl

section Scans

variable {settings : Settings} {session : Session} {serial : Nat}
  (hidentifiers : ∀ n, P (session.identifier n))
  (hlimit : settings.maxCodeBytes.natAbs < 10 ^ maxDigits)

include hidentifiers hlimit

/-- The answer to given code can be written, the report as well as every failure. -/
theorem wellFormed_scanCode (hdefault : P settings.defaultFileName) (code : Json) {name : Json}
    (hname : name.WellFormed P) :
    (scanCode settings session serial code name).answer.WellFormed P := by
  cases code with
  | string t =>
    simp only [scanCode]
    split
    · exact wellFormed_failure_of_isEncodable (isEncodable_unencodableMessage _ _ _)
    · split
      · exact wellFormed_failure_of_isEncodable (by simp)
      · rename_i code _ hsize
        split
        · rename_i issues hbuild
          exact wellFormed_failure_of_isEncodable (ScanReport.isEncodable_text_of_build hbuild)
        · rename_i report hbuild
          obtain ⟨shown, hshown⟩ := ScanReport.exists_string_of_build hbuild
          have hshownWell : (Json.string shown).WellFormed P := by
            rw [← hshown]
            split
            · exact hname
            · exact hdefault
          rw [hshown, ScanReport.build_string] at hbuild
          cases hbuild
          exact Batch.wellFormed_scanPayload hidentifiers hlimit hshownWell (Int.not_lt.1 hsize)
            serial
  | _ => exact wellFormed_failure_of_isEncodable (isEncodable_ofString _)

/-- The answer to given files can be written, the yield as well as every failure. -/
theorem wellFormed_scanFiles {files : FileSource} (hfiles : files.GivesReasons P) {entries : Json}
    (hentries : entries.WellFormed P) :
    (scanFiles files settings session serial entries).answer.WellFormed P := by
  cases entries with
  | array entries =>
    simp only [scanFiles]
    split
    · rename_i yield hrun
      exact Batch.wellFormed_toJson hidentifiers hlimit hfiles hentries hrun
    · rename_i stopped hrun
      exact wellFormed_failure_of_isEncodable (Batch.isEncodable_message_of_runFrom hrun)
  | _ => exact wellFormed_failure_of_isEncodable (isEncodable_ofString _)

end Scans

/-- The texts that a request comes with are of a given kind: those in its input, the default name
that is set, the identifiers, and the reasons that the file system gives. -/
structure Invocation.Brings (P : Text → Prop) (call : Invocation) : Prop where
  wellFormed_input : ∀ v, Json.read call.input = .ok v → v.WellFormed P
  defaultFileName : ∀ name, call.environment.defaultFileName = some name → P name
  identifier : ∀ n, P (call.session.identifier n)
  givesReasons : call.files.GivesReasons P

/-- Every answer can be written, on texts of any kind that is kept and that the request brings. -/
theorem wellFormed_answer {call : Invocation} (h : call.Brings P) :
    (run call).answer.WellFormed P := by
  simp only [run]
  split
  · rename_i e _
    have hproblem : isEncodable e.problem.message = true := by
      cases e.problem <;> exact isEncodable_ofString _
    exact wellFormed_failure_of_isEncodable (by simp [ReadError.message, hproblem])
  · rename_i members hread
    have hmembers := h.wellFormed_input _ hread
    split
    · rename_i e hload
      exact wellFormed_failure_of_isEncodable (by simp [Settings.isEncodable_message_of_load hload])
    · rename_i settings hload
      -- The limit stands in the message for a code that is too long.
      have hlimit : settings.maxCodeBytes.natAbs < 10 ^ maxDigits := by
        have hdigits : Literal.maxDigits = maxDigits := rfl
        rw [← hdigits]
        exact Settings.maxCodeBytes_lt_of_load hload
      have hdefault : P settings.defaultFileName := by
        obtain ⟨size, level, -, -, -, rfl⟩ := Settings.load_eq_ok_iff.1 hload
        rw [Settings.settingsOf]
        cases hname : call.environment.defaultFileName with
        | none => exact Text.IsKept.ofString _
        | some name => exact h.defaultFileName name hname
      have hgiven := wellFormed_get? hmembers
      simp only [runWith_answer, answer]
      split
      · exact wellFormed_usage
      · exact wellFormed_scanCode h.identifier hlimit hdefault _ (hgiven "file_name")
      · exact wellFormed_scanFiles h.identifier hlimit h.givesReasons (hgiven "files")
  · exact wellFormed_failure_of_isEncodable (isEncodable_ofString _)

/-! ## Exit codes -/

/-- An answer to a request that was served: the report on code, or the yield of a batch. -/
def IsResult (v : Json) : Prop :=
  (∃ report, v = Batch.payload report) ∨ ∃ yield : Batch.Yield, v = yield.toJson

/-- An object that has a member of the given name. -/
def hasMember (name : Text) : Json → Bool
  | .object members => (Json.Members.get? members name).isSome
  | _ => false

/-- Results report no failure. -/
theorem IsResult.hasMember_error {v : Json} (h : IsResult v) : hasMember "error" v = false := by
  rcases h with ⟨report, rfl⟩ | ⟨yield, rfl⟩
  · simp [Batch.payload, hasMember, ScanReport.members, Finding.fileNameField,
      Metrics.totalLinesField, ScanReport.codeMetricsField]
  · simp [Batch.Yield.toJson, hasMember]

theorem hasMember_failure (message : Text) : hasMember "error" (failure message) = true := by
  simp [failure, hasMember]

theorem hasMember_usage : hasMember "error" usage = true := by
  simp [usage, hasMember]

/-- What came of a scan is a result or an object with the member `error`. -/
def Work.IsSettled (work : Work) : Prop :=
  match work.outcome with
  | .ok v => IsResult v
  | .error v => hasMember "error" v = true

/-- Scanning code gives a report, or a failure. -/
theorem isSettled_scanCode (settings : Settings) (session : Session) (serial : Nat)
    (code name : Json) : (scanCode settings session serial code name).IsSettled := by
  cases code with
  | string t =>
    simp only [scanCode]
    split
    · exact hasMember_failure _
    · split
      · exact hasMember_failure _
      · split
        · exact hasMember_failure _
        · exact .inl ⟨_, rfl⟩
  | _ => exact hasMember_failure _

/-- Scanning files gives a yield, or a failure. -/
theorem isSettled_scanFiles (files : FileSource) (settings : Settings) (session : Session)
    (serial : Nat) (entries : Json) :
    (scanFiles files settings session serial entries).IsSettled := by
  cases entries with
  | array entries =>
    simp only [scanFiles]
    split
    · exact .inr ⟨_, rfl⟩
    · exact hasMember_failure _
  | _ => exact hasMember_failure _

/-- So does every request whose settings are known. -/
theorem isSettled_answer (settings : Settings) (call : Invocation) (members : Json.Members) :
    (answer settings call members).IsSettled := by
  simp only [answer]
  split
  · exact hasMember_usage
  · exact isSettled_scanCode ..
  · exact isSettled_scanFiles ..

/-- The program ends with exit code zero and a result, or with exit code one and a failure. -/
theorem run_cases (call : Invocation) :
    (run call).exitCode = 0 ∧ IsResult (run call).answer ∨
      (run call).exitCode = 1 ∧ hasMember "error" (run call).answer = true := by
  simp only [run]
  split
  · exact .inr ⟨rfl, hasMember_failure _⟩
  · rename_i members _
    split
    · exact .inr ⟨rfl, hasMember_failure _⟩
    · rename_i settings _
      have hsettled := isSettled_answer settings call members
      rw [Work.IsSettled] at hsettled
      simp only [runWith]
      split <;> rename_i houtcome <;> rw [houtcome] at hsettled
      · exact .inl ⟨rfl, hsettled⟩
      · exact .inr ⟨rfl, hsettled⟩
  · exact .inr ⟨rfl, hasMember_failure _⟩

/-- Text reaches the program from characters only: no lone surrogate stands in the input unless it
is escaped, and none of the texts from elsewhere has the halves of a surrogate pair side by side. -/
structure Invocation.FromCharacters (call : Invocation) : Prop where
  isPlain_input : IsPlain call.input
  defaultFileName : ∀ name, call.environment.defaultFileName = some name → name.IsPaired
  identifier : ∀ n, (call.session.identifier n).IsPaired
  givesReasons : call.files.GivesReasons Text.IsPaired

/-- The surrogates that stand for bytes are second halves, so a name that is given as bytes has no
halves side by side. -/
theorem isPaired_decodeKeeping (bytes : List UInt8) : (Utf8.decodeKeeping bytes).IsPaired := by
  induction bytes using Utf8.keeping_induction with
  | nil => exact Text.isPaired_nil
  | char c rest ih =>
    rw [Utf8.decodeKeeping_utf8EncodeChar]
    exact (Text.isPaired_cons_char c _).2 ih
  | kept b rest hfront ih =>
    rw [Utf8.decodeKeeping_cons hfront, Text.isPaired_cons_iff]
    refine ⟨fun hhigh => ?_, ih⟩
    have hlow : 0x400 + b.toNat < 0x400 := of_decide_eq_true hhigh
    omega

/-- Where text comes from characters, a request brings no halves that stand side by side. -/
theorem Invocation.FromCharacters.brings {call : Invocation} (h : call.FromCharacters) :
    call.Brings Text.IsPaired where
  wellFormed_input _ := wellFormed_of_read_plain h.isPlain_input
  defaultFileName := h.defaultFileName
  identifier := h.identifier
  givesReasons := h.givesReasons

/-- Whatever it comes with, a request brings some texts. -/
theorem Invocation.brings_any (call : Invocation) : call.Brings fun _ => True where
  wellFormed_input _ := wellFormed_of_read
  defaultFileName _ _ := trivial
  identifier _ := trivial
  givesReasons _ _ _ _ := trivial

/-- A call with an input and nothing else: no variable is set, and no file is there. -/
def Invocation.ofInput (input : Text) : Invocation where
  input := input
  environment := {}
  files := fun _ => .error .notFound
  session := ⟨⟨2024, 2, 29, 12, 30, 0, 0, some 0⟩, fun _ => "id"⟩

/-- Such a call has text from characters if the input has. -/
private theorem fromCharacters_ofInput {input : Text} (h : IsPlain input) :
    (Invocation.ofInput input).FromCharacters where
  isPlain_input := h
  defaultFileName _ hname := by cases hname
  identifier _ := Text.IsKept.ofString _
  givesReasons _ _ _ hfault := by cases hfault

/-- A batch of a single entry, which has a name and no path. -/
private def pathless (name : Text) : Json :=
  .object [("files", .array [.object [("original_name", .string name)]])]

/-- The answer to such a batch, which echoes the name. -/
private def pathMissing (name : Text) : Json :=
  .object [("results", .array []),
    ("errors", .array [.object [("file", .string name), ("error", .string "Missing 'path'")]])]

/-- A batch whose only entry has no path is answered with one error, under the name of the entry. -/
private theorem answer_pathless {call : Invocation} {x : CodePoint} {xs : Text}
    (hread : Json.read call.input = .ok (pathless (x :: xs)))
    (hload : Settings.load call.environment = .ok .default) :
    (run call).answer = pathMissing (x :: xs) := by
  simp only [run, hread, hload, runWith, answer, pathless]
  rfl

end CommandLine

end CodeScan
