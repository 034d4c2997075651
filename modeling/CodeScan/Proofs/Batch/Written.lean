import CodeScan.Proofs.Batch.Run
import CodeScan.Proofs.Json.Read
import CodeScan.Proofs.Record.Messages
import CodeScan.Proofs.Report.Size

/-!
# Reports and batches can be written

The printed report of a scan and the yield of a batch are values that their texts write
(`ScanReport.wellFormed_payload`, `Batch.wellFormed_toJson`).  What could break this is an integer
of too many digits, or a name that occurs twice; and it matters whether two halves of a surrogate
pair stand side by side.

* Texts of the input are taken apart, or put together with texts that have a UTF-8 form, one of
  which stands between any two of them.  So any property that survives this (`Text.IsKept`) goes
  from the texts of the input to all texts of the yield.
* Numbers are those of reports, which the size of the code bounds, and those of the input.
* Objects have fixed names or the names of categories, or they come from the input.
-/

namespace CodeScan

open Json

/-! ## What is kept of texts -/

namespace Text

/-- Halves stand side by side in one of two texts, or where they meet. -/
theorem isPaired_append_iff {s t : Text} :
    IsPaired (s ++ t) ↔ IsPaired s ∧ IsPaired t ∧
      ∀ a ∈ s.getLast?, ∀ b ∈ t.head?, ¬ (a.isHigh = true ∧ b.isLow = true) :=
  List.isChain_append

/-- A text with a UTF-8 form has no halves at all. -/
theorem isPaired_of_isEncodable {t : Text} (h : isEncodable t = true) : t.IsPaired := by
  induction t with
  | nil => exact isPaired_nil
  | cons c t ih =>
    rw [isEncodable_iff, List.forall_mem_cons] at h
    cases c with
    | surrogate offset => cases h.1
    | char x => exact (isPaired_cons_char x t).2 (ih (isEncodable_iff.2 h.2))

/-- A property of texts that is kept when texts are taken apart, and when they are put together with
a text that has a UTF-8 form between them. -/
class IsKept (P : Text → Prop) : Prop where
  of_isEncodable : ∀ {t : Text}, isEncodable t = true → P t
  append_between : ∀ {s t middle : Text}, P s → P t → isEncodable middle = true → middle ≠ [] →
    P (s ++ middle ++ t)
  of_infix : ∀ {s t : Text}, P t → s <:+: t → P s

/-- What holds of every text is kept. -/
instance : IsKept fun _ => True := ⟨fun _ => trivial, fun _ _ _ _ => trivial, fun _ _ => trivial⟩

/-- A text with a UTF-8 form keeps the halves of surrogate pairs apart. -/
instance : IsKept IsPaired where
  of_isEncodable := isPaired_of_isEncodable
  append_between {s t middle} hs ht hmiddle hne := by
    have hmiddlePaired := isPaired_of_isEncodable hmiddle
    have hnone : ∀ c ∈ middle, c.isHigh = false ∧ c.isLow = false := by
      intro c hc
      have hchar := isEncodable_iff.1 hmiddle c hc
      cases c with
      | char x => exact ⟨rfl, rfl⟩
      | surrogate offset => cases hchar
    obtain ⟨c, rest, rfl⟩ := List.exists_cons_of_ne_nil hne
    refine isPaired_append_iff.2 ⟨isPaired_append_iff.2 ⟨hs, hmiddlePaired, ?_⟩, ht, ?_⟩
    · rintro a - b hb ⟨-, hlow⟩
      rw [(hnone b (List.mem_of_mem_head? hb)).2] at hlow
      cases hlow
    · rintro a ha b - ⟨hhigh, -⟩
      rw [List.getLast?_append_of_ne_nil _ hne] at ha
      rw [(hnone a (List.mem_of_mem_getLast? ha)).1] at hhigh
      cases hhigh
  of_infix ht h := List.IsChain.infix ht h

namespace IsKept

variable {P : Text → Prop} [IsKept P] {s t : Text}

/-- Fixed texts have every property that is kept. -/
theorem ofString (s : String) : P s := of_isEncodable (isEncodable_ofString s)

theorem append_encodable (hs : P s) (ht : isEncodable t = true) : P (s ++ t) := by
  cases t with
  | nil => rwa [List.append_nil]
  | cons c t =>
    have hnil : P [] := of_isEncodable rfl
    simpa using append_between hs hnil ht (List.cons_ne_nil c t)

theorem encodable_append (hs : isEncodable s = true) (ht : P t) : P (s ++ t) := by
  cases s with
  | nil => exact ht
  | cons c s =>
    have hnil : P [] := of_isEncodable rfl
    exact append_between hnil ht hs (List.cons_ne_nil c s)

end IsKept

/-- The pieces of a list are parts of it. -/
theorem infix_of_mem_splitOn {α : Type} [DecidableEq α] {separator : α} {xs piece : List α}
    (h : piece ∈ splitOn separator xs) : piece <:+: xs := by
  induction hn : xs.length using Nat.strongRecOn generalizing xs with
  | ind n ih =>
    by_cases hmem : separator ∈ xs
    · obtain ⟨front, back, rfl⟩ := List.append_of_mem hmem
      rw [List.length_append, List.length_cons] at hn
      rw [splitOn_append_cons, List.mem_append] at h
      rcases h with h | h
      · exact (ih _ (by omega) h rfl).trans (List.prefix_append _ _).isInfix
      · exact (ih _ (by omega) h rfl).trans
          ((List.suffix_cons separator back).trans (List.suffix_append front _)).isInfix
    · rw [splitOn_of_not_mem hmem, List.mem_singleton] at h
      rw [h]

end Text

/-- The name of a file is a part of its path. -/
theorem FileName.ofPath_infix (path : Text) : ofPath path <:+: path := by
  rw [ofPath]
  cases hlast : (components path).getLast? with
  | none => exact List.nil_infix
  | some name =>
    have hmem := List.mem_of_getLast? hlast
    exact Text.infix_of_mem_splitOn (List.mem_filter.1 hmem).1

variable {P : Text → Prop} [Text.IsKept P]

/-! ## Reports -/

/-- Members with names that differ and are written as strings make a value that can be written if
their values do. -/
theorem Json.wellFormed_object {names : List String} (hnames : names.Nodup) {members : Members}
    (h : members.map Prod.fst = names.map Text.ofString)
    (hvalues : ∀ member ∈ members, member.2.WellFormed P) : (Json.object members).WellFormed P := by
  refine ⟨?_, membersWellFormed_iff.2 fun member hmember => ⟨?_, hvalues member hmember⟩⟩
  · rw [h, List.Nodup, List.pairwise_map]
    exact hnames.imp fun hne hsame => hne (Text.ofString_inj.1 hsame)
  · have hname := List.mem_map_of_mem (f := Prod.fst) hmember
    rw [h] at hname
    obtain ⟨name, -, hname⟩ := List.mem_map.1 hname
    rw [← hname]
    exact Text.IsKept.ofString name

open Scan Sighting in
/-- A finding of a scan with the built-in catalog can be written if its file name and its line
number can. -/
theorem Finding.wellFormed_of_mem_findings {code : List Char} {fileName : Text} {f : Finding}
    (h : f ∈ (detect Catalog.builtIn code fileName).findings) (hname : P fileName)
    (hline : f.lineNumber.natAbs < 10 ^ maxDigits) : f.toJson.WellFormed P := by
  have hnames : ["id", "fileName", "lineNumber", "type", "category", "description", "mitigation",
      "explanation", "unsafeCode", "safeCode"].Nodup := by decide
  refine wellFormed_object hnames rfl ?_
  rw [detect, detectWith_findings] at h
  obtain ⟨s, hs, k, rfl⟩ := exists_of_mem_report h
  obtain ⟨-, hrule, -⟩ := mem_kept_search hs
  obtain ⟨hid, hkind, hdescription, hmitigation, hexplanation, hsafe⟩ :=
    Catalog.isEncodable_of_mem_builtIn hrule
  simp only [List.forall_mem_cons, WellFormed]
  refine ⟨?_, hname, hline, ?_, ?_, ?_, ?_, ?_, ?_, ?_, List.forall_mem_nil _⟩
  all_goals
    apply Text.IsKept.of_isEncodable
    simp [finding, *]

namespace ScanReport

/-- The counts by category can be written if they have few enough digits. -/
theorem wellFormed_breakdown {findings : List Finding}
    (h : ∀ entry ∈ (breakdown findings).entries, entry.2 < 10 ^ maxDigits) :
    (breakdown findings).toJson.WellFormed P := by
  obtain ⟨hnodup, hlabels⟩ := Tally.nodup_map_fst_ofList (findings.map fun f => f.category.label)
  refine ⟨?_, membersWellFormed_iff.2 fun member hmember => ?_⟩
  · rw [List.map_map]
    exact hnodup
  · obtain ⟨entry, hentry, rfl⟩ := List.mem_map.1 hmember
    refine ⟨?_, h entry hentry⟩
    obtain ⟨f, -, hlabel⟩ := List.mem_map.1 (hlabels entry.1 (List.mem_map_of_mem hentry))
    rw [← hlabel]
    exact Text.IsKept.of_isEncodable (isEncodable_label f.category)

variable {code : List Char} {fileName id : Text}

/-- The report on code of limited size can be written if its name and its identifier can. -/
theorem wellFormed_payload (hname : P fileName) (hid : P id)
    (hcode : code.length < 10 ^ maxDigits) (now : Timestamp) :
    (Batch.payload (ofScan code fileName id now).1).WellFormed P := by
  have hbound : 100 < 10 ^ maxDigits :=
    (by decide : 100 < 10 ^ 3).trans_le (Nat.pow_le_pow_right (by decide) (by decide))
  have hbelow := isBelow_ofScan hcode hbound fileName id now
  have hnames : ["id", "timestamp", "fileName", "vulnerabilities", "summary", "totalLines",
      "codeMetrics", "categories"].Nodup := by decide
  have htotal : ["total"].Nodup := by decide
  have hmetrics : ["cleanLines", "vulnerableLines", "codeHealthPercentage"].Nodup := by decide
  have hfindings : ∀ f ∈ (ofScan code fileName id now).1.findings, f.toJson.WellFormed P :=
    fun f hf => Finding.wellFormed_of_mem_findings hf hname (hbelow.lineNumber_lt f hf)
  refine wellFormed_object hnames rfl ?_
  simp only [members, List.cons_append, List.nil_append, List.forall_mem_cons]
  refine ⟨hid, ?_, hname, areWellFormed_iff.2 (List.forall_mem_map.2 hfindings), ?_,
    hbelow.totalLines_lt, ?_, wellFormed_breakdown hbelow.count_lt, List.forall_mem_nil _⟩
  · exact Text.IsKept.of_isEncodable (isEncodable_recordText _)
  · exact wellFormed_object htotal rfl
      (List.forall_mem_cons.2 ⟨hbelow.total_lt, List.forall_mem_nil _⟩)
  · refine wellFormed_object hmetrics rfl ?_
    simp only [List.forall_mem_cons]
    exact ⟨hbelow.cleanLines_lt, hbelow.vulnerableLines_lt, hbelow.health_lt,
      List.forall_mem_nil _⟩

end ScanReport

/-! ## Files -/

/-- The message on code points without a UTF-8 form has one: it escapes them. -/
@[simp] theorem isEncodable_unencodableMessage (first last : Nat) (sample : CodePoint) :
    isEncodable (unencodableMessage first last sample) = true := by
  rw [unencodableMessage]
  split <;> simp

/-- The message on a path that no file system can be asked about has a UTF-8 form. -/
theorem PathFault.isEncodable_message (fault : PathFault) : isEncodable fault.message = true := by
  cases fault with
  | nulCharacter => exact isEncodable_ofString _
  | unencodable first last sample => exact isEncodable_unencodableMessage first last sample

/-- The reasons that a file system gives are texts of a given kind. -/
def FileSource.GivesReasons (files : FileSource) (P : Text → Prop) : Prop :=
  ∀ path number reason, files path = .error (.other number reason) → P reason

/-- A message with a number holds the path twice and the reason once, with fixed texts between them.
-/
theorem ReadResult.isKept_numberedMessage {path reason : Text} (hpath : P path) (number : Nat)
    (hreason : P reason) : P (numberedMessage path number reason) := by
  have hfront : P ("Failed to read file: " ++ path) :=
    Text.IsKept.encodable_append (isEncodable_ofString _) hpath
  have hmiddle : isEncodable (" ([Errno " ++ Text.ofNat number ++ "] ") = true := by simp
  have hne : (" ([Errno " ++ Text.ofNat number ++ "] " : Text) ≠ [] := by simp [Text.ofString]
  have hback : isEncodable (": " ++ path.quoted ++ ")") = true := by simp
  have hwhole := Text.IsKept.append_encodable
    (Text.IsKept.append_between hfront hreason hmiddle hne) hback
  simpa only [numberedMessage, List.append_assoc] using hwhole

/-- The message on a file that cannot be read can be written if the path can. -/
theorem FileSource.isKept_of_read {files : FileSource} (hfiles : files.GivesReasons P)
    {path message : Text} (hpath : P path) (h : files.read path = .unreadable message) :
    P message := by
  have hplain (reason : String) : P reason := Text.IsKept.ofString reason
  rw [FileSource.read] at h
  split at h
  · cases h
  · rename_i fault hfault
    cases fault with
    | denied =>
      cases h
      exact Text.IsKept.encodable_append (isEncodable_ofString _) hpath
    | notFound =>
      cases h
      exact Text.IsKept.encodable_append (isEncodable_ofString _) hpath
    | notFolder =>
      cases h
      exact ReadResult.isKept_numberedMessage hpath _ (hplain _)
    | isFolder =>
      cases h
      exact ReadResult.isKept_numberedMessage hpath _ (hplain _)
    | nameTooLong =>
      cases h
      exact ReadResult.isKept_numberedMessage hpath _ (hplain _)
    | other number reason =>
      cases h
      exact ReadResult.isKept_numberedMessage hpath _ (hfiles path number reason hfault)
    | nulCharacter => cases h
    | unencodable first last sample => cases h

/-! ## Batches -/

namespace Batch

variable {files : FileSource} {settings : Settings} {entry path given : Json}

/-- The message on a path that is no text names its type only. -/
theorem isEncodable_message_of_pathText {value : Json} {cause : Abort}
    (h : pathText value = .error cause) : isEncodable cause.message = true := by
  cases value <;> cases h <;> simp [Abort.message]

/-- The message on a path that cannot be opened at all names its type only. -/
theorem isEncodable_message_of_readPath {cause : Abort} (h : readPath files path = .error cause) :
    isEncodable cause.message = true := by
  rw [readPath.eq_def] at h
  split at h
  · cases h
  · cases h
  · split_ifs at h <;> cases h <;> simp [Abort.message]
  · cases h
    simp [Abort.message]

/-- The message on an entry whose name cannot be told names a type only. -/
theorem isEncodable_message_of_shownName {cause : Abort} (h : shownName path given = .error cause) :
    isEncodable cause.message = true := by
  rw [shownName] at h
  split_ifs at h
  cases htext : pathText path with
  | error other =>
    rw [htext] at h
    cases h
    exact isEncodable_message_of_pathText htext
  | ok t =>
    rw [htext] at h
    cases h

/-- The message of what ends a batch has a UTF-8 form. -/
theorem isEncodable_message_of_decideEntry {cause : Abort}
    (h : decideEntry files settings entry = .error cause) : isEncodable cause.message = true := by
  cases entry with
  | object members =>
    simp only [decideEntry] at h
    rcases error_or_exists_of_bind_eq_error h with h | ⟨file, -, h⟩
    · exact isEncodable_message_of_shownName h
    · split_ifs at h
      · cases h
      · rcases error_or_exists_of_bind_eq_error h with h | ⟨name, -, h⟩
        · exact isEncodable_message_of_pathText h
        · split_ifs at h
          · cases h
          · rcases error_or_exists_of_bind_eq_error h with h | ⟨read, -, h⟩
            · exact isEncodable_message_of_readPath h
            · split at h
              · cases h
                exact PathFault.isEncodable_message _
              · cases h
              · split_ifs at h <;> cases h
  | _ =>
    cases h
    simp [Abort.message]

/-- The name that is shown for an entry is the given one, or a part of its path. -/
theorem wellFormed_of_shownName (hpath : path.WellFormed P) (hgiven : given.WellFormed P)
    {file : Json} (h : shownName path given = .ok file) : file.WellFormed P := by
  rw [shownName] at h
  split_ifs at h
  · cases h
    exact hgiven
  · cases path with
    | string t =>
      cases h
      exact Text.IsKept.of_infix hpath (FileName.ofPath_infix t)
    | _ => cases h
  · cases h
    exact Text.IsKept.of_isEncodable rfl

/-- The message on a path that was asked about in vain is of the kind of its texts. -/
theorem isKept_of_readPath (hfiles : files.GivesReasons P) (hpath : path.WellFormed P)
    {message : Text} (h : readPath files path = .ok (.unreadable message)) : P message := by
  cases path with
  | string t => exact files.isKept_of_read hfiles hpath (Except.ok.inj h)
  | bool b =>
    cases h
    cases b <;> exact Text.IsKept.of_isEncodable (by simp [readPath.noStreamMessage])
  | int n =>
    rw [readPath] at h
    split_ifs at h
    cases h
    exact Text.IsKept.of_isEncodable (by simp [readPath.noStreamMessage])
  | _ => cases h

/-- What an entry that was decided adds to the yield of a batch can be written. -/
def Fate.IsWritable (P : Text → Prop) (settings : Settings) : Fate → Prop
  | .result code name => P name ∧ (Utf8.size code : Int) ≤ settings.maxCodeBytes
  | .error file message => file.WellFormed P ∧ P message

/-- What becomes of an entry can be written if the entry can. -/
theorem Fate.isWritable_of_decideEntry (hfiles : files.GivesReasons P)
    (hentry : entry.WellFormed P) {fate : Fate} (h : decideEntry files settings entry = .ok fate) :
    fate.IsWritable P settings := by
  cases entry with
  | object members =>
    have hpath := wellFormed_get? hentry "path"
    simp only [decideEntry] at h
    obtain ⟨file, hfile, h⟩ := exists_of_bind_eq_ok h
    have hfile := wellFormed_of_shownName hpath (wellFormed_get? hentry "original_name") hfile
    -- The fixed messages are plain ASCII; only those of the file system may hold more.
    have hplain {message : Text} (hmessage : isEncodable message = true) :
        (Fate.error file message).IsWritable P settings :=
      ⟨hfile, Text.IsKept.of_isEncodable hmessage⟩
    split_ifs at h
    · cases h
      exact hplain (isEncodable_ofString _)
    · obtain ⟨name, hname, h⟩ := exists_of_bind_eq_ok h
      have hname : file = .string name := by
        cases file <;> cases hname
        rfl
      split_ifs at h
      · cases h
        exact hplain (isEncodable_ofString _)
      · obtain ⟨read, hread, h⟩ := exists_of_bind_eq_ok h
        cases read with
        | impossible fault => cases h
        | unreadable message =>
          cases h
          exact ⟨hfile, isKept_of_readPath hfiles hpath hread⟩
        | text code =>
          simp only at h
          split_ifs at h with hsize
          · cases h
            exact hplain (by simp)
          · cases h
            rw [hname] at hfile
            exact ⟨hfile, Int.not_lt.1 hsize⟩
  | _ => cases h

/-- What becomes of the entries of a batch can be written if they can. -/
theorem isWritable_of_decides (hfiles : files.GivesReasons P) {entries : List Json}
    (hentries : AreWellFormed P entries) {fates : List Fate}
    (h : Decides files settings entries fates) : ∀ fate ∈ fates, fate.IsWritable P settings := by
  induction h with
  | nil => exact List.forall_mem_nil _
  | cons hentry _ ih =>
    exact List.forall_mem_cons.2
      ⟨Fate.isWritable_of_decideEntry hfiles hentries.1 hentry, ih hentries.2⟩

/-- The message of a batch that was ended has a UTF-8 form. -/
theorem isEncodable_message_of_runFrom {session : Session} {serial : Nat} {entries : List Json}
    {stopped : Stopped} (h : runFrom files settings session serial entries = .error stopped) :
    isEncodable stopped.cause.message = true := by
  induction entries generalizing serial stopped with
  | nil => cases h
  | cons entry entries ih =>
    rw [runFrom] at h
    split at h
    · rename_i hentry
      cases h
      exact isEncodable_message_of_decideEntry hentry
    · rcases error_or_exists_of_bind_eq_error h with h | ⟨more, -, h⟩
      · exact ih h
      · cases h
    · simp only at h
      split at h
      · rename_i rest hrest
        have hmessage := ih hrest
        cases h
        exact hmessage
      · cases h

variable {session : Session} (hidentifiers : ∀ n, P (session.identifier n))
  (hlimit : settings.maxCodeBytes.natAbs < 10 ^ maxDigits)

include hidentifiers hlimit

/-- The report on code within the limit can be written under a name that can. -/
theorem wellFormed_scanPayload {code : List Char} {name : Text} (hname : P name)
    (hsize : (Utf8.size code : Int) ≤ settings.maxCodeBytes) (serial : Nat) :
    (scanPayload session serial code name).1.WellFormed P := by
  have hlength := Utf8.length_le_size code
  exact ScanReport.wellFormed_payload hname (hidentifiers serial) (by omega) session.now

/-- The yield of a batch can be written. -/
theorem wellFormed_toJson (hfiles : files.GivesReasons P) {entries : List Json}
    (hentries : AreWellFormed P entries) {serial : Nat} {yield : Yield}
    (h : run files settings session serial entries = .ok yield) : yield.toJson.WellFormed P := by
  obtain ⟨fates, hfates, rfl⟩ := runFrom_eq_ok_iff.1 h
  have hwritable := isWritable_of_decides hfiles hentries hfates
  have hnames : ["results", "errors"].Nodup := by decide
  refine wellFormed_object hnames rfl ?_
  simp only [List.forall_mem_cons]
  refine ⟨areWellFormed_iff.2 ?_, areWellFormed_iff.2 ?_, List.forall_mem_nil _⟩
  · intro result hresult
    obtain ⟨scan, hscan, rfl⟩ := List.mem_map.1 hresult
    obtain ⟨⟨⟨code, name⟩, n⟩, hscanned, rfl⟩ := List.mem_map.1 hscan
    obtain ⟨fate, hfate, hscanned⟩ := List.mem_filterMap.1 (List.fst_mem_of_mem_zipIdx hscanned)
    have hfate := hwritable fate hfate
    cases fate with
    | error file message => cases hscanned
    | result code name =>
      cases hscanned
      exact wellFormed_scanPayload hidentifiers hlimit hfate.1 hfate.2 n
  · intro item hitem
    obtain ⟨fate, hfate, hitem⟩ := List.mem_filterMap.1 hitem
    have hfate := hwritable fate hfate
    have hnames : ["file", "error"].Nodup := by decide
    cases fate with
    | result code name => cases hitem
    | error file message =>
      cases hitem
      exact wellFormed_object hnames rfl
        (List.forall_mem_cons.2 ⟨hfate.1, List.forall_mem_singleton.2 hfate.2⟩)

end Batch

end CodeScan
