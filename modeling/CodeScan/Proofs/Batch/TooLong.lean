import CodeScan.Proofs.Batch.Inline
import CodeScan.Proofs.Batch.Sorted
import CodeScan.Proofs.Text.DecodedSize

/-!
# Files that are too long

The limit on the size of a file is a limit on the text that is read from it, in UTF-8 bytes.  The
text is not the file: ill-formed bytes are replaced, which can make it longer, and line endings are
unified, which can make it shorter.

`run_sizeLimit` says of every file what that comes to.  A file that is well formed is reported only
if it is longer than the limit, and is scanned if it is not.  Of any other file the same holds with
two more bytes for each replacement character of its text.
-/

namespace CodeScan

/-- Unifying the line endings leaves all other characters. -/
theorem Text.count_unifyNewlines {x : Char} (hfeed : x ≠ '\n') (hreturn : x ≠ '\r')
    (t : List Char) : (unifyNewlines t).count x = t.count x := by
  fun_induction unifyNewlines t with
  | case1 => rfl
  | case2 rest ih => simp [ih, hfeed.symm, hreturn.symm]
  | case3 rest _ ih => simp [ih, hfeed.symm, hreturn.symm]
  | case4 c rest _ _ ih => rw [List.count_cons, List.count_cons, ih]

namespace Batch

variable {files : FileSource} {settings : Settings} {members : Json.Members} {path name : Text}
  {bytes : List UInt8}

/-- The entry has a path that leads to a file of these bytes, and is shown under a name that is
scanned. -/
structure LeadsTo (files : FileSource) (members : Json.Members) (path name : Text)
    (bytes : List UInt8) : Prop where
  path_eq : pathOf members = .string path
  path_ne_nil : path ≠ []
  shownAs : ShownAs (.string path) (originalName members) (.string name)
  supported : FileName.isSupported name = true
  file : files path = .ok bytes

/-- The fate of a file whose text is longer than the limit. -/
def tooLong (settings : Settings) (name : Text) : Fate :=
  .error (.string name) ("File exceeds " ++ Text.ofInt settings.maxCodeBytes ++ " bytes")

/-- The text of a file has the size of its bytes at most, up to two more for each replacement. -/
theorem size_fileText_le (bytes : List UInt8) :
    Utf8.size (fileText bytes) ≤
      bytes.length + 2 * (fileText bytes).count Utf8.replacement := by
  have hcount : (fileText bytes).count Utf8.replacement =
      (Utf8.decode bytes).count Utf8.replacement :=
    Text.count_unifyNewlines (by decide) (by decide) _
  rw [hcount]
  exact (Utf8.size_unifyNewlines_le _).trans (Utf8.size_decode_le bytes)

/-- The text of a well-formed file has the size of its bytes at most. -/
theorem size_fileText_encode_le (text : List Char) :
    Utf8.size (fileText (Utf8.encode text)) ≤ (Utf8.encode text).length := by
  rw [fileText_encode, Utf8.length_encode]
  exact Utf8.size_unifyNewlines_le text

/-- What becomes of a file is a matter of the size of its text. -/
theorem decideEntry_of_leadsTo (h : LeadsTo files members path name bytes) :
    decideEntry files settings (.object members) =
      .ok (if settings.maxCodeBytes < Utf8.size (fileText bytes) then tooLong settings name
        else .result (fileText bytes) name) := by
  have hshown : ShownAs (pathOf members) (originalName members) (.string name) :=
    h.path_eq ▸ h.shownAs
  have hgiven : (Json.string path).isGiven = true := by
    simpa [Json.isGiven] using h.path_ne_nil
  have hread : readPath files (.string path) = .ok (.text (fileText bytes)) := by
    rw [readPath, FileSource.read, h.file]
  rw [decideEntry_of_shownAs hshown, h.path_eq, hgiven, hread]
  simp only [pathText, h.supported, bind, Except.bind, Bool.not_true, Bool.false_eq_true, if_false]
  split <;> rfl

/-- A file with a supported name is reported as too long exactly if its text is longer than the
limit, and is scanned otherwise, wherever its entry stands in a batch.  If the file is well formed,
it is longer than the limit where it is reported, and it is scanned where it is not longer.  In
general the same holds with two bytes more for each replacement character of its text. -/
theorem run_sizeLimit (settings : Settings) (h : LeadsTo files members path name bytes) :
    let limit := settings.maxCodeBytes
    let text := fileText bytes
    ∃ fate, decideEntry files settings (.object members) = .ok fate ∧
      (fate = tooLong settings name ↔ limit < Utf8.size text) ∧
      (fate = .result text name ↔ Utf8.size text ≤ limit) ∧
      (∀ written, bytes = Utf8.encode written →
        (fate = tooLong settings name → limit < bytes.length) ∧
          (bytes.length ≤ limit → fate = .result text name)) ∧
      (fate = tooLong settings name →
        limit < bytes.length + 2 * (text.count Utf8.replacement : Int)) ∧
      (bytes.length + 2 * (text.count Utf8.replacement : Int) ≤ limit →
        fate = .result text name) ∧
      ∀ session serial before after first rest, Decides files settings before first →
        Decides files settings after rest →
          run files settings session serial (before ++ .object members :: after) =
            .ok (yieldOf session serial (first ++ fate :: rest)) := by
  intro limit text
  let fate : Fate := if limit < Utf8.size text then tooLong settings name else .result text name
  have hdecided : decideEntry files settings (.object members) = .ok fate :=
    decideEntry_of_leadsTo h
  have hlong : fate = tooLong settings name ↔ limit < Utf8.size text := by
    by_cases hsize : limit < Utf8.size text
    · simp [fate, hsize]
    · simp [fate, hsize, tooLong]
  have hscanned : fate = .result text name ↔ Utf8.size text ≤ limit := by
    by_cases hsize : limit < Utf8.size text
    · simp [fate, hsize, tooLong]
    · simp [fate, hsize, Int.not_lt.1 hsize]
  -- A replacement character takes two bytes more than the byte it may stand for.
  have hbound : Utf8.size text ≤ bytes.length + 2 * text.count Utf8.replacement :=
    size_fileText_le bytes
  refine ⟨fate, hdecided, hlong, hscanned, ?_, ?_, ?_, ?_⟩
  · rintro written rfl
    have hwritten : Utf8.size text ≤ (Utf8.encode written).length :=
      size_fileText_encode_le written
    rw [hlong, hscanned]
    omega
  · rw [hlong]
    omega
  · rw [hscanned]
    omega
  · intro session serial before after first rest hbefore hafter
    exact runFrom_of_decides (List.rel_append hbefore (.cons hdecided hafter)) serial

/-- A well-formed file of just the greatest size, with line endings of two characters, and a file of
which two bytes are ill formed. -/
theorem run_sizeLimit_files :
    let tree : FileTree := ⟨[([PathText.bytes "a.js"], Utf8.encode "é\r\nx".toList),
      ([PathText.bytes "b.py"], [0xC3, 0x78, 0xFF])], [], []⟩
    let settings : Settings := { Settings.default with maxCodeBytes := 5 }
    (∃ fate, decideEntry tree.source settings (entryOf "a.js" "") = .ok fate ∧
      fate = .result "é\nx".toList "a.js") ∧
    ∃ fate, decideEntry tree.source settings (entryOf "b.py" "") = .ok fate ∧
      fate = tooLong settings "b.py" ∧ (5 : Int) < 3 + 2 * 2 := by
  intro tree settings
  have hfirst : LeadsTo tree.source [("path", .string "a.js"), ("original_name", .string "")]
      "a.js" "a.js" (Utf8.encode "é\r\nx".toList) :=
    ⟨rfl, by decide, .component rfl rfl, by decide, rfl⟩
  have hsecond : LeadsTo tree.source [("path", .string "b.py"), ("original_name", .string "")]
      "b.py" "b.py" [0xC3, 0x78, 0xFF] :=
    ⟨rfl, by decide, .component rfl rfl, by decide, rfl⟩
  have htext : fileText (Utf8.encode "é\r\nx".toList) = "é\nx".toList := by
    rw [fileText_encode]
    decide
  constructor
  · obtain ⟨fate, hfate, -, -, hwritten, -⟩ := run_sizeLimit settings hfirst
    rw [htext] at hwritten
    exact ⟨fate, hfate, (hwritten _ rfl).2 (by decide)⟩
  · obtain ⟨fate, hfate, hlong, -, -, hreported, -⟩ := run_sizeLimit settings hsecond
    have htoo : fate = tooLong settings "b.py" := hlong.2 (by decide)
    exact ⟨fate, hfate, htoo, hreported htoo⟩

/-- A file of one byte is reported to exceed two bytes. -/
theorem run_reports_short_file :
    let tree : FileTree := ⟨[([PathText.bytes "a.js"], [0xFF])], [], []⟩
    let settings : Settings := { Settings.default with maxCodeBytes := 2 }
    let session : Session := ⟨⟨2025, 1, 2, 3, 4, 5, 678901, some 0⟩, fun _ => []⟩
    tree.source "a.js" = .ok [0xFF] ∧ FileName.isSupported "a.js" = true ∧
      run tree.source settings session 0 [entryOf "a.js" "a.js"] =
        .ok ⟨[], [errorItem (.string "a.js") "File exceeds 2 bytes"], [], 0⟩ := by
  refine ⟨rfl, by decide, ?_⟩
  rfl

end Batch

end CodeScan
