import CodeScan.CommandLine
import CodeScan.Proofs.Batch.Run
import CodeScan.Proofs.Report.Consistency
import CodeScan.Proofs.Text.Newlines
import CodeScan.Proofs.Text.Utf8

/-!
# A file is scanned like its text

The text of a file reaches the scanner on another way than code that is handed over: it is decoded
from bytes, its line endings are unified, and its size is taken after that.  None of this shows in
the report.  Decoding gives the text back, the lines are the same (`splitLines_unifyNewlines`), the
text did not get longer, and a report knows code by its lines alone (`ofScan_congr`).
-/

namespace CodeScan

/-- A report knows code by its lines alone. -/
theorem ScanReport.ofScan_congr {first second : List Char}
    (h : Text.splitLines first = Text.splitLines second) (fileName id : Text) (now : Timestamp) :
    ofScan first fileName id now = ofScan second fileName id now := by
  simp only [ofScan, ofFindings, Metrics.ofLineNumbers, Scan.detect, Scan.detectWith, h]

namespace Batch

/-- The text of a file that holds an encoded text. -/
theorem fileText_encode (text : List Char) :
    fileText (Utf8.encode text) = Text.unifyNewlines text := by
  rw [fileText, Utf8.decode_encode]

/-- Unifying the line endings does not show in a printed report. -/
theorem scanPayload_unifyNewlines {text : List Char} (h : Text.ReturnsEndLines text)
    (session : Session) (serial : Nat) (name : Text) :
    scanPayload session serial (Text.unifyNewlines text) name =
      scanPayload session serial text name := by
  rw [scanPayload, scanPayload, ScanReport.ofScan_congr (Text.splitLines_unifyNewlines h)]

/-- A file with an encoded text that is not too long, under a name that is scanned, gives one result
and no error, and the result is that of scanning the text itself. -/
theorem run_file_eq_scanCode {files : FileSource} {settings : Settings} {entry : Json}
    {path name : Text} {text : List Char} (hentry : Gives entry path name)
    (hpath : path ≠ []) (hfile : files path = .ok (Utf8.encode text))
    (hreturns : Text.ReturnsEndLines text) (hname : name ≠ [])
    (hsupported : FileName.isSupported name = true)
    (hsize : (Utf8.size text : Int) ≤ settings.maxCodeBytes) (session : Session) (serial : Nat) :
    let scan := scanPayload session serial text name
    run files settings session serial [entry] = .ok ⟨[scan.1], [], scan.2, serial + 1⟩ ∧
      CommandLine.scanCode settings session serial (.string (Text.ofChars text)) (.string name) =
        ⟨.ok scan.1, scan.2, serial + 1⟩ := by
  intro scan
  constructor
  · have hshown : nameShown path name = name := by simp [nameShown, hname]
    have hread : files.read path = .text (Text.unifyNewlines text) := by
      rw [FileSource.read, hfile]
      exact congrArg ReadResult.text (fileText_encode text)
    -- The limit is checked on the text with its line endings unified.
    have hfits : ¬ settings.maxCodeBytes < (Utf8.size (Text.unifyNewlines text) : Int) := by
      have := Utf8.size_unifyNewlines_le text
      omega
    have hfate : decideEntry files settings entry =
        .ok (.result (Text.unifyNewlines text) name) := by
      rw [decideEntry_of_gives hentry, hshown, if_neg (by simpa using hpath),
        if_neg (by simp [hsupported]), hread]
      exact if_neg hfits
    rw [run, runFrom_of_decides (.cons hfate .nil), yieldOf_cons_result,
      scanPayload_unifyNewlines hreturns]
    simp [yieldOf, scan]
  · have hgiven : (Json.string name).isGiven = true := by simpa [Json.isGiven] using hname
    rw [CommandLine.scanCode_eq (if_pos hgiven), if_neg (by omega)]

/-- Carriage returns before a line feed, on a blank line and at the very end, in a text of just the
greatest size: the file is scanned like the text. -/
theorem run_file_of_carriage_returns :
    let text := "é;\r\n\r\neval(x)\r".toList
    let tree : FileTree := ⟨[([PathText.bytes "b.js"], Utf8.encode text)], [], []⟩
    let settings : Settings := { Settings.default with maxCodeBytes := 15 }
    let session : Session := ⟨⟨2025, 1, 2, 3, 4, 5, 678901, some 0⟩, fun _ => []⟩
    let scan := scanPayload session 0 text "a.JS"
    Utf8.size text = 15 ∧ Text.unifyNewlines text ≠ text ∧
      run tree.source settings session 0 [entryOf "b.js" "a.JS"] =
        .ok ⟨[scan.1], [], scan.2, 1⟩ ∧
      CommandLine.scanCode settings session 0 (.string (Text.ofChars text)) (.string "a.JS") =
        ⟨.ok scan.1, scan.2, 1⟩ := by
  intro text tree settings session scan
  have hsize : Utf8.size text = 15 := by decide
  have hfile : tree.source "b.js" = .ok (Utf8.encode text) := rfl
  refine ⟨hsize, by decide, ?_⟩
  exact run_file_eq_scanCode (gives_entryOf_iff.2 ⟨rfl, rfl⟩) (by decide) hfile (by decide)
    (by decide) (by decide) (by rw [hsize]; decide) session 0

end Batch

end CodeScan
