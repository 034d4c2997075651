import CodeScan.File.Name
import CodeScan.File.Read
import CodeScan.Report.Basic
import CodeScan.Session
import CodeScan.Settings

/-!
# Batches of files

A batch is a list of entries, each an object with a path and an optional name to show.  An entry
ends as a result or as an error, by the first check that fails: it has a path, its name is one that
is scanned, the file can be read, and the text is not too long.

Some entries are no entries at all: a value that is no object, or a path or name of the wrong type.
Those end the batch, as does a path that no file system can be asked about.  A number in place of a
path is taken for the number of an open stream, and a truth value for the number one or zero; a
batch has no open streams.
-/

namespace CodeScan

namespace Batch

/-- What ends a batch. -/
inductive Abort where
  /-- An entry is a value of the given type and no object. -/
  | notAnObject (typeName : Text)
  /-- A path or name is a value of the given type and no string. -/
  | notAPath (typeName : Text)
  | badPath (fault : PathFault)
  /-- A stream has a number below zero. -/
  | negativeStream

/-- The wording of what ends a batch. -/
def Abort.message : Abort → Text
  | .notAnObject typeName => "'" ++ typeName ++ "' object has no attribute 'get'"
  | .notAPath typeName => "expected str, bytes or os.PathLike object, not " ++ typeName
  | .badPath fault => fault.message
  | .negativeStream => "negative file descriptor"

/-- The report of a scan as it is printed: the report with its findings by category. -/
def payload (report : ScanReport) : Json :=
  let categories : Json.Members := [("categories", (ScanReport.breakdown report.findings).toJson)]
  .object (report.members ++ categories)

/-- The part of the program whose name is in the log records of a batch. -/
def logOrigin : Text := "sandbox_main"

/-- The record that sums a report up. -/
def summaryRecord (report : ScanReport) : LogRecord :=
  ⟨.info, logOrigin, report.fileName ++ ": " ++ report.summary.text⟩

/-- Scans code for printing: the printed report and the log. -/
def scanPayload (session : Session) (serial : Nat) (code : List Char) (name : Text) :
    Json × List LogRecord :=
  let (report, logs) := ScanReport.ofScan code name (session.identifier serial) session.now
  (payload report, logs ++ [summaryRecord report])

/-- What became of one entry. -/
inductive Fate where
  | result (code : List Char) (name : Text)
  | error (file : Json) (message : Text)

/-- The error item of an entry. -/
def errorItem (file : Json) (message : Text) : Json :=
  .object [("file", file), ("error", .string message)]

/-- A value that must be the text of a path. -/
def pathText : Json → Except Abort Text
  | .string t => .ok t
  | value => .error (.notAPath value.typeName)

/-- Reads what the path of an entry leads to. -/
def readPath (files : FileSource) (path : Json) : Except Abort ReadResult :=
  match path with
  | .string t => .ok (files.read t)
  | .bool b => .ok (.unreadable (noStreamMessage (if b then "True" else "False")))
  | .int n =>
    if -0x80000000 ≤ n ∧ n < 0 then .error .negativeStream
    else if 0 ≤ n ∧ n < 0x80000000 then .ok (.unreadable (noStreamMessage (Text.ofInt n)))
    else .error (.notAPath path.typeName)
  | _ => .error (.notAPath path.typeName)
where
  /-- The message that no stream is open under a number, as the number is shown. -/
  noStreamMessage (number : Text) : Text :=
    "Failed to read file: " ++ number ++ " ([Errno 9] Bad file descriptor)"

/-- The name an entry is shown under: the given one, else the last component of the path. -/
def shownName (path given : Json) : Except Abort Json :=
  if given.isGiven then .ok given
  else if path.isGiven then (pathText path).map fun t => .string (FileName.ofPath t)
  else .ok (.string [])

/-- Decides what becomes of an entry. -/
def decideEntry (files : FileSource) (settings : Settings) (entry : Json) :
    Except Abort Fate := do
  let .object members := entry | throw (.notAnObject entry.typeName)
  let path := (Json.Members.get? members "path").getD .null
  let file ← shownName path ((Json.Members.get? members "original_name").getD .null)
  if !path.isGiven then return .error file "Missing 'path'"
  let name ← pathText file
  if !FileName.isSupported name then return .error file "Unsupported file type"
  match ← readPath files path with
  | .impossible fault => throw (.badPath fault)
  | .unreadable message => return .error file message
  | .text code =>
    if settings.maxCodeBytes < Utf8.size code then
      return .error file ("File exceeds " ++ Text.ofInt settings.maxCodeBytes ++ " bytes")
    else return .result code name

/-- What a batch yields. -/
structure Yield where
  results : List Json
  errors : List Json
  logs : List LogRecord
  /-- How many identifiers were given out. -/
  serial : Nat

/-- A batch that was ended, with its log and the identifiers given out up to there. -/
structure Stopped where
  cause : Abort
  logs : List LogRecord
  serial : Nat

/-- Runs the entries that remain, after `serial` identifiers were given out. -/
def runFrom (files : FileSource) (settings : Settings) (session : Session) :
    Nat → List Json → Except Stopped Yield
  | serial, [] => .ok ⟨[], [], [], serial⟩
  | serial, entry :: rest =>
    match decideEntry files settings entry with
    | .error cause => .error ⟨cause, [], serial⟩
    | .ok (.error file message) => do
      let more ← runFrom files settings session serial rest
      return { more with errors := errorItem file message :: more.errors }
    | .ok (.result code name) =>
      let (json, logs) := scanPayload session serial code name
      match runFrom files settings session (serial + 1) rest with
      | .error stopped => .error { stopped with logs := logs ++ stopped.logs }
      | .ok more =>
        .ok { more with results := json :: more.results, logs := logs ++ more.logs }

/-- Runs a batch. -/
def run (files : FileSource) (settings : Settings) (session : Session) (serial : Nat)
    (entries : List Json) : Except Stopped Yield :=
  runFrom files settings session serial entries

/-- The yield of a batch as it is printed. -/
def Yield.toJson (yield : Yield) : Json :=
  .object [("results", .array yield.results), ("errors", .array yield.errors)]

end Batch

end CodeScan
