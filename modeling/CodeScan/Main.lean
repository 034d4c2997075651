import CodeScan.CommandLine
import Std.Time.DateTime.Timestamp

/-!
# The program

Reads standard input, the environment, the clock and the files that the request names, hands them to
`CommandLine.run`, and prints what comes back.
-/

namespace CodeScan

namespace Main

/-- The rest of a stream. -/
partial def readAll (stream : IO.FS.Stream) (read : ByteArray) : IO ByteArray := do
  let chunk ← stream.read 65536
  if chunk.isEmpty then return read
  readAll stream (read ++ chunk)

/-- A text for the terminal; a lone surrogate is shown by its number. -/
def shown (t : Text) : String :=
  let shownChar (c : CodePoint) : Text := match c with
    | .char c => [.char c]
    | c => Text.numericEscape c
  String.ofList ((t.flatMap shownChar).filterMap CodePoint.char?)

/-- The number and the wording of an error of the file system. -/
def errorNumber : IO.Error → UInt32 × String
  | .noFileOrDirectory _ number reason | .permissionDenied _ number reason
  | .inappropriateType _ number reason | .invalidArgument _ number reason
  | .resourceExhausted _ number reason | .noSuchThing _ number reason
  | .alreadyExists _ number reason | .interrupted _ number reason
  | .otherError number reason | .resourceBusy number reason | .resourceVanished number reason
  | .unsupportedOperation number reason | .hardwareFault number reason
  | .unsatisfiedConstraints number reason | .illegalOperation number reason
  | .protocolError number reason | .timeExpired number reason => (number, reason)
  | .unexpectedEof => (0, "unexpected end")
  | .userError reason => (0, reason)

/-- Why a file could not be opened.  Some errors carry their number with a minus sign. -/
def faultOf (e : IO.Error) : OpenFault :=
  let (number, reason) := errorNumber e
  match (if number < 0x80000000 then number else -number).toNat with
  | 1 | 13 => .denied
  | 2 => .notFound
  | 20 => .notFolder
  | 21 => .isFolder
  | 36 => .nameTooLong
  | number => .other number reason

/-- The bytes of the file at a path, or why it cannot be opened. -/
def openPath (path : Text) : IO (Except OpenFault (List UInt8)) :=
  match PathText.fault? path, String.fromUTF8? ⟨(PathText.bytes path).toArray⟩ with
  | some fault, _ => return .error fault
  | none, none => return .error .notFound
  | none, some name => do
    try
      let bytes ← IO.FS.readBinFile name
      return .ok bytes.toList
    catch e => return .error (faultOf e)

/-- The current time in UTC. -/
def now : IO Timestamp := do
  let nanoseconds := (← Std.Time.Timestamp.now).toNanosecondsSinceUnixEpoch.val
  let microseconds := nanoseconds / 1000
  match Timestamp.ofSeconds (microseconds / 1000000) (microseconds % 1000000).toNat with
  | .ok moment => return moment
  | .error _ => return ⟨1970, 1, 1, 0, 0, 0, 0, some 0⟩

/-- A fresh identifier. -/
def freshIdentifier : IO Text := do
  return Session.randomIdentifier (← IO.getRandomBytes 16).toList

/-- Bytes in which every line ending is a line feed.  No byte of a longer character is one of a line
ending. -/
def unifyNewlines : List UInt8 → List UInt8
  | 0x0D :: 0x0A :: rest | 0x0D :: rest => 0x0A :: unifyNewlines rest
  | b :: rest => b :: unifyNewlines rest
  | [] => []

/-- The environment variables that the program looks at. -/
def environment : IO Settings.Environment := do
  let value (name : String) : IO (Option Text) := do
    return (← IO.getEnv name).map Text.ofString
  return {
    defaultFileName := ← value "GUARDIAN_DEFAULT_FILE_NAME"
    maxCodeBytes := ← value "GUARDIAN_MAX_CODE_BYTES"
    allowedOrigins := ← value "GUARDIAN_ALLOWED_ORIGINS"
    logLevel := ← value "GUARDIAN_LOG_LEVEL" }

/-- Answers one request from standard input, and gives the exit code. -/
def answer : IO UInt32 := do
  let bytes ← readAll (← IO.getStdin) .empty
  let input := Utf8.decodeKeeping (unifyNewlines bytes.toList)
  let paths := CommandLine.requestedPaths input
  let files ← paths.mapM fun path => return (path, ← openPath path)
  let identifiers ← (List.replicate (paths.length + 1) ()).mapM fun _ => freshIdentifier
  let outcome := CommandLine.run
    { input := input
      environment := ← environment
      files := fun path => (files.lookup path).getD (.error .notFound)
      session := .ofList (← now) identifiers }
  IO.eprint (shown outcome.stderr)
  IO.print (shown outcome.stdout)
  return UInt32.ofNat outcome.exitCode

end Main

end CodeScan

/-- The program. -/
def main : IO UInt32 := CodeScan.Main.answer
