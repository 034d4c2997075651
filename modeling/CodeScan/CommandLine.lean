import CodeScan.Batch
import CodeScan.Json.Reader
import CodeScan.Json.Writer
import CodeScan.Report.Build

/-!
# The command line

A request is one JSON object on standard input: code with an optional file name, or a list of
files.  The answer is one line of JSON on standard output; the log goes to standard error.  An
answer that is an object with the member `error` goes with exit code one.

The checks come in a fixed order: the input is JSON, it is an object, the settings can be loaded,
something to scan is there, and then types and sizes.  Nothing is logged before the settings are
known.
-/

namespace CodeScan

namespace CommandLine

/-- What the program is given.  The input is a text: bytes that are no UTF-8 arrive as lone
surrogates, one for each of them. -/
structure Invocation where
  input : Text
  environment : Settings.Environment
  files : FileSource
  session : Session
  /-- How many identifiers of the session are used up. -/
  serial : Nat := 0

/-- What the program gives back. -/
structure Outcome where
  exitCode : Nat
  answer : Json
  /-- The log records that are shown. -/
  logs : List LogRecord
  /-- How many identifiers of the session are used up now. -/
  serial : Nat

namespace Outcome

/-- What is printed on standard output. -/
def stdout (o : Outcome) : Text := o.answer.write ++ "\n"

/-- What is printed on standard error. -/
def stderr (o : Outcome) : Text := o.logs.flatMap fun r => r.line ++ "\n"

end Outcome

/-- The answer that reports a failure. -/
def failure (message : Text) : Json := .object [("error", .string message)]

/-- The answer to a request that has nothing to scan. -/
def usage : Json :=
  let codeExample : Json := .object
    [("code", .string "eval(userInput);"), ("file_name", .string "app.js")]
  let entry : Json := .object
    [("path", .string "/tmp/uploads/0_app.js"), ("original_name", .string "app.js")]
  .object
    [("error", .string "Missing required input. Provide either 'code' or 'files'."),
     ("examples", .object
       [("code", codeExample), ("files", .object [("files", .array [entry])])])]

/-- The outcome of a request that got as far as scanning. -/
structure Work where
  outcome : Except Json Json
  logs : List LogRecord
  serial : Nat

/-- The first run of lone surrogates in a text that has one. -/
def surrogateMessage (t : Text) : Text :=
  let first := (t.findIdx? PathText.isSurrogate).getD 0
  let run := (t.drop first).takeWhile PathText.isSurrogate
  unencodableMessage first (first + run.length - 1) (run.headD (.char '\x00'))

/-- Scans given code.  A name that counts as given is passed on whatever its type, and it is for the
report to refuse it. -/
def scanCode (settings : Settings) (session : Session) (serial : Nat) (code name : Json) : Work :=
  match code with
  | .string t =>
    match t.chars? with
    | none => ⟨.error (failure (surrogateMessage t)), [], serial⟩
    | some chars =>
      if settings.maxCodeBytes < Utf8.size chars then
        ⟨.error (failure ("Code exceeds " ++ Text.ofInt settings.maxCodeBytes ++ " bytes")),
          [], serial⟩
      else
        let name := if name.isGiven then name else .string settings.defaultFileName
        let built := ScanReport.build session serial chars name
        match built.outcome with
        | .error issues => ⟨.error (failure issues.text), built.logs, built.serial⟩
        | .ok report =>
          ⟨.ok (Batch.payload report), built.logs ++ [Batch.summaryRecord report], built.serial⟩
  | _ => ⟨.error (failure "'code' must be a string"), [], serial⟩

/-- Scans given files. -/
def scanFiles (files : FileSource) (settings : Settings) (session : Session) (serial : Nat)
    (entries : Json) : Work :=
  match entries with
  | .array entries =>
    match Batch.run files settings session serial entries with
    | .ok yield => ⟨.ok yield.toJson, yield.logs, yield.serial⟩
    | .error stopped => ⟨.error (failure stopped.cause.message), stopped.logs, stopped.serial⟩
  | _ => ⟨.error (failure "'files' must be a list"), [], serial⟩

/-- Answers a request whose settings are known.  A list of files counts before code. -/
def answer (settings : Settings) (call : Invocation) (members : Json.Members) : Work :=
  let given (name : Text) : Json := (members.get? name).getD .null
  match given "files", given "code" with
  | .null, .null => ⟨.error usage, [], call.serial⟩
  | .null, code => scanCode settings call.session call.serial code (given "file_name")
  | entries, _ => scanFiles call.files settings call.session call.serial entries

/-- The path of an entry of a batch, if it has one. -/
def entryPath? : Json → Option Text
  | .object members =>
    match Json.Members.get? members "path" with
    | some (.string path) => some path
    | _ => none
  | _ => none

/-- The paths that a request asks for: what has to be read before it can be answered. -/
def requestedPaths (input : Text) : List Text :=
  match Json.read input with
  | .ok (.object members) =>
    match Json.Members.get? members "files" with
    | some (.array entries) => entries.filterMap entryPath?
    | _ => []
  | _ => []

/-- Runs the program on a request whose settings are known. -/
def runWith (settings : Settings) (call : Invocation) (members : Json.Members) : Outcome :=
  let work := answer settings call members
  let logs := work.logs.filter (·.shownAt settings.logLevel)
  match work.outcome with
  | .ok json => ⟨0, json, logs, work.serial⟩
  | .error json => ⟨1, json, logs, work.serial⟩

/-- Runs the program. -/
def run (call : Invocation) : Outcome :=
  let fail (answer : Json) : Outcome := ⟨1, answer, [], call.serial⟩
  match Json.read call.input with
  | .error e => fail (failure ("Invalid JSON input: " ++ e.message call.input))
  | .ok (.object members) =>
    match Settings.load call.environment with
    | .error e => fail (failure ("Invalid configuration: " ++ e.message))
    | .ok settings => runWith settings call members
  | .ok _ => fail (failure "Input must be a JSON object")

end CommandLine

end CodeScan
