import CodeScan.CommandLine

/-!
# The command line step by step

`CommandLine.run` gives the outcome of a request at once.  Here the same request is answered step by
step: lines are printed, faults are raised and caught, and the program is left in the middle.  A
failure is printed and then the program is left, and it is left through whatever would catch a fault
on the way; so it matters that leaving is not caught and reported once more.

`script_eq` says that the steps come to the outcome: one line is printed, and no fault is left over.
The one fault that nothing catches is that of an integer with too many digits in the input.
-/

namespace CodeScan

namespace CommandLine

/-! ## Steps -/

/-- What interrupts a program. -/
inductive Interrupt where
  /-- The program is left with an exit code. -/
  | exit (code : Nat)
  /-- A text is no JSON. -/
  | notJson (message : Text)
  /-- A value is out of range. -/
  | badValue (message : Text)
  /-- Any other fault. -/
  | fault (message : Text)

namespace Interrupt

/-- The message if a text is no JSON. -/
def notJson? : Interrupt → Option Text
  | .notJson message => some message
  | _ => none

/-- The message if a value is out of range; a text that is no JSON is such a value too. -/
def badValue? : Interrupt → Option Text
  | .notJson message | .badValue message => some message
  | _ => none

/-- The message of any fault.  Leaving the program is none. -/
def fault? : Interrupt → Option Text
  | .notJson message | .badValue message | .fault message => some message
  | .exit _ => none

end Interrupt

/-- What a part of a program does: the lines it prints, and the value it ends with unless it is
interrupted. -/
structure Script (α : Type) where
  printed : List Text
  ending : Except Interrupt α

namespace Script

variable {α β : Type}

instance : Monad Script where
  pure value := ⟨[], .ok value⟩
  bind first next := match first.ending with
    | .ok value => ⟨first.printed ++ (next value).printed, (next value).ending⟩
    | .error interrupt => ⟨first.printed, .error interrupt⟩

/-- Prints a value on a line of its own. -/
def print (value : Json) : Script Unit := ⟨[value.write ++ "\n"], .ok ()⟩

/-- Interrupts the program. -/
def raise (interrupt : Interrupt) : Script α := ⟨[], .error interrupt⟩

/-- Prints a value and leaves the program. -/
def fail (value : Json) : Script α := do
  print value
  raise (.exit 1)

/-- Goes on with the handler where the body is interrupted by something that is caught. -/
def handling (caught : Interrupt → Option Text) (body : Script α) (handler : Text → Script α) :
    Script α :=
  match body.ending with
  | .ok _ => body
  | .error interrupt =>
    match caught interrupt with
    | some message =>
      ⟨body.printed ++ (handler message).printed, (handler message).ending⟩
    | none => body

end Script

open Script

/-! ## The program -/

/-- Reads the input. -/
def readInput (source : Text) : Script Json :=
  match Json.read source with
  | .ok value => pure value
  | .error e =>
    -- The limit on integers is not a matter of JSON, and is not reported as one.
    if e.problem = .overlongInteger then raise (.badValue (e.message source))
    else raise (.notJson (e.message source))

/-- Loads the settings. -/
def loadSettings (environment : Settings.Environment) : Script Settings :=
  match Settings.load environment with
  | .ok settings => pure settings
  | .error e => raise (.badValue e.message)

/-- The printed report on given code. -/
def codePayload (settings : Settings) (session : Session) (serial : Nat) (code name : Json) :
    Script Json := do
  let .string t := code | fail (failure "'code' must be a string")
  let some chars := t.chars? | raise (.badValue (surrogateMessage t))
  if settings.maxCodeBytes < Utf8.size chars then
    fail (failure ("Code exceeds " ++ Text.ofInt settings.maxCodeBytes ++ " bytes"))
  let name := if name.isGiven then name else .string settings.defaultFileName
  match (ScanReport.build session serial chars name).outcome with
  | .ok report => return Batch.payload report
  | .error issues => raise (.badValue issues.text)

/-- The printed yield of given files. -/
def filesPayload (files : FileSource) (settings : Settings) (session : Session) (serial : Nat)
    (entries : Json) : Script Json := do
  let .array entries := entries | fail (failure "'files' must be a list")
  match Batch.run files settings session serial entries with
  | .ok yield => return yield.toJson
  | .error stopped => raise (.fault stopped.cause.message)

/-- Prints a payload, or the message of the fault that keeps it from being computed. -/
def reporting (payload : Script Json) : Script Unit :=
  let body : Script Unit := do print (← payload)
  handling Interrupt.fault? body fun message => fail (failure message)

/-- Answers a request whose settings are known, step by step. -/
def dispatch (settings : Settings) (call : Invocation) (members : Json.Members) : Script Unit :=
  let given (name : Text) : Json := (members.get? name).getD .null
  match given "files", given "code" with
  | .null, .null => fail usage
  | .null, code =>
    reporting (codePayload settings call.session call.serial code (given "file_name"))
  | entries, _ => reporting (filesPayload call.files settings call.session call.serial entries)

/-- Answers a request step by step. -/
def script (call : Invocation) : Script Unit := do
  let input ← handling Interrupt.notJson? (readInput call.input) fun message =>
    fail (failure ("Invalid JSON input: " ++ message))
  let .object members := input | fail (failure "Input must be a JSON object")
  let settings ← handling Interrupt.badValue? (loadSettings call.environment) fun message =>
    fail (failure ("Invalid configuration: " ++ message))
  dispatch settings call members

/-! ## The outcome -/

/-- Printing an answer and ending with an exit code, or without one where it is zero. -/
def ending (answer : Json) (exitCode : Nat) : Script Unit :=
  ⟨[answer.write ++ "\n"], if exitCode = 0 then .ok () else .error (.exit exitCode)⟩

theorem reporting_pure (payload : Json) : reporting (pure payload) = ending payload 0 := rfl

/-- A failure inside is printed once: leaving the program is not caught. -/
theorem reporting_fail (answer : Json) : reporting (fail answer) = ending answer 1 := rfl

/-- A fault inside is printed with its message, whatever kind it is of. -/
theorem reporting_raise {interrupt : Interrupt} {message : Text}
    (h : interrupt.fault? = some message) :
    reporting (raise interrupt) = ending (failure message) 1 := by
  cases interrupt <;> cases h <;> rfl

/-- The script of what came of a scan. -/
def Work.script (work : Work) : Script Unit :=
  match work.outcome with
  | .ok payload => ending payload 0
  | .error answer => ending answer 1

/-- Scanning code step by step comes to what came of it. -/
theorem reporting_codePayload (settings : Settings) (session : Session) (serial : Nat)
    (code name : Json) :
    reporting (codePayload settings session serial code name) =
      (scanCode settings session serial code name).script := by
  cases code with
  | string t =>
    simp only [codePayload, scanCode]
    cases t.chars? with
    | none => exact reporting_raise rfl
    | some chars =>
      by_cases hsize : settings.maxCodeBytes < Utf8.size chars
      · simp only [if_pos hsize]
        exact reporting_fail _
      · simp only [if_neg hsize]
        cases (ScanReport.build session serial chars
          (if name.isGiven then name else .string settings.defaultFileName)).outcome with
        | error issues => exact reporting_raise rfl
        | ok report => exact reporting_pure _
  | _ => exact reporting_fail _

/-- Scanning files step by step comes to what came of it. -/
theorem reporting_filesPayload (files : FileSource) (settings : Settings) (session : Session)
    (serial : Nat) (entries : Json) :
    reporting (filesPayload files settings session serial entries) =
      (scanFiles files settings session serial entries).script := by
  cases entries with
  | array entries =>
    simp only [filesPayload, scanFiles]
    cases Batch.run files settings session serial entries with
    | error stopped => exact reporting_raise rfl
    | ok yield => exact reporting_pure _
  | _ => exact reporting_fail _

/-- So does every request whose settings are known. -/
theorem dispatch_eq (settings : Settings) (call : Invocation) (members : Json.Members) :
    dispatch settings call members = (answer settings call members).script := by
  simp only [dispatch, answer]
  cases (members.get? "files").getD .null with
  | null =>
    cases (members.get? "code").getD .null with
    | null => rfl
    | _ => exact reporting_codePayload ..
  | _ => exact reporting_filesPayload ..

/-- What came of a scan is printed, and the exit code tells whether it was a failure. -/
theorem script_answer (settings : Settings) (call : Invocation) (members : Json.Members) :
    (answer settings call members).script =
      ending (runWith settings call members).answer (runWith settings call members).exitCode := by
  simp only [runWith, Work.script]
  cases (answer settings call members).outcome <;> rfl

/-- The steps come to the outcome. -/
theorem script_eq {call : Invocation}
    (hdigits : ∀ e, Json.read call.input = .error e →
      e.problem ≠ .overlongInteger) :
    script call = ending (run call).answer (run call).exitCode := by
  simp only [script, run, readInput, loadSettings]
  cases hread : Json.read call.input with
  | error e =>
    simp only [if_neg (hdigits e hread)]
    rfl
  | ok value =>
    cases value with
    | object members =>
      cases Settings.load call.environment with
      | error e => rfl
      | ok settings => exact (dispatch_eq ..).trans (script_answer ..)
    | _ => rfl

end CommandLine

end CodeScan
