import CodeScan.Log
import CodeScan.Record.Checked
import CodeScan.Text.Case

/-!
# Settings

Settings come from four environment variables, each with a default.  Loading has two stages.  First
the variables are turned into values: the list of origins is split, a size that is not blank must be
an integer literal, and the level name is put into upper case.  Then the values are read as a
record, which reports every value that is out of range.  So a size that is no integer is a fault of
its own, whatever else is wrong.

The values of variables are texts: a byte that belongs to no character is handed over as a lone
surrogate.
-/

namespace CodeScan

/-- The settings of the service and of the command line. -/
structure Settings where
  /-- The name of code that comes without one. -/
  defaultFileName : Text
  /-- The greatest size of scanned code in UTF-8 bytes. -/
  maxCodeBytes : Int
  allowedOrigins : List Text
  logLevel : LogLevel

namespace Settings

/-- The settings where nothing is configured. -/
def default : Settings where
  defaultFileName := "pasted-code.js"
  maxCodeBytes := 1000000
  allowedOrigins := ["http://localhost:5173", "http://localhost:3000", "http://localhost:8000"]
  logLevel := .info

/-- Reads the name of a log level. -/
def readLogLevel : Reader LogLevel
  | .string t =>
    match LogLevel.ofName? t with
    | some level => .ok level
    | none => .issue (.refused ("unknown log level " ++ t.quoted)) (.string t)
  | input => .issue .notString input

/-- Reads the fields of settings. -/
def readMembers (members : Json.Members) : Checked Settings :=
  Settings.mk
    <$> (FieldName.same "default_file_name").withDefault default.defaultFileName Reader.text members
    <*> (FieldName.same "max_code_bytes").withDefault default.maxCodeBytes
      (Reader.integerAbove 0) members
    <*> (FieldName.same "allowed_origins").withDefault default.allowedOrigins
      (Reader.list .notTuple Reader.text) members
    <*> (FieldName.same "log_level").withDefault default.logLevel readLogLevel members

/-- Reads settings. -/
def read : Reader Settings := Reader.record "Settings" readMembers

/-- Settings as an object. -/
def toJson (s : Settings) : Json :=
  .object
    [("default_file_name", .string s.defaultFileName), ("max_code_bytes", .int s.maxCodeBytes),
     ("allowed_origins", .array (s.allowedOrigins.map .string)),
     ("log_level", .string s.logLevel.name)]

/-- The values of the environment variables, as far as they are set. -/
structure Environment where
  defaultFileName : Option Text := none
  maxCodeBytes : Option Text := none
  allowedOrigins : Option Text := none
  logLevel : Option Text := none

/-- Why no settings can be loaded. -/
inductive LoadError where
  /-- The size is no integer. -/
  | unreadableSize (written : Text)
  /-- Values are out of range. -/
  | invalid (report : IssueReport)

/-- The wording of an error. -/
def LoadError.message : LoadError → Text
  | .unreadableSize written =>
    "GUARDIAN_MAX_CODE_BYTES must be an integer, got " ++ written.quoted
  | .invalid report => report.text

/-- The origins of a list that is separated by commas; blank pieces are dropped. -/
def splitOrigins (written : Text) : List Text :=
  let pieces := (Text.splitOn (.char ',') written).map Text.trim
  pieces.filter fun piece => !piece.isEmpty

/-- The allowed origins; an empty variable counts as unset. -/
def originsOf : Option Text → List Text
  | none | some [] => default.allowedOrigins
  | some written => splitOrigins written

/-- The size limit; a blank variable counts as unset. -/
def sizeOf : Option Text → Except LoadError Int
  | none => .ok default.maxCodeBytes
  | some written =>
    if written.all CodePoint.isBlank then .ok default.maxCodeBytes
    else match written.chars?.bind Literal.setting? with
      | some n => .ok n
      | none => .error (.unreadableSize written)

/-- The name of the log level, in upper case. -/
def levelNameOf (written : Option Text) : Text := (written.getD default.logLevel.name).upper

/-- Loads the settings of an environment. -/
def load (env : Environment) : Except LoadError Settings := do
  let size ← sizeOf env.maxCodeBytes
  let fileName := env.defaultFileName.getD default.defaultFileName
  let values : Json.Members :=
    [("default_file_name", .string fileName), ("max_code_bytes", .int size),
     ("allowed_origins", .array ((originsOf env.allowedOrigins).map .string)),
     ("log_level", .string (levelNameOf env.logLevel))]
  match readMembers values with
  | .ok settings => .ok settings
  | .bad issues => .error (.invalid ⟨"Settings", issues⟩)

end Settings

end CodeScan
