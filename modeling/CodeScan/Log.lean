import CodeScan.Text.CodePoint

/-!
# Log records

A record has a level, the name of the part of the program that made it, and a message.  Which
records are shown is decided by the configured level: a record is shown if it is at least as severe.
-/

namespace CodeScan

/-- The level names.  Two pairs of names share a severity. -/
inductive LogLevel where
  | critical
  | fatal
  | error
  | warn
  | warning
  | info
  | debug
  | notset
  deriving DecidableEq

namespace LogLevel

/-- All level names. -/
def all : List LogLevel :=
  [.critical, .fatal, .error, .warn, .warning, .info, .debug, .notset]

/-- How a level is written. -/
def name : LogLevel → Text
  | .critical => "CRITICAL"
  | .fatal => "FATAL"
  | .error => "ERROR"
  | .warn => "WARN"
  | .warning => "WARNING"
  | .info => "INFO"
  | .debug => "DEBUG"
  | .notset => "NOTSET"

/-- The level of a name. -/
def ofName? (t : Text) : Option LogLevel := all.find? fun level => level.name == t

/-- How severe a level is. -/
def severity : LogLevel → Nat
  | .critical | .fatal => 50
  | .error => 40
  | .warn | .warning => 30
  | .info => 20
  | .debug => 10
  | .notset => 0

end LogLevel

/-- A log record. -/
structure LogRecord where
  level : LogLevel
  /-- The part of the program that made the record. -/
  origin : Text
  message : Text

namespace LogRecord

/-- A record as one line, without a line feed. -/
def line (r : LogRecord) : Text := r.level.name ++ ":" ++ r.origin ++ ":" ++ r.message

/-- Whether a record is shown at a configured level. -/
def shownAt (threshold : LogLevel) (r : LogRecord) : Bool :=
  threshold.severity ≤ r.level.severity

end LogRecord

end CodeScan
