import CodeScan.Log
import CodeScan.Scan.Finding
import CodeScan.Tally
import CodeScan.Text.Lines

/-!
# Scanning code

Every line is tried against every rule, line by line and within a line in catalog order.  Each match
is one finding.  Findings of the same rule are numbered through the whole scan, which is what the
tally of rule identifiers is carried for.

How a rule is tried on a line is a parameter.  A trial may fail; that counts as no match, leaves a
warning in the log, and touches nothing else.
-/

namespace CodeScan

namespace Scan

/-- What came of trying a rule on a line. -/
inductive Trial where
  | found
  | absent
  /-- The rule could not be tried. -/
  | failed (reason : Text)
  deriving DecidableEq

/-- How rules are tried on numbered lines. -/
abbrev Trials := Rule → Nat → List Char → Trial

/-- Searches the line for the pattern of the rule. -/
def search : Trials := fun rule _ line => if rule.matchesLine line then .found else .absent

/-- What a part of a scan yields. -/
structure Yield where
  findings : List Finding
  logs : List LogRecord
  /-- How often each rule identifier has matched up to the end of this part. -/
  seen : Tally Text

/-- The part of the program whose name is in the log records of a scan. -/
def logOrigin : Text := "guardian_scan.scanner"

/-- The warning that a rule could not be tried on a line. -/
def trialWarning (rule : Rule) (lineNumber : Nat) (reason : Text) : LogRecord :=
  ⟨.warning, logOrigin, "Rule " ++ rule.id ++ " could not be evaluated on line " ++
    Text.ofNat lineNumber ++ ": " ++ reason⟩

/-- Tries the rules on one line. -/
def scanLine (trials : Trials) (fileName : Text) (lineNumber : Nat) (line : List Char) :
    List Rule → Tally Text → Yield
  | [], seen => ⟨[], [], seen⟩
  | rule :: rules, seen =>
    match trials rule lineNumber line with
    | .found =>
      let seen := seen.add rule.id
      let finding := Finding.ofMatch rule fileName lineNumber line (seen.count rule.id)
      let rest := scanLine trials fileName lineNumber line rules seen
      { rest with findings := finding :: rest.findings }
    | .absent => scanLine trials fileName lineNumber line rules seen
    | .failed reason =>
      let rest := scanLine trials fileName lineNumber line rules seen
      { rest with logs := trialWarning rule lineNumber reason :: rest.logs }

/-- Tries the rules on lines, which are numbered from the given number on. -/
def scanLines (trials : Trials) (rules : List Rule) (fileName : Text) :
    Nat → List (List Char) → Tally Text → Yield
  | _, [], seen => ⟨[], [], seen⟩
  | lineNumber, line :: lines, seen =>
    let first := scanLine trials fileName lineNumber line rules seen
    let rest := scanLines trials rules fileName (lineNumber + 1) lines first.seen
    ⟨first.findings ++ rest.findings, first.logs ++ rest.logs, rest.seen⟩

/-- The closing record of a scan. -/
def closingRecord (fileName : Text) (lines rules findings : Nat) : LogRecord :=
  ⟨.debug, logOrigin, "Scanned " ++ fileName ++ ": " ++ Text.ofNat lines ++ " lines, " ++
    Text.ofNat rules ++ " rules, " ++ Text.ofNat findings ++ " findings"⟩

/-- The findings of a scan and its log. -/
structure Result where
  findings : List Finding
  logs : List LogRecord

/-- Scans code with the given rules, tried in the given way. -/
def detectWith (trials : Trials) (rules : List Rule) (code : List Char) (fileName : Text) :
    Result :=
  let lines := Text.splitLines code
  let yielded := scanLines trials rules fileName 1 lines .empty
  ⟨yielded.findings, yielded.logs ++
    [closingRecord fileName lines.length rules.length yielded.findings.length]⟩

/-- Scans code with the given rules. -/
def detect (rules : List Rule) (code : List Char) (fileName : Text) : Result :=
  detectWith search rules code fileName

end Scan

end CodeScan
