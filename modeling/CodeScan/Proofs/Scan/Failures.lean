import CodeScan.Proofs.Scan.Independence

/-!
# Failed trials stay where they are

Trying a rule on a line may fail, at any rule and on any line.  The scan goes on as if the rule had
not been found there, and leaves a warning.  `detectWith_failures` says what this comes to: the
findings are those of a scan that finds nothing at the failing places, and the log has one warning
for each of them, before the closing record that counts everything as usual.

## Shape of the argument

The findings need no walk through the scan.  A scan reports the sightings whose trial finds the rule
(`detectWith_findings`), and a failed trial finds it as little as an absent one does.

The log does need one, along the rules of a line (`scanLine_logs`) and along the lines
(`scanLines_logs`).  Both say that the log of a part is what its candidates have to tell, whatever
tally the part began with.
-/

namespace CodeScan

namespace Scan

/-- The reason of a failed trial. -/
def Trial.reason? : Trial → Option Text
  | .failed reason => some reason
  | _ => none

/-- Where trials fail, and for what reason.  The line is given by its number. -/
abbrev Failures := Rule → Nat → Option Text

/-- The search, failing where it is told to. -/
def failingSearch (failures : Failures) : Trials := fun rule lineNumber line =>
  match failures rule lineNumber with
  | some reason => .failed reason
  | none => search rule lineNumber line

/-- The search, finding nothing where it is told to fail. -/
def quietSearch (failures : Failures) : Trials := fun rule lineNumber line =>
  match failures rule lineNumber with
  | some _ => .absent
  | none => search rule lineNumber line

namespace Sighting

/-- The warning that a rule could not be tried on a line. -/
def warning (s : Sighting) (reason : Text) : LogRecord where
  level := .warning
  origin := "guardian_scan.scanner"
  message := "Rule " ++ s.rule.id ++ " could not be evaluated on line " ++
    Text.ofNat s.lineNumber ++ ": " ++ reason

/-- Every rule is tried on every line. -/
theorem mem_candidates_iff {rules : List Rule} {lines : List (List Char)} {s : Sighting} :
    s ∈ candidates rules lines ↔ (s.line, s.lineNumber) ∈ lines.zipIdx 1 ∧ s.rule ∈ rules := by
  simp only [candidates, List.mem_flatMap, List.mem_map]
  constructor
  · rintro ⟨p, hp, rule, hrule, rfl⟩
    exact ⟨hp, hrule⟩
  · rintro ⟨hline, hrule⟩
    exact ⟨(s.line, s.lineNumber), hline, s.rule, hrule, rfl⟩

/-- Lines are numbered from one up to their number. -/
theorem lineNumber_of_mem_candidates {rules : List Rule} {lines : List (List Char)} {s : Sighting}
    (h : s ∈ candidates rules lines) : 1 ≤ s.lineNumber ∧ s.lineNumber ≤ lines.length := by
  have hline := List.mem_zipIdx (mem_candidates_iff.1 h).1
  omega

end Sighting

open Sighting

/-! ## The log -/

/-- The warning that a scan leaves. -/
theorem trialWarning_eq (rule : Rule) (lineNumber : Nat) (line : List Char) (reason : Text) :
    trialWarning rule lineNumber reason =
      (⟨lineNumber, line, rule⟩ : Sighting).warning reason := rfl

/-- The rules of one line leave a warning for each trial that fails. -/
theorem scanLine_logs (trials : Trials) (fileName : Text) (lineNumber : Nat) (line : List Char)
    (rules : List Rule) (seen : Tally Text) :
    (scanLine trials fileName lineNumber line rules seen).logs =
      (rules.map fun rule => (⟨lineNumber, line, rule⟩ : Sighting)).filterMap fun s =>
        (trials s.rule s.lineNumber s.line).reason?.map s.warning := by
  induction rules generalizing seen with
  | nil => rfl
  | cons rule rules ih =>
    rw [scanLine, List.map_cons, List.filterMap_cons]
    cases htrial : trials rule lineNumber line with
    | found => simpa only [htrial, Trial.reason?, Option.map_none] using ih _
    | absent => simpa only [htrial, Trial.reason?, Option.map_none] using ih _
    | failed reason =>
      simpa only [htrial, Trial.reason?, Option.map_some, trialWarning_eq rule lineNumber line]
        using congrArg (trialWarning rule lineNumber reason :: ·) (ih seen)

/-- The lines leave their warnings one after the other. -/
theorem scanLines_logs (trials : Trials) (rules : List Rule) (fileName : Text) (lineNumber : Nat)
    (lines : List (List Char)) (seen : Tally Text) :
    (scanLines trials rules fileName lineNumber lines seen).logs =
      ((lines.zipIdx lineNumber).flatMap fun (line, lineNumber) =>
        rules.map fun rule => (⟨lineNumber, line, rule⟩ : Sighting)).filterMap fun s =>
          (trials s.rule s.lineNumber s.line).reason?.map s.warning := by
  induction lines generalizing lineNumber seen with
  | nil => rfl
  | cons line lines ih =>
    rw [List.zipIdx_cons, List.flatMap_cons, List.filterMap_append, scanLines]
    exact congrArg₂ (· ++ ·) (scanLine_logs trials fileName lineNumber line rules seen) (ih _ _)

/-- However rules are tried, the log of a scan has a warning for each trial that fails, and then the
closing record. -/
theorem detectWith_logs (trials : Trials) (rules : List Rule) (code : List Char)
    (fileName : Text) :
    let lines := Text.splitLines code
    let scan := detectWith trials rules code fileName
    scan.logs =
      ((candidates rules lines).filterMap fun s =>
        (trials s.rule s.lineNumber s.line).reason?.map s.warning) ++
      [closingRecord fileName lines.length rules.length scan.findings.length] :=
  congrArg (· ++ _) (scanLines_logs trials rules fileName 1 (Text.splitLines code) .empty)

/-- A search fails exactly where it was said to, and for that reason. -/
theorem reason?_failingSearch (failures : Failures) (rule : Rule) (lineNumber : Nat)
    (line : List Char) :
    (failingSearch failures rule lineNumber line).reason? = failures rule lineNumber := by
  rw [failingSearch]
  cases failures rule lineNumber with
  | some reason => rfl
  | none =>
    simp only [search]
    split <;> rfl

/-! ## The findings -/

theorem failingSearch_eq_found_iff {failures : Failures} {rule : Rule} {lineNumber : Nat}
    {line : List Char} :
    failingSearch failures rule lineNumber line = .found ↔
      failures rule lineNumber = none ∧ rule.matchesLine line = true := by
  rw [failingSearch]
  cases failures rule lineNumber <;> simp [search_eq_found_iff]

theorem quietSearch_eq_found_iff {failures : Failures} {rule : Rule} {lineNumber : Nat}
    {line : List Char} :
    quietSearch failures rule lineNumber line = .found ↔
      failures rule lineNumber = none ∧ rule.matchesLine line = true := by
  rw [quietSearch]
  cases failures rule lineNumber <;> simp [search_eq_found_iff]

/-- A failing trial keeps as little as one that finds nothing. -/
theorem kept_failingSearch (failures : Failures) (rules : List Rule) (code : List Char) :
    kept (failingSearch failures) rules code = kept (quietSearch failures) rules code := by
  simp only [kept, failingSearch_eq_found_iff, quietSearch_eq_found_iff]

/-- Rules that fail on every line may as well be left out. -/
theorem kept_failingSearch_filter {failures : Failures} {rules : List Rule} {code : List Char}
    {broken : Rule → Bool}
    (hbroken : ∀ rule ∈ rules, broken rule = true → ∀ n, 1 ≤ n →
      n ≤ (Text.splitLines code).length → failures rule n ≠ none) :
    kept (failingSearch failures) rules code =
      kept (failingSearch failures) (rules.filter fun rule => !broken rule) code := by
  rw [kept, kept, candidates_filter, List.filter_filter]
  refine List.filter_congr fun s hs => ?_
  obtain ⟨hfirst, hlast⟩ := lineNumber_of_mem_candidates hs
  have hfail := hbroken s.rule (mem_candidates_iff.1 hs).2
  cases hrule : broken s.rule with
  | false => simp
  | true => simp [failingSearch_eq_found_iff, hfail hrule s.lineNumber hfirst hlast]

/-- Where no rule fails, the search is what it always is. -/
theorem kept_failingSearch_of_none {failures : Failures} {rules : List Rule}
    (h : ∀ rule ∈ rules, ∀ n, failures rule n = none) (code : List Char) :
    kept (failingSearch failures) rules code = kept search rules code := by
  refine List.filter_congr fun s hs => ?_
  have hnone := h s.rule (mem_candidates_iff.1 hs).2 s.lineNumber
  simp only [failingSearch_eq_found_iff, search_eq_found_iff, hnone, true_and]

/-- Wherever trials fail, a scan ends with the findings of a scan that finds nothing there.  Rules
that fail on every line might as well have been left out of the catalog; if only these fail, what
remains is the plain scan with the other rules.  The log has one warning for each failing place, by
line and then in the order of the rules, and then a record that counts all lines, all rules and the
findings. -/
theorem detectWith_failures (failures : Failures) (rules : List Rule) (code : List Char)
    (fileName : Text) :
    let lines := Text.splitLines code
    let scan := detectWith (failingSearch failures) rules code fileName
    scan.findings = (detectWith (quietSearch failures) rules code fileName).findings ∧
      (∀ broken : Rule → Bool,
        (∀ rule ∈ rules, broken rule = true → ∀ n, 1 ≤ n → n ≤ lines.length →
          failures rule n ≠ none) →
        let others := rules.filter fun rule => !broken rule
        scan.findings = (detectWith (failingSearch failures) others code fileName).findings ∧
          ((∀ rule ∈ others, ∀ n, failures rule n = none) →
            scan.findings = (detect others code fileName).findings)) ∧
      scan.logs =
        ((candidates rules lines).filterMap fun s =>
          (failures s.rule s.lineNumber).map s.warning) ++
        [{ level := .debug
           origin := "guardian_scan.scanner"
           message := "Scanned " ++ fileName ++ ": " ++ Text.ofNat lines.length ++ " lines, " ++
             Text.ofNat rules.length ++ " rules, " ++ Text.ofNat scan.findings.length ++
             " findings" }] := by
  intro lines scan
  refine ⟨?_, fun broken hbroken => ?_, ?_⟩
  · rw [detectWith_findings, detectWith_findings, kept_failingSearch]
  · have hothers := kept_failingSearch_filter hbroken
    refine ⟨?_, fun hnone => ?_⟩
    · rw [detectWith_findings, detectWith_findings, hothers]
    · rw [detect, detectWith_findings, detectWith_findings, hothers,
        kept_failingSearch_of_none hnone]
  · have hlogs := detectWith_logs (failingSearch failures) rules code fileName
    simp only [reason?_failingSearch] at hlogs
    exact hlogs

/-- A rule that fails on both lines beside one that is found on both: the findings are those of the
second rule alone, and the log has two warnings before its closing record. -/
theorem detectWith_failures_broken_rule :
    let broken : Rule := ⟨"b", "x", .char 'x', "", .codeQuality, "", "", "", ""⟩
    let sound : Rule := ⟨"a", "x", .char 'x', "", .codeQuality, "", "", "", ""⟩
    let code := ['x', '\n', 'x']
    let failures : Failures := fun rule _ => if rule.id = broken.id then some "late" else none
    let scan := detectWith (failingSearch failures) [broken, sound] code "f"
    (∀ rule ∈ [broken, sound], decide (rule.id = broken.id) = true → ∀ n, 1 ≤ n →
        n ≤ (Text.splitLines code).length → failures rule n ≠ none) ∧
      (∀ rule ∈ [sound], ∀ n, failures rule n = none) ∧
      scan.findings = (detect [sound] code "f").findings ∧
      scan.findings.map Finding.id = ["a-1-1", "a-2-2"].map Text.ofString ∧
      scan.logs.map LogRecord.level = [.warning, .warning, .debug] := by
  intro broken sound code failures scan
  -- The first rule fails on both lines and the second one never.
  have hbroken : ∀ rule ∈ [broken, sound], decide (rule.id = broken.id) = true → ∀ n, 1 ≤ n →
      n ≤ (Text.splitLines code).length → failures rule n ≠ none := by
    intro rule _ hid n _ _
    simp only [failures, if_pos (of_decide_eq_true hid)]
    exact Option.some_ne_none _
  have hsound : ∀ rule ∈ [sound], ∀ n, failures rule n = none := by
    intro rule hrule n
    rw [List.mem_singleton.1 hrule]
    rfl
  obtain ⟨-, hothers, -⟩ := detectWith_failures failures [broken, sound] code "f"
  have hfindings := (hothers (fun rule => decide (rule.id = broken.id)) hbroken).2 hsound
  exact ⟨hbroken, hsound, hfindings, by decide +kernel, by decide +kernel⟩

end Scan

end CodeScan
