import CodeScan.Proofs.Scan.Metrics
import CodeScan.Proofs.Scan.OccurrenceId
import CodeScan.Proofs.Text.Lines

/-!
# Scanning joined texts

Rules look at one line at a time, so a scan of two texts one after the other is the two scans one
after the other.  What the second scan found is only renamed: its line numbers go up by the number
of lines in front, and its occurrence numbers by the number of findings that the same rule
identifier had in front.

`Finding.raise` does the renaming on the findings themselves, reading the numbers from the
identifier.  The proof does it on sightings, where the numbers are at hand, and `raise_finding` says
that this is the same.

The metrics need no renaming: they count lines that some rule matches (`ownMetrics_eq`), and such
counts add up.
-/

namespace CodeScan

/-- The finding as it reads behind further lines.  `earlier` says how many findings of each rule
identifier come before it.  A finding whose identifier cannot be read stays as it is. -/
def Finding.raise (lines : Nat) (earlier : Text → Nat) (f : Finding) : Finding :=
  let raised : Option Finding := do
    let (ruleId, lineText, occurrenceText) ← origin? f.id
    let lineNumber ← lineText.decimal?
    let occurrence ← occurrenceText.decimal?
    return { f with
      id := occurrenceId ruleId (lineNumber + lines) (occurrence + earlier ruleId)
      lineNumber := f.lineNumber + lines }
  raised.getD f

namespace Scan

namespace Sighting

/-- The sighting as it stands behind further lines. -/
def shift (lines : Nat) (s : Sighting) : Sighting := { s with lineNumber := s.lineNumber + lines }

/-- What is tried on two texts is what is tried on the first, and that of the second on later lines.
-/
theorem candidates_append (rules : List Rule) (first second : List (List Char)) :
    candidates rules (first ++ second) =
      candidates rules first ++ (candidates rules second).map (shift first.length) := by
  have hzip : second.zipIdx (1 + first.length) =
      (second.zipIdx 1).map fun p => (p.1, p.2 + first.length) := by
    rw [List.zipIdx_eq_map_add, @List.zipIdx_eq_map_add _ second 1, List.map_map]
    refine List.map_congr_left fun p _ => Prod.ext rfl ?_
    exact Nat.add_right_comm 1 first.length p.2
  simp only [candidates, List.zipIdx_append, List.flatMap_append, hzip, List.flatMap_map,
    List.map_flatMap, List.map_map]
  rfl

/-- Numbers do not depend on where the lines stand. -/
theorem numbered_map_shift (lines : Nat) (xs : List Sighting) :
    numbered (xs.map (shift lines)) = (numbered xs).map fun (s, k) => (s.shift lines, k) := by
  refine List.ext_getElem (by simp [numbered]) fun n _ _ => ?_
  simp [numbered, ← List.map_take, countOf, List.countP_map, Function.comp_def, shift]

/-- Renaming a finding is renaming what was sighted. -/
theorem raise_finding (fileName : Text) (s : Sighting) (k lines : Nat) (earlier : Text → Nat) :
    (s.finding fileName k).raise lines earlier =
      (s.shift lines).finding fileName (k + earlier s.rule.id) := by
  simp only [Finding.raise, finding_id, Finding.origin?_occurrenceId, Option.bind_eq_bind,
    Option.bind_some, Text.decimal?_ofNat]
  rfl

/-- The report on further lines is raised over the report on what comes before them. -/
theorem report_append_map_shift (fileName : Text) (xs ys : List Sighting) (lines : Nat) :
    report fileName (xs ++ ys.map (shift lines)) =
      report fileName xs ++
        (report fileName ys).map (Finding.raise lines fun ruleId => countOf ruleId xs) := by
  rw [report, numbered_append, numbered_map_shift, List.map_append, ← report, report, report]
  simp only [List.map_map, Function.comp_def, raise_finding]
  rfl

/-- A report has as many findings of a rule identifier as there are sightings of it. -/
theorem countP_ruleId?_report (fileName ruleId : Text) (xs : List Sighting) :
    ((report fileName xs).countP fun f => f.ruleId? = some ruleId) = countOf ruleId xs := by
  calc
    _ = ((report fileName xs).map Finding.ruleId?).countP fun id => id = some ruleId := by
      rw [List.countP_map]
      rfl
    _ = countOf ruleId xs := by
      rw [map_report (ruleId?_finding fileName), List.countP_map, countOf]
      simp [Function.comp_def]

end Sighting

open Sighting

/-- A search of whole lines and a further text keeps the sightings of both. -/
theorem kept_search_append (rules : List Rule) {first : List Char}
    (h : first = [] ∨ first.getLast? = some '\n') (second : List Char) :
    kept search rules (first ++ second) =
      kept search rules first ++
        (kept search rules second).map (shift (Text.splitLines first).length) := by
  rw [kept_search, kept_search, kept_search, Text.splitLines_append h, candidates_append,
    List.filter_append, List.filter_map]
  rfl

/-- Scanning whole lines and a further text is scanning both and raising the second findings, so
that the line counts add up and the health lies between the healths of the two. -/
theorem detect_append (rules : List Rule) (fileName : Text) (first second : List Char)
    (h : first = [] ∨ first.getLast? = some '\n') :
    let findings (code : List Char) := (detect rules code fileName).findings
    let metrics (code : List Char) := ownMetrics rules code fileName
    findings (first ++ second) =
        findings first ++ (findings second).map
          (Finding.raise (Text.splitLines first).length fun ruleId =>
            (findings first).countP fun f => f.ruleId? = some ruleId) ∧
      (metrics (first ++ second)).totalLines =
        (metrics first).totalLines + (metrics second).totalLines ∧
      (metrics (first ++ second)).vulnerableLines =
        (metrics first).vulnerableLines + (metrics second).vulnerableLines ∧
      (metrics (first ++ second)).cleanLines =
        (metrics first).cleanLines + (metrics second).cleanLines ∧
      min (metrics first).healthPercentage (metrics second).healthPercentage ≤
        (metrics (first ++ second)).healthPercentage ∧
      (metrics (first ++ second)).healthPercentage ≤
        max (metrics first).healthPercentage (metrics second).healthPercentage := by
  intro findings metrics
  refine ⟨?_, ?_⟩
  · simp only [findings, detect, detectWith_findings, kept_search_append rules h,
      report_append_map_shift, countP_ruleId?_report]
  · simp only [metrics, ownMetrics_eq, Text.splitLines_append h, List.length_append,
      List.countP_append, Int.natCast_add, true_and]
    -- The health of the whole lies between those of the parts, as a mediant of fractions does.
    exact healthPercentage_add List.countP_le_length List.countP_le_length

/-- Two rules with one identifier, each found on both lines: the occurrence numbers run on. -/
theorem detect_append_shared_ruleId :
    let rule : Rule := ⟨"a-1", "a", .char 'a', "", .codeQuality, "", "", "", ""⟩
    let first := ['a', '\n']
    let second := ['b', 'a', '\r']
    (first = [] ∨ first.getLast? = some '\n') ∧
      (detect [rule, rule] (first ++ second) "f").findings.map Finding.id =
        ["a-1-1-1", "a-1-1-2", "a-1-2-3", "a-1-2-4"].map Text.ofString := by
  refine ⟨by decide, ?_⟩
  refine (congrArg (List.map Finding.id) (detect_append _ _ _ _ (by decide)).1).trans ?_
  decide +kernel

end Scan

end CodeScan
