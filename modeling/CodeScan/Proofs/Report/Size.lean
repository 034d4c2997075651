import CodeScan.Proofs.Catalog.BuiltIn
import CodeScan.Proofs.Report.Consistency
import CodeScan.Proofs.Text.Lines
import Mathlib.Algebra.Order.BigOperators.Group.List
import Mathlib.Algebra.Order.Group.Nat

/-!
# How large the numbers of a report get

No number of a report on a scan exceeds the number of characters of the code.  For the lines this is
clear.  For the findings it rests on the catalog: the words of its patterns are chosen so that
different rules find theirs at different places of a line (`length_filter_matchesLine_le`).

The code is not larger than the configured limit, and that is a number of limited length itself.
-/

namespace CodeScan

/-! ## Lines -/

namespace Text

/-- The pieces of a list and the separators between them are as long as the list. -/
theorem length_flatten_splitOn {α : Type} [DecidableEq α] (separator : α) (xs : List α) :
    (splitOn separator xs).flatten.length + (splitOn separator xs).length = xs.length + 1 := by
  induction xs with
  | nil => rfl
  | cons x xs ih =>
    rw [splitOn]
    split
    · rw [List.flatten_cons, List.nil_append, List.length_cons, List.length_cons]
      omega
    · split
      · rename_i hnil
        exact absurd hnil (splitOn_ne_nil xs)
      · rename_i piece pieces hpieces
        rw [hpieces, List.flatten_cons, List.length_append, List.length_cons] at ih
        simp only [List.flatten_cons, List.length_append, List.length_cons]
        omega

/-- A text has at most as many lines as characters, and all lines together are not longer than the
text. -/
theorem length_splitLines_le (code : List Char) :
    (splitLines code).length ≤ code.length ∧ (splitLines code).flatten.length ≤ code.length := by
  have hpieces : (dropFinalEmpty (splitOn '\n' code)).length ≤ code.length ∧
      (dropFinalEmpty (splitOn '\n' code)).flatten.length ≤ code.length := by
    have hlength := length_flatten_splitOn '\n' code
    obtain ⟨init, last, hsplit⟩ : ∃ init last, splitOn '\n' code = init ++ [last] :=
      ⟨_, _, (List.dropLast_concat_getLast (splitOn_ne_nil code)).symm⟩
    rw [hsplit] at hlength ⊢
    -- An empty last piece is dropped, and any other makes up for the separator that it lacks.
    cases last with
    | nil =>
      have hdrop : dropFinalEmpty (init ++ [[]]) = init := by simp [dropFinalEmpty]
      rw [List.flatten_append, List.flatten_singleton, List.append_nil, List.length_append,
        List.length_singleton] at hlength
      rw [hdrop]
      omega
    | cons c last =>
      have hdrop : dropFinalEmpty (init ++ [c :: last]) = init ++ [c :: last] := by
        simp [dropFinalEmpty]
      simp only [hdrop, List.flatten_append, List.flatten_singleton, List.length_append,
        List.length_cons] at hlength ⊢
      omega
  have hreturn (line : List Char) : (dropReturn line).length ≤ line.length := by
    rw [dropReturn]
    split
    · rw [List.length_dropLast]
      exact Nat.sub_le _ _
    · exact le_rfl
  rw [List.length_flatten] at hpieces
  rw [splitLines, List.length_map, List.length_flatten, List.map_map]
  exact ⟨hpieces.1, (List.sum_le_sum fun line _ => hreturn line).trans hpieces.2⟩

end Text

/-- Every character takes a byte or more. -/
theorem Utf8.length_le_size (code : List Char) : code.length ≤ size code := by
  induction code with
  | nil => exact le_rfl
  | cons c code ih =>
    have hpos : 0 < c.utf8Size := Char.utf8Size_pos c
    have hcons : size (c :: code) = c.utf8Size + size code := rfl
    rw [hcons, List.length_cons]
    omega

/-! ## Findings -/

namespace Catalog

open Pattern

/-- A line has at least as many characters as there are built-in rules that match it. -/
theorem length_filter_matchesLine_le (line : List Char) :
    (builtIn.filter fun rule => rule.matchesLine line).length ≤ line.length := by
  let found := (definitions.zip keywords).filter fun x => x.1.rule.matchesLine line
  let rows := found.map fun x => x.2.map String.toList
  have hrules : builtIn = (definitions.zip keywords).map fun x => x.1.rule := by
    have hlength : definitions.length ≤ keywords.length := le_rfl
    rw [builtIn_eq, ← List.map_fst_zip hlength, List.map_map, List.map_fst_zip hlength]
    rfl
  have hsublist : rows.Sublist (keywords.map (List.map String.toList)) := by
    have hwords : ((definitions.zip keywords).map Prod.snd).Sublist keywords := by
      have hlength : keywords.length ≤ definitions.length := le_rfl
      rw [List.map_snd_zip hlength]
    have hrows : rows = (found.map Prod.snd).map (List.map String.toList) := by
      rw [List.map_map]
      rfl
    rw [hrows]
    exact ((List.filter_sublist.map Prod.snd).trans hwords).map _
  -- A rule that matches has one of its own keywords in the line, and keywords of different rules
  -- overlap in no place.
  have hline : ∀ words ∈ rows, ∃ w ∈ words, w <:+: line := by
    intro words hwords
    obtain ⟨⟨d, own⟩, hmem, rfl⟩ := List.mem_map.1 hwords
    obtain ⟨hmem, hmatch⟩ := List.mem_filter.1 hmem
    have hsound := isSound_definitions _ hmem
    have hchecks := check_ofText hsound
    rw [Bool.and_eq_true] at hchecks
    exact exists_infix_of_search (hasFixedLookBehind_of_parse (parse_of_writes hsound))
      hchecks.2 hmatch
  calc
    (builtIn.filter fun rule => rule.matchesLine line).length = rows.length := by
      rw [hrules, List.filter_map, List.length_map, List.length_map]
      rfl
    _ ≤ line.length := length_le_of_infix (prefixFree_keywords.sublist hsublist)
      (fun words hwords => ne_nil_keywords words (hsublist.subset hwords)) hline

end Catalog

open Scan Sighting in
/-- A scan with the built-in catalog has at most as many findings as the code has characters. -/
theorem Scan.length_findings_le (code : List Char) (fileName : Text) :
    (detect Catalog.builtIn code fileName).findings.length ≤ code.length := by
  have hlines := (Text.length_splitLines_le code).2
  rw [List.length_flatten] at hlines
  rw [detect, detectWith_findings, length_report, length_kept_search, List.length_flatMap]
  exact (List.sum_le_sum fun line _ => Catalog.length_filter_matchesLine_le line).trans hlines

/-! ## Reports -/

/-- Every number of a report is less than a bound. -/
structure ScanReport.IsBelow (bound : Nat) (r : ScanReport) : Prop where
  lineNumber_lt : ∀ f ∈ r.findings, f.lineNumber.natAbs < bound
  total_lt : r.summary.total.natAbs < bound
  totalLines_lt : r.totalLines.natAbs < bound
  cleanLines_lt : r.codeMetrics.cleanLines.natAbs < bound
  vulnerableLines_lt : r.codeMetrics.vulnerableLines.natAbs < bound
  health_lt : r.codeMetrics.healthPercentage.natAbs < bound
  count_lt : ∀ entry ∈ (breakdown r.findings).entries, entry.2 < bound

/-- The numbers of a report on code are less than every bound on the size of the code. -/
theorem ScanReport.isBelow_ofScan {code : List Char} {bound : Nat} (hcode : code.length < bound)
    (hbound : 100 < bound) (fileName id : Text) (now : Timestamp) :
    (ofScan code fileName id now).1.IsBelow bound := by
  -- All counts are at most the lines or the findings, and both are at most the characters.
  have hconsistent := isConsistent_ofScan code fileName id now
  have hlines := (Text.length_splitLines_le code).1
  have hfindings : (ofScan code fileName id now).1.findings.length ≤ code.length := by
    rw [ofScan_eq]
    exact Scan.length_findings_le code fileName
  have htotal := hconsistent.total_eq_length
  have htotalLines := hconsistent.totalLines_eq
  have hhealth := hconsistent.health_mem_range
  refine
    { lineNumber_lt := fun f hf => ?_
      total_lt := by omega
      totalLines_lt := by omega
      cleanLines_lt := ?_
      vulnerableLines_lt := ?_
      health_lt := by omega
      count_lt := fun entry hentry => ?_ }
  · have hline := hconsistent.lineNumber_mem f hf
    omega
  · have hcount := List.countP_le_length (p := fun line : List Char =>
      Catalog.builtIn.all fun rule => !rule.matchesLine line) (l := Text.splitLines code)
    rw [hconsistent.cleanLines_eq]
    omega
  · have hcount := List.countP_le_length (p := fun line : List Char =>
      Catalog.builtIn.any fun rule => rule.matchesLine line) (l := Text.splitLines code)
    rw [hconsistent.vulnerableLines_eq]
    omega
  · have hentry := Tally.le_total_of_mem hentry
    have hbreakdown := hconsistent.total_eq_breakdown
    omega

end CodeScan
