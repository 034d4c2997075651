import CodeScan.Proofs.Scan.Metrics
import CodeScan.Proofs.Scan.OccurrenceId
import Mathlib.Data.List.Perm.Basic

/-!
# Rules do not see each other

A scan carries one tally through all its rules, and its report interleaves their findings.  Still no
rule is touched by its neighbours, as long as no two of them share an identifier:
`detect_independent` says what a scan with some of the rules, and a scan with the rules in another
order, report.

## Shape of the argument

The occurrence number of a sighting counts earlier sightings of its own identifier.  So leaving out
all sightings of other identifiers changes no number (`numbered_filter`), and this is what a scan
with fewer rules does.

For another order of the rules the scan is taken line by line.  The sightings of one line have
distinct identifiers, hence each is numbered by the lines before it alone
(`report_append_of_nodup`), and a count over those lines does not depend on their order.
-/

namespace CodeScan

namespace Scan

namespace Sighting

/-! ## Some of the rules -/

/-- Rules with distinct identifiers are told apart by them, so a part of the rules is known by its
identifiers. -/
theorem eq_filter_of_sublist {part rules : List Rule} (h : part.Sublist rules)
    (hids : (rules.map Rule.id).Nodup) :
    part = rules.filter fun rule => rule.id ∈ part.map Rule.id := by
  induction h with
  | slnil => rfl
  | @cons part rules rule hsub ih =>
    rw [List.map_cons, List.nodup_cons] at hids
    have hother : rule.id ∉ part.map Rule.id := fun hmem =>
      hids.1 ((hsub.map Rule.id).subset hmem)
    rw [List.filter_cons_of_neg (by simpa using hother)]
    exact ih hids.2
  | @cons_cons part rules rule hsub ih =>
    rw [List.map_cons, List.nodup_cons] at hids
    have hrest : (rules.filter fun other => other.id ∈ (rule :: part).map Rule.id) =
        rules.filter fun other => other.id ∈ part.map Rule.id := by
      refine List.filter_congr fun other hother => ?_
      have hne : other.id ≠ rule.id := fun heq => hids.1 (heq ▸ List.mem_map_of_mem hother)
      simp [hne]
    rw [List.filter_cons_of_pos (by simp), hrest, ← ih hids.2]

/-- Fewer rules are tried as if the others were left out. -/
theorem candidates_filter (test : Rule → Bool) (rules : List Rule) (lines : List (List Char)) :
    candidates (rules.filter test) lines =
      (candidates rules lines).filter fun s => test s.rule := by
  rw [candidates, candidates, List.filter_flatMap]
  simp only [List.filter_map]
  rfl

/-- What is numbered by identifier keeps its numbers if other identifiers are left out. -/
theorem numbered_filter (test : Text → Bool) (xs : List Sighting) :
    numbered (xs.filter fun s => test s.rule.id) =
      (numbered xs).filter fun p => test p.1.rule.id := by
  induction xs using List.reverseRecOn with
  | nil => rfl
  | append_singleton xs s ih =>
    rw [numbered_concat, List.filter_append, List.filter_append, ← ih]
    by_cases htest : test s.rule.id = true
    · have hcount : countOf s.rule.id (xs.filter fun s => test s.rule.id) =
          countOf s.rule.id xs := by
        rw [countOf, countOf, List.countP_filter]
        refine List.countP_congr fun x _ => ?_
        simp only [Bool.and_eq_true, decide_eq_true_eq]
        exact ⟨fun h => h.1, fun h => ⟨h, by rw [h]; exact htest⟩⟩
      have hkeep : [s].filter (fun s => test s.rule.id) = [s] := by simp [htest]
      rw [hkeep, numbered_concat, hcount]
      simp [htest]
    · simp [htest]

/-- The report on the sightings of some identifiers is the part of the report that names them. -/
theorem report_filter (fileName : Text) (test : Text → Bool) (xs : List Sighting) :
    report fileName (xs.filter fun s => test s.rule.id) =
      (report fileName xs).filter fun f => f.ruleId?.any test := by
  rw [report, numbered_filter, report, List.filter_map]
  refine congrArg _ (List.filter_congr fun p _ => ?_)
  simp only [Function.comp, ruleId?_finding, Option.any_some]

/-! ## The rules in another order -/

/-- Sightings with distinct identifiers are all first ones. -/
theorem numbered_of_nodup {xs : List Sighting} (h : (xs.map fun s => s.rule.id).Nodup) :
    numbered xs = xs.map fun s => (s, 1) := by
  induction xs using List.reverseRecOn with
  | nil => rfl
  | append_singleton xs s ih =>
    rw [List.map_append, List.nodup_append] at h
    have hfresh : countOf s.rule.id xs = 0 := by
      rw [countOf, List.countP_eq_zero]
      intro x hx
      have hne := h.2.2 _ (List.mem_map_of_mem hx) s.rule.id (by simp)
      simpa using hne
    rw [numbered_concat, ih h.1, hfresh, List.map_append]
    rfl

/-- Sightings with distinct identifiers are numbered by what comes before all of them. -/
theorem report_append_of_nodup (fileName : Text) (xs : List Sighting) {ys : List Sighting}
    (h : (ys.map fun s => s.rule.id).Nodup) :
    report fileName (xs ++ ys) =
      report fileName xs ++ ys.map fun s => s.finding fileName (1 + countOf s.rule.id xs) := by
  rw [report, numbered_append, numbered_of_nodup h, List.map_append, ← report, List.map_map,
    List.map_map]
  rfl

/-- The sightings of one numbered line: those of the rules that match it. -/
def onLine (rules : List Rule) (p : List Char × Nat) : List Sighting :=
  (rules.filter fun rule => rule.matchesLine p.1).map fun rule => ⟨p.2, p.1, rule⟩

variable {rules reordered : List Rule}

/-- On one line no rule is found twice if the identifiers differ. -/
theorem nodup_ruleId_onLine (hids : (rules.map Rule.id).Nodup) (p : List Char × Nat) :
    ((onLine rules p).map fun s => s.rule.id).Nodup := by
  rw [onLine, List.map_map]
  exact (List.filter_sublist.map Rule.id).nodup hids

/-- On one line the order of the rules only orders what is found. -/
theorem onLine_perm (hperm : reordered.Perm rules) (p : List Char × Nat) :
    (onLine reordered p).Perm (onLine rules p) :=
  (hperm.filter _).map _

/-- However the rules are ordered, the same findings are reported on the same numbered lines. -/
theorem report_flatMap_onLine_perm (fileName : Text) (hids : (rules.map Rule.id).Nodup)
    (hperm : reordered.Perm rules) (lines : List (List Char × Nat)) :
    (report fileName (lines.flatMap (onLine reordered))).Perm
      (report fileName (lines.flatMap (onLine rules))) := by
  have hids' : (reordered.map Rule.id).Nodup := (hperm.map Rule.id).nodup_iff.2 hids
  induction lines using List.reverseRecOn with
  | nil => exact List.Perm.refl _
  | append_singleton lines p ih =>
    have hcount (ruleId : Text) : countOf ruleId (lines.flatMap (onLine reordered)) =
        countOf ruleId (lines.flatMap (onLine rules)) := by
      apply List.Perm.countP_eq
      exact List.Perm.flatMap_left lines fun p _ => onLine_perm hperm p
    rw [List.flatMap_append, List.flatMap_append, List.flatMap_singleton, List.flatMap_singleton,
      report_append_of_nodup fileName _ (nodup_ruleId_onLine hids' p),
      report_append_of_nodup fileName _ (nodup_ruleId_onLine hids p)]
    simp only [hcount]
    exact ih.append ((onLine_perm hperm p).map _)

/-- The line numbers of the sightings do not depend on the order of the rules. -/
theorem map_lineNumber_flatMap_onLine (hperm : reordered.Perm rules)
    (lines : List (List Char × Nat)) :
    (lines.flatMap (onLine reordered)).map lineNumber =
      (lines.flatMap (onLine rules)).map lineNumber := by
  have hline (rules : List Rule) (p : List Char × Nat) :
      (onLine rules p).map lineNumber = List.replicate (onLine rules p).length p.2 := by
    rw [onLine, List.map_map, List.length_map]
    exact List.map_const
  rw [List.map_flatMap, List.map_flatMap]
  refine congrArg (lines.flatMap ·) (funext fun p => ?_)
  rw [hline, hline, (onLine_perm hperm p).length_eq]

end Sighting

open Sighting

/-- Rules that are left out leave the findings of the others as they are. -/
theorem kept_search_filter (test : Rule → Bool) (rules : List Rule) (code : List Char) :
    kept search (rules.filter test) code =
      (kept search rules code).filter fun s => test s.rule := by
  rw [kept_search, kept_search, candidates_filter, List.filter_filter, List.filter_filter]
  simp only [Bool.and_comm]

/-- What is found is what is found line by line. -/
theorem kept_search_eq_flatMap (rules : List Rule) (code : List Char) :
    kept search rules code = ((Text.splitLines code).zipIdx 1).flatMap (onLine rules) := by
  rw [kept_search, candidates, List.filter_flatMap]
  simp only [List.filter_map]
  rfl

/-- Scanning with some of the rules reports what the scan with all of them reports for these. -/
theorem findings_of_sublist {part rules : List Rule} (hids : (rules.map Rule.id).Nodup)
    (hpart : part.Sublist rules) (code : List Char) (fileName : Text) :
    (detect part code fileName).findings =
      (detect rules code fileName).findings.filter fun f =>
        f.ruleId?.any fun ruleId => ruleId ∈ part.map Rule.id := by
  have hkept : kept search part code =
      (kept search rules code).filter fun s => decide (s.rule.id ∈ part.map Rule.id) := by
    conv_lhs => rw [eq_filter_of_sublist hpart hids]
    exact kept_search_filter (fun rule => decide (rule.id ∈ part.map Rule.id)) rules code
  rw [detect, detectWith_findings, hkept, detect, detectWith_findings]
  exact report_filter fileName (fun ruleId => decide (ruleId ∈ part.map Rule.id)) _

/-- More rules leave no fewer lines vulnerable, and so the code no healthier. -/
theorem ownMetrics_of_subset {part rules : List Rule} (hpart : part ⊆ rules) (code : List Char)
    (fileName : Text) :
    (ownMetrics part code fileName).vulnerableLines ≤
        (ownMetrics rules code fileName).vulnerableLines ∧
      (ownMetrics rules code fileName).healthPercentage ≤
        (ownMetrics part code fileName).healthPercentage := by
  have hany (line : List Char) (h : (part.any fun rule => rule.matchesLine line) = true) :
      (rules.any fun rule => rule.matchesLine line) = true := by
    obtain ⟨rule, hrule, hmatch⟩ := List.any_eq_true.1 h
    exact List.any_eq_true.2 ⟨rule, hpart hrule, hmatch⟩
  rw [ownMetrics_eq, ownMetrics_eq]
  constructor
  · exact Int.ofNat_le.2 (List.countP_mono_left fun line _ => hany line)
  · refine healthPercentage_mono (Int.ofNat_le.2 (List.countP_mono_left fun line _ hclean => ?_)) _
    rw [Bool.not_eq_true', Bool.eq_false_iff] at hclean ⊢
    exact fun h => hclean (hany line h)

/-- Rules with distinct identifiers do not see each other.  A part of the rules reports, with the
same identifiers, what all of them report for that part, and it finds no more vulnerable lines and
no worse health.  In another order the rules report the same findings with the same identifiers,
ordered differently only within a line, and the metrics are the same. -/
theorem detect_independent (rules : List Rule) (hids : (rules.map Rule.id).Nodup)
    (code : List Char) (fileName : Text) :
    let findings (rules : List Rule) := (detect rules code fileName).findings
    let metrics (rules : List Rule) := ownMetrics rules code fileName
    (∀ part : List Rule, part.Sublist rules →
      findings part =
          (findings rules).filter (fun f =>
            f.ruleId?.any fun ruleId => ruleId ∈ part.map Rule.id) ∧
        (metrics part).vulnerableLines ≤ (metrics rules).vulnerableLines ∧
        (metrics rules).healthPercentage ≤ (metrics part).healthPercentage) ∧
      ∀ reordered : List Rule, reordered.Perm rules →
        (findings reordered).Perm (findings rules) ∧
          (findings reordered).map Finding.lineNumber = (findings rules).map Finding.lineNumber ∧
          (∀ n : Int, ((findings reordered).filter fun f => f.lineNumber = n).Perm
            ((findings rules).filter fun f => f.lineNumber = n)) ∧
          metrics reordered = metrics rules := by
  intro findings metrics
  refine ⟨fun part hpart => ⟨findings_of_sublist hids hpart code fileName,
    ownMetrics_of_subset hpart.subset code fileName⟩, fun reordered hperm => ?_⟩
  have hfindings (rules : List Rule) : findings rules =
      report fileName (((Text.splitLines code).zipIdx 1).flatMap (onLine rules)) := by
    rw [← kept_search_eq_flatMap, ← detectWith_findings]
    rfl
  -- The order of the rules matters on one line only, and there a finding depends on its own rule.
  have hreport : (findings reordered).Perm (findings rules) := by
    rw [hfindings, hfindings]
    exact report_flatMap_onLine_perm fileName hids hperm _
  have hlines : (findings reordered).map Finding.lineNumber =
      (findings rules).map Finding.lineNumber := by
    have hnumber (s : Sighting) (k : Nat) :
        (s.finding fileName k).lineNumber = Int.ofNat s.lineNumber := rfl
    rw [hfindings, hfindings, map_report hnumber, map_report hnumber]
    have hsame := map_lineNumber_flatMap_onLine hperm ((Text.splitLines code).zipIdx 1)
    simpa only [List.map_map, Function.comp_def] using congrArg (List.map Int.ofNat) hsame
  exact ⟨hreport, hlines, fun n => hreport.filter _,
    congrArg (Metrics.ofLineNumbers code) hlines⟩

/-- Two rules, one identifier a start of the other: the second rule alone numbers its findings as it
does beside the first one, and in the other order the findings are the same. -/
theorem detect_independent_two_rules :
    let first : Rule := ⟨"a", "a", .char 'a', "", .codeQuality, "", "", "", ""⟩
    let second : Rule := ⟨"a-1", "b", .char 'b', "", .codeQuality, "", "", "", ""⟩
    let code := ['b', 'a', '\n', 'b']
    ([first, second].map Rule.id).Nodup ∧
      ((detect [first, second] code "f").findings.filter fun f =>
        f.ruleId?.any fun ruleId => ruleId ∈ [second].map Rule.id).map Finding.id =
          ["a-1-1-1", "a-1-2-2"].map Text.ofString ∧
      (detect [second, first] code "f").findings.Perm
        (detect [first, second] code "f").findings := by
  intro first second code
  have hids : ([first, second].map Rule.id).Nodup := by decide
  have hindependent := detect_independent [first, second] hids code "f"
  refine ⟨hids, ?_, (hindependent.2 [second, first] (List.Perm.swap _ _ [])).1⟩
  rw [← (hindependent.1 [second] (List.sublist_cons_self _ _)).1]
  decide +kernel

end Scan

end CodeScan
