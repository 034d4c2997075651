import CodeScan.Proofs.Catalog.BuiltIn
import CodeScan.Proofs.Scan.OccurrenceId
import CodeScan.Proofs.Text.Lines
import Mathlib.Data.List.Basic

/-!
# Scanning a snippet again

A finding shows its line without the blanks around it.  Scanning that snippet reports the same rules
as the scan of the whole text did on that line.

A snippet is a single line, since nothing in it could end one.  So it remains to see that every
built-in rule takes a trimmed line like the line itself, which is `matchesLine_strip`.
-/

namespace CodeScan

/-- A trimmed line is a single line. -/
theorem Text.splitLines_strip {line : List Char} (hne : strip line ≠ []) (h : '\n' ∉ line) :
    splitLines (strip line) = [strip line] := by
  have hreturn : dropReturn (strip line) = strip line := by
    rw [dropReturn, if_neg]
    intro hlast
    have hsolid : isBlank '\r' = false := test_of_getLast?_trimWhere hlast
    exact absurd hsolid (by decide)
  rw [splitLines_of_not_mem hne fun hmem => h (mem_of_mem_strip hmem), hreturn]

namespace Scan

namespace Sighting

/-- The candidates with one line number are those of one line. -/
theorem filter_lineNumber_flatMap {rules : List Rule} {lines : List (List Char)} {line : List Char}
    {start n : Nat} (h : (line, n) ∈ lines.zipIdx start) :
    (((lines.zipIdx start).flatMap fun (line, n) =>
        rules.map fun rule => (⟨n, line, rule⟩ : Sighting)).filter fun s => s.lineNumber = n) =
      rules.map fun rule => ⟨n, line, rule⟩ := by
  induction lines generalizing start with
  | nil => simp at h
  | cons first rest ih =>
    rw [List.zipIdx_cons, List.mem_cons] at h
    rw [List.zipIdx_cons, List.flatMap_cons, List.filter_append]
    rcases h with h | h
    · obtain ⟨rfl, rfl⟩ := Prod.mk.inj h
      -- The lines that follow have greater numbers.
      have hrest : ((rest.zipIdx (n + 1)).flatMap fun (line, n) =>
          rules.map fun rule => (⟨n, line, rule⟩ : Sighting)).filter (fun s => s.lineNumber = n) =
            [] := by
        rw [List.filter_eq_nil_iff]
        intro s hs
        obtain ⟨p, hp, hs⟩ := List.mem_flatMap.1 hs
        obtain ⟨rule, -, rfl⟩ := List.mem_map.1 hs
        have := List.le_snd_of_mem_zipIdx hp
        simp only [decide_eq_true_eq]
        omega
      rw [hrest, List.append_nil, List.filter_eq_self]
      intro s hs
      obtain ⟨rule, -, rfl⟩ := List.mem_map.1 hs
      simp
    · have hlt := List.le_snd_of_mem_zipIdx h
      rw [ih h, List.filter_map, List.filter_eq_nil_iff.2]
      · rfl
      · intro rule _
        simp only [Function.comp, decide_eq_true_eq]
        omega

/-- The rules that a report names on one line. -/
theorem map_ruleId?_filter_report (fileName : Text) (n : Nat) (xs : List Sighting) :
    ((report fileName xs).filter fun f => f.lineNumber = (n : Int)).map Finding.ruleId? =
      (xs.filter fun s => s.lineNumber = n).map fun s => some s.rule.id := by
  have hpairs : (report fileName xs).map (fun f => (f.lineNumber, f.ruleId?)) =
      xs.map fun s => ((s.lineNumber : Int), some s.rule.id) := by
    refine map_report (fun s k => ?_) xs
    rw [ruleId?_finding]
    rfl
  have honLine :=
    congrArg (fun pairs => (pairs.filter fun p => p.1 = (n : Int)).map Prod.snd) hpairs
  simpa [List.filter_map, Function.comp_def, Int.natCast_inj] using honLine

end Sighting

open Sighting

/-- On one line a search keeps the rules that match it. -/
theorem filter_lineNumber_kept_search {rules : List Rule} {code line : List Char} {n : Nat}
    (h : (line, n) ∈ (Text.splitLines code).zipIdx 1) :
    ((kept search rules code).filter fun s => s.lineNumber = n) =
      (rules.filter fun rule => rule.matchesLine line).map fun rule => ⟨n, line, rule⟩ := by
  rw [kept_search, List.filter_comm, candidates, filter_lineNumber_flatMap h, List.filter_map]
  rfl

/-- A search of a single line keeps the rules that match it. -/
theorem kept_search_of_splitLines {rules : List Rule} {line : List Char}
    (h : Text.splitLines line = [line]) :
    kept search rules line =
      (rules.filter fun rule => rule.matchesLine line).map fun rule => ⟨1, line, rule⟩ := by
  rw [kept_search, h]
  simp only [candidates, List.zipIdx_singleton, List.flatMap_singleton, List.filter_map]
  rfl

/-- A search of a snippet keeps the rules that match the line it was taken from. -/
theorem kept_search_strip {code : List Char} {s : Sighting}
    (h : s ∈ kept search Catalog.builtIn code) :
    kept search Catalog.builtIn (Text.strip s.line) =
      (Catalog.builtIn.filter fun rule => rule.matchesLine s.line).map fun rule =>
        ⟨1, Text.strip s.line, rule⟩ := by
  obtain ⟨hline, hrule, hmatch⟩ := mem_kept_search h
  have hne : Text.strip s.line ≠ [] := by
    -- Nothing is left of a line of blanks only, and no rule matches such a line.
    intro hnil
    rw [Catalog.matchesLine_strip hrule, hnil,
      Catalog.matchesLine_of_isAllBlank hrule rfl] at hmatch
    exact Bool.noConfusion hmatch
  have hnewline : '\n' ∉ s.line :=
    Text.newline_not_mem_of_mem_splitLines (List.fst_mem_of_mem_zipIdx hline)
  rw [kept_search_of_splitLines (Text.splitLines_strip hne hnewline)]
  exact congrArg _ (List.filter_congr fun r hr => (Catalog.matchesLine_strip hr s.line).symm)

/-- The built-in catalog has 22 rules, each with an identifier of its own.  Each of them takes a
line like the trimmed line and is not found in a line of blanks.  So the snippet of a finding,
scanned again, reports the rules that were reported on its line, in their order, all of them on the
first line and with the same snippet. -/
theorem detect_snippet (code : List Char) (fileName : Text) :
    Catalog.builtIn.length = 22 ∧ (Catalog.builtIn.map Rule.id).Nodup ∧
      (∀ rule ∈ Catalog.builtIn, ∀ line,
        rule.matchesLine line = rule.matchesLine (Text.strip line) ∧
          (Text.isAllBlank line = true → rule.matchesLine line = false)) ∧
      let findings (code : List Char) := (detect Catalog.builtIn code fileName).findings
      ∀ f ∈ findings code, ∃ (snippet : List Char) (flagged : List Rule),
        f.unsafeCode = Text.ofChars snippet ∧ flagged.Sublist Catalog.builtIn ∧
          ((findings code).filter fun g => g.lineNumber = f.lineNumber).map Finding.ruleId? =
            flagged.map (fun rule => some rule.id) ∧
          (findings snippet).map Finding.ruleId? = flagged.map (fun rule => some rule.id) ∧
          ∀ g ∈ findings snippet, g.lineNumber = 1 ∧ g.unsafeCode = f.unsafeCode := by
  refine ⟨Catalog.length_builtIn, Catalog.nodup_id_builtIn, fun rule hrule line =>
    ⟨Catalog.matchesLine_strip hrule line, Catalog.matchesLine_of_isAllBlank hrule⟩, ?_⟩
  intro findings f hf
  simp only [findings, detect, detectWith_findings] at hf ⊢
  obtain ⟨s, hs, k, rfl⟩ := exists_of_mem_report hf
  -- A snippet is one line, and stripped, so scanning it asks the same of the same rules.
  have hagain := kept_search_strip hs
  refine ⟨Text.strip s.line, Catalog.builtIn.filter fun rule => rule.matchesLine s.line, rfl,
    List.filter_sublist, ?_, ?_, fun g hg => ?_⟩
  · refine (map_ruleId?_filter_report fileName s.lineNumber _).trans ?_
    rw [filter_lineNumber_kept_search (mem_kept_search hs).1, List.map_map]
    rfl
  · rw [map_report (ruleId?_finding fileName), hagain, List.map_map]
    rfl
  · obtain ⟨x, hx, j, rfl⟩ := exists_of_mem_report hg
    rw [hagain] at hx
    obtain ⟨rule, -, rfl⟩ := List.mem_map.1 hx
    refine ⟨rfl, ?_⟩
    simp only [finding, Text.strip_strip]

end Scan

end CodeScan
