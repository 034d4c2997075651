import CodeScan.Proofs.Tally
import CodeScan.Scan.Detect
import Mathlib.Data.List.Induction

/-!
# What a scan reports

A scan walks through lines and rules with a tally in its hand.  Here the same report is described
without the walk: list every line with every rule, keep the pairs in which the rule is found, and
number what was kept.  The main statement, `detect_findings`, says that the two agree.

## Shape of the argument

A kept pair is a `Sighting`.  Its occurrence number is one more than the number of earlier sightings
of the same rule identifier, so it depends on the whole history, and the invariant has to hold the
history.  `Extends` relates what one part of a scan yields to two lists of sightings: those before
the part and those the part adds.  The findings of the part are what the report of the longer list
has beyond the report of the shorter one, and the tally at the end counts the longer list.

`scanLine_extends` carries the invariant through the rules of one line, `scanLines_extends` through
the lines.  Both rest on `numbered_append`: numbering a longer list does not renumber its start.
-/

namespace CodeScan

namespace Scan

/-- A numbered line and a rule to look for in it. -/
structure Sighting where
  /-- Counted from one. -/
  lineNumber : Nat
  line : List Char
  rule : Rule

namespace Sighting

/-- Every line with every rule: by line, and for one line in the order of the rules. -/
def candidates (rules : List Rule) (lines : List (List Char)) : List Sighting :=
  (lines.zipIdx 1).flatMap fun (line, lineNumber) =>
    rules.map fun rule => ⟨lineNumber, line, rule⟩

/-- How many sightings are of a rule with the given identifier. -/
def countOf (ruleId : Text) (sightings : List Sighting) : Nat :=
  sightings.countP fun s => s.rule.id = ruleId

/-- Sightings with their occurrence numbers.  The number of a sighting is one more than the number
of earlier ones whose rule has the same identifier. -/
def numbered (sightings : List Sighting) : List (Sighting × Nat) :=
  sightings.mapIdx fun n s => (s, countOf s.rule.id (sightings.take n) + 1)

/-- The finding that a numbered sighting stands for. -/
def finding (fileName : Text) (s : Sighting) (occurrence : Nat) : Finding where
  id := s.rule.id ++ "-" ++ Text.ofNat s.lineNumber ++ "-" ++ Text.ofNat occurrence
  fileName := fileName
  lineNumber := s.lineNumber
  kind := s.rule.kind
  category := s.rule.category
  description := s.rule.description
  mitigation := s.rule.mitigation
  explanation := s.rule.explanation
  unsafeCode := Text.ofChars (Text.strip s.line)
  safeCode := s.rule.safeCode

/-- The findings of a list of sightings. -/
def report (fileName : Text) (sightings : List Sighting) : List Finding :=
  (numbered sightings).map fun (s, occurrence) => s.finding fileName occurrence

/-! ## Numbering -/

@[simp] theorem countOf_nil (ruleId : Text) : countOf ruleId [] = 0 := rfl

@[simp] theorem countOf_append (ruleId : Text) (xs ys : List Sighting) :
    countOf ruleId (xs ++ ys) = countOf ruleId xs + countOf ruleId ys :=
  List.countP_append

theorem countOf_cons (ruleId : Text) (s : Sighting) (xs : List Sighting) :
    countOf ruleId (s :: xs) = countOf ruleId xs + if ruleId = s.rule.id then 1 else 0 := by
  simp [countOf, List.countP_cons, eq_comm]

/-- A list put in front raises the numbers of what follows and changes nothing else. -/
theorem numbered_append (xs ys : List Sighting) :
    numbered (xs ++ ys) =
      numbered xs ++ (numbered ys).map fun (s, k) => (s, k + countOf s.rule.id xs) := by
  rw [numbered, List.mapIdx_append]
  congr 1
  · refine List.mapIdx_eq_mapIdx_iff.2 fun n hn => ?_
    rw [List.take_append_of_le_length (Nat.le_of_lt hn)]
  · refine List.ext_getElem (by simp [numbered]) fun n _ _ => ?_
    -- What comes before a place of `ys` is all of `xs` and a part of `ys`.
    have htake : (xs ++ ys).take (n + xs.length) = xs ++ ys.take n := by
      rw [Nat.add_comm, List.take_length_add_append]
    simp only [numbered, List.getElem_mapIdx, List.getElem_map, htake, countOf_append]
    rw [Nat.add_comm (countOf _ xs), Nat.add_right_comm]

/-- The last sighting gets the number after those of its rule before it. -/
theorem numbered_concat (xs : List Sighting) (s : Sighting) :
    numbered (xs ++ [s]) = numbered xs ++ [(s, countOf s.rule.id xs + 1)] := by
  rw [numbered_append]
  simp [numbered, Nat.add_comm]

/-- Numbering keeps the sightings and their order. -/
@[simp] theorem map_fst_numbered (xs : List Sighting) : (numbered xs).map Prod.fst = xs := by
  refine List.ext_getElem (by simp [numbered]) fun n _ _ => ?_
  simp [numbered]

/-- Every finding of a report is that of a sighting, under some number. -/
theorem exists_of_mem_report {fileName : Text} {xs : List Sighting} {f : Finding}
    (h : f ∈ report fileName xs) : ∃ s ∈ xs, ∃ k, f = s.finding fileName k := by
  obtain ⟨⟨s, k⟩, hs, rfl⟩ := List.mem_map.1 h
  refine ⟨s, ?_, k, rfl⟩
  rw [← map_fst_numbered xs]
  exact List.mem_map_of_mem hs

/-- A report has one finding for each sighting. -/
@[simp] theorem length_report (fileName : Text) (xs : List Sighting) :
    (report fileName xs).length = xs.length := by
  rw [report, List.length_map, numbered, List.length_mapIdx]

/-- What a finding says without its occurrence number can be read off the sightings. -/
theorem map_report {α : Type} {fileName : Text} {read : Finding → α} {view : Sighting → α}
    (h : ∀ s k, read (s.finding fileName k) = view s) (xs : List Sighting) :
    (report fileName xs).map read = xs.map view := by
  rw [report, List.map_map]
  conv_rhs => rw [← map_fst_numbered xs, List.map_map]
  exact List.map_congr_left fun p _ => h p.1 p.2

/-- The sightings of one rule identifier are numbered 1, 2, 3, and so on. -/
theorem occurrences_numbered (ruleId : Text) (xs : List Sighting) :
    ((numbered xs).filter fun (s, _) => s.rule.id = ruleId).map Prod.snd =
      List.range' 1 (countOf ruleId xs) := by
  induction xs using List.reverseRecOn with
  | nil => rfl
  | append_singleton xs s ih =>
    rw [numbered_concat, List.filter_append, List.map_append, ih, countOf_append]
    by_cases h : s.rule.id = ruleId
    · rw [countOf_cons, if_pos h.symm, countOf_nil, Nat.zero_add, List.range'_concat]
      simp [h, Nat.add_comm]
    · rw [countOf_cons, if_neg (Ne.symm h)]
      simp [h]

end Sighting

open Sighting

/-- The sightings that a scan keeps: those whose trial finds the rule. -/
def kept (trials : Trials) (rules : List Rule) (code : List Char) : List Sighting :=
  (candidates rules (Text.splitLines code)).filter fun s =>
    trials s.rule s.lineNumber s.line = .found

/-! ## The invariant of a scan -/

/-- A part of a scan came after the sightings `earlier` and added the sightings `added`. -/
structure Extends (fileName : Text) (earlier added : List Sighting) (part : Yield) : Prop where
  /-- The findings of the part continue the report. -/
  findings_eq : report fileName (earlier ++ added) = report fileName earlier ++ part.findings
  /-- The tally counts all sightings so far. -/
  count_eq : ∀ ruleId, part.seen.count ruleId = countOf ruleId (earlier ++ added)

namespace Extends

variable {fileName : Text} {earlier : List Sighting}

/-- Nothing was tried. -/
theorem nil {seen : Tally Text} (logs : List LogRecord)
    (hseen : ∀ ruleId, seen.count ruleId = countOf ruleId earlier) :
    Extends fileName earlier [] ⟨[], logs, seen⟩ where
  findings_eq := by simp
  count_eq := by simpa using hseen

/-- One part after another. -/
theorem append {added more : List Sighting} {first rest : Yield} (logs : List LogRecord)
    (hfirst : Extends fileName earlier added first)
    (hrest : Extends fileName (earlier ++ added) more rest) :
    Extends fileName earlier (added ++ more)
      ⟨first.findings ++ rest.findings, logs, rest.seen⟩ where
  findings_eq := by
    rw [← List.append_assoc, hrest.findings_eq, hfirst.findings_eq, List.append_assoc]
  count_eq := by
    rw [← List.append_assoc]
    exact hrest.count_eq

/-- A single sighting is numbered by the tally. -/
theorem singleton (fileName : Text) {seen : Tally Text} (logs : List LogRecord) (s : Sighting)
    (hseen : ∀ ruleId, seen.count ruleId = countOf ruleId earlier) :
    Extends fileName earlier [s]
      ⟨[Finding.ofMatch s.rule fileName s.lineNumber s.line
          ((seen.add s.rule.id).count s.rule.id)], logs, seen.add s.rule.id⟩ where
  findings_eq := by
    rw [report, numbered_concat, List.map_append, ← report]
    simp [hseen, finding, Finding.ofMatch, Finding.occurrenceId]
  count_eq := by
    intro ruleId
    simp [hseen, countOf_cons]

/-- The log is no matter of the report. -/
theorem withLogs {added : List Sighting} {part : Yield} (h : Extends fileName earlier added part)
    (logs : List LogRecord) : Extends fileName earlier added { part with logs := logs } :=
  ⟨h.findings_eq, h.count_eq⟩

end Extends

/-- The rules of one line keep the invariant. -/
theorem scanLine_extends (trials : Trials) (fileName : Text) (lineNumber : Nat) (line : List Char)
    (rules : List Rule) {earlier : List Sighting} {seen : Tally Text}
    (hseen : ∀ ruleId, seen.count ruleId = countOf ruleId earlier) :
    Extends fileName earlier
      ((rules.map fun rule => (⟨lineNumber, line, rule⟩ : Sighting)).filter fun s =>
        trials s.rule s.lineNumber s.line = .found)
      (scanLine trials fileName lineNumber line rules seen) := by
  induction rules generalizing earlier seen with
  | nil => exact .nil [] hseen
  | cons rule rules ih =>
    rw [scanLine, List.map_cons, List.filter_cons]
    cases htrial : trials rule lineNumber line with
    | found =>
      -- The rest of the rules comes after this sighting, with the tally that counts it.
      have hone := Extends.singleton fileName [] ⟨lineNumber, line, rule⟩ hseen
      simpa [htrial] using hone.append _ (ih hone.count_eq)
    | absent => simpa [htrial] using ih hseen
    | failed reason => simpa [htrial] using (ih hseen).withLogs _

/-- The lines keep the invariant. -/
theorem scanLines_extends (trials : Trials) (rules : List Rule) (fileName : Text)
    (lineNumber : Nat) (lines : List (List Char)) {earlier : List Sighting} {seen : Tally Text}
    (hseen : ∀ ruleId, seen.count ruleId = countOf ruleId earlier) :
    Extends fileName earlier
      (((lines.zipIdx lineNumber).flatMap fun (line, lineNumber) =>
        rules.map fun rule => (⟨lineNumber, line, rule⟩ : Sighting)).filter fun s =>
          trials s.rule s.lineNumber s.line = .found)
      (scanLines trials rules fileName lineNumber lines seen) := by
  induction lines generalizing lineNumber earlier seen with
  | nil => exact .nil [] hseen
  | cons line lines ih =>
    have hline := scanLine_extends trials fileName lineNumber line rules hseen
    rw [List.zipIdx_cons, List.flatMap_cons, List.filter_append, scanLines]
    exact hline.append _ (ih (lineNumber + 1) hline.count_eq)

/-- However rules are tried, the findings of a scan report the sightings that were kept. -/
theorem detectWith_findings (trials : Trials) (rules : List Rule) (code : List Char)
    (fileName : Text) :
    (detectWith trials rules code fileName).findings =
      report fileName (kept trials rules code) := by
  have hempty (ruleId : Text) : Tally.empty.count ruleId = countOf ruleId [] := rfl
  have hscan := scanLines_extends trials rules fileName 1 (Text.splitLines code) hempty
  exact hscan.findings_eq.symm

/-- A rule that fails nowhere is found where it matches. -/
theorem search_eq_found_iff {rule : Rule} {lineNumber : Nat} {line : List Char} :
    search rule lineNumber line = .found ↔ rule.matchesLine line = true := by
  rw [search]
  split <;> simp_all

/-- A search keeps the sightings whose rule matches their line. -/
theorem kept_search (rules : List Rule) (code : List Char) :
    kept search rules code =
      (candidates rules (Text.splitLines code)).filter fun s => s.rule.matchesLine s.line := by
  simp only [kept, search_eq_found_iff, Bool.decide_eq_true]

/-- What a search keeps is a line of the code with a rule that matches it. -/
theorem mem_kept_search {rules : List Rule} {code : List Char} {s : Sighting}
    (h : s ∈ kept search rules code) :
    (s.line, s.lineNumber) ∈ (Text.splitLines code).zipIdx 1 ∧ s.rule ∈ rules ∧
      s.rule.matchesLine s.line = true := by
  rw [kept_search, List.mem_filter] at h
  obtain ⟨hcandidate, hmatch⟩ := h
  obtain ⟨p, hp, hs⟩ := List.mem_flatMap.1 hcandidate
  obtain ⟨rule, hrule, rfl⟩ := List.mem_map.1 hs
  exact ⟨hp, hrule, hmatch⟩

/-- A scan reports exactly the pairs of a line and a rule in which the rule matches the line,
ordered by line and then by rule, and it numbers the findings of each rule identifier 1, 2, 3, and
so on. -/
theorem detect_findings (rules : List Rule) (code : List Char) (fileName : Text) :
    let matched := (candidates rules (Text.splitLines code)).filter fun s =>
      s.rule.matchesLine s.line
    (detect rules code fileName).findings = report fileName matched ∧
      ∀ ruleId, ((numbered matched).filter fun (s, _) => s.rule.id = ruleId).map Prod.snd =
        List.range' 1 (countOf ruleId matched) := by
  intro matched
  refine ⟨?_, fun ruleId => occurrences_numbered ruleId matched⟩
  rw [detect, detectWith_findings, kept_search]

end Scan

end CodeScan
