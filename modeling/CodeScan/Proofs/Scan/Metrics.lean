import CodeScan.Proofs.Scan.Sighting
import CodeScan.Scan.Metrics

/-!
# Line counts and health

The metrics of code are computed from the line numbers of findings alone: the numbers are filtered,
freed of repetitions and counted.  `vulnerableLines_ownMetrics` ties that count back to the scan it
came from: it is the number of lines that some rule matches.

The health percentage is a floor, so it is known by its lower bounds (`le_healthPercentage_iff`).
That it lies between the percentages of two parts follows from this without any division.
-/

namespace CodeScan

/-! ## The percentage -/

/-- The bounds below a health percentage, free of division. -/
theorem le_healthPercentage_iff {clean total : Int} (htotal : 0 < total) (bound : Int) :
    bound ≤ healthPercentage clean total ↔ bound * (total * 2) ≤ clean * 200 + total := by
  have hpos : 0 < total * 2 := by omega
  rw [healthPercentage, if_neg (by omega), Int.fdiv_eq_ediv_of_nonneg _ (by omega),
    Int.le_ediv_iff_mul_le hpos]

/-- More clean lines are no less healthy. -/
theorem healthPercentage_mono {clean₁ clean₂ : Int} (h : clean₁ ≤ clean₂) (total : Int) :
    healthPercentage clean₁ total ≤ healthPercentage clean₂ total := by
  rcases Int.lt_or_le 0 total with hpos | hnone
  · have hself : healthPercentage clean₁ total ≤ healthPercentage clean₁ total := Int.le_refl _
    rw [le_healthPercentage_iff hpos] at hself ⊢
    omega
  · exact Int.le_of_eq (by rw [healthPercentage, healthPercentage, if_pos hnone, if_pos hnone])

/-- The health of two parts with lines together lies between their healths. -/
theorem healthPercentage_add_of_pos {clean₁ total₁ clean₂ total₂ : Int} (h₁ : 0 < total₁)
    (h₂ : 0 < total₂) :
    min (healthPercentage clean₁ total₁) (healthPercentage clean₂ total₂) ≤
        healthPercentage (clean₁ + clean₂) (total₁ + total₂) ∧
      healthPercentage (clean₁ + clean₂) (total₁ + total₂) ≤
        max (healthPercentage clean₁ total₁) (healthPercentage clean₂ total₂) := by
  have hsum : 0 < total₁ + total₂ := by omega
  have hmul (bound : Int) :
      bound * ((total₁ + total₂) * 2) = bound * (total₁ * 2) + bound * (total₂ * 2) := by
    rw [Int.add_mul, Int.mul_add]
  constructor
  · generalize hm : min (healthPercentage clean₁ total₁) (healthPercentage clean₂ total₂) = m
    have hm₁ : m ≤ healthPercentage clean₁ total₁ := by omega
    have hm₂ : m ≤ healthPercentage clean₂ total₂ := by omega
    rw [le_healthPercentage_iff h₁] at hm₁
    rw [le_healthPercentage_iff h₂] at hm₂
    rw [le_healthPercentage_iff hsum, hmul]
    omega
  · generalize hm : max (healthPercentage clean₁ total₁) (healthPercentage clean₂ total₂) = m
    -- One more than the larger health is below neither part, hence not below the whole.
    have hm₁ : ¬ m + 1 ≤ healthPercentage clean₁ total₁ := by omega
    have hm₂ : ¬ m + 1 ≤ healthPercentage clean₂ total₂ := by omega
    rw [le_healthPercentage_iff h₁] at hm₁
    rw [le_healthPercentage_iff h₂] at hm₂
    have hnot : ¬ m + 1 ≤ healthPercentage (clean₁ + clean₂) (total₁ + total₂) := by
      rw [le_healthPercentage_iff hsum, hmul]
      omega
    omega

/-- The health of two parts together lies between their healths, also where a part has no lines. -/
theorem healthPercentage_add {clean₁ total₁ clean₂ total₂ : Nat} (h₁ : clean₁ ≤ total₁)
    (h₂ : clean₂ ≤ total₂) :
    min (healthPercentage clean₁ total₁) (healthPercentage clean₂ total₂) ≤
        healthPercentage (clean₁ + clean₂) (total₁ + total₂) ∧
      healthPercentage (clean₁ + clean₂) (total₁ + total₂) ≤
        max (healthPercentage clean₁ total₁) (healthPercentage clean₂ total₂) := by
  rcases Nat.eq_zero_or_pos total₁ with rfl | hpos₁
  · obtain rfl : clean₁ = 0 := by omega
    simp only [Int.natCast_zero, Int.zero_add]
    omega
  · rcases Nat.eq_zero_or_pos total₂ with rfl | hpos₂
    · obtain rfl : clean₂ = 0 := by omega
      simp only [Int.natCast_zero, Int.add_zero]
      omega
    · exact healthPercentage_add_of_pos (by omega) (by omega)

/-- The health is a percentage. -/
theorem healthPercentage_mem_range {clean total : Int} (hclean : 0 ≤ clean) (hle : clean ≤ total) :
    0 ≤ healthPercentage clean total ∧ healthPercentage clean total ≤ 100 := by
  rcases Int.lt_or_le 0 total with hpos | hnone
  · constructor
    · rw [le_healthPercentage_iff hpos]
      omega
    · have hnot : ¬ 100 + 1 ≤ healthPercentage clean total := by
        rw [le_healthPercentage_iff hpos]
        omega
      omega
  · rw [healthPercentage, if_pos hnone]
    omega

/-- Code without a vulnerable line is healthy. -/
theorem healthPercentage_self (total : Nat) : healthPercentage total total = 100 := by
  rcases Nat.eq_zero_or_pos total with rfl | hpos
  · rfl
  · have htotal : (0 : Int) < total := by omega
    have hle : (100 : Int) ≤ healthPercentage total total := by
      rw [le_healthPercentage_iff htotal]
      omega
    have := (healthPercentage_mem_range (Int.le_of_lt htotal) (Int.le_refl _)).2
    omega

/-! ## Counting lines -/

namespace Metrics

/-- Nothing is left twice where duplicates are erased. -/
theorem nodup_eraseDups {α : Type} [DecidableEq α] (xs : List α) : xs.eraseDups.Nodup := by
  generalize hn : xs.length = n
  induction n using Nat.strongRecOn generalizing xs with
  | ind n ih =>
    cases xs with
    | nil => exact List.Pairwise.nil
    | cons x xs =>
      rw [List.eraseDups_cons, List.nodup_cons]
      refine ⟨by simp [List.mem_eraseDups], ih _ ?_ _ rfl⟩
      have := List.length_filter_le (fun y => !y == x) xs
      rw [← hn, List.length_cons]
      omega

/-- The vulnerable lines are the lines of the code whose number is pointed at. -/
theorem vulnerableLines_ofLineNumbers (code : List Char) (lineNumbers : List Int) :
    (ofLineNumbers code lineNumbers).vulnerableLines =
      ((List.range' 1 (Text.splitLines code).length).countP fun n : Nat =>
        (n : Int) ∈ lineNumbers) := by
  generalize htotal : (Text.splitLines code).length = total
  -- Both lists hold the flagged numbers within the text, each of them once.
  have hperm : List.Perm
      (lineNumbers.filter fun n => 1 ≤ n && n ≤ (total : Int)).eraseDups
      (((List.range' 1 total).filter fun n : Nat => (n : Int) ∈ lineNumbers).map Int.ofNat) := by
    rw [List.perm_ext_iff_of_nodup (nodup_eraseDups _) ?nodup]
    case nodup =>
      rw [List.Nodup, List.pairwise_map]
      exact (List.Pairwise.filter _ (List.nodup_range' 1)).imp fun h hcast =>
        h (Int.ofNat.inj hcast)
    intro n
    simp only [List.mem_eraseDups, List.mem_filter, List.mem_map, List.mem_range'_1,
      Bool.and_eq_true, decide_eq_true_eq]
    constructor
    · rintro ⟨hmem, hlow, hhigh⟩
      refine ⟨n.toNat, ⟨⟨by omega, by omega⟩, ?_⟩, by simp; omega⟩
      rwa [Int.toNat_of_nonneg (by omega)]
    · rintro ⟨m, ⟨⟨hlow, hhigh⟩, hmem⟩, rfl⟩
      exact ⟨hmem, by simp; omega, by simp; omega⟩
  simp only [ofLineNumbers, htotal, hperm.length_eq, List.length_map, List.countP_eq_length_filter]

/-- The other metrics follow from the number of vulnerable lines. -/
theorem ofLineNumbers_eq {code : List Char} {lineNumbers : List Int} {vulnerable : Int}
    (h : (ofLineNumbers code lineNumbers).vulnerableLines = vulnerable) :
    let total : Int := (Text.splitLines code).length
    let clean := max 0 (total - vulnerable)
    ofLineNumbers code lineNumbers =
      ⟨total, vulnerable, clean, CodeScan.healthPercentage clean total⟩ := by
  subst h
  rfl

end Metrics

namespace Scan

open Sighting

/-- A line number is reported if it is that of a line in which some rule is found. -/
theorem mem_lineNumbers_report_kept {trials : Trials} {rules : List Rule} {code : List Char}
    {fileName : Text} {n : Nat} :
    (n : Int) ∈ (report fileName (kept trials rules code)).map Finding.lineNumber ↔
      ∃ line, (line, n) ∈ (Text.splitLines code).zipIdx 1 ∧
        ∃ rule ∈ rules, trials rule n line = .found := by
  have hnumber (s : Sighting) (k : Nat) : (s.finding fileName k).lineNumber = s.lineNumber := rfl
  rw [map_report hnumber]
  simp only [kept, candidates, List.mem_map, List.mem_filter, List.mem_flatMap,
    decide_eq_true_eq]
  constructor
  · rintro ⟨s, ⟨⟨⟨line, m⟩, hline, rule, hrule, rfl⟩, hfound⟩, hn⟩
    obtain rfl : m = n := Int.ofNat.inj hn
    exact ⟨line, hline, rule, hrule, hfound⟩
  · rintro ⟨line, hline, rule, hrule, hfound⟩
    exact ⟨⟨n, line, rule⟩, ⟨⟨(line, n), hline, rule, hrule, rfl⟩, hfound⟩, rfl⟩

/-- The metrics of code with the findings of its own scan. -/
def ownMetrics (rules : List Rule) (code : List Char) (fileName : Text) : Metrics :=
  Metrics.ofLineNumbers code ((detect rules code fileName).findings.map Finding.lineNumber)

/-- The lines that a scan points at are those that some rule matches. -/
theorem vulnerableLines_ownMetrics (rules : List Rule) (code : List Char) (fileName : Text) :
    (ownMetrics rules code fileName).vulnerableLines =
      (Text.splitLines code).countP fun line => rules.any fun rule => rule.matchesLine line := by
  rw [ownMetrics, Metrics.vulnerableLines_ofLineNumbers,
    ← List.zipIdx_map_snd 1 (Text.splitLines code), List.countP_map]
  conv_rhs => rw [← List.zipIdx_map_fst 1 (Text.splitLines code), List.countP_map]
  refine congrArg Int.ofNat (List.countP_congr fun p hp => ?_)
  obtain ⟨line, n⟩ := p
  simp only [Function.comp, decide_eq_true_eq, List.any_eq_true]
  rw [detect, detectWith_findings, mem_lineNumbers_report_kept]
  simp only [search_eq_found_iff]
  constructor
  · rintro ⟨other, hother, hrule⟩
    -- One number is that of one line only.
    rw [List.mk_mem_zipIdx_iff_le_and_getElem?_sub] at hp hother
    obtain rfl : other = line := Option.some.inj (hother.2.symm.trans hp.2)
    exact hrule
  · exact fun hrule => ⟨line, hp, hrule⟩

/-- The metrics of a scan count the lines that some rule matches and those that none matches. -/
theorem ownMetrics_eq (rules : List Rule) (code : List Char) (fileName : Text) :
    let lines := Text.splitLines code
    let matched (line : List Char) : Bool := rules.any fun rule => rule.matchesLine line
    let clean := lines.countP fun line => !matched line
    ownMetrics rules code fileName =
      ⟨lines.length, lines.countP matched, clean, healthPercentage clean lines.length⟩ := by
  intro lines matched clean
  have hvulnerable := vulnerableLines_ownMetrics rules code fileName
  have hclean : max 0 ((lines.length : Int) - lines.countP matched) = clean := by
    have hlength : lines.length = lines.countP matched + clean := by
      simpa [clean] using List.length_eq_countP_add_countP matched
    omega
  rw [ownMetrics, Metrics.ofLineNumbers_eq hvulnerable, hclean]

end Scan

end CodeScan
