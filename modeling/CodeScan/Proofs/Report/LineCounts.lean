import CodeScan.Proofs.Report.Consistency

/-!
# Line counts of any findings

Metrics are made from line numbers, and nothing says that these come from a scan of the same code.
They may be zero or negative, point past the end, repeat each other and stand in any order.  The
metrics are in order all the same, and their record is never refused: `make_ofLineNumbers_counts`.

## Shape of the argument

The vulnerable lines are counted along the lines of the code and not along the findings
(`vulnerableLines_ofLineNumbers`).  Counting along the code, there cannot be more of them than
lines, so the difference to the total is never negative and never has to be cut off at zero.  And
the count sees the findings only through the question whether a number is among theirs, so it grows
with the findings and does not depend on anything else about them.
-/

namespace CodeScan

namespace Metrics

variable {code : List Char}

/-- A number that a line of the code has. -/
def IsLine (code : List Char) (n : Int) : Prop := 1 ≤ n ∧ n ≤ ((Text.splitLines code).length : Int)

/-- The vulnerable lines are lines of the code. -/
theorem vulnerableLines_le_totalLines (code : List Char) (lineNumbers : List Int) :
    (ofLineNumbers code lineNumbers).vulnerableLines ≤
      (ofLineNumbers code lineNumbers).totalLines := by
  rw [vulnerableLines_ofLineNumbers]
  show _ ≤ ((Text.splitLines code).length : Int)
  apply Int.ofNat_le.2
  calc
    _ ≤ (List.range' 1 (Text.splitLines code).length).length := List.countP_le_length
    _ = _ := List.length_range'

/-- Every line is either clean or vulnerable. -/
theorem cleanLines_add_vulnerableLines (code : List Char) (lineNumbers : List Int) :
    (ofLineNumbers code lineNumbers).cleanLines +
      (ofLineNumbers code lineNumbers).vulnerableLines =
        (ofLineNumbers code lineNumbers).totalLines := by
  have hle := vulnerableLines_le_totalLines code lineNumbers
  rw [ofLineNumbers_eq rfl] at hle ⊢
  dsimp only at hle ⊢
  omega

/-- More numbers of lines are no fewer vulnerable lines. -/
theorem vulnerableLines_mono {few many : List Int}
    (h : ∀ n, IsLine code n → n ∈ few → n ∈ many) :
    (ofLineNumbers code few).vulnerableLines ≤ (ofLineNumbers code many).vulnerableLines := by
  rw [vulnerableLines_ofLineNumbers, vulnerableLines_ofLineNumbers]
  apply Int.ofNat_le.2
  apply List.countP_mono_left
  intro n hn hfew
  rw [List.mem_range'_1] at hn
  have hline : IsLine code n := by
    constructor <;> omega
  simp only [decide_eq_true_eq] at hfew ⊢
  exact h n hline hfew

/-- More numbers of lines are no better health. -/
theorem healthPercentage_antitone {few many : List Int}
    (h : ∀ n, IsLine code n → n ∈ few → n ∈ many) :
    (ofLineNumbers code many).healthPercentage ≤ (ofLineNumbers code few).healthPercentage := by
  have hle := vulnerableLines_mono h
  rw [@ofLineNumbers_eq code few _ rfl, @ofLineNumbers_eq code many _ rfl]
  apply healthPercentage_mono
  omega

/-- Metrics see nothing of line numbers but which lines are among them. -/
theorem ofLineNumbers_congr {first second : List Int}
    (h : ∀ n, IsLine code n → (n ∈ first ↔ n ∈ second)) :
    ofLineNumbers code first = ofLineNumbers code second := by
  have hvulnerable : (ofLineNumbers code first).vulnerableLines =
      (ofLineNumbers code second).vulnerableLines := by
    apply Int.le_antisymm
    · exact vulnerableLines_mono fun n hn => (h n hn).1
    · exact vulnerableLines_mono fun n hn => (h n hn).2
  rw [ofLineNumbers_eq hvulnerable, @ofLineNumbers_eq code second _ rfl]

/-- What metrics say about code with findings. -/
structure Counts (code : List Char) (findings : List Finding) (m : Metrics) : Prop where
  totalLines_eq : m.totalLines = (Text.splitLines code).length
  /-- The vulnerable lines are those of the numbers from one up to the number of lines that some
  finding carries. -/
  vulnerableLines_eq : m.vulnerableLines =
    (List.range' 1 (Text.splitLines code).length).countP fun n : Nat =>
      (n : Int) ∈ findings.map Finding.lineNumber
  cleanLines_add : m.cleanLines + m.vulnerableLines = m.totalLines
  vulnerableLines_mem_range : 0 ≤ m.vulnerableLines ∧ m.vulnerableLines ≤ m.totalLines
  health_eq : m.healthPercentage = CodeScan.healthPercentage m.cleanLines m.totalLines
  health_mem_range : 0 ≤ m.healthPercentage ∧ m.healthPercentage ≤ 100

/-- The metrics of findings count the lines of the code that they name. -/
theorem counts_ofLineNumbers (code : List Char) (findings : List Finding) :
    (ofLineNumbers code (findings.map Finding.lineNumber)).Counts code findings := by
  have hsum := cleanLines_add_vulnerableLines code (findings.map Finding.lineNumber)
  have hle := vulnerableLines_le_totalLines code (findings.map Finding.lineNumber)
  have hvulnerable := vulnerableLines_ofLineNumbers code (findings.map Finding.lineNumber)
  have hnonneg : 0 ≤ (ofLineNumbers code (findings.map Finding.lineNumber)).vulnerableLines := by
    rw [hvulnerable]
    exact Int.natCast_nonneg _
  exact
    { totalLines_eq := rfl
      vulnerableLines_eq := hvulnerable
      cleanLines_add := hsum
      vulnerableLines_mem_range := ⟨hnonneg, hle⟩
      health_eq := rfl
      health_mem_range := healthPercentage_mem_range (by omega) (by omega) }

/-- The metrics of code with any findings are made, and they count its lines.  They depend only on
which lines the findings point at, and more findings are no better health. -/
theorem make_ofLineNumbers_counts (code : List Char) (findings : List Finding) :
    let metrics (findings : List Finding) :=
      ofLineNumbers code (findings.map Finding.lineNumber)
    (metrics findings).make = .ok (metrics findings) ∧
      (metrics findings).Counts code findings ∧
      (∀ others : List Finding,
        (∀ n, IsLine code n →
          (n ∈ others.map Finding.lineNumber ↔ n ∈ findings.map Finding.lineNumber)) →
        metrics others = metrics findings) ∧
      ∀ more : List Finding, findings ⊆ more →
        (metrics more).healthPercentage ≤ (metrics findings).healthPercentage := by
  intro metrics
  have hcounts : (metrics findings).Counts code findings := counts_ofLineNumbers code findings
  refine ⟨?_, hcounts, fun others h => ofLineNumbers_congr h, ?_⟩
  · obtain ⟨hnonneg, hle⟩ := hcounts.vulnerableLines_mem_range
    have hsum := hcounts.cleanLines_add
    exact make_eq_ok (by omega) hnonneg (by omega) hcounts.health_mem_range
  · intro more hsubset
    apply healthPercentage_antitone
    intro n _ hmem
    exact List.map_subset Finding.lineNumber hsubset hmem

/-- Findings before the first line, past the last one and twice on one line, on a text that ends
with a blank line: they count as one finding on the second line does, and one more finding on the
blank line is worse. -/
theorem make_ofLineNumbers_counts_astray :
    let code := ['a', '\n', 'b', '\n', '\n']
    let on (n : Int) : Finding := ⟨[], [], n, [], .codeQuality, [], [], [], [], []⟩
    let metrics (findings : List Finding) :=
      ofLineNumbers code (findings.map Finding.lineNumber)
    (∀ n, IsLine code n → (n ∈ [on 4, on 2, on 0, on 2, on (-1)].map Finding.lineNumber ↔
        n ∈ [on 2].map Finding.lineNumber)) ∧
      metrics [on 4, on 2, on 0, on 2, on (-1)] = ⟨3, 1, 2, 67⟩ ∧
      [on 2] ⊆ [on 2, on 3] ∧
      (metrics [on 2, on 3]).healthPercentage ≤ (metrics [on 2]).healthPercentage := by
  intro code on metrics
  obtain ⟨-, -, hsame, hworse⟩ := make_ofLineNumbers_counts code [on 2]
  have hnumbers : ∀ n, IsLine code n →
      (n ∈ [on 4, on 2, on 0, on 2, on (-1)].map Finding.lineNumber ↔
        n ∈ [on 2].map Finding.lineNumber) := by
    rintro n ⟨hlow, hhigh⟩
    have hlines : (Text.splitLines code).length = 3 := rfl
    simp only [on, List.map_cons, List.map_nil, List.mem_cons, List.not_mem_nil, or_false]
    omega
  have hsubset : [on 2] ⊆ [on 2, on 3] := by simp
  refine ⟨hnumbers, ?_, hsubset, hworse _ hsubset⟩
  rw [show metrics [on 4, on 2, on 0, on 2, on (-1)] = metrics [on 2] from hsame _ hnumbers]
  decide

end Metrics

end CodeScan
