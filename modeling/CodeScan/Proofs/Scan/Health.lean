import CodeScan.Proofs.Scan.Metrics
import Mathlib.Algebra.Order.Round
import Mathlib.Data.Rat.Floor

/-!
# The health percentage is rounded half up

The health percentage is computed by one floor division of integers.  As a number it is the share of
clean lines in percent, rounded to the nearest integer with a half going up
(`healthPercentage_eq_round`).  This holds of every number of clean lines, also of one below zero or
above the total, as long as there are lines at all.

A floor is known by its lower bounds, and so is the health: `le_healthPercentage_iff` says which
integers are below it, and everything here is read off that.  Where a law is about the share and not
about the bounds, as for lines that are all counted several times over, it is read off the rational
number instead.
-/

namespace CodeScan

variable {clean total : Int}

/-- The health is the only integer between its two bounds. -/
theorem eq_healthPercentage_iff (htotal : 0 < total) (n : Int) :
    n = healthPercentage clean total ↔
      2 * total * n ≤ 200 * clean + total ∧ 200 * clean + total < 2 * total * (n + 1) := by
  -- To be equal is to be below while the next integer is not.
  have hbelow (bound : Int) :
      bound ≤ healthPercentage clean total ↔ 2 * total * bound ≤ 200 * clean + total := by
    rw [le_healthPercentage_iff htotal, Int.mul_comm bound, Int.mul_comm total, Int.mul_comm clean]
  have hlow := hbelow n
  have hhigh := hbelow (n + 1)
  omega

/-- The health is the share of clean lines in percent, rounded half up. -/
theorem healthPercentage_eq_round (htotal : 0 < total) :
    healthPercentage clean total = round ((100 * clean : ℚ) / total) := by
  have hpos : (0 : ℚ) < total := by exact_mod_cast htotal
  -- Both sides are floors, and floors with the same integers below them are equal.
  rw [round_eq]
  apply eq_of_forall_le_iff
  intro bound
  have hshare : (100 * clean : ℚ) / total + 1 / 2 = (clean * 200 + total) / (total * 2) := by
    field_simp
    ring
  rw [le_healthPercentage_iff htotal, Int.le_floor, hshare, le_div_iff₀ (by positivity)]
  norm_cast

/-- The health depends on the share of clean lines alone. -/
theorem healthPercentage_mul_left (htotal : 0 < total) {factor : Int} (hfactor : 0 < factor) :
    healthPercentage (factor * clean) (factor * total) = healthPercentage clean total := by
  have hne : (factor : ℚ) ≠ 0 := by exact_mod_cast hfactor.ne'
  rw [healthPercentage_eq_round (Int.mul_pos hfactor htotal), healthPercentage_eq_round htotal]
  push_cast
  rw [mul_left_comm, mul_div_mul_left _ _ hne]

/-- The health is full if at most one line in two hundred is not clean. -/
theorem healthPercentage_eq_hundred_iff (htotal : 0 < total) (hle : clean ≤ total) :
    healthPercentage clean total = 100 ↔ 200 * (total - clean) ≤ total := by
  have hlow := @le_healthPercentage_iff clean total htotal 100
  have hhigh := @le_healthPercentage_iff clean total htotal (100 + 1)
  omega

/-- The health is zero if fewer than one line in two hundred are clean. -/
theorem healthPercentage_eq_zero_iff (htotal : 0 < total) (hclean : 0 ≤ clean) :
    healthPercentage clean total = 0 ↔ 200 * clean < total := by
  have hlow := @le_healthPercentage_iff clean total htotal 0
  have hhigh := @le_healthPercentage_iff clean total htotal 1
  omega

/-- The health is the share of clean lines in percent rounded half up, whatever the number of clean
lines: it is the only integer between the two bounds, it grows with the clean lines, and it does not
change where all lines are counted several times.  As long as there are no more clean lines than
lines it is a percentage, and it is known when it is full and when it is zero. -/
theorem healthPercentage_roundsHalfUp (htotal : 0 < total) (clean : Int) :
    let health := healthPercentage clean total
    health = round ((100 * clean : ℚ) / total) ∧
      (∀ n, n = health ↔
        2 * total * n ≤ 200 * clean + total ∧ 200 * clean + total < 2 * total * (n + 1)) ∧
      (∀ more, clean ≤ more → health ≤ healthPercentage more total) ∧
      (∀ factor, 0 < factor → healthPercentage (factor * clean) (factor * total) = health) ∧
      (0 ≤ clean → clean ≤ total →
        (0 ≤ health ∧ health ≤ 100) ∧
          (health = 100 ↔ 200 * (total - clean) ≤ total) ∧
          (health = 0 ↔ 200 * clean < total)) := by
  intro health
  refine ⟨healthPercentage_eq_round htotal, eq_healthPercentage_iff htotal, ?_, ?_, ?_⟩
  · intro more hmore
    exact healthPercentage_mono hmore total
  · intro factor hfactor
    exact healthPercentage_mul_left htotal hfactor
  · intro hclean hle
    exact ⟨healthPercentage_mem_range hclean hle, healthPercentage_eq_hundred_iff htotal hle,
      healthPercentage_eq_zero_iff htotal hclean⟩

/-- Halves of a percent on both sides of zero go up: one vulnerable line in two hundred leaves the
health full, and a share of -12.5 percent is rounded to -12. -/
theorem healthPercentage_roundsHalfUp_halves :
    let health := healthPercentage 199 200
    ((0 : Int) < 200 ∧ (0 : Int) < 3 ∧ (-25 : Int) ≤ 199 ∧ (0 : Int) ≤ 199 ∧ (199 : Int) ≤ 200) ∧
      health = 100 ∧ healthPercentage (3 * 199) (3 * 200) = health ∧
      healthPercentage (-25) 200 = -12 ∧ healthPercentage (-25) 200 ≤ health := by
  intro health
  have htotal : (0 : Int) < 200 := by decide
  obtain ⟨-, -, -, hscale, hextremes⟩ := healthPercentage_roundsHalfUp htotal 199
  obtain ⟨-, honly, hmono, -, -⟩ := healthPercentage_roundsHalfUp htotal (-25)
  refine ⟨by decide, ?_, hscale 3 (by decide), ?_, hmono 199 (by decide)⟩
  · exact (hextremes (by decide) (by decide)).2.1.2 (by decide)
  · exact ((honly (-12)).2 (by decide)).symm

end CodeScan
