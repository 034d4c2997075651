import CodeScan.Number.Binary64
import Mathlib.Algebra.Order.Field.Power
import Mathlib.Data.Int.Log
import Mathlib.Data.Rat.Floor
import Mathlib.Tactic.FieldSimp
import Mathlib.Tactic.Linarith
import Mathlib.Tactic.NormNum
import Mathlib.Tactic.Positivity
import Mathlib.Tactic.Ring

/-!
# The nearest double

`ofRatio` is given two integers and looks at the numbers of their bits, but what it gives depends on
their quotient alone (`ofRatio_mul_right`), is canonical (`isCanonical_ofRatio`) and is the quotient
itself where that is a double (`ofRatio_exact`).  All of this rests on one fact: the unit that is
found by comparing bit counts is the one that the binary logarithm of the quotient names
(`unitExponent_eq`).

The same is then said of decimals: a decimal gives the same double if zeros are appended to its
digits (`ofDecimal_shift`).
-/

namespace CodeScan

namespace Binary64

variable {base numerator denominator : Nat} {exponent : Int}

/-! ## Quotients in units -/

/-- A ratio in other units has a positive denominator as well. -/
theorem inUnits_snd_pos (hbase : 0 < base) (h : 0 < denominator) (numerator : Nat)
    (exponent : Int) : 0 < (inUnits base numerator denominator exponent).2 := by
  cases exponent with
  | ofNat e => exact Nat.mul_pos h (Nat.pow_pos hbase)
  | negSucc e => exact h

/-- A ratio in units of a power is worth the ratio divided by that power. -/
theorem inUnits_value (hbase : 0 < base) (numerator denominator : Nat) (exponent : Int) :
    ((inUnits base numerator denominator exponent).1 : ℚ) /
      (inUnits base numerator denominator exponent).2 =
        (numerator : ℚ) / denominator * (base : ℚ) ^ (-exponent) := by
  have hne : (base : ℚ) ≠ 0 := by positivity
  cases exponent with
  | ofNat e =>
    rw [Int.ofNat_eq_natCast, zpow_neg, zpow_natCast]
    simp only [inUnits, Nat.pow_eq, Nat.cast_mul, Nat.cast_pow]
    rw [← div_div, div_eq_mul_inv _ ((base : ℚ) ^ e)]
  | negSucc e =>
    rw [Int.neg_negSucc, zpow_natCast]
    simp only [inUnits, Nat.pow_eq, Nat.cast_mul, Nat.cast_pow]
    ring

/-- Units do not depend on how a ratio is reduced. -/
theorem inUnits_mul_right (c : Nat) :
    inUnits base (numerator * c) (denominator * c) exponent =
      ((inUnits base numerator denominator exponent).1 * c,
        (inUnits base numerator denominator exponent).2 * c) := by
  cases exponent with
  | ofNat e => simp only [inUnits, Nat.mul_right_comm]
  | negSucc e => simp only [inUnits, Nat.mul_right_comm]

/-- A mantissa with an exponent is a ratio with a positive denominator. -/
theorem ratio_snd_pos (hbase : 0 < base) (mantissa : Nat) :
    0 < (ratio base mantissa exponent).2 := by
  cases exponent with
  | ofNat e => exact Nat.one_pos
  | negSucc e => exact Nat.pow_pos hbase

/-- A mantissa with an exponent is worth the mantissa times the power. -/
theorem ratio_value (mantissa : Nat) :
    ((ratio base mantissa exponent).1 : ℚ) / (ratio base mantissa exponent).2 =
      mantissa * (base : ℚ) ^ exponent := by
  cases exponent with
  | ofNat e => simp [ratio]
  | negSucc e => simp [ratio, zpow_negSucc, div_eq_mul_inv]

/-- A whole part is compared like the quotient. -/
theorem div_lt_iff_quotient_lt (h : 0 < denominator) {bound : Nat} :
    numerator / denominator < bound ↔ (numerator : ℚ) / denominator < bound := by
  rw [Nat.div_lt_iff_lt_mul h, div_lt_iff₀ (by positivity)]
  norm_cast

/-! ## The unit of a quotient -/

/-- A number between two neighbouring powers of two has the exponent of the lower one as its
logarithm. -/
theorem log_eq_of_bounds {q : ℚ} {e f : Int} (hlow : (2 : ℚ) ^ e ≤ q) (hhigh : q < 2 ^ f)
    (hnext : f = e + 1) : Int.log 2 q = e := by
  have hq : 0 < q := lt_of_lt_of_le (zpow_pos two_pos e) hlow
  have hle := (Int.zpow_le_iff_le_log Nat.one_lt_two hq).1 (by exact_mod_cast hlow)
  have hlt := (Int.lt_zpow_iff_log_lt Nat.one_lt_two hq).1 (by exact_mod_cast hhigh)
  omega

/-- The numbers of bits bound a quotient from both sides. -/
theorem quotient_bounds (hn : 0 < numerator) (hd : 0 < denominator) {gap : Int}
    (hgap : gap = (Nat.log2 numerator : Int) - Nat.log2 denominator) :
    (2 : ℚ) ^ (gap - 1) < (numerator : ℚ) / denominator ∧
      (numerator : ℚ) / denominator < 2 ^ (gap + 1) := by
  have hnlow : (2 : ℚ) ^ Nat.log2 numerator ≤ numerator := by
    exact_mod_cast Nat.log2_self_le hn.ne'
  have hnhigh : (numerator : ℚ) < 2 ^ (Nat.log2 numerator + 1) := by
    exact_mod_cast Nat.lt_log2_self
  have hdlow : (2 : ℚ) ^ Nat.log2 denominator ≤ denominator := by
    exact_mod_cast Nat.log2_self_le hd.ne'
  have hdhigh : (denominator : ℚ) < 2 ^ (Nat.log2 denominator + 1) := by
    exact_mod_cast Nat.lt_log2_self
  have hdpos : (0 : ℚ) < denominator := by exact_mod_cast hd
  have hnpos : (0 : ℚ) < numerator := by exact_mod_cast hn
  -- The least numerator over the greatest denominator bounds the ratio below, and conversely above.
  constructor
  · rw [lt_div_iff₀ hdpos]
    calc
      (2 : ℚ) ^ (gap - 1) * denominator < 2 ^ (gap - 1) * 2 ^ (Nat.log2 denominator + 1) := by
        gcongr
      _ = 2 ^ Nat.log2 numerator := by
        rw [← zpow_natCast, ← zpow_natCast, ← zpow_add₀ two_ne_zero]
        congr 1
        push_cast
        omega
      _ ≤ numerator := hnlow
  · rw [div_lt_iff₀ hdpos]
    calc
      (numerator : ℚ) < 2 ^ (Nat.log2 numerator + 1) := hnhigh
      _ = 2 ^ (gap + 1) * 2 ^ Nat.log2 denominator := by
        rw [← zpow_natCast, ← zpow_natCast, ← zpow_add₀ two_ne_zero]
        congr 1
        push_cast
        omega
      _ ≤ 2 ^ (gap + 1) * denominator := by gcongr

/-- The number of units is at least a power of two if the quotient is. -/
theorem div_inUnits_lt_iff (hd : 0 < denominator) (bits : Nat) :
    (inUnits 2 numerator denominator exponent).1 / (inUnits 2 numerator denominator exponent).2 <
        2 ^ bits ↔
      (numerator : ℚ) / denominator < 2 ^ (exponent + bits) := by
  rw [div_lt_iff_quotient_lt (inUnits_snd_pos Nat.two_pos hd _ _), inUnits_value Nat.two_pos,
    zpow_neg, ← div_eq_mul_inv, div_lt_iff₀ (by positivity), zpow_add₀ (by norm_num), mul_comm]
  norm_cast

/-- The unit of a ratio is 52 binary places below its leading one, but no less than the least unit.
-/
theorem unitExponent_eq (hn : 0 < numerator) (hd : 0 < denominator) :
    unitExponent numerator denominator =
      max leastExponent (Int.log 2 ((numerator : ℚ) / denominator) - 52) := by
  obtain ⟨guess, hguess⟩ : ∃ g : Int,
      g = (Nat.log2 numerator : Int) - (Nat.log2 denominator : Int) - 53 := ⟨_, rfl⟩
  obtain ⟨hlow, hhigh⟩ := quotient_bounds hn hd (show guess + 53 = _ by omega)
  have hscaled : (inUnits 2 numerator denominator guess).1 /
      (inUnits 2 numerator denominator guess).2 < mantissaBound ↔
        (numerator : ℚ) / denominator < 2 ^ (guess + (53 : Nat)) := div_inUnits_lt_iff hd 53
  have hunit : (if (inUnits 2 numerator denominator guess).1 /
      (inUnits 2 numerator denominator guess).2 < mantissaBound then guess else guess + 1) =
        Int.log 2 ((numerator : ℚ) / denominator) - 52 := by
    split
    · rename_i h
      rw [log_eq_of_bounds hlow.le (hscaled.1 h) (by omega)]
      omega
    · rename_i h
      rw [log_eq_of_bounds (not_lt.1 (mt hscaled.2 h)) hhigh (by omega)]
      omega
  simp only [unitExponent, ← hguess, hunit]

/-! ## Rounding -/

/-- Rounding does not depend on how a ratio is reduced. -/
theorem roundHalfEven_mul_right {c : Nat} (hc : 0 < c) :
    roundHalfEven (numerator * c) (denominator * c) = roundHalfEven numerator denominator := by
  have htwice : 2 * (numerator % denominator * c) = 2 * (numerator % denominator) * c := by ring
  simp only [roundHalfEven, Nat.mul_div_mul_right _ _ hc, Nat.mul_mod_mul_right, htwice,
    Nat.mul_lt_mul_right hc]

/-- Whole numbers are rounded to themselves. -/
theorem roundHalfEven_mul_self (h : 0 < denominator) (m : Nat) :
    roundHalfEven (m * denominator) denominator = m := by
  simp only [roundHalfEven, Nat.mul_mod_left, Nat.mul_zero, h, if_true, Nat.mul_div_cancel _ h]

/-- Rounding goes to one of the two whole numbers around. -/
theorem roundHalfEven_bounds (numerator denominator : Nat) :
    numerator / denominator ≤ roundHalfEven numerator denominator ∧
      roundHalfEven numerator denominator ≤ numerator / denominator + 1 := by
  simp only [roundHalfEven]
  split_ifs <;> omega

/-! ## The nearest double of a quotient -/

/-- The float nearest to a ratio does not depend on how the ratio is reduced. -/
theorem ofRatio_mul_right (negative : Bool) (hd : 0 < denominator) {c : Nat} (hc : 0 < c) :
    ofRatio negative (numerator * c) (denominator * c) =
      ofRatio negative numerator denominator := by
  rcases Nat.eq_zero_or_pos numerator with rfl | hn
  · simp only [ofRatio, Nat.zero_mul, if_true]
  · have hquotient : ((numerator * c : Nat) : ℚ) / (denominator * c : Nat) =
        (numerator : ℚ) / denominator := by
      push_cast
      exact mul_div_mul_right _ _ (by positivity)
    have hunit : unitExponent (numerator * c) (denominator * c) =
        unitExponent numerator denominator := by
      rw [unitExponent_eq (Nat.mul_pos hn hc) (Nat.mul_pos hd hc), unitExponent_eq hn hd, hquotient]
    simp only [ofRatio, hunit, inUnits_mul_right, roundHalfEven_mul_right hc,
      (Nat.mul_pos hn hc).ne', hn.ne', if_false]

/-- The nearest double depends on the quotient alone. -/
theorem ofRatio_congr (negative : Bool) {n d : Nat} (hd : 0 < denominator) (hd' : 0 < d)
    (h : (numerator : ℚ) / denominator = (n : ℚ) / d) :
    ofRatio negative numerator denominator = ofRatio negative n d := by
  have hcross : numerator * d = n * denominator := by
    rw [div_eq_div_iff (by positivity) (by positivity)] at h
    exact_mod_cast h
  calc
    ofRatio negative numerator denominator = ofRatio negative (numerator * d) (denominator * d) :=
      (ofRatio_mul_right negative hd hd').symm
    _ = ofRatio negative (n * denominator) (d * denominator) := by
      rw [hcross, Nat.mul_comm denominator]
    _ = ofRatio negative n d := ofRatio_mul_right negative hd' hd

/-- In its unit a quotient has 53 bits at most, and 53 bits unless the unit is the least one. -/
theorem div_unitExponent_bounds (hn : 0 < numerator) (hd : 0 < denominator) :
    let scaled := inUnits 2 numerator denominator (unitExponent numerator denominator)
    scaled.1 / scaled.2 < mantissaBound ∧
      (leastMantissa ≤ scaled.1 / scaled.2 ∨
        unitExponent numerator denominator = leastExponent) := by
  intro scaled
  have hq : 0 < (numerator : ℚ) / denominator := by positivity
  have hunit := unitExponent_eq hn hd
  constructor
  · have hlt := Int.lt_zpow_succ_log_self Nat.one_lt_two ((numerator : ℚ) / denominator)
    have hmono : (2 : ℚ) ^ (Int.log 2 ((numerator : ℚ) / denominator) + 1) ≤
        2 ^ (unitExponent numerator denominator + (53 : Nat)) :=
      zpow_le_zpow_right₀ one_le_two (by push_cast; omega)
    exact (div_inUnits_lt_iff hd 53).2 (lt_of_lt_of_le (by exact_mod_cast hlt) hmono)
  · rw [or_iff_not_imp_right]
    intro hne
    have hexponent : unitExponent numerator denominator + (52 : Nat) =
        Int.log 2 ((numerator : ℚ) / denominator) := by
      push_cast
      omega
    have hle := Int.zpow_log_le_self Nat.one_lt_two hq
    rw [← hexponent] at hle
    exact not_lt.1 (mt (div_inUnits_lt_iff hd 52).1 (not_lt.2 (by exact_mod_cast hle)))

/-- The float nearest to a ratio is canonical. -/
theorem isCanonical_ofRatio (negative : Bool) (numerator : Nat) (hd : 0 < denominator) :
    (ofRatio negative numerator denominator).IsCanonical := by
  rcases Nat.eq_zero_or_pos numerator with rfl | hn
  · simp only [ofRatio, if_true, IsCanonical]
    decide
  · obtain ⟨hhigh, hlow⟩ := div_unitExponent_bounds hn hd
    have hleast : leastExponent ≤ unitExponent numerator denominator := by
      rw [unitExponent_eq hn hd]
      exact le_max_left _ _
    obtain ⟨hround, -⟩ := roundHalfEven_bounds
      (inUnits 2 numerator denominator (unitExponent numerator denominator)).1
      (inUnits 2 numerator denominator (unitExponent numerator denominator)).2
    simp only [ofRatio, hn.ne', if_false]
    -- Rounding up may carry into a 54th bit; then the mantissa is a power of two.
    by_cases hcarry : roundHalfEven
      (inUnits 2 numerator denominator (unitExponent numerator denominator)).1
      (inUnits 2 numerator denominator (unitExponent numerator denominator)).2 < mantissaBound
    · simp only [hcarry, if_true]
      split
      · rename_i hgreatest
        exact ⟨hcarry, hleast, hgreatest, hlow.imp_left hround.trans'⟩
      · trivial
    · simp only [hcarry, if_false]
      split
      · rename_i hgreatest
        exact ⟨by decide, by omega, hgreatest, .inl le_rfl⟩
      · trivial

/-- A quotient that is a double is rounded to itself. -/
theorem ofRatio_exact {negative : Bool} {mantissa : Nat} (hm : 0 < mantissa)
    (hcanonical : (Binary64.finite negative mantissa exponent).IsCanonical) (hd : 0 < denominator)
    (h : (numerator : ℚ) / denominator = mantissa * 2 ^ exponent) :
    ofRatio negative numerator denominator = .finite negative mantissa exponent := by
  obtain ⟨hbound, hleast, hgreatest, hfull⟩ := hcanonical
  have hpositive : (0 : ℚ) < mantissa * 2 ^ exponent := by positivity
  have hn : 0 < numerator := by
    rw [Nat.pos_iff_ne_zero]
    rintro rfl
    rw [Nat.cast_zero, zero_div] at h
    exact hpositive.ne h
  -- The unit is the exponent: the mantissa fills 53 bits, or the exponent is the least one.
  have hunit : unitExponent numerator denominator = exponent := by
    have hhigh : (mantissa : ℚ) * 2 ^ exponent < 2 ^ (exponent + 53) := by
      rw [zpow_add₀ two_ne_zero, mul_comm]
      gcongr
      exact_mod_cast hbound
    have hlog := (Int.lt_zpow_iff_log_lt Nat.one_lt_two hpositive).1 (by exact_mod_cast hhigh)
    rw [unitExponent_eq hn hd, h]
    rcases hfull with hfull | hfull
    · have hlow : (2 : ℚ) ^ (exponent + 52) ≤ mantissa * 2 ^ exponent := by
        rw [zpow_add₀ two_ne_zero, mul_comm]
        gcongr
        exact_mod_cast hfull
      have hle := (Int.zpow_le_iff_le_log Nat.one_lt_two hpositive).1 (by exact_mod_cast hlow)
      omega
    · omega
  -- In this unit the ratio is the mantissa, and nothing is left to round.
  have hscaled : (inUnits 2 numerator denominator exponent).1 =
      mantissa * (inUnits 2 numerator denominator exponent).2 := by
    have hpos := inUnits_snd_pos Nat.two_pos hd numerator exponent
    have hvalue := inUnits_value Nat.two_pos numerator denominator exponent
    rw [h, Nat.cast_ofNat, mul_assoc, ← zpow_add₀ two_ne_zero, add_neg_cancel, zpow_zero, mul_one,
      div_eq_iff (by positivity)] at hvalue
    exact_mod_cast hvalue
  simp only [ofRatio, hn.ne', if_false, hunit]
  rw [hscaled, roundHalfEven_mul_self (inUnits_snd_pos Nat.two_pos hd _ _)]
  simp only [hbound, if_true, hgreatest]

/-- The sign plays no part in rounding. -/
theorem ofRatio_of_positive {negative : Bool} {mantissa : Nat}
    (h : ofRatio false numerator denominator = .finite false mantissa exponent) :
    ofRatio negative numerator denominator = .finite negative mantissa exponent := by
  by_cases hzero : numerator = 0
  · rw [ofRatio, if_pos hzero] at h ⊢
    cases h
    rfl
  · simp only [ofRatio, if_neg hzero] at h ⊢
    -- The mantissa and the exponent after a carry, whatever they are.
    generalize (if roundHalfEven _ _ < mantissaBound then _ else _ : Nat × Int) = rounded at h ⊢
    split at h
    · rename_i hgreatest
      cases h
      rw [if_pos hgreatest]
    · cases h

/-! ## The nearest double of a decimal -/

/-- The float nearest to a decimal number is canonical. -/
theorem isCanonical_ofDecimal (negative : Bool) (digits : Nat) (exponent : Int) :
    (ofDecimal negative digits exponent).IsCanonical := by
  simp only [ofDecimal]
  split
  · simp only [IsCanonical]
    decide
  · split
    · trivial
    · exact isCanonical_ofRatio _ _ (ratio_snd_pos (by decide) _)

/-- A sign is put in front of the float of the magnitude. -/
theorem ofDecimal_of_positive {negative : Bool} {digits mantissa : Nat} {power : Int}
    (h : ofDecimal false digits power = .finite false mantissa exponent) :
    ofDecimal negative digits power = .finite negative mantissa exponent := by
  simp only [ofDecimal] at h ⊢
  split at h
  · rename_i hzero
    cases h
    rw [if_pos hzero]
  · rename_i hne
    rw [if_neg hne]
    split at h
    · cases h
    · rename_i hgreat
      rw [if_neg hgreat]
      exact ofRatio_of_positive h

/-- Multiplying by a power of ten appends zeros. -/
theorem toDigits_mul_pow {digits : Nat} (h : 0 < digits) (k : Nat) :
    Nat.toDigits 10 (digits * 10 ^ k) = Nat.toDigits 10 digits ++ List.replicate k '0' := by
  induction k with
  | zero => rw [Nat.pow_zero, Nat.mul_one, List.replicate_zero, List.append_nil]
  | succ k ih =>
    have hpos : 0 < digits * 10 ^ k := Nat.mul_pos h (Nat.pow_pos (by decide))
    rw [Nat.pow_succ', Nat.mul_left_comm, ← Nat.add_zero (10 * _),
      ← Nat.toDigits_append_toDigits (by decide) hpos (by decide), ih, List.append_assoc,
      List.replicate_succ']
    rfl

/-- Zeros at the end of the digits, made up for by the exponent, change nothing. -/
theorem ofDecimal_shift (negative : Bool) (digits : Nat) (exponent : Int) (k : Nat) :
    ofDecimal negative (digits * 10 ^ k) (exponent - k) = ofDecimal negative digits exponent := by
  rcases Nat.eq_zero_or_pos digits with rfl | hpos
  · simp only [ofDecimal, Nat.zero_mul, true_or, if_true]
  have hratio : ofRatio negative (ratio 10 (digits * 10 ^ k) (exponent - k)).1
      (ratio 10 (digits * 10 ^ k) (exponent - k)).2 =
        ofRatio negative (ratio 10 digits exponent).1 (ratio 10 digits exponent).2 := by
    refine ofRatio_congr negative (ratio_snd_pos (by decide) _) (ratio_snd_pos (by decide) _) ?_
    rw [ratio_value, ratio_value, zpow_sub₀ (by norm_num), zpow_natCast]
    push_cast
    field_simp
  have hmagnitude : ((Nat.toDigits 10 (digits * 10 ^ k)).length : Int) + (exponent - k) =
      (Nat.toDigits 10 digits).length + exponent := by
    rw [toDigits_mul_pow hpos, List.length_append, List.length_replicate]
    push_cast
    ring
  have hne : digits * 10 ^ k ≠ 0 := (Nat.mul_pos hpos (Nat.pow_pos (by decide))).ne'
  simp only [ofDecimal, hmagnitude, hratio, hpos.ne', hne, false_or]

end Binary64

end CodeScan
