import CodeScan.Number.Shortest
import CodeScan.Proofs.Number.Binary64

/-!
# The shown decimal reads back

`shortestDecimal` tries decimals of growing length against the reader and falls back on all digits
of the value.  Either way what it gives reads back as the value (`ofDecimal_shortestDecimal`).  For
the fallback this is a fact about exact decimals: they are not so large or so small that the reader
settles them by their magnitude, and a quotient that is a double is rounded to itself.
-/

namespace CodeScan

namespace Binary64

variable {mantissa : Nat} {exponent : Int}

theorem toDigits_length_le {n k : Nat} (hk : 0 < k) (h : n < 10 ^ k) :
    (Nat.toDigits 10 n).length ≤ k := (Nat.length_toDigits_le_iff (by decide) hk).2 h

/-- A multiple of a power of five has not many fewer digits than the power of ten. -/
theorem pow_lt_of_short {n length short : Nat} (hm : 0 < mantissa)
    (hdigits : mantissa * 5 ^ n < 10 ^ length) (h : length + short ≤ n) : 10 ^ short < 2 ^ n := by
  have hpow : 5 ^ n * 10 ^ short < 5 ^ n * 2 ^ n := by
    calc
      5 ^ n * 10 ^ short ≤ mantissa * 5 ^ n * 10 ^ short :=
        Nat.mul_le_mul_right _ (Nat.le_mul_of_pos_left _ hm)
      _ < 10 ^ length * 10 ^ short :=
        Nat.mul_lt_mul_of_pos_right hdigits (Nat.pow_pos (by decide))
      _ = 10 ^ (length + short) := (Nat.pow_add _ _ _).symm
      _ ≤ 10 ^ n := Nat.pow_le_pow_right (by decide) h
      _ = 5 ^ n * 2 ^ n := by rw [← Nat.mul_pow]
  exact Nat.lt_of_mul_lt_mul_left hpow

/-- The exact digits of a double lie within the range of the reader. -/
theorem magnitude_exactDecimal (hm : 0 < mantissa)
    (h : (Binary64.finite false mantissa exponent).IsCanonical) :
    -330 ≤ ((Nat.toDigits 10 (exactDecimal mantissa exponent).digits).length : Int) +
        (exactDecimal mantissa exponent).exponent ∧
      ((Nat.toDigits 10 (exactDecimal mantissa exponent).digits).length : Int) +
        (exactDecimal mantissa exponent).exponent ≤ 310 := by
  obtain ⟨hbound, hleast, hgreatest, -⟩ := h
  have hmantissa : mantissa < 2 ^ 53 := hbound
  cases exponent with
  | ofNat e =>
    -- Upwards the digits are those of the float itself: below 2 ^ 1024.
    have he : e ≤ 971 := Int.ofNat_le.1 hgreatest
    have hdigits : mantissa * 2 ^ e < 10 ^ 310 := by
      calc
        mantissa * 2 ^ e ≤ 2 ^ 53 * 2 ^ 971 :=
          Nat.mul_le_mul hmantissa.le (Nat.pow_le_pow_right (by decide) he)
        _ < 10 ^ 310 := by decide +kernel
    have hlength := toDigits_length_le (by decide) hdigits
    simp only [exactDecimal, Nat.pow_eq]
    omega
  | negSucc e =>
    have he : e + 1 ≤ 1074 := by
      have : leastExponent ≤ Int.negSucc e := hleast
      rw [leastExponent] at this
      omega
    have hhigh : mantissa * 5 ^ (e + 1) < 10 ^ (310 + (e + 1)) := by
      calc
        mantissa * 5 ^ (e + 1) < 10 ^ 310 * 5 ^ (e + 1) :=
          Nat.mul_lt_mul_of_pos_right (hmantissa.trans (by decide +kernel))
            (Nat.pow_pos (by decide))
        _ ≤ 10 ^ 310 * 10 ^ (e + 1) :=
          Nat.mul_le_mul_left _ (Nat.pow_le_pow_left (by decide) (e + 1))
        _ = 10 ^ (310 + (e + 1)) := by rw [Nat.pow_add 10 310]
    have hlength := toDigits_length_le (Nat.add_pos_left (by decide) _) hhigh
    -- With fewer digits the fives could not have outweighed the tens that they are divided by.
    have hlow : e + 1 ≤ (Nat.toDigits 10 (mantissa * 5 ^ (e + 1))).length + 330 := by
      obtain ⟨length, hlength⟩ : ∃ n, n = (Nat.toDigits 10 (mantissa * 5 ^ (e + 1))).length :=
        ⟨_, rfl⟩
      by_contra hshort
      have hpos : 0 < length := hlength ▸ Nat.length_toDigits_pos
      have hdigits : mantissa * 5 ^ (e + 1) < 10 ^ length :=
        (Nat.length_toDigits_le_iff (by decide) hpos).1 hlength.ge
      have htwo : 2 ^ (e + 1) ≤ 10 ^ 330 :=
        (Nat.pow_le_pow_right (by decide) he).trans (by decide +kernel)
      exact absurd (pow_lt_of_short hm hdigits (by omega)) (not_lt.2 htwo)
    simp only [exactDecimal, Nat.pow_eq]
    omega

/-- The exact decimal form of a float is read as that float. -/
theorem ofDecimal_exactDecimal (hm : 0 < mantissa)
    (h : (Binary64.finite false mantissa exponent).IsCanonical) :
    ofDecimal false (exactDecimal mantissa exponent).digits
      (exactDecimal mantissa exponent).exponent = .finite false mantissa exponent := by
  obtain ⟨hlow, hhigh⟩ := magnitude_exactDecimal hm h
  -- The decimal is worth the float, since a half is five tenths.
  have hvalue : ((exactDecimal mantissa exponent).digits : ℚ) *
      10 ^ (exactDecimal mantissa exponent).exponent = mantissa * 2 ^ exponent := by
    cases exponent with
    | ofNat e => simp [exactDecimal]
    | negSucc e =>
      have hten : (10 : ℚ) ^ (e + 1) = 5 ^ (e + 1) * 2 ^ (e + 1) := by
        rw [← mul_pow]
        norm_num
      simp only [exactDecimal, Nat.pow_eq, zpow_negSucc, hten]
      push_cast
      field_simp
  have hne : (exactDecimal mantissa exponent).digits ≠ 0 := by
    cases exponent with
    | ofNat e => exact (Nat.mul_pos hm (Nat.pow_pos (by decide))).ne'
    | negSucc e => exact (Nat.mul_pos hm (Nat.pow_pos (by decide))).ne'
  simp only [ofDecimal, hne, false_or, not_lt.2 hlow, not_lt.2 hhigh, if_false]
  refine ofRatio_exact hm h (ratio_snd_pos (by decide) _) ?_
  rw [ratio_value]
  exact_mod_cast hvalue

/-- A shorter decimal form is taken only if it is read as the same float. -/
theorem ofDecimal_of_decimalOfLength? {length : Nat} {decimal : Decimal}
    (h : decimalOfLength? mantissa exponent length = some decimal) :
    ofDecimal false decimal.digits decimal.exponent = .finite false mantissa exponent := by
  simp only [decimalOfLength?] at h
  split at h
  · rename_i hbelow habove
    cases h
    simp only
    split
    · exact of_decide_eq_true hbelow
    · exact of_decide_eq_true habove
  · rename_i hbelow _
    cases h
    exact of_decide_eq_true hbelow
  · rename_i _ habove
    cases h
    exact of_decide_eq_true habove
  · cases h

/-- The shown decimal of a positive double reads back as the double. -/
theorem ofDecimal_shortestDecimal (hm : 0 < mantissa)
    (h : (Binary64.finite false mantissa exponent).IsCanonical) :
    ofDecimal false (shortestDecimal mantissa exponent).digits
      (shortestDecimal mantissa exponent).exponent = .finite false mantissa exponent := by
  rw [shortestDecimal]
  cases hfound : (List.range 17).findSome? fun n => decimalOfLength? mantissa exponent (n + 1) with
  | none => exact ofDecimal_exactDecimal hm h
  | some decimal =>
    obtain ⟨n, -, hn⟩ := List.exists_of_findSome?_eq_some hfound
    exact ofDecimal_of_decimalOfLength? hn

end Binary64

end CodeScan
