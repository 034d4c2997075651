import CodeScan.Proofs.Text.Newlines
import CodeScan.Proofs.Text.Utf8
import Mathlib.Algebra.Group.Nat.Defs
import Mathlib.Tactic.SplitIfs

/-!
# The size of what was decoded

A text that was decoded need not be as long as the bytes it came from.  A character that is well
formed has the size it had, but a replacement takes three bytes and may stand for a single one.  So
each replacement makes the text longer by two bytes at most (`size_decode_le`), and nothing else
makes it longer.

The bound is proved along the decoder.  While a character is pending, the bytes that were read for
it are owed: `Fits` says that the character, whatever its missing bits are, takes no more bytes than
were read and are still to come.
-/

namespace CodeScan

namespace Utf8

theorem size_cons (c : Char) (cs : List Char) : size (c :: cs) = c.utf8Size + size cs := rfl

theorem size_replacement : replacement.utf8Size = 3 := rfl

/-- The size of a character by its number. -/
theorem utf8Size_ofNat_le (n : Nat) :
    (Char.ofNat n).utf8Size ≤
      if n ≤ 0x7F then 1 else if n ≤ 0x7FF then 2 else if n ≤ 0xFFFF then 3 else 4 := by
  have hle : (Char.ofNat n).toNat ≤ n := by
    by_cases hvalid : n.isValidChar
    · have hchar : Char.ofNat n = Char.ofNatAux n hvalid := dif_pos hvalid
      rw [hchar]
      exact Nat.le_refl n
    · have hchar : Char.ofNat n = '\x00' := dif_neg hvalid
      rw [hchar]
      exact Nat.zero_le n
  rw [← String.length_utf8EncodeChar, utf8EncodeChar_eq]
  split_ifs <;> simp <;> omega

/-! ## Pending characters -/

/-- The pending character, whatever its missing bits are, takes no more bytes than were `taken` for
it and are missing. -/
structure Pending.Fits (p : Pending) (taken : Nat) : Prop where
  high_le : p.high ≤ 0xBF
  size_le : ∀ m < 64 ^ (p.further + 1),
    (Char.ofNat (p.bits * 64 ^ (p.further + 1) + m)).utf8Size ≤ taken + (p.further + 1)

/-- Behind a lead byte, the bits that were read leave room for as many bytes as are missing. -/
theorem Pending.fits_one {p : Pending} (hhigh : p.high ≤ 0xBF)
    (hbits : p.further = 0 ∧ p.bits ≤ 0x1F ∨ p.further = 1 ∧ p.bits ≤ 0xF ∨ p.further = 2) :
    p.Fits 1 := by
  refine ⟨hhigh, fun m hm => ?_⟩
  have hsize := utf8Size_ofNat_le (p.bits * 64 ^ (p.further + 1) + m)
  rcases hbits with ⟨hfurther, hbits⟩ | ⟨hfurther, hbits⟩ | hfurther
  all_goals
    simp only [hfurther, Nat.reduceAdd, Nat.reducePow] at hm hsize ⊢
    split_ifs at hsize <;> omega

/-- A lead byte leaves room for the bytes that it asks for. -/
theorem fits_of_lead {b : UInt8} {p : Pending} (h : lead b = .longer p) : p.Fits 1 := by
  have hb : b = UInt8.ofNat b.toNat := UInt8.ofNat_toNat.symm
  rw [hb, lead_ofNat b.toNat_lt] at h
  split_ifs at h
  all_goals
    cases h
    apply Pending.fits_one
    · dsimp only
      decide
    · dsimp only
      omega

/-- A byte that is accepted has six bits. -/
theorem trail_bits_lt {b high : UInt8} (hle : b ≤ high) (hhigh : high ≤ 0xBF) :
    b.toNat - 0x80 < 64 := by
  have hb : b.toNat ≤ 0xBF := UInt8.le_iff_toNat_le.1 (UInt8.le_trans hle hhigh)
  omega

/-- A lead byte that is a character takes one byte. -/
theorem utf8Size_of_lead {b : UInt8} {c : Char} (h : lead b = .ascii c) : c.utf8Size ≤ 1 := by
  have hb : b = UInt8.ofNat b.toNat := UInt8.ofNat_toNat.symm
  rw [hb, lead_ofNat b.toNat_lt] at h
  split_ifs at h with hascii
  cases h
  have hsize := utf8Size_ofNat_le b.toNat
  rwa [if_pos (Nat.le_of_lt_succ hascii)] at hsize

/-- A byte in the range that a pending character expects. -/
theorem Pending.Fits.step {p : Pending} {taken further : Nat} {b : UInt8} (h : p.Fits taken)
    (hfurther : p.further = further + 1) (hb : b ≤ p.high) :
    Pending.Fits ⟨further, 0x80, 0xBF, p.bits * 64 + (b.toNat - 0x80)⟩ (taken + 1) := by
  have hbits := trail_bits_lt hb h.high_le
  have hpow : 64 ^ (p.further + 1) = 64 * 64 ^ (further + 1) := by rw [hfurther, Nat.pow_succ']
  refine ⟨UInt8.le_refl _, fun m hm => ?_⟩
  dsimp only at hm ⊢
  have hvalue : (p.bits * 64 + (b.toNat - 0x80)) * 64 ^ (further + 1) + m =
      p.bits * 64 ^ (p.further + 1) + ((b.toNat - 0x80) * 64 ^ (further + 1) + m) := by
    rw [hpow, Nat.add_mul, Nat.mul_assoc, Nat.add_assoc]
  have hmissing : (b.toNat - 0x80) * 64 ^ (further + 1) + m < 64 ^ (p.further + 1) :=
    calc
      (b.toNat - 0x80) * 64 ^ (further + 1) + m
      _ < (b.toNat - 0x80) * 64 ^ (further + 1) + 64 ^ (further + 1) := Nat.add_lt_add_left hm _
      _ = (b.toNat - 0x80 + 1) * 64 ^ (further + 1) := (Nat.succ_mul _ _).symm
      _ ≤ 64 * 64 ^ (further + 1) := Nat.mul_le_mul_right _ hbits
      _ = 64 ^ (p.further + 1) := hpow.symm
  have hsize := h.size_le _ hmissing
  rw [hvalue]
  omega

/-- A pending character that is complete with the next byte. -/
theorem Pending.Fits.last {p : Pending} {taken : Nat} {b : UInt8} (h : p.Fits taken)
    (hfurther : p.further = 0) (hb : b ≤ p.high) :
    (Char.ofNat (p.bits * 64 + (b.toNat - 0x80))).utf8Size ≤ taken + 1 := by
  have hbits := trail_bits_lt hb h.high_le
  have hsize := h.size_le (b.toNat - 0x80)
  rw [hfurther] at hsize
  exact hsize hbits

theorem count_le_count_cons (c : Char) (cs : List Char) :
    cs.count replacement ≤ (c :: cs).count replacement :=
  List.Sublist.count_le _ (List.sublist_cons_self c cs)

theorem count_replacement_cons (cs : List Char) :
    (replacement :: cs).count replacement = cs.count replacement + 1 := List.count_cons_self

/-- Nothing is owed where no character is pending. -/
theorem fits_none (taken : Nat) : ∀ p ∈ (none : Option Pending), 1 ≤ taken ∧ p.Fits taken :=
  fun p hp => absurd hp (Option.not_mem_none p)

/-- With some bytes owed to a pending character, the text that is decoded is as long as the bytes,
up to two more for each replacement. -/
theorem size_decodeFrom_le (pending : Option Pending) (bytes : List UInt8) {taken : Nat}
    (htaken : ∀ p ∈ pending, 1 ≤ taken ∧ p.Fits taken) :
    size (decodeFrom pending bytes) ≤
      taken + bytes.length + 2 * (decodeFrom pending bytes).count replacement := by
  fun_induction decodeFrom pending bytes generalizing taken with
  | case1 => exact Nat.zero_le _
  | case2 p =>
    obtain ⟨hpos, -⟩ := htaken p rfl
    rw [size_cons, size_replacement, count_replacement_cons]
    have : size [] = 0 := rfl
    omega
  | case3 b rest c hlead ih =>
    have hc := utf8Size_of_lead hlead
    have hrest := @ih 0 (fits_none 0)
    have hcount := count_le_count_cons c (decodeFrom none rest)
    rw [size_cons, List.length_cons]
    omega
  | case4 b rest p hlead ih =>
    have hrest := @ih 1 fun q hq => ⟨Nat.le_refl 1, Option.some.inj hq ▸ fits_of_lead hlead⟩
    rw [List.length_cons]
    omega
  | case5 b rest hlead ih =>
    have hrest := @ih 0 (fits_none 0)
    rw [size_cons, size_replacement, count_replacement_cons, List.length_cons]
    omega
  | case6 p b rest hrange bits hfurther =>
    rename_i ih
    obtain ⟨-, hfits⟩ := htaken p rfl
    have hc : (Char.ofNat bits).utf8Size ≤ taken + 1 := hfits.last hfurther hrange.2
    have hrest := @ih 0 (fits_none 0)
    have hcount := count_le_count_cons (Char.ofNat bits) (decodeFrom none rest)
    rw [size_cons, List.length_cons]
    omega
  | case7 p b rest hrange bits further hfurther =>
    rename_i ih
    obtain ⟨-, hfits⟩ := htaken p rfl
    have hrest := @ih (taken + 1) fun q hq =>
      ⟨Nat.le_add_left 1 taken, Option.some.inj hq ▸ hfits.step hfurther hrange.2⟩
    rw [List.length_cons]
    omega
  | case8 p b rest hrange c hlead ih =>
    -- The pending character is given up, and the byte is looked at afresh.
    obtain ⟨hpos, -⟩ := htaken p rfl
    have hc := utf8Size_of_lead hlead
    have hrest := @ih 0 (fits_none 0)
    have hcount := count_le_count_cons c (decodeFrom none rest)
    rw [size_cons, size_cons, size_replacement, count_replacement_cons, List.length_cons]
    omega
  | case9 p b rest hrange next hlead ih =>
    obtain ⟨hpos, -⟩ := htaken p rfl
    have hrest := @ih 1 fun q hq => ⟨Nat.le_refl 1, Option.some.inj hq ▸ fits_of_lead hlead⟩
    rw [size_cons, size_replacement, count_replacement_cons, List.length_cons]
    omega
  | case10 p b rest hrange hlead ih =>
    obtain ⟨hpos, -⟩ := htaken p rfl
    have hrest := @ih 0 (fits_none 0)
    simp only [size_cons, size_replacement, count_replacement_cons, List.length_cons]
    omega

/-- A decoded text is as long as its bytes, up to two more for each replacement. -/
theorem size_decode_le (bytes : List UInt8) :
    size (decode bytes) ≤ bytes.length + 2 * (decode bytes).count replacement := by
  have hsize := size_decodeFrom_le none bytes (fits_none 0)
  rwa [Nat.zero_add] at hsize

/-- The bytes of a text are as many as its size. -/
theorem length_encode (cs : List Char) : (encode cs).length = size cs := by
  induction cs with
  | nil => rfl
  | cons c cs ih =>
    have hcons : encode (c :: cs) = String.utf8EncodeChar c ++ encode cs := rfl
    rw [hcons, List.length_append, String.length_utf8EncodeChar, ih, size_cons]

end Utf8

end CodeScan
