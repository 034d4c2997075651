import CodeScan.Text.Utf8

/-!
# Decoding what was encoded

The replacing decoder gives back every text from its bytes, with nothing replaced.  A character is
followed through the machine byte by byte: its lead byte puts the machine into the pending state
that knows the high bits, each further byte lies in the range that the state expects and adds six
bits (`decodeFrom_trail`), and with the last byte all bits of the character are there.

The lead bytes with a narrowed range are where a character could get lost.  `lead_three` and
`lead_four` say that the second byte of a character lies in the narrowed range.
-/

namespace CodeScan

namespace Utf8

/-! ## Bytes as numbers -/

theorem toNat_ofNat {n : Nat} (h : n < 256) : (UInt8.ofNat n).toNat = n := by
  rw [UInt8.toNat_ofNat', Nat.mod_eq_of_lt h]

/-- The meaning of a lead byte, by its number. -/
theorem lead_ofNat {n : Nat} (h : n < 256) :
    lead (UInt8.ofNat n) =
      if n < 0x80 then .ascii (Char.ofNat n)
      else if n < 0xC2 then .illFormed
      else if n < 0xE0 then .longer ⟨0, 0x80, 0xBF, n - 0xC0⟩
      else if n = 0xE0 then .longer ⟨1, 0xA0, 0xBF, 0⟩
      else if n = 0xED then .longer ⟨1, 0x80, 0x9F, 0xD⟩
      else if n < 0xF0 then .longer ⟨1, 0x80, 0xBF, n - 0xE0⟩
      else if n = 0xF0 then .longer ⟨2, 0x90, 0xBF, 0⟩
      else if n < 0xF4 then .longer ⟨2, 0x80, 0xBF, n - 0xF0⟩
      else if n = 0xF4 then .longer ⟨2, 0x80, 0x8F, 4⟩
      else .illFormed := by
  simp only [lead, UInt8.lt_iff_toNat_lt, ← UInt8.toNat_inj, toNat_ofNat h]
  rfl

/-- The byte that carries the six low bits of a number. -/
def trail (n : Nat) : UInt8 := UInt8.ofNat (n % 64 + 128)

theorem toNat_trail (n : Nat) : (trail n).toNat = n % 64 + 128 := toNat_ofNat (by omega)

/-- The range of a trailing byte, by numbers. -/
theorem trail_mem_iff (low high : Nat) {n : Nat} (hlow : low < 256) (hhigh : high < 256) :
    (UInt8.ofNat low ≤ trail n ∧ trail n ≤ UInt8.ofNat high) ↔
      low ≤ n % 64 + 128 ∧ n % 64 + 128 ≤ high := by
  rw [UInt8.le_iff_toNat_le, UInt8.le_iff_toNat_le, toNat_trail, toNat_ofNat hlow,
    toNat_ofNat hhigh]

/-- A further byte lies in the widest range there is. -/
theorem trail_mem_range (n : Nat) : 0x80 ≤ trail n ∧ trail n ≤ 0xBF :=
  (trail_mem_iff 0x80 0xBF (by omega) (by omega)).2 (by omega)

/-! ## Steps of the decoder -/

/-- A byte in the expected range adds its six bits. -/
theorem decodeFrom_trail {low high : UInt8} {n : Nat} (h : low ≤ trail n ∧ trail n ≤ high)
    (further bits : Nat) (rest : List UInt8) :
    decodeFrom (some ⟨further, low, high, bits⟩) (trail n :: rest) =
      match further with
      | 0 => Char.ofNat (bits * 64 + n % 64) :: decodeFrom none rest
      | further + 1 => decodeFrom (some ⟨further, 0x80, 0xBF, bits * 64 + n % 64⟩) rest := by
  have hbits : (trail n).toNat - 0x80 = n % 64 := by rw [toNat_trail, Nat.add_sub_cancel]
  cases further <;> simp only [decodeFrom, if_pos h, hbits]

/-- The lead byte of a character of two bytes has the high bits. -/
theorem lead_two {n : Nat} (hlow : 0x80 ≤ n) (hhigh : n ≤ 0x7FF) :
    lead (UInt8.ofNat (n / 64 % 32 + 192)) = .longer ⟨0, 0x80, 0xBF, n / 64⟩ := by
  have hbits : n / 64 % 32 + 192 - 0xC0 = n / 64 := by omega
  rw [lead_ofNat (by omega), if_neg (by omega), if_neg (by omega), if_pos (by omega), hbits]

/-- The lead byte of a character of three bytes expects a range in which the second byte lies. -/
theorem lead_three {n : Nat} (hlow : 0x800 ≤ n) (hhigh : n ≤ 0xFFFF)
    (hvalid : n < 0xD800 ∨ 0xDFFF < n) :
    ∃ low high, lead (UInt8.ofNat (n / 4096 % 16 + 224)) = .longer ⟨1, low, high, n / 4096⟩ ∧
      low ≤ trail (n / 64) ∧ trail (n / 64) ≤ high := by
  have hmod : n / 4096 % 16 = n / 4096 := by omega
  rw [hmod, lead_ofNat (by omega), if_neg (by omega), if_neg (by omega), if_neg (by omega)]
  by_cases hfirst : n / 4096 = 0
  · -- No overlong forms: the second byte is at least `A0`.
    rw [if_pos (by omega), hfirst]
    exact ⟨0xA0, 0xBF, rfl, (trail_mem_iff 0xA0 0xBF (by omega) (by omega)).2
      (by omega)⟩
  · rw [if_neg (by omega)]
    by_cases hsurrogate : n / 4096 = 0xD
    · -- No surrogates: the second byte is at most `9F`.
      rw [if_pos (by omega), hsurrogate]
      exact ⟨0x80, 0x9F, rfl, (trail_mem_iff 0x80 0x9F (by omega) (by omega)).2
        (by omega)⟩
    · rw [if_neg (by omega), if_pos (by omega), Nat.add_sub_cancel]
      exact ⟨0x80, 0xBF, rfl, trail_mem_range _⟩

/-- The lead byte of a character of four bytes expects a range in which the second byte lies. -/
theorem lead_four {n : Nat} (hlow : 0xFFFF < n) (hhigh : n < 0x110000) :
    ∃ low high, lead (UInt8.ofNat (n / 262144 % 8 + 240)) = .longer ⟨2, low, high, n / 262144⟩ ∧
      low ≤ trail (n / 4096) ∧ trail (n / 4096) ≤ high := by
  have hmod : n / 262144 % 8 = n / 262144 := by omega
  rw [hmod, lead_ofNat (by omega), if_neg (by omega), if_neg (by omega), if_neg (by omega),
    if_neg (by omega), if_neg (by omega), if_neg (by omega)]
  by_cases hfirst : n / 262144 = 0
  · rw [if_pos (by omega), hfirst]
    exact ⟨0x90, 0xBF, rfl, (trail_mem_iff 0x90 0xBF (by omega) (by omega)).2
      (by omega)⟩
  · rw [if_neg (by omega)]
    by_cases hlast : n / 262144 = 4
    · -- Nothing past the last plane: the second byte is at most `8F`.
      rw [if_neg (by omega), if_pos (by omega), hlast]
      exact ⟨0x80, 0x8F, rfl, (trail_mem_iff 0x80 0x8F (by omega) (by omega)).2
        (by omega)⟩
    · rw [if_pos (by omega), Nat.add_sub_cancel]
      exact ⟨0x80, 0xBF, rfl, trail_mem_range _⟩

/-! ## Whole characters -/

theorem toNat_valid (c : Char) :
    c.toNat < 0xD800 ∨ (0xDFFF < c.toNat ∧ c.toNat < 0x110000) := c.valid

/-- The bytes of a character, by its number. -/
theorem utf8EncodeChar_eq (c : Char) :
    String.utf8EncodeChar c =
      if c.toNat ≤ 0x7F then [UInt8.ofNat c.toNat]
      else if c.toNat ≤ 0x7FF then [UInt8.ofNat (c.toNat / 64 % 32 + 192), trail c.toNat]
      else if c.toNat ≤ 0xFFFF then
        [UInt8.ofNat (c.toNat / 4096 % 16 + 224), trail (c.toNat / 64), trail c.toNat]
      else
        [UInt8.ofNat (c.toNat / 262144 % 8 + 240), trail (c.toNat / 4096), trail (c.toNat / 64),
          trail c.toNat] := rfl

/-- The bytes of a character are decoded to it, and what follows is left as it is. -/
theorem decodeFrom_utf8EncodeChar (c : Char) (rest : List UInt8) :
    decodeFrom none (String.utf8EncodeChar c ++ rest) = c :: decodeFrom none rest := by
  have hvalid := toNat_valid c
  have hchar : Char.ofNat c.toNat = c := Char.ofNat_toNat c
  generalize hn : c.toNat = n at hvalid hchar
  rw [utf8EncodeChar_eq, hn]
  by_cases hone : n ≤ 0x7F
  · rw [if_pos hone, List.singleton_append, decodeFrom, lead_ofNat (by omega),
      if_pos (by omega), hchar]
  rw [if_neg hone]
  by_cases htwo : n ≤ 0x7FF
  · -- The bits of the bytes put together again are those of the number.
    have hbits : n / 64 * 64 + n % 64 = n := by omega
    rw [if_pos htwo, List.cons_append, decodeFrom, lead_two (by omega) htwo]
    simp only [List.cons_append, List.nil_append, decodeFrom_trail (trail_mem_range _), hbits,
      hchar]
  rw [if_neg htwo]
  by_cases hthree : n ≤ 0xFFFF
  · have hbits : (n / 4096 * 64 + n / 64 % 64) * 64 + n % 64 = n := by omega
    obtain ⟨low, high, hlead, hrange⟩ := lead_three (n := n) (by omega) hthree (by omega)
    rw [if_pos hthree, List.cons_append, decodeFrom, hlead]
    simp only [List.cons_append, List.nil_append, decodeFrom_trail hrange,
      decodeFrom_trail (trail_mem_range _), hbits, hchar]
  · have hbits : ((n / 262144 * 64 + n / 4096 % 64) * 64 + n / 64 % 64) * 64 + n % 64 = n := by
      omega
    obtain ⟨low, high, hlead, hrange⟩ := lead_four (n := n) (by omega) (by omega)
    rw [if_neg hthree, List.cons_append, decodeFrom, hlead]
    simp only [List.cons_append, List.nil_append, decodeFrom_trail hrange,
      decodeFrom_trail (trail_mem_range _), hbits, hchar]

/-- Decoding the bytes of a text gives the text. -/
@[simp] theorem decode_encode (cs : List Char) : decode (encode cs) = cs := by
  rw [decode, encode]
  induction cs with
  | nil => rfl
  | cons c cs ih => rw [List.flatMap_cons, decodeFrom_utf8EncodeChar, ih]

/-! ## Keeping ill-formed bytes -/

/-- A character is found in front exactly if its bytes are there. -/
theorem front?_eq_some_iff {bytes : List UInt8} {c : Char} :
    front? bytes = some c ↔ String.utf8EncodeChar c <+: bytes := by
  rw [front?, Option.filter_eq_some_iff, List.isPrefixOf_iff_prefix]
  refine ⟨And.right, fun h => ⟨?_, h⟩⟩
  obtain ⟨rest, rfl⟩ := h
  have hsize : (String.utf8EncodeChar c).length ≤ 4 := by
    rw [String.length_utf8EncodeChar]
    exact c.utf8Size_le_four
  rw [List.take_append, List.take_of_length_le hsize, decode, decodeFrom_utf8EncodeChar]
  rfl

/-- The bytes that were taken already are skipped. -/
theorem decodeKeepingFrom_length_append (taken rest : List UInt8) :
    decodeKeepingFrom taken.length (taken ++ rest) = decodeKeepingFrom 0 rest := by
  induction taken with
  | nil => rfl
  | cons b taken ih => rw [List.length_cons, List.cons_append, decodeKeepingFrom, ih]

/-- Where a character is in front, it is decoded and the rest after it. -/
theorem decodeKeeping_utf8EncodeChar (c : Char) (rest : List UInt8) :
    decodeKeeping (String.utf8EncodeChar c ++ rest) = .char c :: decodeKeeping rest := by
  obtain ⟨b, more, hbytes⟩ : ∃ b more, String.utf8EncodeChar c = b :: more :=
    List.exists_cons_of_length_pos (by rw [String.length_utf8EncodeChar]; exact c.utf8Size_pos)
  have hfront : front? (b :: (more ++ rest)) = some c := by
    rw [front?_eq_some_iff, hbytes]
    exact List.prefix_append (b :: more) rest
  have hmore : c.utf8Size - 1 = more.length := by
    rw [← String.length_utf8EncodeChar, hbytes, List.length_cons, Nat.add_sub_cancel]
  rw [hbytes, List.cons_append, decodeKeeping, decodeKeepingFrom, hfront]
  simp only [hmore, decodeKeepingFrom_length_append, decodeKeeping]

/-- Where no character is in front, one byte is kept and the rest decoded after it. -/
theorem decodeKeeping_cons {b : UInt8} {rest : List UInt8} (h : front? (b :: rest) = none) :
    decodeKeeping (b :: rest) = surrogateOf b :: decodeKeeping rest := by
  rw [decodeKeeping, decodeKeepingFrom, h, decodeKeeping]

/-- What holds of no bytes, and with a sequence of bytes also of that with a character or with a
byte that starts no character in front, holds of all bytes. -/
theorem keeping_induction {motive : List UInt8 → Prop} (nil : motive [])
    (char : ∀ c rest, motive rest → motive (String.utf8EncodeChar c ++ rest))
    (kept : ∀ b rest, front? (b :: rest) = none → motive rest → motive (b :: rest))
    (bytes : List UInt8) : motive bytes := by
  induction hn : bytes.length using Nat.strongRecOn generalizing bytes with
  | ind n ih =>
    cases bytes with
    | nil => exact nil
    | cons b rest =>
      cases hfront : front? (b :: rest) with
      | none => exact kept b rest hfront (ih _ (by rw [← hn]; exact Nat.lt_succ_self _) rest rfl)
      | some c =>
        obtain ⟨after, hafter⟩ := front?_eq_some_iff.1 hfront
        have hshorter : after.length < n := by
          have hpos := c.utf8Size_pos
          rw [← hn, ← hafter, List.length_append, String.length_utf8EncodeChar]
          omega
        rw [← hafter]
        exact char c after (ih _ hshorter after rfl)

/-- Nothing is kept as a surrogate where the bytes are those of a text. -/
theorem decodeKeeping_encode (cs : List Char) : decodeKeeping (encode cs) = Text.ofChars cs := by
  rw [encode]
  induction cs with
  | nil => rfl
  | cons c cs ih =>
    rw [List.flatMap_cons, decodeKeeping_utf8EncodeChar, ih, Text.ofChars_cons]

end Utf8

end CodeScan
