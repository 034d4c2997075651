import CodeScan.Text.Case

/-!
# Lower case that comes from ASCII

Names are compared in full lower case, and full lower case brings two characters from beyond ASCII
into ASCII: the Kelvin sign becomes a k, and the dotted capital I becomes an i with a mark behind
it.  A text with neither of these two letters is the lower case of ASCII texts only, and for such
texts the full lower case is the ASCII one (`lower_eq_iff_lowerAscii_eq`).
-/

namespace CodeScan

namespace CodePoint

variable {c : CodePoint} {a : Char} {n : Nat}

/-- Printable ASCII without the letters i and k. -/
def lowersFromAscii (c : CodePoint) : Bool :=
  c.satisfies fun a => 0x20 ≤ a.toNat && a.toNat < 0x80 && a != 'i' && a != 'k'

theorem lowersFromAscii_char_iff : (CodePoint.char a).lowersFromAscii = true ↔
    0x20 ≤ a.toNat ∧ a.toNat < 0x80 ∧ a ≠ 'i' ∧ a ≠ 'k' := by
  simp [lowersFromAscii, satisfies, and_assoc]

/-- What a code point beyond ASCII is mapped to lies beyond ASCII or is the letter k. -/
theorem image_lowerRuns (hn : 0x80 ≤ n) :
    0x80 ≤ (lowerRuns.findSome? (·.map? n)).getD n ∨
      (lowerRuns.findSome? (·.map? n)).getD n = 'k'.toNat := by
  have hruns : (lowerRuns.all fun run =>
      0x80 ≤ run.image || run.image == 'k'.toNat && run.last == run.first) = true := by decide
  cases hfound : lowerRuns.findSome? (·.map? n) with
  | none => exact .inl hn
  | some m =>
    obtain ⟨run, hrun, hm⟩ := List.exists_of_findSome?_eq_some hfound
    have himage := List.all_eq_true.1 hruns run hrun
    simp only [Bool.or_eq_true, Bool.and_eq_true, decide_eq_true_eq, beq_iff_eq] at himage
    rw [CaseRun.map?] at hm
    split at hm
    · rename_i hheld
      cases hm
      rw [Option.getD_some]
      omega
    · cases hm

/-- No number from beyond ASCII is that of a letter that comes from ASCII only, nor is that of the
letter k. -/
theorem lowersFromAscii_ofValue (hn : 0x80 ≤ n ∨ n = 'k'.toNat) :
    (ofValue n).lowersFromAscii = false := by
  rw [Bool.eq_false_iff]
  intro h
  rw [ofValue] at h
  split at h
  · cases h
  · obtain ⟨hprintable, hascii, -, hk⟩ := lowersFromAscii_char_iff.1 h
    by_cases hvalid : n.isValidChar
    · have hsame : (Char.ofNat n).toNat = n := by
        rw [Char.ofNat, dif_pos hvalid]
        rfl
      rcases hn with hn | rfl
      · omega
      · exact hk rfl
    · -- A number without a character falls back to the character zero, which is not printable.
      have hzero : (Char.ofNat n).toNat = 0 := by
        rw [Char.ofNat, dif_neg hvalid]
        rfl
      omega

theorem lower_char_of_ascii (h : a.toNat < 0x80) :
    (CodePoint.char a).lower = [.char a.toLower] := if_pos h

/-- The lower case of a code point beyond ASCII starts with one that is not known to be ASCII's. -/
theorem exists_lower_of_not_ascii (h : ∀ a : Char, c = .char a → 0x80 ≤ a.toNat) :
    ∃ first rest, c.lower = first :: rest ∧ first.lowersFromAscii = false := by
  cases c with
  | surrogate offset => exact ⟨.surrogate offset, [], rfl, rfl⟩
  | char a =>
    have ha := h a rfl
    rw [lower, if_neg (by omega)]
    split
    · exact ⟨.char 'i', _, rfl, by decide⟩
    · exact ⟨_, [], rfl, lowersFromAscii_ofValue (image_lowerRuns ha)⟩

end CodePoint

namespace Text

/-- One code point in ASCII lower case. -/
theorem lowerAscii_cons (c : CodePoint) (t : Text) :
    lowerAscii (c :: t) = lowerAscii [c] ++ lowerAscii t := rfl

/-- A code point has the same lower case in full as in ASCII, unless neither is known to come from
ASCII. -/
theorem lower_eq_or (c : CodePoint) :
    c.lower = lowerAscii [c] ∨
      (∃ first rest, c.lower = first :: rest ∧ first.lowersFromAscii = false) ∧
        ∃ last, lowerAscii [c] = [last] ∧ last.lowersFromAscii = false := by
  cases c with
  | surrogate offset => exact .inl rfl
  | char a =>
    by_cases ha : a.toNat < 0x80
    · exact .inl (CodePoint.lower_char_of_ascii ha)
    · have hkept : a.toLower = a := by
        refine dif_neg ?_
        rintro ⟨-, hlast⟩
        exact ha (Nat.lt_of_le_of_lt (UInt32.le_iff_toNat_le.1 hlast) (by decide))
      refine .inr ⟨CodePoint.exists_lower_of_not_ascii ?_, .char a, ?_, ?_⟩
      · rintro b ⟨⟩
        exact Nat.le_of_not_lt ha
      · simp only [lowerAscii, List.map_cons, List.map_nil, hkept]
      · rw [Bool.eq_false_iff]
        exact fun h => ha (CodePoint.lowersFromAscii_char_iff.1 h).2.1

/-- A text of printable ASCII without i and k is the full lower case of the texts of which it is the
ASCII lower case. -/
theorem lower_eq_iff_lowerAscii_eq {s t : Text} (ht : ∀ c ∈ t, c.lowersFromAscii = true) :
    s.lower = t ↔ s.lowerAscii = t := by
  induction s generalizing t with
  | nil => rfl
  | cons c s ih =>
    rw [lower, List.flatMap_cons, ← lower, lowerAscii_cons]
    rcases lower_eq_or c with hsame | ⟨⟨first, rest, hfirst, hlost⟩, last, hlast, hlost'⟩
    · obtain ⟨last, hlast⟩ : ∃ last, lowerAscii [c] = [last] := ⟨_, rfl⟩
      rw [hsame, hlast, List.singleton_append, List.singleton_append]
      cases t with
      | nil => exact iff_of_false (List.cons_ne_nil _ _) (List.cons_ne_nil _ _)
      | cons x more =>
        rw [List.cons.injEq, List.cons.injEq, ih (List.forall_mem_cons.1 ht).2]
    · rw [hfirst, hlast]
      constructor
      · rintro rfl
        exact absurd (ht first List.mem_cons_self) (by simp [hlost])
      · rintro rfl
        exact absurd (ht last List.mem_cons_self) (by simp [hlost'])

end Text

end CodeScan
