import CodeScan.Number.Literal
import CodeScan.Proofs.Text.Blank
import Mathlib.Data.Nat.Digits.Lemmas

/-!
# Literals of settings

What the literal of an integer is, said without the reader of literals: blanks around an optional
sign and digits of any script, with single underscores between the digits (`Writes`).  Its value is
that of its digits in base ten, so leading zeros do not count.

The reader reads exactly the literals that have no more digits than it converts, leading zeros
included, and gives their values (`setting?_eq_some_iff`).  How large these can get follows from the
number of digits (`Writes.natAbs_lt`).
-/

namespace CodeScan

/-- A digit of any script is worth nine at most. -/
theorem digitValue?_le {c : Char} {d : Nat} (h : digitValue? c = some d) : d ≤ 9 := by
  obtain ⟨start, hstart, rfl⟩ := Option.map_eq_some_iff.1 h
  have hrange := List.find?_some hstart
  rw [Bool.and_eq_true, decide_eq_true_eq, decide_eq_true_eq] at hrange
  omega

namespace Literal

variable {cs rest : List Char} {c : Char} {d : Nat} {ds : List Nat} {n : Int}

/-! ## Digits -/

/-- Digits of the given values, with single underscores between them. -/
inductive Groups : List Char → List Nat → Prop where
  | last {c : Char} {d : Nat} (h : digitValue? c = some d) : Groups [c] [d]
  | digit {c : Char} {d : Nat} {cs : List Char} {ds : List Nat} (h : digitValue? c = some d)
    (rest : Groups cs ds) : Groups (c :: cs) (d :: ds)
  | underscore {c : Char} {d : Nat} {cs : List Char} {ds : List Nat} (h : digitValue? c = some d)
    (rest : Groups cs ds) : Groups (c :: '_' :: cs) (d :: ds)

/-- How many digits a text holds. -/
def digitCount (cs : List Char) : Nat := cs.countP fun c => (digitValue? c).isSome

theorem isSome_of_digitValue? (h : digitValue? c = some d) : (digitValue? c).isSome = true := by
  rw [h, Option.isSome_some]

theorem digitCount_append (cs rest : List Char) :
    digitCount (cs ++ rest) = digitCount cs + digitCount rest := List.countP_append

theorem digitCount_cons_digit (h : digitValue? c = some d) :
    digitCount (c :: cs) = digitCount cs + 1 :=
  List.countP_cons_of_pos (isSome_of_digitValue? h)

theorem digitCount_eq_zero (h : ∀ c ∈ cs, (digitValue? c).isSome = false) : digitCount cs = 0 :=
  List.countP_eq_zero.2 fun c hc => by rw [h c hc]; exact Bool.false_ne_true

/-- A character that is no digit is none of those that are. -/
theorem ne_of_digitValue? {x : Char} (hx : (digitValue? x).isSome = false)
    (h : digitValue? c = some d) : c ≠ x := by
  rintro rfl
  rw [isSome_of_digitValue? h] at hx
  cases hx

/-- A digit in front is read, and an underscore may follow it. -/
theorem groupedDigits?_digit (h : digitValue? c = some d) (needDigit : Bool) :
    groupedDigits? needDigit (c :: rest) = (groupedDigits? false rest).map (d :: ·) := by
  rw [groupedDigits?, if_neg (ne_of_digitValue? (by decide) h), h]
  cases groupedDigits? false rest <;> rfl

/-- After an underscore there has to be a digit. -/
theorem groupedDigits?_underscore :
    groupedDigits? false ('_' :: rest) = groupedDigits? true rest := by
  rw [groupedDigits?, if_pos rfl, if_neg Bool.false_ne_true]

/-- Digits start with a digit, so that it makes no difference whether one must come next. -/
theorem groupedDigits?_of_groups (h : Groups cs ds) (needDigit : Bool) :
    groupedDigits? needDigit cs = some ds := by
  induction h generalizing needDigit with
  | last h =>
    rw [groupedDigits?_digit h]
    rfl
  | digit h rest ih =>
    rw [groupedDigits?_digit h, ih]
    rfl
  | underscore h rest ih =>
    rw [groupedDigits?_digit h, groupedDigits?_underscore, ih]
    rfl

/-- What is read where a digit must come next are digits; elsewhere there may also be nothing, or an
underscore and digits. -/
theorem groups_of_groupedDigits? (needDigit : Bool) (h : groupedDigits? needDigit cs = some ds) :
    Groups cs ds ∨ needDigit = false ∧
      (cs = [] ∧ ds = [] ∨ ∃ rest, cs = '_' :: rest ∧ Groups rest ds) := by
  induction cs generalizing needDigit ds with
  | nil =>
    cases needDigit with
    | true => cases h
    | false => exact .inr ⟨rfl, .inl ⟨rfl, by cases h; rfl⟩⟩
  | cons c cs ih =>
    rw [groupedDigits?] at h
    split_ifs at h with hc
    · rename_i hneed
      -- An underscore asks for a digit, so what follows is groups again.
      obtain rfl := hc
      have hrest := (ih true h).resolve_right fun hfalse => absurd hfalse.1 (by decide)
      exact .inr ⟨Bool.eq_false_iff.2 hneed, .inr ⟨cs, rfl, hrest⟩⟩
    · obtain ⟨d, hd, h⟩ := Option.bind_eq_some_iff.1 h
      obtain ⟨more, hmore, h⟩ := Option.bind_eq_some_iff.1 h
      cases h
      refine .inl ?_
      rcases ih false hmore with hrest | ⟨-, ⟨rfl, rfl⟩ | ⟨rest, rfl, hrest⟩⟩
      · exact .digit hd hrest
      · exact .last hd
      · exact .underscore hd hrest

/-- Digits are read exactly from what the grammar calls groups of them. -/
theorem groupedDigits?_eq_some_iff : groupedDigits? true cs = some ds ↔ Groups cs ds :=
  ⟨fun h => (groups_of_groupedDigits? true h).resolve_right fun hfalse =>
    absurd hfalse.1 (by decide), fun h => groupedDigits?_of_groups h true⟩

/-- Groups have as many digits as they have values. -/
theorem Groups.digitCount_eq (h : Groups cs ds) : digitCount cs = ds.length := by
  induction h with
  | last h => rw [digitCount_cons_digit h]; rfl
  | digit h rest ih => rw [digitCount_cons_digit h, ih, List.length_cons]
  | underscore h rest ih =>
    have hnone : digitCount ['_'] = 0 := by decide
    rw [digitCount_cons_digit h, ← List.singleton_append, digitCount_append, hnone, ih,
      List.length_cons, Nat.zero_add]

/-- Digits may have zeros in front of them. -/
theorem Groups.zeros (h : Groups cs ds) (k : Nat) :
    Groups (List.replicate k '0' ++ cs) (List.replicate k 0 ++ ds) := by
  induction k with
  | zero => exact h
  | succ k ih =>
    rw [List.replicate_succ, List.replicate_succ]
    exact .digit (by decide) ih

/-- The values in groups are those of digits. -/
theorem Groups.forall_le (h : Groups cs ds) : ∀ d ∈ ds, d ≤ 9 := by
  induction h with
  | last h => exact List.forall_mem_singleton.2 (digitValue?_le h)
  | digit h rest ih => exact List.forall_mem_cons.2 ⟨digitValue?_le h, ih⟩
  | underscore h rest ih => exact List.forall_mem_cons.2 ⟨digitValue?_le h, ih⟩

/-- Digits start and end with a digit. -/
theorem Groups.exists_head (h : Groups cs ds) :
    ∃ c d rest, cs = c :: rest ∧ digitValue? c = some d := by
  cases h with
  | last h => exact ⟨_, _, _, rfl, h⟩
  | digit h => exact ⟨_, _, _, rfl, h⟩
  | underscore h => exact ⟨_, _, _, rfl, h⟩

/-- Groups end with a digit. -/
theorem Groups.exists_last (h : Groups cs ds) :
    ∃ front c d, cs = front ++ [c] ∧ digitValue? c = some d := by
  induction h with
  | last h => exact ⟨[], _, _, rfl, h⟩
  | @digit c _ _ _ _ _ ih =>
    obtain ⟨front, x, v, rfl, hx⟩ := ih
    exact ⟨c :: front, x, v, rfl, hx⟩
  | @underscore c _ _ _ _ _ ih =>
    obtain ⟨front, x, v, rfl, hx⟩ := ih
    exact ⟨c :: '_' :: front, x, v, rfl, hx⟩

/-- The value of digits is their value in base ten. -/
theorem ofDigits_eq (ds : List Nat) : ofDigits ds = Nat.ofDigits 10 ds.reverse := by
  induction ds using List.reverseRecOn with
  | nil => rfl
  | append_singleton ds d ih =>
    rw [ofDigits, List.foldl_concat, ← ofDigits, ih, List.reverse_concat, Nat.ofDigits_cons]
    ring

/-! ## Literals -/

/-- The integers that a magnitude stands for behind a sign. -/
inductive Signed : List Char → Nat → Int → Prop where
  | none (magnitude : Nat) : Signed [] magnitude magnitude
  | plus (magnitude : Nat) : Signed ['+'] magnitude magnitude
  | minus (magnitude : Nat) : Signed ['-'] magnitude (-magnitude)

/-- The literal of an integer: blanks, a sign or none, digits, and blanks. -/
inductive Writes : List Char → Int → Prop where
  | intro {front sign body back : List Char} {ds : List Nat} {n : Int}
    (hfront : ∀ c ∈ front, isOuterBlank c = true) (hback : ∀ c ∈ back, isOuterBlank c = true)
    (hsign : Signed sign (Nat.ofDigits 10 ds.reverse) n) (hbody : Groups body ds) :
    Writes (front ++ (sign ++ body) ++ back) n

/-- A number without a sign is read exactly from groups of not too many digits. -/
theorem magnitude?_eq_some_iff {m : Nat} : magnitude? cs = some m ↔
    ∃ ds, Groups cs ds ∧ digitCount cs ≤ maxDigits ∧ Nat.ofDigits 10 ds.reverse = m := by
  constructor
  · intro h
    obtain ⟨ds, hds, h⟩ := Option.bind_eq_some_iff.1 h
    have hgroups := groupedDigits?_eq_some_iff.1 hds
    split at h
    · rename_i hlength
      cases h
      exact ⟨ds, hgroups, hgroups.digitCount_eq ▸ hlength, (ofDigits_eq ds).symm⟩
    · cases h
  · rintro ⟨ds, hgroups, hcount, rfl⟩
    refine Option.bind_eq_some_iff.2 ⟨ds, groupedDigits?_eq_some_iff.2 hgroups, ?_⟩
    rw [if_pos (hgroups.digitCount_eq ▸ hcount), ofDigits_eq]

/-- Without the blanks around it, a literal is a sign or none and a magnitude. -/
theorem setting?_eq_some_iff_signed : setting? cs = some n ↔
    ∃ sign body m, Text.trimWhere isOuterBlank cs = sign ++ body ∧ Signed sign m n ∧
      magnitude? body = some m := by
  constructor
  · intro h
    rw [setting?] at h
    split at h
    · rename_i rest hkept
      obtain ⟨k, hk, rfl⟩ := Option.map_eq_some_iff.1 h
      obtain ⟨m, hm, hk⟩ := Option.bind_eq_some_iff.1 hk
      cases hk
      exact ⟨['-'], rest, m, hkept, .minus m, hm⟩
    · rename_i rest hkept
      obtain ⟨m, hm, rfl⟩ := Option.map_eq_some_iff.1 h
      exact ⟨['+'], rest, m, hkept, .plus m, hm⟩
    · obtain ⟨m, hm, rfl⟩ := Option.map_eq_some_iff.1 h
      exact ⟨[], _, m, rfl, .none m, hm⟩
  · rintro ⟨sign, body, m, hkept, hsign, hm⟩
    rw [setting?, hkept]
    cases hsign with
    | none =>
      -- A magnitude starts with a digit, so it is not taken for a sign.
      obtain ⟨ds, hbody, -, -⟩ := magnitude?_eq_some_iff.1 hm
      obtain ⟨c, d, rest, rfl, hc⟩ := hbody.exists_head
      rw [List.nil_append]
      split
      · rename_i heq
        cases heq
        cases hc
      · rename_i heq
        cases heq
        cases hc
      · rw [hm]
        rfl
    | plus =>
      simp only [List.singleton_append, hm]
      rfl
    | minus =>
      simp only [List.singleton_append, hm]
      rfl

/-! ## Blanks around a literal -/

/-- No digit is a blank. -/
theorem isBlank_of_digitValue? (h : digitValue? c = some d) : isBlank c = false := by
  have hall : (blanks.all fun n => !(digitValue? (Char.ofNat n)).isSome) = true := by
    decide +kernel
  rw [Bool.eq_false_iff]
  intro hc
  have hnone := forall_isBlank (fun c => !(digitValue? c).isSome) hall hc
  rw [isSome_of_digitValue? h] at hnone
  cases hnone

/-- No digit is taken for a blank around a number. -/
theorem isOuterBlank_of_digitValue? (h : digitValue? c = some d) : isOuterBlank c = false := by
  rw [isOuterBlank, isBlank_of_digitValue? h, Bool.false_and]

/-- No blank around a number is taken for a digit. -/
theorem isSome_digitValue?_of_isOuterBlank (h : isOuterBlank c = true) :
    (digitValue? c).isSome = false := by
  cases hc : digitValue? c with
  | none => rfl
  | some d =>
    rw [isOuterBlank_of_digitValue? hc] at h
    cases h

/-- A sign and digits have no blank at either end. -/
theorem trimWhere_literal {front sign body back : List Char} {m : Nat}
    (hfront : ∀ c ∈ front, isOuterBlank c = true) (hback : ∀ c ∈ back, isOuterBlank c = true)
    (hsign : Signed sign m n) (hbody : Groups body ds) :
    Text.trimWhere isOuterBlank (front ++ (sign ++ body) ++ back) = sign ++ body := by
  obtain ⟨first, d, more, hhead, hfirst⟩ := hbody.exists_head
  obtain ⟨init, last, d', hlast, hd'⟩ := hbody.exists_last
  refine (Text.trimWhere_eq_iff ?_ ?_ ?_).2 ⟨front, back, rfl, hfront, hback⟩
  · rw [hlast]
    simp
  · -- In front stands a sign or a digit, and neither counts as a blank.
    intro x hx
    cases hsign with
    | none =>
      rw [hhead] at hx
      cases hx
      exact isOuterBlank_of_digitValue? hfirst
    | plus =>
      cases hx
      decide
    | minus =>
      cases hx
      decide
  · intro x hx
    rw [hlast, ← List.append_assoc, List.getLast?_concat] at hx
    cases hx
    exact isOuterBlank_of_digitValue? hd'

/-- There is no digit in a sign. -/
theorem Signed.digitCount_eq_zero {sign : List Char} {m : Nat} (h : Signed sign m n) :
    digitCount sign = 0 := by
  cases h <;> decide

/-- The digits of a literal are those between its sign and the blanks behind it. -/
theorem digitCount_literal {front sign body back : List Char} {m : Nat}
    (hfront : ∀ c ∈ front, isOuterBlank c = true) (hback : ∀ c ∈ back, isOuterBlank c = true)
    (hsign : Signed sign m n) :
    digitCount (front ++ (sign ++ body) ++ back) = digitCount body := by
  rw [digitCount_append, digitCount_append, digitCount_append, hsign.digitCount_eq_zero,
    digitCount_eq_zero fun c hc => isSome_digitValue?_of_isOuterBlank (hfront c hc),
    digitCount_eq_zero fun c hc => isSome_digitValue?_of_isOuterBlank (hback c hc)]
  omega

/-- The integers that settings may write are those of literals without too many digits. -/
theorem setting?_eq_some_iff :
    setting? cs = some n ↔ Writes cs n ∧ digitCount cs ≤ maxDigits := by
  rw [setting?_eq_some_iff_signed]
  constructor
  · rintro ⟨sign, body, m, hkept, hsign, hm⟩
    obtain ⟨ds, hbody, hcount, rfl⟩ := magnitude?_eq_some_iff.1 hm
    obtain ⟨front, back, hcs, hfront, hback⟩ :=
      Text.exists_eq_append_trimWhere isOuterBlank cs
    rw [hkept] at hcs
    subst hcs
    exact ⟨.intro hfront hback hsign hbody, by rwa [digitCount_literal hfront hback hsign]⟩
  · rintro ⟨hwrites, hcount⟩
    cases hwrites with
    | intro hfront hback hsign hbody =>
      rw [digitCount_literal hfront hback hsign] at hcount
      exact ⟨_, _, _, trimWhere_literal hfront hback hsign hbody, hsign,
        magnitude?_eq_some_iff.2 ⟨_, hbody, hcount, rfl⟩⟩

/-- A literal holds a digit, so it is not blank. -/
theorem Writes.exists_digit (h : Writes cs n) : ∃ c ∈ cs, (digitValue? c).isSome = true := by
  cases h with
  | intro hfront hback hsign hbody =>
    obtain ⟨c, d, rest, rfl, hc⟩ := hbody.exists_head
    exact ⟨c, by simp, isSome_of_digitValue? hc⟩

/-- An integer is below the power of ten that has a zero for each of its digits. -/
theorem Writes.natAbs_lt (h : Writes cs n) : n.natAbs < 10 ^ digitCount cs := by
  cases h with
  | @intro front sign body back ds _ hfront hback hsign hbody =>
    have hvalue : n.natAbs = Nat.ofDigits 10 ds.reverse := by
      cases hsign <;> simp
    have hlt : ∀ d ∈ ds.reverse, d < 10 := fun d hd =>
      Nat.lt_succ_of_le (hbody.forall_le d (List.mem_reverse.1 hd))
    rw [digitCount_literal hfront hback hsign, hbody.digitCount_eq, hvalue, ← List.length_reverse]
    exact Nat.ofDigits_lt_base_pow_length (by decide) hlt

/-- The decimal digits of a number, with zeros in front of them, have it as their value. -/
theorem ofDigits_digits_zeros (k m : Nat) :
    Nat.ofDigits 10 (List.replicate k 0 ++ (Nat.digits 10 m).reverse).reverse = m := by
  rw [List.reverse_append, List.reverse_reverse, List.reverse_replicate,
    Nat.ofDigits_append_replicate_zero, Nat.ofDigits_digits]

/-- The decimal digits of a number, of any script and with underscores between them, with zeros and
a plus sign in front and blanks around. -/
inductive Decorates (m : Nat) : List Char → Prop where
  | intro {front sign body back : List Char} (zeros : Nat)
    (hfront : ∀ c ∈ front, isOuterBlank c = true) (hback : ∀ c ∈ back, isOuterBlank c = true)
    (hsign : sign = [] ∨ sign = ['+'])
    (hbody : Groups body (List.replicate zeros 0 ++ (Nat.digits 10 m).reverse)) :
    Decorates m (front ++ (sign ++ body) ++ back)

/-- A decorated number is a literal that writes it. -/
theorem Decorates.writes {m : Nat} (h : Decorates m cs) : Writes cs m := by
  cases h with
  | intro zeros hfront hback hsign hbody =>
    have hvalue := ofDigits_digits_zeros zeros m
    refine .intro hfront hback ?_ hbody
    rw [hvalue]
    rcases hsign with rfl | rfl
    · exact .none m
    · exact .plus m

end Literal

end CodeScan
