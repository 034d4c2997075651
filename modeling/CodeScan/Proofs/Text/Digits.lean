import CodeScan.Number.Literal
import Mathlib.Algebra.Group.Nat.Defs
import Mathlib.Data.List.Basic
import Mathlib.Data.List.TakeWhile

/-!
# Written numbers

The decimal digits of a number, with zeros in front up to a width or without, write the number.

A reader of numbers takes digits from the front of a text as long as there are some.  If what
follows them does not start with a digit, it takes the digits and leaves the rest.
-/

namespace CodeScan

namespace Text

variable {α : Type} {test : α → Bool} {run rest : List α}

/-- A run ends where what follows does not start with an element of its kind. -/
theorem takeWhile_append_rest (hrun : ∀ a ∈ run, test a = true)
    (hrest : ∀ a ∈ rest.head?, test a = false) : (run ++ rest).takeWhile test = run := by
  rw [List.takeWhile_append_of_pos hrun]
  cases rest with
  | nil => rw [List.takeWhile_nil, List.append_nil]
  | cons a rest =>
    rw [List.takeWhile_cons_of_neg (by simp [hrest a rfl]), List.append_nil]

/-- A run is dropped up to the first element that fails the test. -/
theorem dropWhile_append_rest (hrun : ∀ a ∈ run, test a = true)
    (hrest : ∀ a ∈ rest.head?, test a = false) : (run ++ rest).dropWhile test = rest := by
  rw [List.dropWhile_append_of_pos hrun]
  cases rest with
  | nil => rfl
  | cons a rest => exact List.dropWhile_cons_of_neg (by simp [hrest a rfl])

/-- ASCII letters and digits are printable ASCII characters. -/
theorem toNat_of_isAlphanum {x : Char} (h : x.isAlphanum = true) :
    0x20 ≤ x.toNat ∧ x.toNat < 0x7F := by
  have hbetween {first last : UInt32} (hfirst : 0x20 ≤ first.toNat) (hlast : last.toNat < 0x7F)
      (hx : first ≤ x.val ∧ x.val ≤ last) : 0x20 ≤ x.toNat ∧ x.toNat < 0x7F :=
    ⟨hfirst.trans (UInt32.le_iff_toNat_le.1 hx.1), (UInt32.le_iff_toNat_le.1 hx.2).trans_lt hlast⟩
  rcases Bool.or_eq_true_iff.1 h with hletter | hdigit
  · rcases Bool.or_eq_true_iff.1 hletter with hupper | hlower
    · exact hbetween (by decide) (by decide) (of_decide_eq_true hupper)
    · obtain ⟨hfirst, hlast⟩ := Bool.and_eq_true_iff.1 hlower
      exact hbetween (by decide) (by decide) ⟨of_decide_eq_true hfirst, of_decide_eq_true hlast⟩
  · obtain ⟨hfirst, hlast⟩ := Bool.and_eq_true_iff.1 hdigit
    exact hbetween (by decide) (by decide) ⟨of_decide_eq_true hfirst, of_decide_eq_true hlast⟩

/-! ## Decimal digits -/

/-- Decimal digits, as characters. -/
def AreDigits (digits : List Char) : Prop := ∀ c ∈ digits, c.isDigit = true

theorem AreDigits.append {digits more : List Char} (h : AreDigits digits) (hmore : AreDigits more) :
    AreDigits (digits ++ more) := by
  intro c hc
  rcases List.mem_append.1 hc with hc | hc
  · exact h c hc
  · exact hmore c hc

/-- A natural number is written in digits. -/
theorem areDigits_toDigits (n : Nat) : AreDigits (Nat.toDigits 10 n) :=
  fun _ hc => Nat.isDigit_of_mem_toDigits (by decide) (by decide) hc

theorem areDigits_zeros (k : Nat) : AreDigits (List.replicate k '0') := by
  intro c hc
  rw [List.eq_of_mem_replicate hc]
  rfl

/-- A positive number is written without a zero in front. -/
theorem head?_toDigits_ne_zero {n : Nat} (hn : 0 < n) : (Nat.toDigits 10 n).head? ≠ some '0' := by
  induction n using Nat.strongRecOn with
  | ind n ih =>
    rw [Nat.toDigits_eq_if (by decide)]
    split
    · rename_i hlt
      have hall : ∀ n < 10, 0 < n → [n.digitChar].head? ≠ some '0' := by decide
      exact hall n hlt hn
    · rw [List.head?_append_of_ne_nil _ Nat.toDigits_ne_nil]
      exact ih (n / 10) (by omega) (by omega)

/-- The digits of a number, with zeros in front up to a width. -/
def paddedDigits (width n : Nat) : List Char :=
  List.replicate (width - (Nat.toDigits 10 n).length) '0' ++ Nat.toDigits 10 n

/-- A padded number is written in digits. -/
theorem areDigits_paddedDigits (width n : Nat) : AreDigits (paddedDigits width n) :=
  (areDigits_zeros _).append (areDigits_toDigits n)

/-- A number that is small enough is padded to its width. -/
theorem length_paddedDigits {width n : Nat} (hwidth : width ≠ 0) (h : n < 10 ^ width) :
    (paddedDigits width n).length = width := by
  have hfits := (Nat.length_toDigits_le_iff (by decide) (Nat.pos_of_ne_zero hwidth)).2 h
  rw [paddedDigits, List.length_append, List.length_replicate]
  omega

/-- Padding does not change what the digits are worth. -/
theorem ofDigitChars_paddedDigits (width n : Nat) :
    Nat.ofDigitChars 10 (paddedDigits width n) 0 = n := by
  rw [paddedDigits, Nat.ofDigitChars_append, Nat.ofDigitChars_replicate_zero, Nat.mul_zero]
  exact Nat.ofDigitChars_ten_toDigits

end Text

/-- A number of so many digits is below the power of ten with as many zeros. -/
theorem Literal.ofDigits_lt {digits : List Nat} (h : ∀ d ∈ digits, d ≤ 9) :
    ofDigits digits < 10 ^ digits.length := by
  have hfold : ∀ n, digits.foldl (fun n d => n * 10 + d) n < (n + 1) * 10 ^ digits.length := by
    induction digits with
    | nil => simp
    | cons d digits ih =>
      rw [List.forall_mem_cons] at h
      intro n
      calc
        _ < (n * 10 + d + 1) * 10 ^ digits.length := ih h.2 _
        _ ≤ ((n + 1) * 10) * 10 ^ digits.length := Nat.mul_le_mul_right _ (by omega)
        _ = (n + 1) * 10 ^ (d :: digits).length := by
          rw [List.length_cons, Nat.pow_succ', Nat.mul_assoc]
  have hzero := hfold 0
  rwa [Nat.zero_add, Nat.one_mul] at hzero

end CodeScan
