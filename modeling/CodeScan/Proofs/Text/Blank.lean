import CodeScan.Text.Blank
import CodeScan.Text.Word

/-!
# Trimming

A trimmed line starts and ends with a character that is not blank, and what was cut off is blank.
The two facts determine it: trimming again changes nothing.

Blank characters are few, so what holds of all of them can be checked one by one
(`forall_isBlank`).  No blank character is a word character.
-/

namespace CodeScan

theorem isBlank_iff {c : Char} : isBlank c = true ↔ c.toNat ∈ blanks := by
  rw [isBlank]
  split
  · rename_i hprintable
    have hnone : ∀ n ∈ blanks, n < 0x21 ∨ 0x7F ≤ n := by decide
    simp only [Bool.false_eq_true, false_iff]
    intro hmem
    have := hnone _ hmem
    omega
  · exact List.contains_iff_mem

/-- A test holds of all blank characters if it holds of the listed ones. -/
theorem forall_isBlank (test : Char → Bool) (h : (blanks.all fun n => test (Char.ofNat n)) = true)
    {c : Char} (hc : isBlank c = true) : test c = true := by
  have := List.all_eq_true.1 h _ (isBlank_iff.1 hc)
  rwa [Char.ofNat_toNat] at this

/-- No blank character is a word character. -/
theorem isWord_of_isBlank {c : Char} (hc : isBlank c = true) : isWord c = false := by
  have hall : (blanks.all fun n => !isWord (Char.ofNat n)) = true := by decide +kernel
  simpa using forall_isBlank (fun c => !isWord c) hall hc

namespace Text

section Trim

variable {α : Type} {test : α → Bool}

/-- Only a run at the end is missing from what is left after the front was trimmed. -/
theorem trimWhere_append_takeWhile (test : α → Bool) (xs : List α) :
    trimWhere test xs ++ ((xs.dropWhile test).reverse.takeWhile test).reverse =
      xs.dropWhile test := by
  rw [trimWhere, ← List.reverse_append, List.takeWhile_append_dropWhile, List.reverse_reverse]

/-- What is cut off satisfies the test. -/
theorem exists_eq_append_trimWhere (test : α → Bool) (xs : List α) :
    ∃ front back, xs = front ++ trimWhere test xs ++ back ∧ (∀ x ∈ front, test x = true) ∧
      ∀ x ∈ back, test x = true := by
  refine ⟨xs.takeWhile test, ((xs.dropWhile test).reverse.takeWhile test).reverse, ?_,
    fun x hx => ?_, fun x hx => ?_⟩
  · rw [List.append_assoc, trimWhere_append_takeWhile, List.takeWhile_append_dropWhile]
  · exact List.all_eq_true.1 List.all_takeWhile x hx
  · exact List.all_eq_true.1 List.all_takeWhile x (List.mem_reverse.1 hx)

theorem test_of_head?_dropWhile {xs : List α} {x : α} (h : (xs.dropWhile test).head? = some x) :
    test x = false := by
  have := List.head?_dropWhile_not test xs
  rwa [h] at this

/-- The first element that is left does not satisfy the test. -/
theorem test_of_head?_trimWhere {xs : List α} {x : α}
    (h : (trimWhere test xs).head? = some x) : test x = false := by
  have hdrop : (xs.dropWhile test).head? = some x := by
    rw [← trimWhere_append_takeWhile, List.head?_append, h]
    rfl
  exact test_of_head?_dropWhile hdrop

/-- The last element that is left does not satisfy the test. -/
theorem test_of_getLast?_trimWhere {xs : List α} {x : α}
    (h : (trimWhere test xs).getLast? = some x) : test x = false := by
  rw [trimWhere, List.getLast?_reverse] at h
  exact test_of_head?_dropWhile h

theorem dropWhile_eq_self {xs : List α} (h : ∀ x, xs.head? = some x → test x = false) :
    xs.dropWhile test = xs := by
  cases xs with
  | nil => rfl
  | cons x xs => rw [List.dropWhile_cons_of_neg (by simp [h x rfl])]

/-- Trimming leaves a part of a list whose ends stay, if all that stands around it goes. -/
theorem trimWhere_eq_iff {xs kept : List α} (hne : kept ≠ [])
    (hfirst : ∀ x, kept.head? = some x → test x = false)
    (hlast : ∀ x, kept.getLast? = some x → test x = false) :
    trimWhere test xs = kept ↔ ∃ front back, xs = front ++ kept ++ back ∧
      (∀ x ∈ front, test x = true) ∧ ∀ x ∈ back, test x = true := by
  constructor
  · rintro rfl
    exact exists_eq_append_trimWhere test xs
  · rintro ⟨front, back, rfl, hfront, hback⟩
    have hfrontless : (front ++ kept ++ back).dropWhile test = kept ++ back := by
      rw [List.append_assoc, List.dropWhile_append_of_pos hfront]
      apply dropWhile_eq_self
      obtain ⟨x, rest, rfl⟩ := List.exists_cons_of_ne_nil hne
      exact hfirst
    have hbackless : (kept ++ back).reverse.dropWhile test = kept.reverse := by
      rw [List.reverse_append,
        List.dropWhile_append_of_pos fun x hx => hback x (List.mem_reverse.1 hx)]
      apply dropWhile_eq_self
      rwa [List.head?_reverse]
    rw [trimWhere, hfrontless, hbackless, List.reverse_reverse]

/-- Trimming twice is trimming once. -/
@[simp] theorem trimWhere_trimWhere (xs : List α) :
    trimWhere test (trimWhere test xs) = trimWhere test xs := by
  have hfront : (trimWhere test xs).dropWhile test = trimWhere test xs :=
    dropWhile_eq_self fun _ => test_of_head?_trimWhere
  have hback : (trimWhere test xs).reverse.dropWhile test = (trimWhere test xs).reverse :=
    dropWhile_eq_self fun _ hx => test_of_getLast?_trimWhere (List.head?_reverse ▸ hx)
  rw [trimWhere, hfront, hback, List.reverse_reverse]

/-- Trimming brings nothing in. -/
theorem mem_of_mem_trimWhere {xs : List α} {x : α} (h : x ∈ trimWhere test xs) : x ∈ xs := by
  obtain ⟨front, back, hxs, -, -⟩ := exists_eq_append_trimWhere test xs
  rw [hxs]
  simp [h]

end Trim

/-- A line is its trimmed part with blanks around. -/
theorem exists_eq_append_strip (line : List Char) :
    ∃ front back, line = front ++ strip line ++ back ∧ (∀ c ∈ front, isBlank c = true) ∧
      ∀ c ∈ back, isBlank c = true :=
  exists_eq_append_trimWhere isBlank line

/-- A trimmed line has nothing left to trim. -/
@[simp] theorem strip_strip (line : List Char) : strip (strip line) = strip line :=
  trimWhere_trimWhere line

/-- A trimmed text has nothing left to trim. -/
@[simp] theorem trim_trim (t : Text) : trim (trim t) = trim t := trimWhere_trimWhere t

/-- What is in the trimmed part is in the line. -/
theorem mem_of_mem_strip {line : List Char} {c : Char} (h : c ∈ strip line) : c ∈ line :=
  mem_of_mem_trimWhere h

end Text

end CodeScan
