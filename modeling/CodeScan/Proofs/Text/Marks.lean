import Mathlib.Data.List.Basic

/-!
# Marks in a list

A mark is an element that a stretch of a list does not hold.  Where a list is written down in two
ways, the marks say which part of the one is which part of the other: with one mark this is
`List.append_cons_inj_of_notMem`, and the lemmas here are for two marks, for the last mark and for
what stands before a mark.
-/

namespace CodeScan

variable {α : Type} {a b x y : α} {front between back u v w : List α}

/-- A mark of a list with two marks is the one or the other. -/
theorem mark_cases (hfront : x ∉ front) (hbetween : x ∉ between) (hback : x ∉ back)
    (h : front ++ [a] ++ between ++ [b] ++ back = u ++ [x] ++ v) :
    (u = front ∧ x = a ∧ v = between ++ [b] ++ back) ∨
      (u = front ++ [a] ++ between ∧ x = b ∧ v = back) := by
  simp only [List.append_assoc, List.singleton_append] at h ⊢
  rcases List.append_eq_append_iff.1 h with ⟨extra, hu, hrest⟩ | ⟨extra, hf, hrest⟩
  · cases extra with
    | nil =>
      obtain ⟨rfl, rfl⟩ := List.cons.inj hrest
      exact .inl ⟨by rw [hu, List.append_nil], rfl, rfl⟩
    | cons z extra =>
      obtain ⟨rfl, hsecond⟩ := List.cons.inj hrest
      obtain ⟨rfl, rfl, rfl⟩ := (List.append_cons_inj_of_notMem hbetween hback).1 hsecond
      exact .inr ⟨hu, rfl, rfl⟩
  · cases extra with
    | nil =>
      obtain ⟨rfl, rfl⟩ := List.cons.inj hrest
      exact .inl ⟨by rw [hf, List.append_nil], rfl, rfl⟩
    | cons z extra =>
      obtain ⟨rfl, -⟩ := List.cons.inj hrest
      exact absurd (by simp [hf]) hfront

/-- Two marks of a list with two marks are these two. -/
theorem marks_unique (hx : x ∉ front ∧ x ∉ between ∧ x ∉ back)
    (hy : y ∉ between ∧ y ∉ back)
    (h : front ++ [a] ++ between ++ [b] ++ back = u ++ [x] ++ v ++ [y] ++ w) :
    u = front ∧ x = a ∧ v = between ∧ y = b ∧ w = back := by
  have hfirst : front ++ [a] ++ between ++ [b] ++ back = u ++ [x] ++ (v ++ [y] ++ w) := by
    simpa only [List.append_assoc] using h
  rcases mark_cases hx.1 hx.2.1 hx.2.2 hfirst with ⟨hu, hxa, hrest⟩ | ⟨-, -, hrest⟩
  · simp only [List.append_assoc, List.singleton_append] at hrest
    obtain ⟨rfl, rfl, rfl⟩ := (List.append_cons_inj_of_notMem hy.1 hy.2).1 hrest.symm
    exact ⟨hu, hxa, rfl, rfl, rfl⟩
  · -- The first mark cannot be the second one, behind which there is none.
    exact absurd (by simp [← hrest]) hy.2

/-- The last mark is known from either side. -/
theorem last_mark_unique (hav : a ∉ v) (hxb : x ∉ back) (h : front ++ a :: back = u ++ x :: v) :
    front = u ∧ a = x ∧ back = v := by
  rcases List.append_eq_append_iff.1 h with ⟨extra, hu, hrest⟩ | ⟨extra, hf, hrest⟩
  · cases extra with
    | nil =>
      obtain ⟨rfl, rfl⟩ := List.cons.inj hrest
      exact ⟨by rw [hu, List.append_nil], rfl, rfl⟩
    | cons z extra =>
      obtain ⟨-, hback⟩ := List.cons.inj hrest
      exact absurd (by simp [hback]) hxb
  · cases extra with
    | nil =>
      obtain ⟨rfl, rfl⟩ := List.cons.inj hrest
      exact ⟨by rw [hf, List.append_nil], rfl, rfl⟩
    | cons z extra =>
      obtain ⟨-, hv⟩ := List.cons.inj hrest
      exact absurd (by simp [hv]) hav

/-- What ends at a mark lies in front of any stretch that holds no mark. -/
theorem prefix_of_mark_notMem (hback : x ∉ back) (h : u ++ [x] ++ v = front ++ back) :
    u <+: front := by
  rw [List.append_assoc] at h
  rcases List.append_eq_append_iff.1 h with ⟨extra, hfront, -⟩ | ⟨extra, -, hrest⟩
  · exact ⟨extra, hfront.symm⟩
  · exact absurd (by simp [hrest]) hback

/-- What holds no mark and stands at the front of a list lies in front of its mark. -/
theorem prefix_of_notMem (hfront : x ∉ front) (h : u ++ [x] ++ v = front ++ back) :
    front <+: u := by
  rw [List.append_assoc] at h
  rcases List.append_eq_append_iff.1 h with ⟨extra, hf, hrest⟩ | ⟨extra, hu, -⟩
  · cases extra with
    | nil => exact ⟨[], by rw [hf, List.append_nil, List.append_nil]⟩
    | cons z extra =>
      obtain ⟨rfl, -⟩ := List.cons.inj hrest
      exact absurd (by simp [hf]) hfront
  · exact ⟨extra, hu.symm⟩

/-- The first mark is known from either side. -/
theorem first_mark_unique (hu : x ∉ u) (hfront : x ∉ front)
    (h : u ++ [x] ++ v = front ++ [x] ++ back) : u = front ∧ v = back := by
  have hle : front <+: u := prefix_of_notMem hfront (by rw [h, List.append_assoc])
  have hge : u <+: front := prefix_of_notMem hu (by rw [← h, List.append_assoc])
  obtain rfl : u = front := hge.eq_of_length_le hle.length_le
  exact ⟨rfl, List.append_cancel_left h⟩

/-- A piece that does not hold the mark lies in front of it if it holds something that is not found
from the mark on. -/
theorem within_front_of_notMem (hx : x ∉ v) (hy : y ∈ v) (hback : y ∉ x :: back)
    (h : front ++ x :: back = u ++ v ++ w) :
    ∃ more, front = u ++ v ++ more ∧ more ++ x :: back = w := by
  rcases List.append_eq_append_iff.1 h with ⟨extra, hpiece, hrest⟩ | ⟨more, hfront, hw⟩
  · cases extra with
    | nil => exact ⟨[], by rw [hpiece, List.append_nil, List.append_nil], hrest⟩
    | cons z extra =>
      obtain ⟨rfl, rfl⟩ := List.cons.inj hrest
      rw [← List.singleton_append, ← List.append_assoc] at hpiece
      obtain ⟨skipped, rfl⟩ := prefix_of_mark_notMem hx hpiece.symm
      rw [List.append_assoc, List.append_assoc, List.append_cancel_left_eq] at hpiece
      -- The mark is not in the piece, so the piece would stand behind it.
      cases skipped with
      | nil =>
        obtain rfl : v = x :: extra := hpiece
        exact absurd List.mem_cons_self hx
      | cons z skipped =>
        obtain ⟨-, rfl⟩ := List.cons.inj hpiece
        exact absurd (List.mem_cons_of_mem x (List.mem_append_left w
          (List.mem_append_right skipped hy))) hback
  · exact ⟨more, hfront, hw.symm⟩

/-- A run at the end of a list is as long as the list says if nothing in front prolongs it. -/
theorem run_at_end_unique {m n : Nat} (hu : u.getLast? ≠ some a) (hw : w.getLast? ≠ some a)
    (h : u ++ List.replicate m a = w ++ List.replicate n a) : m = n := by
  induction m generalizing n with
  | zero =>
    cases n with
    | zero => rfl
    | succ n =>
      rw [List.replicate_succ', ← List.append_assoc, List.replicate_zero, List.append_nil] at h
      exact absurd (by rw [h, List.getLast?_concat]) hu
  | succ m ih =>
    cases n with
    | zero =>
      rw [List.replicate_succ', ← List.append_assoc, List.replicate_zero, List.append_nil] at h
      exact absurd (by rw [← h, List.getLast?_concat]) hw
    | succ n =>
      rw [List.replicate_succ', List.replicate_succ', ← List.append_assoc, ← List.append_assoc] at h
      rw [ih (List.append_cancel_right h)]

/-- The last run of an element has one length. -/
theorem run_unique {m n : Nat} (hu : u.getLast? ≠ some a) (hw : w.getLast? ≠ some a) (hv : a ∉ v)
    (hback : a ∉ back)
    (h : u ++ List.replicate (m + 1) a ++ v = w ++ List.replicate (n + 1) a ++ back) : m = n := by
  have hmark : (u ++ List.replicate m a) ++ a :: v = (w ++ List.replicate n a) ++ a :: back := by
    simpa only [List.replicate_succ', List.append_assoc, List.singleton_append] using h
  obtain ⟨hfront, -, -⟩ := last_mark_unique hback hv hmark
  exact run_at_end_unique hu hw hfront

end CodeScan
