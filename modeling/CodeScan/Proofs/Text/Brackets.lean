import CodeScan.Proofs.Text.Marks

/-!
# Brackets

The round brackets of a text are balanced if none is closed that was not opened before, and none
stays open.  Counting how many are open says so (`Balanced`).

A reader that stops at the first bracket that closes does not count.  What it needs to know is only
that behind every bracket that opens there is one that closes (`ClosesAll`).  A balanced text has
this property.  So has a call without the bracket that ends it, as soon as there is a bracket among
its arguments: that one is then taken for the end of the call.
-/

namespace CodeScan

namespace Text

/-- How many brackets are open behind a text if `depth` are open in front of it; nothing if one is
closed that was not opened. -/
def depthAfter : Nat → List Char → Option Nat
  | depth, [] => some depth
  | depth, '(' :: rest => depthAfter (depth + 1) rest
  | 0, ')' :: _ => none
  | depth + 1, ')' :: rest => depthAfter depth rest
  | depth, _ :: rest => depthAfter depth rest

/-- Every bracket of the text has its partner. -/
def Balanced (text : List Char) : Prop := depthAfter 0 text = some 0

instance (text : List Char) : Decidable (Balanced text) :=
  inferInstanceAs (Decidable (depthAfter 0 text = some 0))

/-- Behind every bracket that opens there is one that closes. -/
def ClosesAll (text : List Char) : Prop := ∀ u v, text = u ++ ['('] ++ v → ')' ∈ v

variable {text callee args : List Char} {depth deeper : Nat}

/-- The depth is counted on from one text to the next. -/
theorem depthAfter_append (depth : Nat) (u v : List Char) :
    depthAfter depth (u ++ v) = (depthAfter depth u).bind fun deeper => depthAfter deeper v := by
  fun_induction depthAfter depth u with
  | case1 => rfl
  | case2 depth rest ih => rw [List.cons_append, depthAfter, ih]
  | case3 => rfl
  | case4 depth rest ih => rw [List.cons_append, depthAfter, ih]
  | case5 depth x rest hopen hzero hclose ih =>
    rw [List.cons_append, ← ih, depthAfter]
    · exact hopen
    · exact hzero
    · exact hclose

/-- Where no bracket closes, as many are open behind the text as before it, or more. -/
theorem le_depthAfter (h : depthAfter depth text = some deeper) (hnone : ')' ∉ text) :
    depth ≤ deeper := by
  fun_induction depthAfter depth text with
  | case1 => exact Nat.le_of_eq (Option.some.inj h)
  | case2 depth rest ih => exact Nat.le_of_succ_le (ih h (List.not_mem_of_not_mem_cons hnone))
  | case3 => cases h
  | case4 => exact absurd List.mem_cons_self hnone
  | case5 depth x rest hopen hzero hclose ih => exact ih h (List.not_mem_of_not_mem_cons hnone)

/-- A balanced text closes all its brackets. -/
theorem Balanced.closesAll (h : Balanced text) : ClosesAll text := by
  rintro u v rfl
  by_contra hnone
  rw [Balanced, List.append_assoc, depthAfter_append, Option.bind_eq_some_iff] at h
  obtain ⟨depth, -, hrest⟩ := h
  -- The bracket makes one open at least, and nothing behind it takes that back.
  exact Nat.not_succ_le_zero depth (le_depthAfter hrest hnone)

/-- A balanced text in which no bracket closes has none that opens. -/
theorem Balanced.open_notMem (h : Balanced text) (hnone : ')' ∉ text) : '(' ∉ text := by
  intro hmem
  obtain ⟨u, v, rfl⟩ := List.append_of_mem hmem
  have hclose : ')' ∈ v := h.closesAll u v (by rw [List.append_assoc, List.singleton_append])
  exact hnone (List.mem_append_right u (List.mem_cons_of_mem _ hclose))

/-- A call that is not ended closes all its brackets if there are some among the arguments. -/
theorem ClosesAll.of_call (h : ClosesAll args) (hcallee : '(' ∉ callee) (hargs : ')' ∈ args) :
    ClosesAll (callee ++ ['('] ++ args) := by
  intro u v huv
  rw [List.append_assoc] at huv
  obtain ⟨extra, rfl⟩ := prefix_of_notMem hcallee huv.symm
  rw [List.append_assoc, List.append_assoc, List.append_cancel_left_eq] at huv
  cases extra with
  | nil =>
    obtain ⟨-, rfl⟩ := List.cons.inj huv
    exact hargs
  | cons x extra =>
    obtain ⟨-, rfl⟩ := List.cons.inj huv
    exact h extra v (List.append_assoc extra ['('] v).symm

end Text

end CodeScan
