import CodeScan.Tally
import Mathlib.Data.List.Basic
import Mathlib.Data.List.Induction

/-!
# Counting with tallies

A tally answers one question, how often a key was seen, and each addition raises the answer for its
own key by one.  Nothing else about the order of the entries is needed to follow a count through a
scan.  The counts of all keys add up to the number of additions.

What a tally says of the list that was counted is `Counts`: which keys are listed, in which order
and with which counts.  An addition at the end of the list keeps it (`Counts.add`), so that it holds
of the tally of any list, and no key has two counts.
-/

namespace CodeScan

namespace Tally

variable {α : Type} [DecidableEq α]

@[simp] theorem count_empty (key : α) : (empty : Tally α).count key = 0 := rfl

/-- The count of a key is that of the first entry with its name. -/
theorem count_cons (name other : α) (n : Nat) (rest : List (α × Nat)) :
    (⟨(name, n) :: rest⟩ : Tally α).count other =
      if other = name then n else (⟨rest⟩ : Tally α).count other := by
  rw [count, List.lookup_cons]
  by_cases h : other = name
  · simp [h]
  · rw [if_neg h, beq_eq_false_iff_ne.2 h]
    rfl

/-- Seeing a key once more raises its own count and no other. -/
@[simp] theorem count_add (tally : Tally α) (key other : α) :
    (tally.add key).count other = tally.count other + if other = key then 1 else 0 := by
  obtain ⟨entries⟩ := tally
  simp only [add]
  induction entries with
  | nil =>
    have hnone : (⟨[]⟩ : Tally α).count other = 0 := rfl
    rw [addEntry, count_cons, hnone, Nat.zero_add]
  | cons entry rest ih =>
    obtain ⟨name, n⟩ := entry
    rw [addEntry]
    by_cases hname : name = key
    · rw [if_pos hname, count_cons, count_cons, hname]
      split <;> rfl
    · rw [if_neg hname, count_cons, count_cons, ih]
      by_cases hother : other = name
      · simp [hother, hname]
      · simp [hother]

/-! ## How much was counted -/

/-- The sum of all counts. -/
def total (tally : Tally α) : Nat := tally.entries.foldr (fun entry sum => entry.2 + sum) 0

/-- Seeing a key once more raises the sum by one. -/
@[simp] theorem total_add (tally : Tally α) (key : α) :
    (tally.add key).total = tally.total + 1 := by
  obtain ⟨entries⟩ := tally
  simp only [add, total]
  induction entries with
  | nil => rfl
  | cons entry rest ih =>
    obtain ⟨name, n⟩ := entry
    rw [addEntry]
    split
    · simp only [List.foldr_cons]
      omega
    · simp only [List.foldr_cons, ih]
      omega

/-- Every key that is added raises the total by one. -/
theorem total_foldl_add (keys : List α) (tally : Tally α) :
    (keys.foldl add tally).total = tally.total + keys.length := by
  induction keys generalizing tally with
  | nil => rfl
  | cons key keys ih =>
    rw [List.foldl_cons, ih, total_add, List.length_cons]
    omega

/-- The counts of a list add up to its length. -/
@[simp] theorem total_ofList (keys : List α) : (ofList keys).total = keys.length := by
  rw [ofList, total_foldl_add]
  exact Nat.zero_add _

omit [DecidableEq α] in
/-- No single count is above the total. -/
theorem le_total_of_mem {tally : Tally α} {entry : α × Nat} (h : entry ∈ tally.entries) :
    entry.2 ≤ tally.total := by
  obtain ⟨entries⟩ := tally
  simp only [total]
  induction entries with
  | nil => cases h
  | cons first rest ih =>
    rw [List.foldr_cons]
    rcases List.mem_cons.1 h with rfl | h
    · exact Nat.le_add_right _ _
    · exact Nat.le_trans (ih h) (Nat.le_add_left _ _)

/-! ## What was counted, and in which order -/

/-- The keys that were seen, in the order of the entries. -/
def keys (tally : Tally α) : List α := tally.entries.map Prod.fst

omit [DecidableEq α] in
theorem keys_cons (name : α) (n : Nat) (rest : List (α × Nat)) :
    (⟨(name, n) :: rest⟩ : Tally α).keys = name :: (⟨rest⟩ : Tally α).keys := rfl

/-- A key that is listed keeps its place, and a new one comes last. -/
theorem keys_add (tally : Tally α) (key : α) :
    (tally.add key).keys = if key ∈ tally.keys then tally.keys else tally.keys ++ [key] := by
  obtain ⟨entries⟩ := tally
  induction entries with
  | nil => rfl
  | cons entry rest ih =>
    obtain ⟨name, n⟩ := entry
    rw [keys_cons, add, addEntry]
    by_cases hname : name = key
    · rw [if_pos hname, if_pos (hname ▸ List.mem_cons_self), keys_cons]
    · have hmem : key ∈ name :: (⟨rest⟩ : Tally α).keys ↔ key ∈ (⟨rest⟩ : Tally α).keys := by
        rw [List.mem_cons, or_iff_right (Ne.symm hname)]
      rw [if_neg hname, keys_cons, ← add, ih]
      by_cases hrest : key ∈ (⟨rest⟩ : Tally α).keys
      · rw [if_pos hrest, if_pos (hmem.2 hrest)]
      · rw [if_neg hrest, if_neg (mt hmem.1 hrest), List.cons_append]

/-- Without repeated keys the entries are the keys with their counts. -/
theorem entries_eq_map_keys {tally : Tally α} (h : tally.keys.Nodup) :
    tally.entries = tally.keys.map fun key => (key, tally.count key) := by
  obtain ⟨entries⟩ := tally
  induction entries with
  | nil => rfl
  | cons entry rest ih =>
    obtain ⟨name, n⟩ := entry
    have hnodup := List.nodup_cons.1 h
    have hrest : ∀ key ∈ (⟨rest⟩ : Tally α).keys,
        (key, (⟨rest⟩ : Tally α).count key) = (key, (⟨(name, n) :: rest⟩ : Tally α).count key) := by
      intro key hkey
      rw [count_cons, if_neg fun heq : key = name => hnodup.1 (heq ▸ hkey)]
    rw [keys_cons, List.map_cons, count_cons, if_pos rfl, ← List.map_congr_left hrest]
    exact congrArg ((name, n) :: ·) (ih hnodup.2)

/-- A tally counts a list: its keys are the elements, in the order in which each is first found, and
each key has the number of times that it is found. -/
structure Counts (tally : Tally α) (seen : List α) : Prop where
  mem_keys_iff : ∀ key, key ∈ tally.keys ↔ key ∈ seen
  sorted : tally.keys.Pairwise fun a b => seen.idxOf a < seen.idxOf b
  count_eq : ∀ key, tally.count key = seen.count key

theorem counts_empty : (empty : Tally α).Counts [] where
  mem_keys_iff _ := Iff.rfl
  sorted := .nil
  count_eq _ := rfl

/-- A tally of a list has every key once. -/
theorem Counts.nodup_keys {tally : Tally α} {seen : List α} (h : tally.Counts seen) :
    tally.keys.Nodup := by
  refine h.sorted.imp fun hlt heq => ?_
  rw [heq] at hlt
  exact Nat.lt_irrefl _ hlt

/-- One more sight is counted by the tally to which it was added. -/
theorem Counts.add {tally : Tally α} {seen : List α} (h : tally.Counts seen) (key : α) :
    (tally.add key).Counts (seen ++ [key]) := by
  have hfound : ∀ a ∈ tally.keys, (seen ++ [key]).idxOf a = seen.idxOf a := fun a ha =>
    List.idxOf_append_of_mem ((h.mem_keys_iff a).1 ha)
  have hsorted : tally.keys.Pairwise fun a b =>
      (seen ++ [key]).idxOf a < (seen ++ [key]).idxOf b := by
    refine h.sorted.imp_of_mem fun ha hb hlt => ?_
    rwa [hfound _ ha, hfound _ hb]
  constructor
  · intro other
    rw [keys_add, List.mem_append, List.mem_singleton, ← h.mem_keys_iff]
    split
    · rename_i hkey
      exact ⟨.inl, fun hother => hother.elim id fun heq => heq ▸ hkey⟩
    · rw [List.mem_append, List.mem_singleton]
  · rw [keys_add]
    split
    · exact hsorted
    · rename_i hkey
      -- A key that was not seen before is found where the list ended.
      refine List.pairwise_append.2 ⟨hsorted, List.pairwise_singleton _ _, fun a ha b hb => ?_⟩
      obtain rfl := List.mem_singleton.1 hb
      rw [hfound a ha, List.idxOf_append_of_notMem (mt (h.mem_keys_iff b).2 hkey)]
      exact Nat.lt_add_right _ (List.idxOf_lt_length_of_mem ((h.mem_keys_iff a).1 ha))
  · intro other
    rw [count_add, h.count_eq, List.count_append, List.count_singleton]
    simp only [beq_iff_eq, eq_comm (a := other)]

/-- Adding more keys to a tally of a list gives a tally of the longer list. -/
theorem Counts.foldl_add {tally : Tally α} {seen : List α} (h : tally.Counts seen)
    (more : List α) : (more.foldl Tally.add tally).Counts (seen ++ more) := by
  induction more generalizing tally seen with
  | nil => rwa [List.append_nil]
  | cons key more ih =>
    rw [List.foldl_cons, List.append_cons]
    exact ih (h.add key)

/-- The tally of a list counts it. -/
theorem counts_ofList (seen : List α) : (ofList seen).Counts seen := counts_empty.foldl_add seen

/-- No key is listed twice, and only those that were seen are listed. -/
theorem nodup_map_fst_ofList (seen : List α) :
    ((ofList seen).entries.map Prod.fst).Nodup ∧
      ∀ key ∈ (ofList seen).entries.map Prod.fst, key ∈ seen :=
  ⟨(counts_ofList seen).nodup_keys, fun key => ((counts_ofList seen).mem_keys_iff key).1⟩

/-- The count of a key among the images of a list is the number of elements that have this image. -/
theorem count_ofList_map {β : Type} (f : β → α) (seen : List β) (key : α) :
    (ofList (seen.map f)).count key = seen.countP fun x => f x = key := by
  rw [(counts_ofList _).count_eq, List.count, List.countP_map]
  exact List.countP_congr fun x _ => by simp

/-! ## Lists one after the other -/

/-- The keys of a list behind another are added behind the keys of that one. -/
theorem keys_foldl_add (tally : Tally α) (more : List α) :
    (more.foldl add tally).keys =
      tally.keys ++ (ofList more).keys.filter fun key => key ∉ tally.keys := by
  induction more using List.reverseRecOn with
  | nil => exact (List.append_nil _).symm
  | append_singleton more key ih =>
    have hmore : (ofList (more ++ [key])).keys =
        if key ∈ (ofList more).keys then (ofList more).keys
        else (ofList more).keys ++ [key] := by
      rw [ofList, List.foldl_concat, keys_add, ← ofList]
    rw [List.foldl_concat, keys_add, ih, hmore]
    -- A key counts as new if neither the tally nor the items before it have it.
    by_cases hold : key ∈ tally.keys
    · rw [if_pos (List.mem_append_left _ hold)]
      split
      · rfl
      · rw [List.filter_append, List.filter_cons_of_neg (by simp [hold]), List.filter_nil,
          List.append_nil]
    · have hmem : key ∈ tally.keys ++ (ofList more).keys.filter (fun key => key ∉ tally.keys) ↔
          key ∈ (ofList more).keys := by
        simp [hold]
      by_cases hnew : key ∈ (ofList more).keys
      · rw [if_pos (hmem.2 hnew), if_pos hnew]
      · rw [if_neg (mt hmem.1 hnew), if_neg hnew, List.filter_append,
          List.filter_cons_of_pos (by simp [hold]), List.filter_nil, List.append_assoc]

/-- The tally of two lists one after the other has the keys of the first, then the keys that only
the second has. -/
theorem keys_ofList_append (seen more : List α) :
    (ofList (seen ++ more)).keys =
      (ofList seen).keys ++ (ofList more).keys.filter fun key => key ∉ (ofList seen).keys := by
  rw [← keys_foldl_add, ofList, List.foldl_append, ← ofList]

end Tally

end CodeScan
