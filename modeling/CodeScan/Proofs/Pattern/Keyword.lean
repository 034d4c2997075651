import CodeScan.Proofs.Pattern.Steady
import Mathlib.Data.List.Perm.Subperm

/-!
# Keywords of patterns

Most patterns write something out.  `names words` checks that every match of a pattern holds one of
the given words, so that a line without these words is not worth a search
(`exists_infix_of_search`).

Words of which none starts another cannot begin at the same place.  So, if several patterns name
such words, a line has at least as many characters as there are patterns found in it
(`length_le_of_infix`).
-/

namespace CodeScan

namespace Pattern

open Cursor

variable {p q : Pattern} {c d e : Cursor} {piece line : List Char} {words : List (List Char)}

/-- The characters that the pattern writes out at its front. -/
def literalHead : Pattern → List Char
  | .char x => [x]
  | .seq (.char x) q => x :: q.literalHead
  | _ => []

/-- Every match of the pattern holds one of the words. -/
def names (words : List (List Char)) : Pattern → Bool
  | .seq p q =>
    words.any (·.isPrefixOf (p.seq q).literalHead) || p.names words || q.names words
  | .alt p q => p.names words && q.names words
  | .repeated p least _ => 0 < least && p.names words
  | _ => false

/-- What a pattern starts with in all its matches is in front of each of them. -/
theorem Matches.literalHead_prefix (h : p.Matches c d) (hspan : Spans piece c d) :
    p.literalHead <+: piece := by
  fun_induction literalHead p generalizing c piece with
  | case1 x =>
    obtain ⟨y, hy, hone⟩ := h
    have hpiece : piece = [x] := by rw [hspan.piece_unique hone, beq_iff_eq.1 hy]
    exact hpiece ▸ List.prefix_rfl
  | case2 x q ih =>
    obtain ⟨e, ⟨y, hy, hone⟩, hrest⟩ := h
    obtain ⟨v, hv⟩ := hrest.exists_spans
    rw [hspan.piece_unique (hone.append hv), beq_iff_eq.1 hy]
    exact List.cons_prefix_cons.2 ⟨rfl, ih hrest hv⟩
  | case3 => exact List.nil_prefix

/-- What `names` promises. -/
theorem Matches.exists_infix (h : p.Matches c d) (hp : p.names words = true)
    (hspan : Spans piece c d) : ∃ w ∈ words, w <:+: piece := by
  induction p generalizing c d piece with
  | seq p q ihp ihq =>
    simp only [names, Bool.or_eq_true] at hp
    rcases hp with (hp | hp) | hp
    · obtain ⟨w, hw, hhead⟩ := List.any_eq_true.1 hp
      exact ⟨w, hw, ((List.isPrefixOf_iff_prefix.1 hhead).trans
        (h.literalHead_prefix hspan)).isInfix⟩
    all_goals
      obtain ⟨e, hfirst, hsecond⟩ := h
      obtain ⟨u, hu⟩ := hfirst.exists_spans
      obtain ⟨v, hv⟩ := hsecond.exists_spans
      rw [hspan.piece_unique (hu.append hv)]
    · obtain ⟨w, hw, hinfix⟩ := ihp hfirst hp hu
      exact ⟨w, hw, hinfix.trans (List.prefix_append u v).isInfix⟩
    · obtain ⟨w, hw, hinfix⟩ := ihq hsecond hp hv
      exact ⟨w, hw, hinfix.trans (List.suffix_append u v).isInfix⟩
  | alt p q ihp ihq =>
    rw [names, Bool.and_eq_true] at hp
    rcases h with h | h
    · exact ihp h hp.1 hspan
    · exact ihq h hp.2 hspan
  | repeated p least further ih =>
    rw [names, Bool.and_eq_true, decide_eq_true_eq] at hp
    obtain ⟨n, hn, -, hturns⟩ := h
    -- There is a first turn, and it holds a word.
    obtain ⟨n, rfl⟩ : ∃ k, n = k + 1 := ⟨n - 1, by omega⟩
    obtain ⟨e, hfirst, hrest⟩ := hturns
    obtain ⟨u, hu⟩ := hfirst.exists_spans
    obtain ⟨v, hv⟩ := hrest.exists_spans
    obtain ⟨w, hw, hinfix⟩ := ih hfirst hp.2 hu
    rw [hspan.piece_unique (hu.append hv)]
    exact ⟨w, hw, hinfix.trans (List.prefix_append u v).isInfix⟩
  | _ => simp [names] at hp

/-- A line in which the pattern is found holds one of its words. -/
theorem exists_infix_of_search (fixed : p.hasFixedLookBehind = true)
    (hp : p.names words = true) (hline : p.search line = true) : ∃ w ∈ words, w <:+: line := by
  rw [search_eq_true_iff fixed] at hline
  obtain ⟨c, d, hc, hm⟩ := hline
  obtain ⟨u, hu⟩ := hm.exists_spans
  obtain ⟨w, hw, hinfix⟩ := hm.exists_infix hp hu
  refine ⟨w, hw, hinfix.trans ⟨c.before.reverse, d.after, ?_⟩⟩
  rw [List.append_assoc, ← hu.1, hc]

end Pattern

/-! ## Words at different places -/

/-- No word of one list starts a word of the other, in either direction. -/
def PrefixFree (words others : List (List Char)) : Prop :=
  ∀ w ∈ words, ∀ v ∈ others, ¬ w <+: v ∧ ¬ v <+: w

instance (words others : List (List Char)) : Decidable (PrefixFree words others) :=
  inferInstanceAs (Decidable (∀ w ∈ words, ∀ v ∈ others, ¬ w <+: v ∧ ¬ v <+: w))

/-- One of the words begins at a place of the line. -/
def BeginsAt (line : List Char) (words : List (List Char)) (place : Nat) : Prop :=
  place < line.length ∧ ∃ w ∈ words, w <+: line.drop place

variable {line : List Char}

/-- A word that is in the line begins at some place of it. -/
theorem exists_beginsAt {words : List (List Char)} {w : List Char} (hw : w ∈ words) (hne : w ≠ [])
    (h : w <:+: line) : ∃ place, BeginsAt line words place := by
  obtain ⟨before, after, rfl⟩ := h
  have hlength := List.length_pos_of_ne_nil hne
  refine ⟨before.length, by simp only [List.length_append]; omega, w, hw, ?_⟩
  rw [List.append_assoc, List.drop_left]
  exact List.prefix_append w after

/-- Words of which none starts another begin at different places. -/
theorem PrefixFree.ne_place {words others : List (List Char)} (h : PrefixFree words others)
    {i j : Nat} (hi : BeginsAt line words i) (hj : BeginsAt line others j) : i ≠ j := by
  rintro rfl
  obtain ⟨-, w, hw, hstart⟩ := hi
  obtain ⟨-, v, hv, hother⟩ := hj
  obtain ⟨hwv, hvw⟩ := h w hw v hv
  rcases List.prefix_or_prefix_of_prefix hstart hother with hprefix | hprefix
  · exact hwv hprefix
  · exact hvw hprefix

/-- A line has at least as many characters as there are lists of words that have a word in it, if no
word of one list starts a word of another. -/
theorem length_le_of_infix {rows : List (List (List Char))} (hfree : rows.Pairwise PrefixFree)
    (hne : ∀ words ∈ rows, ∀ w ∈ words, w ≠ [])
    (hline : ∀ words ∈ rows, ∃ w ∈ words, w <:+: line) : rows.length ≤ line.length := by
  -- Each row has a word in the line; the places where these begin differ from row to row.
  have hplaces : ∃ places : List Nat, places.length = rows.length ∧ places.Nodup ∧
      ∀ place ∈ places, ∃ words ∈ rows, BeginsAt line words place := by
    induction rows with
    | nil => exact ⟨[], rfl, List.Pairwise.nil, by simp⟩
    | cons words rows ih =>
      rw [List.pairwise_cons] at hfree
      rw [List.forall_mem_cons] at hne hline
      obtain ⟨places, hlength, hnodup, hbegin⟩ := ih hfree.2 hne.2 hline.2
      obtain ⟨w, hw, hinfix⟩ := hline.1
      obtain ⟨place, hplace⟩ := exists_beginsAt hw (hne.1 w hw) hinfix
      have hnew : place ∉ places := by
        intro hmem
        obtain ⟨others, hothers, hat⟩ := hbegin place hmem
        exact (hfree.1 others hothers).ne_place hplace hat rfl
      refine ⟨place :: places, by rw [List.length_cons, List.length_cons, hlength],
        List.nodup_cons.2 ⟨hnew, hnodup⟩, List.forall_mem_cons.2 ⟨⟨words, by simp, hplace⟩, ?_⟩⟩
      intro other hother
      obtain ⟨others, hothers, hat⟩ := hbegin other hother
      exact ⟨others, List.mem_cons_of_mem _ hothers, hat⟩
  obtain ⟨places, hlength, hnodup, hbegin⟩ := hplaces
  -- Words are not empty, so every place is one of the line.
  have hsubset : places ⊆ List.range line.length := by
    intro place hmem
    obtain ⟨words, -, hat⟩ := hbegin place hmem
    exact List.mem_range.2 hat.1
  have hle := (hnodup.subperm hsubset).length_le
  rw [List.length_range, hlength] at hle
  exact hle

end CodeScan
