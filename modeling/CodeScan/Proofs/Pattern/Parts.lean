import CodeScan.Proofs.Pattern.Context
import Mathlib.Data.List.Basic

/-!
# Patterns part by part

A written pattern is a list of parts that match one behind the other: words, runs of blanks, sets,
gaps that keep off some characters, and conditions in between.  `Begins parts before after` says
that the parts match at the place of a line that has `before` in front of it and `after` behind it.
There is one equation for each kind of part, and each takes the first part off the list and what it
matches off `after`.  So a pattern is unfolded into what it asks of a line, and no matcher is left.

Most parts look at nothing but the piece they take: `Accepts p test` says that `p` matches exactly
the pieces that pass `test`, wherever they stand.  Where a part writes out one of some words,
`words?` computes these words.
-/

namespace CodeScan

/-- One of the two texts, and not the other, has a word character where they meet. -/
def WordEdge (before after : List Char) : Prop :=
  before.getLast?.any isWord ≠ after.head?.any isWord

/-- A word may begin behind the text: it does not end with a word character. -/
def EndsOffWord (before : List Char) : Prop := ∀ x, before.getLast? = some x → isWord x = false

/-- A word may end before the text: it does not begin with a word character. -/
def BeginsOffWord (after : List Char) : Prop := ∀ x, after.head? = some x → isWord x = false

section WordEdge

variable {before after : List Char}

/-- There is no word character if whatever is found is none. -/
theorem any_isWord_eq_false_iff {found : Option Char} :
    found.any isWord = false ↔ ∀ x, found = some x → isWord x = false := by
  cases found <;> simp

/-- In front of a word character there is an edge where a word may begin. -/
theorem wordEdge_iff_endsOffWord (hafter : after.head?.any isWord = true) :
    WordEdge before after ↔ EndsOffWord before := by
  unfold WordEdge EndsOffWord
  rw [hafter, ← any_isWord_eq_false_iff, ne_eq, Bool.not_eq_true]

/-- Behind a word character there is an edge where a word may end. -/
theorem wordEdge_iff_beginsOffWord (hbefore : before.getLast?.any isWord = true) :
    WordEdge before after ↔ BeginsOffWord after := by
  unfold WordEdge BeginsOffWord
  rw [hbefore, ← any_isWord_eq_false_iff, ne_eq, Eq.comm, Bool.not_eq_true]

/-- The first character of a text is that of the text with more behind it. -/
theorem any_head?_append {w : List Char} (hw : w.head?.any isWord = true) (rest : List Char) :
    (w ++ rest).head?.any isWord = true := by
  cases w with
  | nil => simp at hw
  | cons x w => exact hw

/-- A word may begin here if the text before does not end with a word character. -/
theorem wordEdge_append_right_iff {w : List Char} (hw : w.head?.any isWord = true)
    (rest : List Char) : WordEdge before (w ++ rest) ↔ EndsOffWord before :=
  wordEdge_iff_endsOffWord (any_head?_append hw rest)

/-- A word may end here if the text behind does not begin with a word character. -/
theorem wordEdge_append_left_iff {w : List Char} (hw : w.getLast?.any isWord = true)
    (front : List Char) : WordEdge (front ++ w) after ↔ BeginsOffWord after := by
  have hne : w ≠ [] := by
    rintro rfl
    exact Bool.false_ne_true hw
  apply wordEdge_iff_beginsOffWord
  rwa [List.getLast?_append_of_ne_nil front hne]

/-- Only the last character counts, so any text may stand in front. -/
theorem EndsOffWord.append_left {w : List Char} (hw : EndsOffWord w) (hne : w ≠ [])
    (before : List Char) : EndsOffWord (before ++ w) := by
  intro x hx
  rw [List.getLast?_append_of_ne_nil before hne] at hx
  exact hw x hx

/-- A text begins off words if its first character is no word character. -/
theorem beginsOffWord_singleton_append {x : Char} (hx : isWord x = false) (rest : List Char) :
    BeginsOffWord ([x] ++ rest) := fun _ hhead => Option.some.inj hhead ▸ hx

/-- What follows matters only if there is nothing else. -/
theorem BeginsOffWord.append_iff {w : List Char} (hafter : BeginsOffWord after) :
    BeginsOffWord (w ++ after) ↔ BeginsOffWord w := by
  cases w with
  | nil => exact ⟨fun _ x hx => by simp at hx, fun _ => hafter⟩
  | cons x w => exact Iff.rfl

end WordEdge

/-- A piece is taken in one step or in two. -/
theorem Cursor.spans_append_iff {u v : List Char} {c d : Cursor} :
    Spans (u ++ v) c d ↔ ∃ e, Spans u c e ∧ Spans v e d := by
  constructor
  · intro h
    refine ⟨⟨u.reverse ++ c.before, v ++ d.after⟩, ⟨?_, rfl⟩, rfl, ?_⟩
    · rw [h.1, List.append_assoc]
    · rw [h.2, List.reverse_append, List.append_assoc]
  · rintro ⟨e, hu, hv⟩
    exact hu.append hv

/-- The set of the listed characters, or of all others. -/
def CharSet.listed (negated : Bool) (cs : List Char) : CharSet :=
  ⟨negated, cs.map fun c => .single c.toNat⟩

/-- A listed set holds the listed characters, or all others if it is negated. -/
theorem CharSet.contains_listed (negated : Bool) (cs : List Char) (x : Char) :
    (listed negated cs).contains x = (cs.contains x != negated) := by
  simp only [listed, contains, List.any_map, Function.comp_def, CharItem.contains_single,
    List.contains_eq_any_beq]

/-- The characters that a set lists one by one. -/
def CharSet.singles (s : CharSet) : List Char :=
  s.items.filterMap fun
    | .single n => some (Char.ofNat n)
    | _ => none

namespace Pattern

open Cursor

variable {p q : Pattern} {parts choices : List Pattern} {c d e : Cursor}
  {before after : List Char}

/-! ## Parts that are known by their pieces -/

/-- The pattern matches exactly the pieces that pass the test, wherever they stand. -/
def Accepts (p : Pattern) (test : List Char → Prop) : Prop :=
  ∀ c d, p.Matches c d ↔ ∃ u, Spans u c d ∧ test u

theorem accepts_char (x : Char) : (Pattern.char x).Accepts (· = [x]) := by
  intro c d
  simp [Matches, Takes]

theorem accepts_set {s : CharSet} :
    (Pattern.set s).Accepts fun u => ∃ x, s.contains x = true ∧ u = [x] := by
  intro c d
  constructor
  · rintro ⟨x, hx, hone⟩
    exact ⟨[x], hone, x, hx, rfl⟩
  · rintro ⟨_, hone, x, hx, rfl⟩
    exact ⟨x, hx, hone⟩

theorem accepts_word (w : List Char) : (word w).Accepts (· = w) := by
  intro c d
  simp [matches_word_iff]

/-- A run of blanks accepts every text of blanks. -/
theorem accepts_blankRun : blankRun.Accepts AllBlank :=
  fun _ _ => matches_blankRun_iff

/-- The characters of a text, each as a part. -/
def chars (w : List Char) : List Pattern := w.map .char

/-- A row of characters accepts the text that they are. -/
theorem accepts_chars (w : List Char) : (concat (chars w)).Accepts (· = w) := by
  have hword : concat (chars w) = word w := by
    fun_induction word w with
    | case1 => rfl
    | case2 x => rfl
    | case3 x rest hne ih =>
      obtain ⟨y, rest, rfl⟩ := List.exists_cons_of_ne_nil hne
      exact congrArg (Pattern.seq (.char x)) ih
  exact hword ▸ accepts_word w

/-- One of the listed characters. -/
abbrev anyOf (cs : List Char) : Pattern := .set (.listed false cs)

theorem accepts_anyOf {cs : List Char} : (anyOf cs).Accepts fun u => ∃ x ∈ cs, u = [x] := by
  intro c d
  simp only [accepts_set c d, CharSet.contains_listed, Bool.bne_false, List.contains_iff_mem]

/-- A repeat of a set accepts the characters of the set, as many as its bounds allow. -/
theorem accepts_repeated_set {s : CharSet} {least : Nat} {further : Option Nat} :
    (Pattern.repeated (.set s) least further).Accepts fun u =>
      (∀ x ∈ u, s.contains x = true) ∧ least ≤ u.length ∧ ∀ k ∈ further, u.length ≤ least + k :=
  fun _ _ => matches_repeated_set_iff

/-- The words that the pattern writes out, if it does nothing else. -/
def words? : Pattern → Option (List (List Char))
  | .empty => some [[]]
  | .char x => some [[x]]
  | .set s => if s = .listed false s.singles then some (s.singles.map ([·])) else none
  | .seq p q => do
    let firsts ← p.words?
    let seconds ← q.words?
    return firsts.flatMap fun u => seconds.map (u ++ ·)
  | .alt p q => do return (← p.words?) ++ (← q.words?)
  | .repeated p 0 (some 1) => do return [] :: (← p.words?)
  | _ => none

/-- A part that may be left out. -/
abbrev opt (p : Pattern) : Pattern := .repeated p 0 (some 1)

theorem turns_one_iff {rel : Cursor → Cursor → Prop} : Turns rel 1 c d ↔ rel c d :=
  ⟨fun ⟨_, h, hd⟩ => hd ▸ h, fun h => ⟨d, h, rfl⟩⟩

/-- An optional part is left out or matched. -/
theorem matches_opt_iff : p.opt.Matches c d ↔ c = d ∨ p.Matches c d := by
  constructor
  · rintro ⟨n, -, hn, h⟩
    have hle : n ≤ 1 := by simpa using hn 1 rfl
    cases n with
    | zero => exact .inl h
    | succ n =>
      obtain rfl : n = 0 := by omega
      exact .inr (turns_one_iff.1 h)
  · rintro (h | h)
    · exact ⟨0, Nat.zero_le _, by simp, h⟩
    · exact ⟨1, Nat.zero_le _, by simp, turns_one_iff.2 h⟩

/-- A part that may be left out accepts the empty piece as well. -/
theorem Accepts.opt {test : List Char → Prop} (h : p.Accepts test) :
    p.opt.Accepts fun u => u = [] ∨ test u := by
  intro c d
  rw [matches_opt_iff, h c d, ← spans_nil_iff]
  constructor
  · rintro (hnil | ⟨u, hu, htest⟩)
    · exact ⟨[], hnil, .inl rfl⟩
    · exact ⟨u, hu, .inr htest⟩
  · rintro ⟨u, hu, rfl | htest⟩
    · exact .inl hu
    · exact .inr ⟨u, hu, htest⟩

/-- A pattern that writes out words accepts these words. -/
theorem accepts_of_words {words : List (List Char)} (h : p.words? = some words) :
    p.Accepts (· ∈ words) := by
  intro c d
  induction p generalizing c d words with
  | empty =>
    cases h
    simp [Matches, spans_nil_iff]
  | char x =>
    cases h
    simp [Matches, Takes]
  | set s =>
    obtain ⟨hlisted, hwords⟩ := Option.ite_none_right_eq_some.1 h
    cases hwords
    have hone := @accepts_anyOf s.singles c d
    rw [anyOf, ← hlisted] at hone
    simpa only [List.mem_map, eq_comm] using hone
  | seq p q ihp ihq =>
    simp only [words?, Option.bind_eq_bind, Option.bind_eq_some_iff, Option.pure_def,
      Option.some.injEq] at h
    obtain ⟨us, hp, vs, hq, rfl⟩ := h
    -- Words of the first part are continued by words of the second.
    simp only [Matches, ihp hp, ihq hq, List.mem_flatMap, List.mem_map]
    constructor
    · rintro ⟨e, ⟨u, hu, hmem⟩, v, hv, hmem'⟩
      exact ⟨u ++ v, hu.append hv, u, hmem, v, hmem', rfl⟩
    · rintro ⟨_, hspan, u, hmem, v, hmem', rfl⟩
      obtain ⟨e, hu, hv⟩ := spans_append_iff.1 hspan
      exact ⟨e, ⟨u, hu, hmem⟩, v, hv, hmem'⟩
  | alt p q ihp ihq =>
    simp only [words?, Option.bind_eq_bind, Option.bind_eq_some_iff, Option.pure_def,
      Option.some.injEq] at h
    obtain ⟨us, hp, vs, hq, rfl⟩ := h
    simp only [Matches, ihp hp, ihq hq, List.mem_append, and_or_left, exists_or]
  | repeated p least further ih =>
    unfold words? at h
    split at h
    case h_6 p' heq =>
      obtain ⟨rfl, rfl, rfl⟩ := Pattern.repeated.inj heq
      simp only [Option.bind_eq_bind, Option.bind_eq_some_iff, Option.pure_def,
        Option.some.injEq] at h
      obtain ⟨us, hp, rfl⟩ := h
      simpa only [List.mem_cons] using Accepts.opt (ih hp) c d
    all_goals simp_all
  | _ => simp [words?] at h

/-! ## Parts one behind the other -/

/-- The parts match one behind the other, from the place with these texts on its sides. -/
def Begins (parts : List Pattern) (before after : List Char) : Prop :=
  ∃ d, (concat parts).Matches ⟨before.reverse, after⟩ d

/-- The first part of a row is matched before the others. -/
theorem matches_concat_cons_iff :
    (concat (p :: parts)).Matches c e ↔ ∃ d, p.Matches c d ∧ (concat parts).Matches d e := by
  cases parts with
  | nil => exact ⟨fun h => ⟨e, h, rfl⟩, fun ⟨_, h, hd⟩ => hd ▸ h⟩
  | cons q parts => rfl

/-- A row in two halves is matched half by half. -/
theorem matches_concat_append_iff {first : List Pattern} :
    (concat (first ++ parts)).Matches c e ↔
      ∃ d, (concat first).Matches c d ∧ (concat parts).Matches d e := by
  induction first generalizing c with
  | nil => exact ⟨fun h => ⟨c, rfl, h⟩, fun ⟨_, hd, h⟩ => hd ▸ h⟩
  | cons p first ih =>
    simp only [List.cons_append, matches_concat_cons_iff, ih]
    constructor
    · rintro ⟨d, hp, d', hfirst, hparts⟩
      exact ⟨d', ⟨d, hp, hfirst⟩, hparts⟩
    · rintro ⟨d', ⟨d, hp, hfirst⟩, hparts⟩
      exact ⟨d, hp, d', hfirst, hparts⟩

/-- One of several choices is matched if some choice is. -/
theorem matches_oneOf_iff (hne : choices ≠ []) :
    (oneOf choices).Matches c d ↔ ∃ p ∈ choices, p.Matches c d := by
  induction choices with
  | nil => exact absurd rfl hne
  | cons p rest ih =>
    cases rest with
    | nil => simp [oneOf]
    | cons q rest =>
      have ih := ih (List.cons_ne_nil q rest)
      constructor
      · rintro (h | h)
        · exact ⟨p, List.mem_cons_self, h⟩
        · obtain ⟨r, hr, h⟩ := ih.1 h
          exact ⟨r, List.mem_cons_of_mem p hr, h⟩
      · rintro ⟨r, hr, h⟩
        rcases List.mem_cons.1 hr with rfl | hr
        · exact .inl h
        · exact .inr (ih.2 ⟨r, hr, h⟩)

/-- A search looks for a place from which the pattern matches. -/
theorem search_eq_true_iff_begins (fixed : p.hasFixedLookBehind = true) (line : List Char) :
    p.search line = true ↔ ∃ before after, line = before ++ after ∧ Begins [p] before after := by
  rw [search_eq_true_iff fixed]
  constructor
  · rintro ⟨⟨before, after⟩, d, hc, h⟩
    refine ⟨before.reverse, after, hc.symm, d, ?_⟩
    rw [List.reverse_reverse]
    exact h
  · rintro ⟨before, after, rfl, d, h⟩
    refine ⟨⟨before.reverse, after⟩, d, ?_, h⟩
    unfold IsIn
    rw [List.reverse_reverse]

theorem begins_nil : Begins [] before after := ⟨_, rfl⟩

/-- A row among the parts may be taken apart. -/
theorem begins_concat_iff {first : List Pattern} :
    Begins (concat first :: parts) before after ↔ Begins (first ++ parts) before after := by
  simp only [Begins, matches_concat_cons_iff, matches_concat_append_iff]

/-- A choice in front may be made first. -/
theorem begins_oneOf_iff (hne : choices ≠ []) :
    Begins (oneOf choices :: parts) before after ↔
      ∃ p ∈ choices, Begins (p :: parts) before after := by
  simp only [Begins, matches_concat_cons_iff, matches_oneOf_iff hne]
  constructor
  · rintro ⟨e, d, ⟨p, hp, h⟩, hparts⟩
    exact ⟨p, hp, e, d, h, hparts⟩
  · rintro ⟨p, hp, e, d, h, hparts⟩
    exact ⟨e, d, ⟨p, hp, h⟩, hparts⟩

/-- A search for one of several patterns. -/
theorem exists_begins_oneOf_iff (hne : choices ≠ []) {line : List Char} :
    (∃ before after, line = before ++ after ∧ Begins [oneOf choices] before after) ↔
      ∃ p ∈ choices, ∃ before after, line = before ++ after ∧ Begins [p] before after := by
  simp only [begins_oneOf_iff hne]
  constructor
  · rintro ⟨before, after, hline, p, hp, h⟩
    exact ⟨p, hp, before, after, hline, h⟩
  · rintro ⟨p, hp, before, after, hline, h⟩
    exact ⟨before, after, hline, p, hp, h⟩

/-- A search for either of two patterns. -/
theorem exists_begins_either_iff {line : List Char} :
    (∃ before after, line = before ++ after ∧ Begins [oneOf [p, q]] before after) ↔
      (∃ before after, line = before ++ after ∧ Begins [p] before after) ∨
        ∃ before after, line = before ++ after ∧ Begins [q] before after := by
  simp only [exists_begins_oneOf_iff (List.cons_ne_nil p [q]), List.mem_cons, List.not_mem_nil,
    or_false, exists_eq_or_imp, exists_eq_left]

/-- An optional part in front is left out or there. -/
theorem begins_opt_iff :
    Begins (p.opt :: parts) before after ↔
      Begins parts before after ∨ Begins (p :: parts) before after := by
  simp only [Begins, matches_concat_cons_iff, matches_opt_iff]
  constructor
  · rintro ⟨e, d, rfl | h, hparts⟩
    · exact .inl ⟨e, hparts⟩
    · exact .inr ⟨e, d, h, hparts⟩
  · rintro (⟨e, hparts⟩ | ⟨e, d, h, hparts⟩)
    · exact ⟨e, _, .inl rfl, hparts⟩
    · exact ⟨e, d, .inr h, hparts⟩

/-- A part that is known by its pieces takes such a piece off the text that follows. -/
theorem begins_of_accepts {test : List Char → Prop} (h : p.Accepts test) :
    Begins (p :: parts) before after ↔
      ∃ u, test u ∧ ∃ rest, after = u ++ rest ∧ Begins parts (before ++ u) rest := by
  simp only [Begins, matches_concat_cons_iff, h _ _, List.reverse_append]
  constructor
  · rintro ⟨e, ⟨b, rest⟩, ⟨u, ⟨hafter, hbefore⟩, hu⟩, hparts⟩
    cases hbefore
    exact ⟨u, hu, rest, hafter, e, hparts⟩
  · rintro ⟨u, hu, rest, rfl, e, hparts⟩
    exact ⟨e, _, ⟨u, ⟨rfl, rfl⟩, hu⟩, hparts⟩

/-- A word in front is written out in what follows. -/
theorem begins_word_iff {w : List Char} :
    Begins (word w :: parts) before after ↔
      ∃ rest, after = w ++ rest ∧ Begins parts (before ++ w) rest := by
  simp only [begins_of_accepts (accepts_word w), exists_eq_left]

theorem begins_char_iff {x : Char} :
    Begins (.char x :: parts) before after ↔
      ∃ rest, after = [x] ++ rest ∧ Begins parts (before ++ [x]) rest := by
  simp only [begins_of_accepts (accepts_char x), exists_eq_left]

/-- A row of characters in front is written out in what follows. -/
theorem begins_chars_iff {w : List Char} :
    Begins (chars w ++ parts) before after ↔
      ∃ rest, after = w ++ rest ∧ Begins parts (before ++ w) rest := by
  induction w generalizing before after with
  | nil => simp [chars]
  | cons x w ih =>
    have hchars : chars (x :: w) ++ parts = .char x :: (chars w ++ parts) := rfl
    simp only [hchars, begins_char_iff, ih, List.append_assoc, List.singleton_append]
    constructor
    · rintro ⟨_, rfl, rest, rfl, hparts⟩
      exact ⟨rest, rfl, hparts⟩
    · rintro ⟨rest, rfl, hparts⟩
      exact ⟨w ++ rest, rfl, rest, rfl, hparts⟩

/-- A run of blanks in front takes some of the blanks that follow. -/
theorem begins_blankRun_iff :
    Begins (blankRun :: parts) before after ↔
      ∃ u, AllBlank u ∧ ∃ rest, after = u ++ rest ∧ Begins parts (before ++ u) rest :=
  begins_of_accepts accepts_blankRun

/-- A set in front takes the next character if that is in it. -/
theorem begins_set_iff {s : CharSet} :
    Begins (.set s :: parts) before after ↔
      ∃ x, s.contains x = true ∧ ∃ rest, after = [x] ++ rest ∧
        Begins parts (before ++ [x]) rest := by
  rw [begins_of_accepts accepts_set]
  constructor
  · rintro ⟨_, ⟨x, hx, rfl⟩, hrest⟩
    exact ⟨x, hx, hrest⟩
  · rintro ⟨x, hx, hrest⟩
    exact ⟨[x], ⟨x, hx, rfl⟩, hrest⟩

/-- A choice of characters in front takes one of them. -/
theorem begins_anyOf_iff {cs : List Char} :
    Begins (anyOf cs :: parts) before after ↔
      ∃ x ∈ cs, ∃ rest, after = [x] ++ rest ∧ Begins parts (before ++ [x]) rest := by
  simp only [begins_set_iff, CharSet.contains_listed, Bool.bne_false, List.contains_iff_mem]

/-- Some characters that are not listed, from `least` on up to `further` more. -/
abbrev gap (cs : List Char) (least further : Nat) : Pattern :=
  .repeated (.set (.listed true cs)) least (some further)

/-- The text keeps off the listed characters, and its length is from `least` on up to `most`. -/
structure IsGap (cs : List Char) (least most : Nat) (u : List Char) : Prop where
  clean : ∀ x ∈ u, x ∉ cs
  least_le : least ≤ u.length
  le_most : u.length ≤ most

/-- A gap accepts the texts that keep off its characters and have a length within its bounds. -/
theorem accepts_gap {cs : List Char} {least further : Nat} :
    (gap cs least further).Accepts (IsGap cs least (least + further)) := by
  have hset (x : Char) : (CharSet.listed true cs).contains x = true ↔ x ∉ cs := by
    simp [CharSet.contains_listed]
  intro c d
  simp only [accepts_repeated_set c d, hset, Option.mem_some_iff, forall_eq']
  refine exists_congr fun u => and_congr_right fun _ => ⟨?_, ?_⟩
  · rintro ⟨hclean, hleast, hmost⟩
    exact ⟨hclean, hleast, hmost⟩
  · rintro ⟨hclean, hleast, hmost⟩
    exact ⟨hclean, hleast, hmost⟩

/-! ## Conditions between the parts -/

/-- The start of the line is where nothing stands before. -/
theorem begins_start_iff :
    Begins (.start :: parts) before after ↔ before = [] ∧ Begins parts before after := by
  simp only [Begins, matches_concat_cons_iff, Matches, List.reverse_eq_nil_iff]
  constructor
  · rintro ⟨e, _, ⟨rfl, hnil⟩, hparts⟩
    exact ⟨hnil, e, hparts⟩
  · rintro ⟨hnil, e, hparts⟩
    exact ⟨e, _, ⟨rfl, hnil⟩, hparts⟩

/-- The end of the line is where nothing follows but a final line feed. -/
theorem begins_finish_iff :
    Begins (.finish :: parts) before after ↔
      (after = [] ∨ after = ['\n']) ∧ Begins parts before after := by
  simp only [Begins, matches_concat_cons_iff, Matches]
  constructor
  · rintro ⟨e, _, ⟨rfl, hend⟩, hparts⟩
    exact ⟨hend, e, hparts⟩
  · rintro ⟨hend, e, hparts⟩
    exact ⟨e, _, ⟨rfl, hend⟩, hparts⟩

/-- A word boundary in front of a sequence is an edge of a word right here. -/
theorem begins_boundary_iff :
    Begins (.boundary true :: parts) before after ↔
      WordEdge before after ∧ Begins parts before after := by
  simp only [Begins, matches_concat_cons_iff, matches_boundary_true_iff, atBoundary, bne_iff_ne,
    List.head?_reverse]
  constructor
  · rintro ⟨e, _, ⟨rfl, hedge⟩, hparts⟩
    exact ⟨hedge, e, hparts⟩
  · rintro ⟨hedge, e, hparts⟩
    exact ⟨e, _, ⟨rfl, hedge⟩, hparts⟩

/-- In front of a piece that starts with a word character, an edge is a condition on the text
before. -/
theorem begins_boundary_of_accepts {test : List Char → Prop} (h : p.Accepts test)
    (hword : ∀ u, test u → u.head?.any isWord = true) :
    Begins (.boundary true :: p :: parts) before after ↔
      EndsOffWord before ∧ Begins (p :: parts) before after := by
  rw [begins_boundary_iff, begins_of_accepts h]
  refine and_congr_left ?_
  rintro ⟨u, hu, rest, rfl, -⟩
  exact wordEdge_append_right_iff (hword u hu) rest

/-- Before a row that starts with a word character, a boundary says that the text so far ends off
words. -/
theorem begins_boundary_chars_iff {w : List Char} (hw : w.head?.any isWord = true) :
    Begins (.boundary true :: (chars w ++ parts)) before after ↔
      EndsOffWord before ∧ Begins (chars w ++ parts) before after := by
  rw [begins_boundary_iff, begins_chars_iff]
  refine and_congr_left ?_
  rintro ⟨rest, rfl, -⟩
  exact wordEdge_append_right_iff hw rest

/-- Behind a piece that stops with a word character, an edge is a condition on the text after. -/
theorem begins_of_accepts_boundary {test : List Char → Prop} (h : p.Accepts test)
    (hword : ∀ u, test u → u.getLast?.any isWord = true) :
    Begins (p :: .boundary true :: parts) before after ↔
      ∃ u, test u ∧ ∃ rest, after = u ++ rest ∧ BeginsOffWord rest ∧
        Begins parts (before ++ u) rest := by
  simp only [begins_of_accepts h, begins_boundary_iff]
  refine exists_congr fun u => and_congr_right fun hu => exists_congr fun rest =>
    and_congr_right fun _ => and_congr_left fun _ => ?_
  exact wordEdge_append_left_iff (hword u hu) before

/-- A negative look-ahead in front forbids what it looks for, and takes nothing. -/
theorem begins_not_ahead_iff :
    Begins (.ahead false p :: parts) before after ↔
      ¬ Begins [p] before after ∧ Begins parts before after := by
  constructor
  · rintro ⟨e, h⟩
    obtain ⟨_, ⟨rfl, hnone⟩, hparts⟩ := matches_concat_cons_iff.1 h
    exact ⟨fun hp => Bool.false_ne_true (hnone.1 hp), e, hparts⟩
  · rintro ⟨hnone, e, hparts⟩
    refine ⟨e, matches_concat_cons_iff.2 ⟨_, ⟨rfl, ?_⟩, hparts⟩⟩
    exact ⟨fun hp => absurd hp hnone, fun h => Bool.noConfusion h⟩

/-! ## From the parts to the line

What the parts take comes one piece after the other.  These equations put the pieces together again,
so that a line is written as one row of pieces.
-/

section Line

variable {line front w : List Char} {rest : List Char → Prop}

/-- The next piece is a fixed one. -/
theorem exists_word_iff :
    (∃ after, line = front ++ after ∧ ∃ more, after = w ++ more ∧ rest more) ↔
      ∃ more, line = front ++ w ++ more ∧ rest more := by
  constructor
  · rintro ⟨_, rfl, more, rfl, hmore⟩
    exact ⟨more, (List.append_assoc front w more).symm, hmore⟩
  · rintro ⟨more, rfl, hmore⟩
    exact ⟨_, List.append_assoc front w more, more, rfl, hmore⟩

/-- The next piece is one of several. -/
theorem exists_piece_iff {ι : Type} {test : ι → Prop} {piece : ι → List Char}
    {rest : ι → List Char → Prop} :
    (∃ after, line = front ++ after ∧ ∃ i, test i ∧ ∃ more, after = piece i ++ more ∧ rest i more) ↔
      ∃ i, test i ∧ ∃ more, line = front ++ piece i ++ more ∧ rest i more := by
  simp only [← exists_word_iff]
  constructor
  · rintro ⟨after, hline, i, hi, hmore⟩
    exact ⟨i, hi, after, hline, hmore⟩
  · rintro ⟨i, hi, after, hline, hmore⟩
    exact ⟨after, hline, i, hi, hmore⟩

/-- The next is a condition on what comes before. -/
theorem exists_condition_iff {condition : Prop} :
    (∃ after, line = front ++ after ∧ condition ∧ rest after) ↔
      condition ∧ ∃ after, line = front ++ after ∧ rest after := by
  simp only [and_left_comm, exists_and_left]

end Line

/-! ## A lead that does not matter -/

/-- Text that may be left out in front of a word makes no difference to a search if it ends with no
word character: the word may begin behind it as well. -/
theorem exists_begins_opt_lead_iff {lead w line : List Char} (hne : lead ≠ [])
    (hlead : EndsOffWord lead) (hw : w.head?.any isWord = true) :
    (∃ before after, line = before ++ after ∧
        Begins (.boundary true :: opt (word lead) :: (chars w ++ parts)) before after) ↔
      ∃ before after, line = before ++ after ∧
        Begins (.boundary true :: (chars w ++ parts)) before after := by
  simp only [begins_boundary_iff, begins_opt_iff, begins_word_iff]
  constructor
  · rintro ⟨before, after, rfl, hedge, hword | ⟨rest, rfl, hword⟩⟩
    · exact ⟨before, after, rfl, hedge, hword⟩
    · refine ⟨before ++ lead, rest, by rw [List.append_assoc], ?_, hword⟩
      obtain ⟨rest, rfl, -⟩ := begins_chars_iff.1 hword
      rw [wordEdge_append_right_iff hw]
      exact hlead.append_left hne before
  · rintro ⟨before, after, hline, hedge, hword⟩
    exact ⟨before, after, hline, hedge, .inl hword⟩

end Pattern

end CodeScan
