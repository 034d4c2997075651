import CodeScan.Proofs.Pattern.Steady

/-!
# Patterns and the blanks around a line

Putting blanks in front of a line or behind it can change whether a pattern is found in it: `^a` and
`a(?! )` are found in `a` and not in ` a `.  `Pattern.ignoresPadding` is a check on the pattern that
rules this out, and `search_pad` is what it promises.

## Shape of the argument

Steadiness speaks about pieces that begin and end in the line proper.  A match in the padded line
could begin or end in the padding.  It cannot begin there if its first character is not blank.  For
its end there is a little more to do, because a pattern may well end with blanks and a condition on
what follows them, such as `\s*$`.  The check `endsSteady` walks along a sequence to its end and
knows that shape: after a run of blanks, a condition is met at the end of the padded line if it is
met at the end of the line (`stopsAtEnd`), and where other characters follow, the padding is out of
its sight.

The start of the line is no condition that padding leaves alone.  It is read together with a run of
blanks after it: a match of `^\s*p` is a match of `p` with only blanks before it (`core`).
-/

namespace CodeScan

namespace CharItem

theorem contains_single (c x : Char) : (single c.toNat).contains x = (x == c) := by
  rw [contains, Bool.eq_iff_iff, beq_iff_eq, beq_iff_eq]
  exact ⟨fun h => Char.ext (UInt32.toNat_inj.1 h), fun h => by rw [h]⟩

theorem contains_kind (k : CharKind) (negated : Bool) (x : Char) :
    (kind k negated).contains x = (k.holds x != negated) := rfl

end CharItem

namespace Pattern

open Cursor

variable {p q : Pattern} {c d e : Cursor} {piece front back line : List Char}

/-! ## The end of a match -/

/-- Any number of blanks. -/
def blankRun : Pattern := .repeated (.set ⟨false, [.kind .blank false]⟩) 0 none

/-- Turns of a set take one character of the set each. -/
theorem turns_set_iff {s : CharSet} {n : Nat} :
    Turns (Pattern.set s).Matches n c d ↔
      ∃ u, Spans u c d ∧ (∀ x ∈ u, s.contains x = true) ∧ u.length = n := by
  constructor
  · intro h
    induction n generalizing c with
    | zero => exact ⟨[], spans_nil_iff.2 h, fun x hx => by simp at hx, rfl⟩
    | succ n ih =>
      obtain ⟨e, ⟨x, hx, hone⟩, hrest⟩ := h
      obtain ⟨u, hu, hset, hlength⟩ := ih hrest
      refine ⟨[x] ++ u, hone.append hu, List.forall_mem_cons.2 ⟨hx, hset⟩, ?_⟩
      rw [List.length_append, hlength, List.length_singleton, Nat.add_comm]
  · rintro ⟨u, hu, hset, rfl⟩
    induction u generalizing c with
    | nil => exact spans_nil_iff.1 hu
    | cons x u ih =>
      rw [List.forall_mem_cons] at hset
      refine ⟨⟨x :: c.before, u ++ d.after⟩, ⟨x, hset.1, hu.1, rfl⟩, ih ⟨rfl, ?_⟩ hset.2⟩
      rw [hu.2]
      simp

/-- A repeat of a set takes characters of the set, as many as its bounds allow. -/
theorem matches_repeated_set_iff {s : CharSet} {least : Nat} {further : Option Nat} :
    (Pattern.repeated (.set s) least further).Matches c d ↔
      ∃ u, Spans u c d ∧ (∀ x ∈ u, s.contains x = true) ∧ least ≤ u.length ∧
        ∀ k ∈ further, u.length ≤ least + k := by
  constructor
  · rintro ⟨n, hleast, hmost, hturns⟩
    obtain ⟨u, hu, hset, rfl⟩ := turns_set_iff.1 hturns
    exact ⟨u, hu, hset, hleast, hmost⟩
  · rintro ⟨u, hu, hset, hleast, hmost⟩
    exact ⟨u.length, hleast, hmost, turns_set_iff.2 ⟨u, hu, hset, rfl⟩⟩

/-- A run of blanks goes over any blanks. -/
theorem matches_blankRun_iff : blankRun.Matches c d ↔ ∃ u, Spans u c d ∧ AllBlank u := by
  have hset (x : Char) : (⟨false, [.kind .blank false]⟩ : CharSet).contains x = isBlank x := by
    simp [CharSet.contains, CharItem.contains_kind, CharKind.holds]
  rw [blankRun, matches_repeated_set_iff]
  simp [hset, AllBlank]

/-- The pattern matches the empty piece where the line ends. -/
def stopsAtEnd : Pattern → Bool
  | .empty | .finish | .veryEnd => true
  | .ahead wanted p => !wanted && 0 < p.width.1
  | .seq p q => p.stopsAtEnd && q.stopsAtEnd
  | .alt p q => p.stopsAtEnd || q.stopsAtEnd
  | .repeated _ least _ => least == 0
  | .char _ | .any | .set _ | .start | .boundary _ | .behind .. => false

/-- A pattern that may stop at the end of a line matches there without taking anything. -/
theorem matches_self_of_stopsAtEnd (h : p.stopsAtEnd = true) (hc : c.after = []) :
    p.Matches c c := by
  induction p with
  | empty => rfl
  | finish => exact ⟨rfl, .inl hc⟩
  | veryEnd => exact ⟨rfl, hc⟩
  | ahead wanted p =>
    simp only [stopsAtEnd, Bool.and_eq_true, Bool.not_eq_true', decide_eq_true_eq] at h
    refine ⟨rfl, ?_⟩
    rw [h.1]
    simp only [Bool.false_eq_true, iff_false]
    rintro ⟨e, hm⟩
    -- What is forbidden takes a character, and there is none left.
    obtain ⟨u, hu⟩ := hm.exists_spans
    have hnil := hu.1
    rw [hc] at hnil
    exact hm.piece_ne_nil h.2 hu (List.append_eq_nil_iff.1 hnil.symm).1
  | seq p q ihp ihq =>
    rw [stopsAtEnd, Bool.and_eq_true] at h
    exact ⟨c, ihp h.1, ihq h.2⟩
  | alt p q ihp ihq =>
    rw [stopsAtEnd, Bool.or_eq_true] at h
    exact h.imp ihp ihq
  | repeated p least further =>
    rw [stopsAtEnd, beq_iff_eq] at h
    exact ⟨0, by omega, by simp, rfl⟩
  | char | any | set | start | boundary | behind => simp [stopsAtEnd] at h

/-- A condition on the next character or on the end of the line. -/
def isClosing : Pattern → Bool
  | .finish | .veryEnd | .ahead _ (.set _) => true
  | _ => false

/-- A pattern that takes a character and starts with one that is not blank. -/
def startsSolid (p : Pattern) : Bool := p.solidEdge true && 0 < p.width.1

/-- Being found at a place does not depend on the blanks behind the line. -/
def endsSteady : Pattern → Bool
  | .alt p q => p.endsSteady && q.endsSteady
  | .seq p q =>
    (p.seq q).isSteady && (p.seq q).solidEdge false ||
      p.isSteady && q.endsSteady && (p.solidEdge false || q.startsSolid) ||
        p = blankRun && q.stopsAtEnd && (q.isClosing || q.endsSteady)
  | p => p.isSteady && p.solidEdge false

/-- A pattern that starts solid needs a next character that is not blank. -/
theorem Matches.exists_solid_next (h : p.Matches c d) (hp : p.startsSolid = true) :
    ∃ x, c.after.head? = some x ∧ isBlank x = false := by
  simp only [startsSolid, Bool.and_eq_true, decide_eq_true_eq] at hp
  obtain ⟨u, hu⟩ := h.exists_spans
  obtain ⟨x, u, rfl⟩ := List.exists_cons_of_ne_nil (h.piece_ne_nil hp.2 hu)
  refine ⟨x, ?_, h.solidEdge hp.1 hu x rfl⟩
  rw [hu.1]
  rfl

/-- A place that is reached from the line proper and followed by a solid character is one of the
line proper. -/
theorem exists_pad_of_solid_next (hback : AllBlank back) (hu : Spans piece (c.pad front back) e)
    {x : Char} (hhead : e.after.head? = some x) (hx : isBlank x = false) :
    ∃ y : Cursor, e = y.pad front back := by
  obtain ⟨rest, hafter⟩ := List.head?_eq_some_iff.1 hhead
  have hone : Spans [x] e ⟨x :: e.before, rest⟩ := ⟨hafter, rfl⟩
  have hsolid : SolidEdge false (piece ++ [x]) :=
    (solidEdge_singleton hx).append_left (by simp) piece
  obtain ⟨y, hy⟩ := exists_pad_of_solid_end hback (hu.append hone) hsolid
  exact exists_pad_of_between hu (hy ▸ hone)

/-- Where a character that is not blank follows, a closing condition does not see the padding. -/
theorem exists_matches_pad_iff_of_isClosing (hq : q.isClosing = true) (hc : ¬ AllBlank c.after) :
    (∃ d, q.Matches (c.pad front back) d) ↔ ∃ d, q.Matches c d := by
  have hpad : ¬ AllBlank (c.pad front back).after := fun h => hc (allBlank_append.1 h).1
  cases q with
  | finish =>
    -- Something that is not blank follows, so neither line is at its end.
    refine iff_of_false ?_ ?_
    · rintro ⟨d, -, h⟩
      exact hpad (allBlank_of_nil_or_newline h)
    · rintro ⟨d, -, h⟩
      exact hc (allBlank_of_nil_or_newline h)
  | veryEnd =>
    refine iff_of_false ?_ ?_
    · rintro ⟨d, -, h⟩
      exact hpad (allBlank_of_nil_or_newline (.inl h))
    · rintro ⟨d, -, h⟩
      exact hc (allBlank_of_nil_or_newline (.inl h))
  | ahead wanted p =>
    cases p with
    | set s =>
      have hhead : (c.pad front back).after.head? = c.after.head? := by
        obtain ⟨x, rest, hafter⟩ : ∃ x rest, c.after = x :: rest :=
          List.exists_cons_of_ne_nil fun h => hc (allBlank_of_nil_or_newline (.inl h))
        rw [pad_after, hafter, List.cons_append, List.head?_cons, List.head?_cons]
      simp only [Matches, exists_takes_iff, hhead, exists_and_right, exists_eq']
    | _ => simp [isClosing] at hq
  | _ => simp [isClosing] at hq

/-- A run of blanks that reaches the end of the line can be followed by what stops there. -/
theorem exists_matches_blankRun_seq (hq : q.stopsAtEnd = true) (hc : AllBlank c.after) :
    ∃ d, (blankRun.seq q).Matches c d := by
  have hrun : blankRun.Matches c ⟨c.after.reverse ++ c.before, []⟩ :=
    matches_blankRun_iff.2 ⟨c.after, ⟨by simp, rfl⟩, hc⟩
  exact ⟨_, _, hrun, matches_self_of_stopsAtEnd hq rfl⟩

/-- A run of blanks and a condition after it do not see the padding. -/
theorem exists_matches_blankRun_seq_pad_iff (hback : AllBlank back) (hstop : q.stopsAtEnd = true)
    (hq : ∀ c : Cursor, ¬ AllBlank c.after →
      ((∃ d, q.Matches (c.pad front back) d) ↔ ∃ d, q.Matches c d)) :
    (∃ d, (blankRun.seq q).Matches (c.pad front back) d) ↔
      ∃ d, (blankRun.seq q).Matches c d := by
  by_cases hc : AllBlank c.after
  · -- Only blanks follow, with or without padding.
    exact iff_of_true (exists_matches_blankRun_seq hstop (allBlank_append.2 ⟨hc, hback⟩))
      (exists_matches_blankRun_seq hstop hc)
  · -- The run stops before a character that is not blank, so it ends in the line proper.
    constructor
    · rintro ⟨d, e, hrun, hmatch⟩
      obtain ⟨u, hu, hblank⟩ := matches_blankRun_iff.1 hrun
      rcases List.append_eq_append_iff.1 hu.1 with ⟨extra, hextra, -⟩ | ⟨rest, hrest, hafter⟩
      · -- The run cannot end in the padding: it would have taken what is not blank in the line.
        rw [hextra, allBlank_append] at hblank
        exact absurd hblank.1 hc
      · have he : e = pad front back ⟨u.reverse ++ c.before, rest⟩ := by
          refine ext ?_ hafter
          rw [hu.2]
          simp
        have hsolid : ¬ AllBlank rest := by
          intro h
          rw [hrest, allBlank_append] at hc
          exact hc ⟨hblank, h⟩
        rw [he] at hmatch
        obtain ⟨y, hy⟩ := (hq _ hsolid).1 ⟨d, hmatch⟩
        exact ⟨y, _, matches_blankRun_iff.2 ⟨u, ⟨hrest, rfl⟩, hblank⟩, hy⟩
    · rintro ⟨d, e, hrun, hmatch⟩
      obtain ⟨u, hu, hblank⟩ := matches_blankRun_iff.1 hrun
      have hsolid : ¬ AllBlank e.after := by
        intro h
        rw [hu.1, allBlank_append] at hc
        exact hc ⟨hblank, h⟩
      obtain ⟨y, hy⟩ := (hq e hsolid).2 ⟨d, hmatch⟩
      exact ⟨y, e.pad front back, matches_blankRun_iff.2 ⟨u, spans_pad_iff.2 hu, hblank⟩, hy⟩

/-- Where the first part of a sequence ends in the line proper, the padding is a matter of the
second part alone. -/
theorem exists_matches_seq_pad_iff
    (hp : ∀ d, p.Matches (c.pad front back) (d.pad front back) ↔ p.Matches c d)
    (hbetween : ∀ d e, p.Matches (c.pad front back) e → q.Matches e d →
      ∃ x : Cursor, e = x.pad front back)
    (hq : ∀ e : Cursor, (∃ d, q.Matches (e.pad front back) d) ↔ ∃ d, q.Matches e d) :
    (∃ d, (p.seq q).Matches (c.pad front back) d) ↔ ∃ d, (p.seq q).Matches c d := by
  constructor
  · rintro ⟨d, e, hfirst, hsecond⟩
    obtain ⟨x, rfl⟩ := hbetween d e hfirst hsecond
    obtain ⟨y, hy⟩ := (hq x).1 ⟨d, hsecond⟩
    exact ⟨y, x, (hp x).1 hfirst, hy⟩
  · rintro ⟨d, e, hfirst, hsecond⟩
    obtain ⟨y, hy⟩ := (hq e).2 ⟨d, hsecond⟩
    exact ⟨y, e.pad front back, (hp e).2 hfirst, hy⟩

/-- What `endsSteady` promises. -/
theorem exists_matches_pad_iff_of_endsSteady (hfront : AllBlank front) (hback : AllBlank back)
    (h : p.endsSteady = true) :
    (∃ d, p.Matches (c.pad front back) d) ↔ ∃ d, p.Matches c d := by
  have hsteady {p : Pattern} {c : Cursor} (h : p.isSteady = true ∧ p.solidEdge false = true) :
      (∃ d, p.Matches (c.pad front back) d) ↔ ∃ d, p.Matches c d :=
    exists_matches_pad_iff hback h.2 fun _ => matches_pad_iff hfront hback h.1
  induction p generalizing c with
  | alt p q ihp ihq =>
    rw [endsSteady, Bool.and_eq_true] at h
    simp only [Matches, exists_or, ihp h.1, ihq h.2]
  | seq p q ihp ihq =>
    simp only [endsSteady, Bool.or_eq_true, Bool.and_eq_true, decide_eq_true_eq] at h
    rcases h with (h | ⟨⟨hp, hq⟩, hedge⟩) | ⟨⟨rfl, hstop⟩, hq⟩
    · exact hsteady h
    · have hfirst (d : Cursor) : p.Matches (c.pad front back) (d.pad front back) ↔ p.Matches c d :=
        matches_pad_iff hfront hback hp
      refine exists_matches_seq_pad_iff hfirst (fun d e hfirst hsecond => ?_) fun e => ihq hq
      -- The place in between has a solid character on one of its sides.
      obtain ⟨u, hu⟩ := hfirst.exists_spans
      rcases hedge with hedge | hedge
      · exact exists_pad_of_solid_end hback hu (hfirst.solidEdge hedge hu)
      · obtain ⟨x, hhead, hx⟩ := hsecond.exists_solid_next hedge
        exact exists_pad_of_solid_next hback hu hhead hx
    · refine exists_matches_blankRun_seq_pad_iff hback hstop fun e he => ?_
      rcases hq with hq | hq
      · exact exists_matches_pad_iff_of_isClosing hq he
      · exact ihq hq
  | _ => exact hsteady (by simpa only [endsSteady, Bool.and_eq_true] using h)

/-! ## Searching -/

/-- The pattern without a start of the line and a run of blanks at its front, and whether these were
there. -/
def core : Pattern → Bool × Pattern
  | .seq .start (.seq p q) =>
    if p = blankRun then (true, q) else (false, .seq .start (.seq p q))
  | p => (false, p)

/-- A match after the start of the line and a run of blanks is a match with only blanks before
it. -/
theorem exists_matches_start_seq_iff :
    (∃ c d, c.IsIn line ∧ (Pattern.start.seq (blankRun.seq q)).Matches c d) ↔
      ∃ c d, c.IsIn line ∧ AllBlank c.before ∧ q.Matches c d := by
  constructor
  · rintro ⟨c, d, hc, _, ⟨rfl, hstart⟩, e, hrun, hmatch⟩
    obtain ⟨u, ⟨hafter, hbefore⟩, hblank⟩ := matches_blankRun_iff.1 hrun
    rw [hstart, List.append_nil] at hbefore
    refine ⟨e, d, ?_, ?_, hmatch⟩
    · rw [IsIn, hbefore, List.reverse_reverse, ← hafter, ← hc, hstart]
      rfl
    · rw [hbefore, allBlank_reverse]
      exact hblank
  · rintro ⟨c, d, hc, hblank, hmatch⟩
    have hrun : blankRun.Matches ⟨[], line⟩ c :=
      matches_blankRun_iff.2 ⟨c.before.reverse, ⟨hc.symm, by simp⟩, allBlank_reverse.2 hblank⟩
    exact ⟨⟨[], line⟩, d, rfl, _, ⟨rfl, rfl⟩, c, hrun, hmatch⟩

/-- The pattern is found where its core is, with only blanks before it if the pattern is tied to the
start of the line. -/
theorem exists_matches_iff_core :
    (∃ c d, c.IsIn line ∧ p.Matches c d) ↔
      ∃ c d, c.IsIn line ∧ (p.core.1 = true → AllBlank c.before) ∧ p.core.2.Matches c d := by
  fun_cases core p with
  | case1 q => simp only [exists_matches_start_seq_iff, forall_const]
  | case2 => simp only [Bool.false_eq_true, false_implies, true_and]
  | case3 => simp only [Bool.false_eq_true, false_implies, true_and]

/-- Whether the pattern is found in a line does not depend on the blanks around the line. -/
def ignoresPadding (p : Pattern) : Bool := p.core.2.startsSolid && p.core.2.endsSteady

/-- Blanks around a line neither hide a match nor make one. -/
theorem search_pad (fixed : p.hasFixedLookBehind = true) (h : p.ignoresPadding = true)
    (hfront : AllBlank front) (hback : AllBlank back) :
    p.search (front ++ line ++ back) = p.search line := by
  rw [ignoresPadding, Bool.and_eq_true] at h
  have hbefore (c : Cursor) : AllBlank (c.pad front back).before ↔ AllBlank c.before := by
    rw [pad_before, allBlank_append, allBlank_reverse, and_iff_left hfront]
  rw [Bool.eq_iff_iff, search_eq_true_iff fixed, search_eq_true_iff fixed, exists_matches_iff_core,
    exists_matches_iff_core]
  constructor
  · rintro ⟨e, d, he, hblank, hmatch⟩
    -- The first character of the match is not blank, so the match begins in the line proper.
    obtain ⟨x, hhead, hx⟩ := hmatch.exists_solid_next h.1
    obtain ⟨c, rfl, hc⟩ := exists_pad_of_isIn hfront hback he hhead hx
    obtain ⟨d, hmatch⟩ := (exists_matches_pad_iff_of_endsSteady hfront hback h.2).1 ⟨d, hmatch⟩
    exact ⟨c, d, hc, fun htied => (hbefore c).1 (hblank htied), hmatch⟩
  · rintro ⟨c, d, hc, hblank, hmatch⟩
    obtain ⟨d, hmatch⟩ := (exists_matches_pad_iff_of_endsSteady hfront hback h.2).2 ⟨d, hmatch⟩
    exact ⟨c.pad front back, d, isIn_pad hc, fun htied => (hbefore c).2 (hblank htied), hmatch⟩

/-- Nothing is found in a line of blanks. -/
theorem search_of_allBlank (fixed : p.hasFixedLookBehind = true) (h : p.ignoresPadding = true)
    (hline : AllBlank line) : p.search line = false := by
  rw [ignoresPadding, Bool.and_eq_true] at h
  rw [Bool.eq_false_iff, Ne, search_eq_true_iff fixed, exists_matches_iff_core]
  rintro ⟨c, d, hc, -, hmatch⟩
  obtain ⟨x, hhead, hx⟩ := hmatch.exists_solid_next h.1
  have hmem : x ∈ line := by
    rw [← hc]
    exact List.mem_append_right _ (List.mem_of_head? hhead)
  rw [hline x hmem] at hx
  exact Bool.noConfusion hx

end Pattern

end CodeScan
