import CodeScan.Proofs.Pattern.Padding
import Mathlib.Data.List.TakeWhile

/-!
# Patterns in a longer line

Text is added in front of a line or behind it, with a blank in between.  What was found in the line
is still found there, unless look-around reaches over the blank.  Look-around that matches no blank
cannot do so, and `keepsOff` checks this for either side.

Some patterns end with a condition that does reach over the blank.  Whether such a *tail* still
holds depends on the added text, so it is a parameter: `outlasts tail` accepts a pattern whose
conditions keep off the added text or are among the tails.  Two kinds of tail are treated here, each
with the texts that it bears:

* no word follows within a gap (`exists_matches_wordless`), which is borne by texts without the
  word, as the word itself holds no blank;
* no character of a set follows the blanks (`exists_matches_blanksThenNot`), which is borne by texts
  whose first character past the blanks is not of the set.
-/

namespace CodeScan

namespace Cursor

variable {front back piece : List Char} {b : Char} {c d e : Cursor}

/-- What is reached from the line proper is in the line proper or behind the blank. -/
theorem exists_pad_or_suffix (h : Spans piece (c.pad front (b :: back)) e) :
    (∃ x : Cursor, e = x.pad front (b :: back)) ∨ e.after <:+ back := by
  have hbefore : e.before = piece.reverse ++ c.before ++ front.reverse := by
    rw [h.2]
    simp
  rcases List.append_eq_append_iff.1 h.1 with ⟨extra, -, hrest⟩ | ⟨rest, -, hafter⟩
  · cases extra with
    | nil => exact .inl ⟨⟨piece.reverse ++ c.before, []⟩, ext hbefore (by simpa using hrest.symm)⟩
    | cons x extra => exact .inr ⟨extra, (List.cons.inj hrest).2.symm⟩
  · exact .inl ⟨⟨piece.reverse ++ c.before, rest⟩, ext hbefore hafter⟩

/-- A piece without blanks that starts in the line proper does not get past a blank behind it. -/
theorem exists_pad_of_solid_from (hb : isBlank b = true)
    (h : Spans piece (c.pad front (b :: back)) e) (hpiece : ∀ x ∈ piece, isBlank x = false) :
    ∃ x : Cursor, e = x.pad front (b :: back) := by
  rcases exists_pad_or_suffix h with hpad | ⟨skipped, hskipped⟩
  · exact hpad
  · -- Getting past the blank would take it.
    have hpast : piece ++ e.after = (c.after ++ b :: skipped) ++ e.after := by
      rw [← h.1, pad_after, ← hskipped]
      simp
    have := hpiece b (by simp [List.append_cancel_right hpast])
    simp [hb] at this

/-- A piece without blanks that ends in the line proper does not start before a blank in front of
it. -/
theorem exists_pad_of_solid_to (hb : isBlank b = true)
    (h : Spans piece e (d.pad (front ++ [b]) back)) (hpiece : ∀ x ∈ piece, isBlank x = false) :
    ∃ x : Cursor, e = x.pad (front ++ [b]) back := by
  have hafter : e.after = piece ++ d.after ++ back := by
    rw [h.1]
    simp
  have hbefore := h.2
  rw [pad_before, List.reverse_append, List.reverse_singleton] at hbefore
  rcases List.append_eq_append_iff.1 hbefore with ⟨extra, hextra, hrest⟩ | ⟨rest, -, hrest⟩
  · cases extra with
    | nil =>
      refine ⟨⟨[], piece ++ d.after⟩, ext ?_ hafter⟩
      simpa using hrest.symm
    | cons x extra =>
      have hx : b = x := (List.cons.inj hrest).1
      have hmem : b ∈ piece.reverse := by simp [hextra, hx]
      have := hpiece b (List.mem_reverse.1 hmem)
      simp [hb] at this
  · refine ⟨⟨rest, piece ++ d.after⟩, ext ?_ hafter⟩
    simpa using hrest

/-- Text in front of a line makes and hides no word boundary if it ends with a blank. -/
theorem atBoundary_pad_front (hb : isBlank b = true) :
    (c.pad (front ++ [b]) []).atBoundary = c.atBoundary := by
  obtain ⟨before, after⟩ := c
  cases before with
  | nil => simp [atBoundary, pad, isWord_of_isBlank hb]
  | cons x before => simp [atBoundary, pad]

/-- Text behind a line makes and hides no word boundary if it starts with a blank. -/
theorem atBoundary_pad_back (hb : isBlank b = true) :
    (c.pad [] (b :: back)).atBoundary = c.atBoundary := by
  obtain ⟨before, after⟩ := c
  cases after with
  | nil => simp [atBoundary, pad, isWord_of_isBlank hb]
  | cons x after => simp [atBoundary, pad]

end Cursor

namespace Pattern

open Cursor

variable {p q : Pattern} {c d e : Cursor} {piece front back line : List Char} {b : Char}

/-! ## Look-around that matches no blank -/

/-- No matching piece holds a blank. -/
def avoidsBlank : Pattern → Bool
  | .empty | .start | .finish | .veryEnd | .boundary _ | .ahead .. | .behind .. => true
  | .char x => !isBlank x
  | .any => false
  | .set s => s.isSolid
  | .seq p q | .alt p q => p.avoidsBlank && q.avoidsBlank
  | .repeated p _ _ => p.avoidsBlank

theorem solid_of_eq (h : c = d) (hspan : Spans piece c d) : ∀ x ∈ piece, isBlank x = false := by
  rw [hspan.piece_unique (spans_nil_iff.2 h)]
  exact fun x hx => by simp at hx

/-- A step over a character that is not blank goes over no blank. -/
theorem solid_of_takes {test : Char → Bool} (htest : ∀ x, test x = true → isBlank x = false)
    (h : Takes test c d) (hspan : Spans piece c d) : ∀ x ∈ piece, isBlank x = false := by
  obtain ⟨x, hx, hone⟩ := h
  rw [hspan.piece_unique hone]
  intro y hy
  rw [List.mem_singleton.1 hy]
  exact htest x hx

/-- Turns of a body that goes over no blank go over none. -/
theorem Turns.solid
    (hbody : ∀ c d u, p.Matches c d → Spans u c d → ∀ x ∈ u, isBlank x = false) {n : Nat}
    (h : Turns p.Matches n c d) (hspan : Spans piece c d) : ∀ x ∈ piece, isBlank x = false := by
  induction n generalizing c piece with
  | zero => exact solid_of_eq h hspan
  | succ n ih =>
    obtain ⟨e, hfirst, hrest⟩ := h
    obtain ⟨u, hu⟩ := hfirst.exists_spans
    obtain ⟨v, hv⟩ := hrest.exists_spans
    rw [hspan.piece_unique (hu.append hv)]
    exact List.forall_mem_append.2 ⟨hbody _ _ _ hfirst hu, ih hrest hv⟩

/-- The check finds pieces without blanks. -/
theorem Matches.solid (h : p.Matches c d) (hp : p.avoidsBlank = true) (hspan : Spans piece c d) :
    ∀ x ∈ piece, isBlank x = false := by
  induction p generalizing c d piece with
  | empty => exact solid_of_eq h hspan
  | start | finish | veryEnd | boundary | ahead | behind => exact solid_of_eq h.1 hspan
  | char x =>
    refine solid_of_takes (fun y hy => ?_) h hspan
    simp only [beq_iff_eq] at hy
    simpa [avoidsBlank, hy] using hp
  | any => simp [avoidsBlank] at hp
  | set s => exact solid_of_takes (fun _ => CharSet.isBlank_of_contains hp) h hspan
  | seq p q ihp ihq =>
    rw [avoidsBlank, Bool.and_eq_true] at hp
    obtain ⟨e, hfirst, hsecond⟩ := h
    -- The piece is cut where the first part ends, and both halves are solid.
    obtain ⟨u, hu⟩ := hfirst.exists_spans
    obtain ⟨v, hv⟩ := hsecond.exists_spans
    rw [hspan.piece_unique (hu.append hv)]
    exact List.forall_mem_append.2 ⟨ihp hfirst hp.1 hu, ihq hsecond hp.2 hv⟩
  | alt p q ihp ihq =>
    rw [avoidsBlank, Bool.and_eq_true] at hp
    rcases h with h | h
    · exact ihp h hp.1 hspan
    · exact ihq h hp.2 hspan
  | repeated p least further ih =>
    obtain ⟨n, -, -, h⟩ := h
    exact h.solid (fun _ _ _ hm hu => ih hm hp hu) hspan

/-- The pattern does not look over a blank in front of the line (`front`), or behind it. -/
def keepsOff (front : Bool) : Pattern → Bool
  | .empty | .char _ | .any | .set _ => true
  | .boundary here => here
  | .start => !front
  | .finish | .veryEnd => front
  | .seq p q | .alt p q => p.keepsOff front && q.keepsOff front
  | .repeated p _ _ => p.keepsOff front
  | .ahead _ p => p.keepsOff front && (front || p.avoidsBlank)
  | .behind _ p => p.keepsOff front && (!front || p.avoidsBlank)

/-- A pattern that keeps off what stands before it does not see a blank that is put there. -/
theorem looksWithin_front (hb : isBlank b = true) (h : p.keepsOff true = true) :
    p.LooksWithin (front ++ [b]) [] := by
  induction p with
  | empty | char | any | set => trivial
  | boundary here => exact h
  | start => simp [keepsOff] at h
  | finish | veryEnd => rfl
  | seq p q ihp ihq =>
    rw [keepsOff, Bool.and_eq_true] at h
    exact ⟨ihp h.1, ihq h.2⟩
  | alt p q ihp ihq =>
    rw [keepsOff, Bool.and_eq_true] at h
    exact ⟨ihp h.1, ihq h.2⟩
  | repeated p least further ih => exact ih h
  | ahead wanted p ih =>
    rw [keepsOff, Bool.and_eq_true] at h
    -- Nothing stands behind the line, so whatever starts in it ends in it.
    refine ⟨ih h.1, fun c e hm => ?_⟩
    obtain ⟨u, hu⟩ := hm.exists_spans
    refine ⟨⟨u.reverse ++ c.before, e.after⟩, ext ?_ (by simp)⟩
    rw [hu.2]
    simp
  | behind wanted p ih =>
    rw [keepsOff, Bool.and_eq_true, Bool.not_true, Bool.false_or] at h
    refine ⟨ih h.1, fun c e hm => ?_⟩
    obtain ⟨u, hu⟩ := hm.exists_spans
    exact exists_pad_of_solid_to hb hu (hm.solid h.2 hu)

/-- A pattern that keeps off what stands behind it does not see a blank that is put there. -/
theorem looksWithin_back (hb : isBlank b = true) (h : p.keepsOff false = true) :
    p.LooksWithin [] (b :: back) := by
  induction p with
  | empty | char | any | set => trivial
  | boundary here => exact h
  | start => rfl
  | finish | veryEnd => simp [keepsOff] at h
  | seq p q ihp ihq =>
    rw [keepsOff, Bool.and_eq_true] at h
    exact ⟨ihp h.1, ihq h.2⟩
  | alt p q ihp ihq =>
    rw [keepsOff, Bool.and_eq_true] at h
    exact ⟨ihp h.1, ihq h.2⟩
  | repeated p least further ih => exact ih h
  | ahead wanted p ih =>
    rw [keepsOff, Bool.and_eq_true, Bool.false_or] at h
    refine ⟨ih h.1, fun c e hm => ?_⟩
    obtain ⟨u, hu⟩ := hm.exists_spans
    exact exists_pad_of_solid_from hb hu (hm.solid h.2 hu)
  | behind wanted p ih =>
    rw [keepsOff, Bool.and_eq_true] at h
    -- Nothing stands in front of the line, so whatever ends in it starts in it.
    refine ⟨ih h.1, fun c e hm => ?_⟩
    obtain ⟨u, hu⟩ := hm.exists_spans
    refine ⟨⟨e.before, u ++ c.after⟩, ext (by simp) ?_⟩
    rw [hu.1]
    simp

/-- A pattern that keeps off matches the same pieces of a line behind other text. -/
theorem matches_pad_front_iff (hb : isBlank b = true) (h : p.keepsOff true = true) :
    p.Matches (c.pad (front ++ [b]) []) (d.pad (front ++ [b]) []) ↔ p.Matches c d :=
  matches_pad_iff_of_looksWithin (fun _ => atBoundary_pad_front hb) (looksWithin_front hb h)

/-- A pattern that keeps off matches the same pieces of a line before other text. -/
theorem matches_pad_back_iff (hb : isBlank b = true) (h : p.keepsOff false = true) :
    p.Matches (c.pad [] (b :: back)) (d.pad [] (b :: back)) ↔ p.Matches c d :=
  matches_pad_iff_of_looksWithin (fun _ => atBoundary_pad_back hb) (looksWithin_back hb h)

/-! ## Conditions at the end -/

/-- Text behind the line does not undo a match: every condition keeps off that text, or it is one of
the tails. -/
def outlasts (tail : Pattern → Bool) : Pattern → Bool
  | .alt p q => p.outlasts tail && q.outlasts tail
  | .seq p q =>
    tail (p.seq q) || (p.seq q).keepsOff false || p.keepsOff false && q.outlasts tail
  | p => tail p || p.keepsOff false

/-- What `outlasts` promises, given that the tails are borne by the text. -/
theorem exists_matches_of_outlasts (hb : isBlank b = true) {tail : Pattern → Bool}
    (htail : ∀ q, tail q = true → ∀ c d, q.Matches c d → ∃ e, q.Matches (c.pad [] (b :: back)) e)
    (h : p.outlasts tail = true) (hm : p.Matches c d) :
    ∃ e, p.Matches (c.pad [] (b :: back)) e := by
  -- A part that does not look behind its end matches as before when text is added there.
  have hkept {p : Pattern} {c d : Cursor} (h : p.keepsOff false = true) (hm : p.Matches c d) :
      ∃ e, p.Matches (c.pad [] (b :: back)) e :=
    ⟨_, (matches_pad_back_iff hb h).2 hm⟩
  induction p generalizing c d with
  | alt p q ihp ihq =>
    rw [outlasts, Bool.and_eq_true] at h
    rcases hm with hm | hm
    · obtain ⟨e, he⟩ := ihp h.1 hm
      exact ⟨e, .inl he⟩
    · obtain ⟨e, he⟩ := ihq h.2 hm
      exact ⟨e, .inr he⟩
  | seq p q ihp ihq =>
    simp only [outlasts, Bool.or_eq_true, Bool.and_eq_true] at h
    rcases h with (h | h) | h
    · exact htail _ h c d hm
    · exact hkept h hm
    · obtain ⟨m, hfirst, hsecond⟩ := hm
      obtain ⟨e, he⟩ := ihq h.2 hsecond
      exact ⟨e, m.pad [] (b :: back), (matches_pad_back_iff hb h.1).2 hfirst, he⟩
  | _ =>
    simp only [outlasts, Bool.or_eq_true] at h
    exact h.elim (fun h => htail _ h c d hm) fun h => hkept h hm

/-! ## Searching -/

/-- Text in front of a line hides nothing that was found in it. -/
theorem search_append_left (fixed : p.hasFixedLookBehind = true) (h : p.keepsOff true = true)
    (hb : isBlank b = true) (front : List Char) (hline : p.search line = true) :
    p.search (front ++ b :: line) = true := by
  rw [search_eq_true_iff fixed] at hline ⊢
  obtain ⟨c, d, hc, hm⟩ := hline
  refine ⟨c.pad (front ++ [b]) [], d.pad (front ++ [b]) [], ?_, (matches_pad_front_iff hb h).2 hm⟩
  have hin : (c.pad (front ++ [b]) []).IsIn (front ++ [b] ++ line ++ []) := isIn_pad hc
  simpa using hin

/-- Text behind a line hides nothing that was found in it if the text bears the tails. -/
theorem search_append_right (fixed : p.hasFixedLookBehind = true) {tail : Pattern → Bool}
    (h : p.outlasts tail = true) (hb : isBlank b = true)
    (htail : ∀ q, tail q = true → ∀ c d, q.Matches c d → ∃ e, q.Matches (c.pad [] (b :: back)) e)
    (hline : p.search line = true) : p.search (line ++ b :: back) = true := by
  rw [search_eq_true_iff fixed] at hline ⊢
  obtain ⟨c, d, hc, hm⟩ := hline
  obtain ⟨e, he⟩ := exists_matches_of_outlasts hb htail h hm
  have hin : (c.pad [] (b :: back)).IsIn ([] ++ line ++ b :: back) := isIn_pad hc
  exact ⟨c.pad [] (b :: back), e, by simpa using hin, he⟩

/-! ## Two tails -/

/-- The characters of a word, one after the other. -/
def word : List Char → Pattern
  | [] => .empty
  | [x] => .char x
  | x :: rest => .seq (.char x) (word rest)

/-- A word goes over itself. -/
theorem matches_word_iff (w : List Char) : (word w).Matches c d ↔ Spans w c d := by
  have hone (x : Char) (c d : Cursor) : (Pattern.char x).Matches c d ↔ Spans [x] c d := by
    simp only [Matches, Takes, beq_iff_eq, exists_eq_left]
  fun_induction word w generalizing c with
  | case1 => exact spans_nil_iff.symm
  | case2 x => exact hone x c d
  | case3 x rest _ ih =>
    constructor
    · rintro ⟨m, hfirst, hrest⟩
      exact ((hone x c m).1 hfirst).append (ih.1 hrest)
    · intro h
      refine ⟨⟨x :: c.before, rest ++ d.after⟩, (hone x c _).2 ⟨h.1, rfl⟩, ih.2 ⟨rfl, ?_⟩⟩
      rw [h.2]
      simp

/-- No word follows within a gap. -/
def wordless (gap : Pattern) (w : List Char) : Pattern := .ahead false (.seq gap (word w))

/-- That no word follows is borne by texts without the word.  The blank in front of the text is not
part of the word, so the word would have to stand in the line or in the text. -/
theorem exists_matches_wordless {gap : Pattern} (hgap : gap.keepsOff false = true) {w : List Char}
    (hw : ∀ x ∈ w, isBlank x = false) (hb : isBlank b = true) (hback : ¬ w <:+: back)
    (hm : (wordless gap w).Matches c d) :
    ∃ e, (wordless gap w).Matches (c.pad [] (b :: back)) e := by
  have hnone : ¬ ∃ e, (gap.seq (word w)).Matches c e := fun h => Bool.false_ne_true (hm.2.1 h)
  refine ⟨_, rfl, fun h => absurd h ?_, fun h => absurd h Bool.false_ne_true⟩
  rintro ⟨e, m, hfirst, hsecond⟩
  obtain ⟨u, hu⟩ := hfirst.exists_spans
  have hspan := (matches_word_iff w).1 hsecond
  rcases exists_pad_or_suffix hu with ⟨x, rfl⟩ | ⟨skipped, hskipped⟩
  · obtain ⟨y, rfl⟩ := exists_pad_of_solid_from hb hspan hw
    refine hnone ⟨y, x, (matches_pad_back_iff hb hgap).1 hfirst, ?_⟩
    exact (matches_word_iff w).2 (spans_pad_iff.1 hspan)
  · refine hback ⟨skipped, e.after, ?_⟩
    rw [List.append_assoc, ← hspan.1, hskipped]

/-- No character of a set follows the blanks. -/
def blanksThenNot (s : CharSet) : Pattern := blankRun.seq (.ahead false (.set s))

/-- The condition holds where the first character past the blanks is not of the set. -/
theorem matches_ahead_set_iff {s : CharSet} :
    (Pattern.ahead false (.set s)).Matches c d ↔
      c = d ∧ ∀ x, c.after.head? = some x → s.contains x = false := by
  simp [Matches, exists_takes_iff]

/-- That no character of a set follows the blanks is borne by texts whose first character past the
blanks is not of the set. -/
theorem exists_matches_blanksThenNot {s : CharSet} (hb : isBlank b = true)
    (hback : ∀ x, back.find? (fun x => !isBlank x) = some x → s.contains x = false)
    (hm : (blanksThenNot s).Matches c d) :
    ∃ e, (blanksThenNot s).Matches (c.pad [] (b :: back)) e := by
  obtain ⟨m, hrun, hnot⟩ := hm
  obtain ⟨u, hu, hblank⟩ := matches_blankRun_iff.1 hrun
  have hnext := (matches_ahead_set_iff.1 hnot).2
  cases hafter : m.after with
  | cons x rest =>
    -- The blanks end within the line, and so does what the condition looks at.
    refine ⟨_, m.pad [] (b :: back), matches_blankRun_iff.2 ⟨u, spans_pad_iff.2 hu, hblank⟩,
      matches_ahead_set_iff.2 ⟨rfl, fun y hy => hnext y ?_⟩⟩
    rw [pad_after, hafter] at hy
    rw [hafter]
    exact hy
  | nil =>
    -- The line ends with blanks, and the run goes on over those of the text.
    have hline : c.after = u := by rw [hu.1, hafter, List.append_nil]
    let past : Cursor :=
      ⟨(u ++ b :: back.takeWhile isBlank).reverse ++ c.before, back.dropWhile isBlank⟩
    refine ⟨_, past, matches_blankRun_iff.2 ⟨u ++ b :: back.takeWhile isBlank, ⟨?_, ?_⟩, ?_⟩,
      matches_ahead_set_iff.2 ⟨rfl, fun x hx => hback x ?_⟩⟩
    · simp [past, hline]
    · simp [past]
    · refine allBlank_append.2 ⟨hblank, List.forall_mem_cons.2 ⟨hb, fun x hx => ?_⟩⟩
      exact List.all_eq_true.1 List.all_takeWhile x hx
    · rw [List.find?_not_eq_head?_dropWhile]
      exact hx

end Pattern

end CodeScan
