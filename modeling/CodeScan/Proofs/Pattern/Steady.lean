import CodeScan.Pattern.Meaning
import CodeScan.Proofs.Text.Blank

/-!
# Patterns between two places of a padded line

A place of a line is also a place of the line with blanks around it (`Cursor.pad`).  A pattern is
*steady* if the same pieces match on both sides.  Anchors are not steady; everything else is, with
one condition on look-around: what it looks at has to start or end with a character that is not
blank, since otherwise it could reach into the padding.  The check for that is `solidEdge`, for
either edge.

The main statement is `matches_pad_iff`.  It rests on `matches_pad_iff_of_looksWithin`, which holds
for any padding that the look-around of the pattern stays out of and is proved along the pattern.
The places in between, in a sequence or in a repeat, lie between two places of the line proper and
so are such places themselves.
-/

namespace CodeScan

/-- Only blank characters. -/
def AllBlank (xs : List Char) : Prop := ∀ x ∈ xs, isBlank x = true

theorem allBlank_append {xs ys : List Char} : AllBlank (xs ++ ys) ↔ AllBlank xs ∧ AllBlank ys :=
  List.forall_mem_append

/-- Whether a text is blank does not depend on its direction. -/
theorem allBlank_reverse {xs : List Char} : AllBlank xs.reverse ↔ AllBlank xs := by
  simp only [AllBlank, List.mem_reverse]

/-- What may follow the end of a line is blank. -/
theorem allBlank_of_nil_or_newline {xs : List Char} (h : xs = [] ∨ xs = ['\n']) : AllBlank xs := by
  rcases h with rfl | rfl
  · exact fun x hx => by simp at hx
  · intro x hx
    rw [List.mem_singleton.1 hx]
    decide

namespace Cursor

/-- The place as it is in the line with `front` before it and `back` behind it. -/
def pad (front back : List Char) (c : Cursor) : Cursor :=
  ⟨c.before ++ front.reverse, c.after ++ back⟩

variable {front back : List Char} {c d e : Cursor} {piece : List Char}

@[simp] theorem pad_before : (c.pad front back).before = c.before ++ front.reverse := rfl

@[simp] theorem pad_after : (c.pad front back).after = c.after ++ back := rfl

/-- A cursor is what stands before it and what stands after it. -/
theorem ext {c d : Cursor} (hbefore : c.before = d.before) (hafter : c.after = d.after) :
    c = d := by
  obtain ⟨cb, ca⟩ := c
  obtain ⟨db, da⟩ := d
  rw [Cursor.mk.injEq]
  exact ⟨hbefore, hafter⟩

/-- Two cursors have one piece of text between them. -/
theorem Spans.piece_unique {u v : List Char} (hu : Spans u c d) (hv : Spans v c d) : u = v :=
  List.append_cancel_right (hu.1.symm.trans hv.1)

/-- The same pieces stand between the same places of the padded line. -/
@[simp] theorem spans_pad_iff :
    Spans piece (c.pad front back) (d.pad front back) ↔ Spans piece c d := by
  simp only [Spans, pad_before, pad_after, ← List.append_assoc, List.append_left_inj]

/-- Padding keeps different cursors apart. -/
@[simp] theorem pad_inj : c.pad front back = d.pad front back ↔ c = d := by
  rw [← spans_nil_iff, spans_pad_iff, spans_nil_iff]

/-- A step over one character does not see the padding. -/
@[simp] theorem takes_pad_iff {test : Char → Bool} :
    Takes test (c.pad front back) (d.pad front back) ↔ Takes test c d := by
  simp only [Takes, spans_pad_iff]

/-- A step can be taken if there is a next character that passes the test. -/
theorem exists_takes_iff {test : Char → Bool} :
    (∃ e, Takes test c e) ↔ ∃ x, c.after.head? = some x ∧ test x = true := by
  constructor
  · rintro ⟨e, x, hx, hone⟩
    exact ⟨x, by simp [hone.1], hx⟩
  · rintro ⟨x, hhead, hx⟩
    obtain ⟨rest, hafter⟩ := List.head?_eq_some_iff.1 hhead
    exact ⟨⟨x :: c.before, rest⟩, x, hx, hafter, rfl⟩

/-- A cursor in a line is one in the padded line. -/
theorem isIn_pad {line : List Char} (h : c.IsIn line) :
    (c.pad front back).IsIn (front ++ line ++ back) := by
  rw [IsIn] at h ⊢
  simp [← h]

/-- Between two places of the line proper there is nothing else. -/
theorem exists_pad_of_between {u v : List Char} (hu : Spans u (c.pad front back) e)
    (hv : Spans v e (d.pad front back)) : ∃ x : Cursor, e = x.pad front back := by
  refine ⟨⟨u.reverse ++ c.before, v ++ d.after⟩, ext ?_ ?_⟩
  · rw [hu.2]
    simp
  · rw [hv.1]
    simp

/-- Blanks beside the line make no word boundary and hide none. -/
theorem atBoundary_pad (hfront : AllBlank front) (hback : AllBlank back) :
    (c.pad front back).atBoundary = c.atBoundary := by
  have hany {xs : List Char} (hxs : AllBlank xs) : xs.head?.any isWord = false := by
    cases xs with
    | nil => rfl
    | cons x xs => exact isWord_of_isBlank (hxs x List.mem_cons_self)
  have happend (ys : List Char) {xs : List Char} (hxs : AllBlank xs) :
      (ys ++ xs).head?.any isWord = ys.head?.any isWord := by
    cases ys with
    | nil => exact hany hxs
    | cons y ys => rfl
  rw [atBoundary, pad_before, pad_after, happend _ (allBlank_reverse.2 hfront), happend _ hback,
    ← atBoundary]

end Cursor

/-! ## Solid edges -/

/-- The first character of the piece (`front`), or the last one, is not blank. -/
def SolidEdge (front : Bool) (piece : List Char) : Prop :=
  ∀ x, (if front then piece.head? else piece.getLast?) = some x → isBlank x = false

theorem solidEdge_nil {front : Bool} : SolidEdge front [] := by
  intro x hx
  cases front <;> simp at hx

theorem solidEdge_singleton {front : Bool} {x : Char} (h : isBlank x = false) :
    SolidEdge front [x] := by
  intro y hy
  cases front <;> simp_all

/-- Pieces with solid edges make a piece with solid edges. -/
theorem SolidEdge.append {front : Bool} {u v : List Char} (hu : SolidEdge front u)
    (hv : SolidEdge front v) : SolidEdge front (u ++ v) := by
  intro x hx
  cases front with
  | true =>
    cases u with
    | nil => exact hv x hx
    | cons y u => exact hu x hx
  | false =>
    rcases List.eq_nil_or_concat v with rfl | ⟨init, last, rfl⟩
    · exact hu x (by simpa using hx)
    · exact hv x (by simpa using hx)

/-- The front edge of a piece stays what it is when something follows. -/
theorem SolidEdge.append_right {u : List Char} (hu : SolidEdge true u) (hne : u ≠ [])
    (v : List Char) : SolidEdge true (u ++ v) := by
  obtain ⟨y, u, rfl⟩ := List.exists_cons_of_ne_nil hne
  exact hu

/-- The back edge of a piece stays what it is when something comes before. -/
theorem SolidEdge.append_left {v : List Char} (hv : SolidEdge false v) (hne : v ≠ [])
    (u : List Char) : SolidEdge false (u ++ v) := by
  rcases List.eq_nil_or_concat v with rfl | ⟨init, last, rfl⟩
  · exact absurd rfl hne
  · intro x hx
    exact hv x (by simpa using hx)

namespace Cursor

variable {front back : List Char} {c d e : Cursor} {piece : List Char}

/-- A piece that starts in the line proper and ends solid ends in the line proper. -/
theorem exists_pad_of_solid_end (hback : AllBlank back) (h : Spans piece (c.pad front back) e)
    (hsolid : SolidEdge false piece) : ∃ x : Cursor, e = x.pad front back := by
  have hbefore : e.before = piece.reverse ++ c.before ++ front.reverse := by
    rw [h.2]
    simp
  rcases List.append_eq_append_iff.1 h.1 with ⟨extra, hpiece, hrest⟩ | ⟨rest, hrest, hafter⟩
  · -- If the piece went beyond the line, it would end with a character of the padding.
    rcases List.eq_nil_or_concat extra with rfl | ⟨init, last, rfl⟩
    · exact ⟨⟨piece.reverse ++ c.before, []⟩, ext hbefore (by simpa using hrest.symm)⟩
    · have hblank : isBlank last = true := hback last (by simp [hrest])
      have := hsolid last (by simp [hpiece])
      simp [hblank] at this
  · exact ⟨⟨piece.reverse ++ c.before, rest⟩, ext hbefore hafter⟩

/-- A piece that ends in the line proper and starts solid starts in the line proper. -/
theorem exists_pad_of_solid_start (hfront : AllBlank front) (h : Spans piece e (d.pad front back))
    (hsolid : SolidEdge true piece) : ∃ x : Cursor, e = x.pad front back := by
  have hafter : e.after = piece ++ d.after ++ back := by
    rw [h.1]
    simp
  rcases List.append_eq_append_iff.1 h.2 with ⟨extra, hpiece, hrest⟩ | ⟨rest, hrest, hbefore⟩
  · rcases List.eq_nil_or_concat extra with rfl | ⟨init, last, rfl⟩
    · exact ⟨⟨[], piece ++ d.after⟩, ext (by simpa using hrest.symm) hafter⟩
    · have hblank : isBlank last = true := by
        have : last ∈ front.reverse := by simp [hrest]
        exact hfront last (List.mem_reverse.1 this)
      have hhead : piece.head? = some last := by
        rw [← List.getLast?_reverse, hpiece]
        simp
      have := hsolid last hhead
      simp [hblank] at this
  · exact ⟨⟨rest, piece ++ d.after⟩, ext hbefore hafter⟩

/-- A place of the padded line that is followed by a solid character is one of the line proper. -/
theorem exists_pad_of_isIn {line : List Char} (hfront : AllBlank front) (hback : AllBlank back)
    (h : e.IsIn (front ++ line ++ back)) {x : Char} (hhead : e.after.head? = some x)
    (hx : isBlank x = false) : ∃ c : Cursor, e = c.pad front back ∧ c.IsIn line := by
  rw [IsIn, List.append_assoc] at h
  have hsolid {xs ys : List Char} (hxs : AllBlank xs) (heq : e.after = xs ++ ys) : xs = [] := by
    cases xs with
    | nil => rfl
    | cons y xs =>
      have hy := hxs y List.mem_cons_self
      rw [heq, List.cons_append, List.head?_cons, Option.some.injEq] at hhead
      simp [hhead, hx] at hy
  -- The place lies in front of the line, in it or behind it.
  rcases List.append_eq_append_iff.1 h with ⟨extra, hextra, hafter⟩ | ⟨start, hbefore, hrest⟩
  · -- The place is in front of the line: nothing of `front` can be left.
    obtain rfl := hsolid (fun y hy => hfront y (by simp [hextra, hy])) hafter
    refine ⟨⟨[], line⟩, ext ?_ hafter, by simp [IsIn]⟩
    rw [List.append_nil] at hextra
    simp [hextra]
  · rcases List.append_eq_append_iff.1 hrest with ⟨extra, hstart, hextra⟩ | ⟨rest, hline, hafter⟩
    · -- The place is behind the line: what follows would be part of `back`.
      have hblank : AllBlank e.after := fun y hy => hback y (by simp [hextra, hy])
      have hnil := hsolid hblank (List.append_nil e.after).symm
      simp [hnil] at hhead
    · refine ⟨⟨start.reverse, rest⟩, ext ?_ hafter, by simp [IsIn, hline]⟩
      rw [← List.reverse_reverse e.before, hbefore]
      simp

end Cursor

/-- No blank character belongs to the set. -/
def CharSet.isSolid (s : CharSet) : Bool := blanks.all fun n => !s.contains (Char.ofNat n)

/-- A solid set holds no blank. -/
theorem CharSet.isBlank_of_contains {s : CharSet} (h : s.isSolid = true) {x : Char}
    (hx : s.contains x = true) : isBlank x = false := by
  rw [Bool.eq_false_iff]
  intro hblank
  have := forall_isBlank (fun c => !s.contains c) h hblank
  simp [hx] at this

namespace Pattern

open Cursor

/-- Every matching piece that is not empty starts (`front`) or ends with a character that is not
blank. -/
def solidEdge (front : Bool) : Pattern → Bool
  | .empty | .start | .finish | .veryEnd | .boundary _ | .ahead .. | .behind .. => true
  | .char x => !isBlank x
  | .any => false
  | .set s => s.isSolid
  | .seq p q =>
    if front then p.solidEdge front && (0 < p.width.1 || q.solidEdge front)
    else q.solidEdge front && (0 < q.width.1 || p.solidEdge front)
  | .alt p q => p.solidEdge front && q.solidEdge front
  | .repeated p _ _ => p.solidEdge front

variable {p q : Pattern} {c d e : Cursor} {piece front back : List Char}

/-- A pattern of positive width matches no empty piece. -/
theorem Matches.piece_ne_nil (h : p.Matches c d) (hwidth : 0 < p.width.1)
    (hspan : Spans piece c d) : piece ≠ [] := by
  obtain ⟨u, hu, hul, -⟩ := h.spans
  rw [hspan.piece_unique hu, ← List.length_pos_iff]
  omega

/-- A step over characters that are not blank has solid edges. -/
theorem solidEdge_of_takes {side : Bool} {test : Char → Bool}
    (htest : ∀ x, test x = true → isBlank x = false) (h : Takes test c d)
    (hspan : Spans piece c d) : SolidEdge side piece := by
  obtain ⟨x, hx, hone⟩ := h
  rw [hspan.piece_unique hone]
  exact solidEdge_singleton (htest x hx)

/-- A match of nothing has solid edges. -/
theorem solidEdge_of_eq {side : Bool} (h : c = d) (hspan : Spans piece c d) :
    SolidEdge side piece := by
  rw [hspan.piece_unique (spans_nil_iff.2 h)]
  exact solidEdge_nil

/-- Every match goes over some piece of text. -/
theorem Matches.exists_spans (h : p.Matches c d) : ∃ u, Spans u c d := by
  obtain ⟨u, hu, -⟩ := h.spans
  exact ⟨u, hu⟩

/-- Every number of turns goes over some piece of text. -/
theorem Turns.exists_spans {n : Nat} (h : Turns p.Matches n c d) : ∃ u, Spans u c d := by
  obtain ⟨u, hu, -⟩ := h.spansWithin fun _ _ hm => hm.spans
  exact ⟨u, hu⟩

/-- Turns of a body with solid edges have solid edges. -/
theorem Turns.solidEdge {side : Bool}
    (hbody : ∀ c d u, p.Matches c d → Spans u c d → SolidEdge side u) {n : Nat}
    (h : Turns p.Matches n c d) (hspan : Spans piece c d) : SolidEdge side piece := by
  induction n generalizing c piece with
  | zero => exact solidEdge_of_eq h hspan
  | succ n ih =>
    obtain ⟨e, hfirst, hrest⟩ := h
    obtain ⟨u, hu⟩ := hfirst.exists_spans
    obtain ⟨v, hv⟩ := hrest.exists_spans
    rw [hspan.piece_unique (hu.append hv)]
    exact (hbody _ _ _ hfirst hu).append (ih hrest hv)

/-- The check finds solid edges. -/
theorem Matches.solidEdge {side : Bool} (h : p.Matches c d) (hp : p.solidEdge side = true)
    (hspan : Spans piece c d) : SolidEdge side piece := by
  induction p generalizing c d piece with
  | empty => exact solidEdge_of_eq h hspan
  | start | finish | veryEnd | boundary | ahead | behind => exact solidEdge_of_eq h.1 hspan
  | char x =>
    refine solidEdge_of_takes (fun y hy => ?_) h hspan
    simp only [beq_iff_eq] at hy
    simpa [Pattern.solidEdge, hy] using hp
  | any => simp [Pattern.solidEdge] at hp
  | set s => exact solidEdge_of_takes (fun _ => CharSet.isBlank_of_contains hp) h hspan
  | seq p q ihp ihq =>
    obtain ⟨e, hfirst, hsecond⟩ := h
    obtain ⟨u, hu⟩ := hfirst.exists_spans
    obtain ⟨v, hv⟩ := hsecond.exists_spans
    rw [hspan.piece_unique (hu.append hv)]
    -- The part at the edge is solid; if it may be empty, the other one is solid as well.
    cases side with
    | true =>
      simp only [Pattern.solidEdge, if_true, Bool.and_eq_true, Bool.or_eq_true,
        decide_eq_true_eq] at hp
      rcases hp.2 with hwidth | hq
      · exact (ihp hfirst hp.1 hu).append_right (hfirst.piece_ne_nil hwidth hu) v
      · exact (ihp hfirst hp.1 hu).append (ihq hsecond hq hv)
    | false =>
      simp only [Pattern.solidEdge, Bool.false_eq_true, if_false, Bool.and_eq_true,
        Bool.or_eq_true, decide_eq_true_eq] at hp
      rcases hp.2 with hwidth | hq
      · exact (ihq hsecond hp.1 hv).append_left (hsecond.piece_ne_nil hwidth hv) u
      · exact (ihp hfirst hq hu).append (ihq hsecond hp.1 hv)
  | alt p q ihp ihq =>
    rw [Pattern.solidEdge, Bool.and_eq_true] at hp
    rcases h with h | h
    · exact ihp h hp.1 hspan
    · exact ihq h hp.2 hspan
  | repeated p least further ih =>
    obtain ⟨n, -, -, h⟩ := h
    exact h.solidEdge (fun _ _ _ hm hu => ih hm hp hu) hspan

/-! ## Looking within the line -/

/-- What the pattern looks at in the padded line is in the line proper: an anchor has no padding on
its side, and what is matched by look-around ends (or starts) in the line proper. -/
def LooksWithin (front back : List Char) : Pattern → Prop
  | .empty | .char _ | .any | .set _ => True
  | .boundary here => here = true
  | .start => front = []
  | .finish | .veryEnd => back = []
  | .seq p q | .alt p q => p.LooksWithin front back ∧ q.LooksWithin front back
  | .repeated p _ _ => p.LooksWithin front back
  | .ahead _ p => p.LooksWithin front back ∧ ∀ (c e : Cursor),
    p.Matches (c.pad front back) e → ∃ x : Cursor, e = x.pad front back
  | .behind _ p => p.LooksWithin front back ∧ ∀ (c b : Cursor),
    p.Matches b (c.pad front back) → ∃ x : Cursor, b = x.pad front back

/-- A repeat of a body that looks within the line does so too. -/
theorem turns_pad_iff
    (hbody : ∀ c d, p.Matches (c.pad front back) (d.pad front back) ↔ p.Matches c d) {n : Nat} :
    Turns p.Matches n (c.pad front back) (d.pad front back) ↔ Turns p.Matches n c d := by
  induction n generalizing c with
  | zero => exact pad_inj
  | succ n ih =>
    constructor
    · rintro ⟨e, hfirst, hrest⟩
      obtain ⟨u, hu⟩ := hfirst.exists_spans
      obtain ⟨v, hv⟩ := hrest.exists_spans
      obtain ⟨x, rfl⟩ := exists_pad_of_between hu hv
      exact ⟨x, (hbody c x).1 hfirst, ih.1 hrest⟩
    · rintro ⟨e, hfirst, hrest⟩
      exact ⟨e.pad front back, (hbody c e).2 hfirst, ih.2 hrest⟩

/-- Where matches end in the line proper, being found at a place does not depend on the padding. -/
theorem exists_matches_pad_iff_of_within
    (hends : ∀ e, p.Matches (c.pad front back) e → ∃ x : Cursor, e = x.pad front back)
    (hbody : ∀ d, p.Matches (c.pad front back) (d.pad front back) ↔ p.Matches c d) :
    (∃ e, p.Matches (c.pad front back) e) ↔ ∃ e, p.Matches c e := by
  constructor
  · rintro ⟨e, hm⟩
    obtain ⟨x, rfl⟩ := hends e hm
    exact ⟨x, (hbody x).1 hm⟩
  · exact fun ⟨e, hm⟩ => ⟨e.pad front back, (hbody e).2 hm⟩

/-- A pattern that looks within the line matches between two places of the line exactly if it
matches between them in the padded line.  The padding must not make or hide a word boundary. -/
theorem matches_pad_iff_of_looksWithin
    (hboundary : ∀ c : Cursor, (c.pad front back).atBoundary = c.atBoundary)
    (h : p.LooksWithin front back) :
    p.Matches (c.pad front back) (d.pad front back) ↔ p.Matches c d := by
  induction p generalizing c d with
  | empty => exact pad_inj
  | char | any | set => exact takes_pad_iff
  | start =>
    have hfront : front = [] := h
    simp only [Matches, pad_inj, pad_before, hfront, List.reverse_nil, List.append_nil]
  | finish =>
    have hback : back = [] := h
    simp only [Matches, pad_inj, pad_after, hback, List.append_nil]
  | veryEnd =>
    have hback : back = [] := h
    simp only [Matches, pad_inj, pad_after, hback, List.append_nil]
  | boundary here =>
    obtain rfl : here = true := h
    simp only [matches_boundary_true_iff, pad_inj, hboundary]
  | seq p q ihp ihq =>
    constructor
    · rintro ⟨e, hfirst, hsecond⟩
      obtain ⟨u, hu⟩ := hfirst.exists_spans
      obtain ⟨v, hv⟩ := hsecond.exists_spans
      -- The place between two places of the line proper is one itself.
      obtain ⟨x, rfl⟩ := exists_pad_of_between hu hv
      exact ⟨x, (ihp h.1).1 hfirst, (ihq h.2).1 hsecond⟩
    · rintro ⟨e, hfirst, hsecond⟩
      exact ⟨e.pad front back, (ihp h.1).2 hfirst, (ihq h.2).2 hsecond⟩
  | alt p q ihp ihq => exact or_congr (ihp h.1) (ihq h.2)
  | repeated p least further ih => simp only [Matches, turns_pad_iff fun _ _ => ih h]
  | ahead wanted p ih =>
    simp only [Matches, pad_inj, exists_matches_pad_iff_of_within (h.2 c) fun _ => ih h.1]
  | behind wanted p ih =>
    have hfound : (∃ b, p.Matches b (c.pad front back)) ↔ ∃ b, p.Matches b c := by
      constructor
      · rintro ⟨b, hm⟩
        obtain ⟨x, rfl⟩ := h.2 c b hm
        exact ⟨x, (ih h.1).1 hm⟩
      · exact fun ⟨b, hm⟩ => ⟨b.pad front back, (ih h.1).2 hm⟩
    simp only [Matches, pad_inj, hfound]

/-! ## Steady patterns -/

/-- The pattern matches the same pieces of a line and of the line with blanks around it. -/
def isSteady : Pattern → Bool
  | .empty | .char _ | .any | .set _ => true
  | .boundary here => here
  | .start | .finish | .veryEnd => false
  | .seq p q | .alt p q => p.isSteady && q.isSteady
  | .repeated p _ _ => p.isSteady
  | .ahead _ p => p.isSteady && p.solidEdge false
  | .behind _ p => p.isSteady && p.solidEdge true

/-- Where matching pieces end solid, being found at a place does not depend on the padding. -/
theorem exists_matches_pad_iff (hback : AllBlank back) (hsolid : p.solidEdge false = true)
    (hbody : ∀ d, p.Matches (c.pad front back) (d.pad front back) ↔ p.Matches c d) :
    (∃ e, p.Matches (c.pad front back) e) ↔ ∃ e, p.Matches c e := by
  refine exists_matches_pad_iff_of_within (fun e hm => ?_) hbody
  obtain ⟨u, hu⟩ := hm.exists_spans
  exact exists_pad_of_solid_end hback hu (hm.solidEdge hsolid hu)

/-- Solid edges keep look-around out of blank padding. -/
theorem looksWithin_of_isSteady (hfront : AllBlank front) (hback : AllBlank back)
    (h : p.isSteady = true) : p.LooksWithin front back := by
  induction p with
  | empty | char | any | set => trivial
  | boundary here => exact h
  | start | finish | veryEnd => simp [isSteady] at h
  | seq p q ihp ihq =>
    rw [isSteady, Bool.and_eq_true] at h
    exact ⟨ihp h.1, ihq h.2⟩
  | alt p q ihp ihq =>
    rw [isSteady, Bool.and_eq_true] at h
    exact ⟨ihp h.1, ihq h.2⟩
  | repeated p least further ih => exact ih h
  | ahead wanted p ih =>
    rw [isSteady, Bool.and_eq_true] at h
    refine ⟨ih h.1, fun c e hm => ?_⟩
    obtain ⟨u, hu⟩ := hm.exists_spans
    -- What is looked at ends with a character that is not blank, so not in the padding.
    exact exists_pad_of_solid_end hback hu (hm.solidEdge h.2 hu)
  | behind wanted p ih =>
    rw [isSteady, Bool.and_eq_true] at h
    refine ⟨ih h.1, fun c b hm => ?_⟩
    obtain ⟨u, hu⟩ := hm.exists_spans
    exact exists_pad_of_solid_start hfront hu (hm.solidEdge h.2 hu)

/-- A steady pattern matches between two places of the line exactly if it matches between them in
the padded line. -/
theorem matches_pad_iff (hfront : AllBlank front) (hback : AllBlank back)
    (h : p.isSteady = true) :
    p.Matches (c.pad front back) (d.pad front back) ↔ p.Matches c d :=
  matches_pad_iff_of_looksWithin (fun _ => atBoundary_pad hfront hback)
    (looksWithin_of_isSteady hfront hback h)

end Pattern

end CodeScan
