import CodeScan.Pattern.Search

/-!
# What patterns mean

`Pattern.Matches p c d` says that the piece of a line between the places `c` and `d` matches `p`.
It is defined by recursion on the pattern and knows nothing about the order in which a matcher tries
its choices: an alternative is an "or", a sequence is a place in between, and a repeat is some
number of turns.

The main statement is `search_eq_true_iff`: searching a line finds a match exactly if two places of
the line have a matching piece between them.  It rests on `run_eq_true_iff`, which says the same of
a matcher at one place with any continuation.

## Shape of the argument

The one difficulty is the repeat.  The matcher does not follow a turn that took no character by
another, and it bounds the number of turns by the number of characters that are left.  Both are
harmless because a matching piece that takes no character ends where it began (`Matches.spans`), so
turns without progress can be dropped from any run of turns (`Turns.dropStalls`), and a run in which
every turn makes progress is no longer than the rest of the line (`Turns.count_le`).

A look-behind is read as "some piece that ends here matches".  The matcher only tries the one piece
of the right length, which is enough where all matching pieces have that length; this is what
`hasFixedLookBehind` ensures.
-/

namespace CodeScan

namespace Cursor

/-- The characters of `piece` stand between two places. -/
def Spans (piece : List Char) (c d : Cursor) : Prop :=
  c.after = piece ++ d.after ∧ d.before = piece.reverse ++ c.before

/-- One character that passes a test stands between two places. -/
def Takes (test : Char → Bool) (c d : Cursor) : Prop :=
  ∃ x, test x = true ∧ Spans [x] c d

/-- The place belongs to a line. -/
def IsIn (c : Cursor) (line : List Char) : Prop := c.before.reverse ++ c.after = line

/-- A line with a word boundary has a word character. -/
theorem hasText_of_atBoundary {c : Cursor} (h : c.atBoundary = true) : c.hasText = true := by
  obtain ⟨before, after⟩ := c
  cases before with
  | cons x before => rfl
  | nil =>
    cases after with
    | cons x after => rfl
    | nil => exact h

/-- The empty piece leads nowhere else. -/
theorem spans_nil_iff {c d : Cursor} : Spans [] c d ↔ c = d := by
  cases c; cases d
  simp only [Spans, List.nil_append, List.reverse_nil, Cursor.mk.injEq]
  exact ⟨fun h => ⟨h.2.symm, h.1⟩, fun h => ⟨h.2, h.1.symm⟩⟩

theorem Spans.append {u v : List Char} {c d e : Cursor} (h : Spans u c d) (k : Spans v d e) :
    Spans (u ++ v) c e := by
  refine ⟨?_, ?_⟩
  · rw [h.1, k.1, List.append_assoc]
  · rw [k.2, h.2, List.reverse_append, List.append_assoc]

theorem Spans.length_after {u : List Char} {c d : Cursor} (h : Spans u c d) :
    c.after.length = u.length + d.after.length := by
  rw [h.1, List.length_append]

/-- Going back over a piece leads to its start. -/
theorem back_eq_some_iff {n : Nat} {c b : Cursor} :
    back n c = some b ↔ ∃ piece, piece.length = n ∧ Spans piece b c := by
  induction n generalizing c with
  | zero =>
    simp only [back, Option.some.injEq]
    constructor
    · rintro rfl
      exact ⟨[], rfl, spans_nil_iff.2 rfl⟩
    · rintro ⟨piece, h, k⟩
      rw [List.length_eq_zero_iff] at h
      subst h
      exact (spans_nil_iff.1 k).symm
  | succ n ih =>
    obtain ⟨before, after⟩ := c
    cases before with
    | nil =>
      simp only [back, reduceCtorEq, false_iff]
      rintro ⟨piece, h, k⟩
      have := congrArg List.length k.2
      simp at this
      omega
    | cons x before =>
      rw [back, ih]
      constructor
      · rintro ⟨piece, rfl, h, k⟩
        refine ⟨piece ++ [x], by simp, ?_, ?_⟩
        · simpa using h
        · simp only at k
          simp [k]
      · rintro ⟨piece, h, k, l⟩
        have hne : piece ≠ [] := by
          rintro rfl
          simp at h
        obtain ⟨init, y, rfl⟩ : ∃ init y, piece = init ++ [y] :=
          ⟨piece.dropLast, piece.getLast hne, (List.dropLast_concat_getLast hne).symm⟩
        simp only [List.reverse_append, List.reverse_cons, List.reverse_nil, List.nil_append,
          List.cons_append, List.cons.injEq] at l
        obtain ⟨rfl, l⟩ := l
        exact ⟨init, by simpa using h, by simpa using k, l⟩

end Cursor

namespace Pattern

open Cursor

/-- A relation between places, followed a number of times. -/
def Turns (rel : Cursor → Cursor → Prop) : Nat → Cursor → Cursor → Prop
  | 0, c, d => c = d
  | n + 1, c, e => ∃ d, rel c d ∧ Turns rel n d e

/-- The piece between two places matches the pattern. -/
def Matches : Pattern → Cursor → Cursor → Prop
  | .empty, c, d => c = d
  | .char x, c, d => Takes (· == x) c d
  | .any, c, d => Takes (· != '\n') c d
  | .set s, c, d => Takes s.contains c d
  | .start, c, d => c = d ∧ c.before = []
  | .finish, c, d => c = d ∧ (c.after = [] ∨ c.after = ['\n'])
  | .veryEnd, c, d => c = d ∧ c.after = []
  | .boundary here, c, d => c = d ∧ c.hasText = true ∧ c.atBoundary = here
  | .seq p q, c, e => ∃ d, p.Matches c d ∧ q.Matches d e
  | .alt p q, c, d => p.Matches c d ∨ q.Matches c d
  | .repeated p least further, c, d =>
    ∃ n, least ≤ n ∧ (∀ k ∈ further, n ≤ least + k) ∧ Turns p.Matches n c d
  | .ahead wanted p, c, d => c = d ∧ ((∃ e, p.Matches c e) ↔ wanted = true)
  | .behind wanted p, c, d => c = d ∧ ((∃ b, p.Matches b c) ↔ wanted = true)

/-- Asking for a word boundary is asking for no more than that. -/
theorem matches_boundary_true_iff {c d : Cursor} :
    (boundary true).Matches c d ↔ c = d ∧ c.atBoundary = true :=
  and_congr_right fun _ => and_iff_right_of_imp hasText_of_atBoundary

/-! ## Pieces -/

/-- A piece no shorter than `bounds.1`, and no longer than `bounds.2` if there is a bound. -/
def SpansWithin (bounds : Nat × Option Nat) (c d : Cursor) : Prop :=
  ∃ piece, Spans piece c d ∧ bounds.1 ≤ piece.length ∧ ∀ most ∈ bounds.2, piece.length ≤ most

theorem spansWithin_zero_of_eq {c d : Cursor} (h : c = d) : SpansWithin (0, some 0) c d :=
  ⟨[], spans_nil_iff.2 h, by simp, by simp⟩

theorem spansWithin_one_of_takes {test : Char → Bool} {c d : Cursor} (h : Takes test c d) :
    SpansWithin (1, some 1) c d := by
  obtain ⟨x, _, k⟩ := h
  exact ⟨[x], k, by simp, by simp⟩

/-- The turns of a repeat take as many characters as its bounds allow. -/
theorem Turns.spansWithin {rel : Cursor → Cursor → Prop} {a : Nat} {b : Option Nat}
    (hrel : ∀ c d, rel c d → SpansWithin (a, b) c d) {n : Nat} {c d : Cursor}
    (h : Turns rel n c d) : SpansWithin (a * n, b.map (· * n)) c d := by
  induction n generalizing c with
  | zero => exact ⟨[], spans_nil_iff.2 h, by simp, by simp⟩
  | succ n ih =>
    obtain ⟨e, h, k⟩ := h
    obtain ⟨u, hu, hul, hug⟩ := hrel _ _ h
    obtain ⟨v, hv, hvl, hvg⟩ := ih k
    refine ⟨u ++ v, hu.append hv, ?_, ?_⟩
    · simp only [List.length_append, Nat.mul_succ] at *
      omega
    · intro most hmost
      cases b with
      | none => simp at hmost
      | some b =>
        simp only [Option.map_some, Option.mem_some, forall_eq'] at *
        subst hmost
        rw [List.length_append, Nat.mul_succ]
        omega

/-- A matching piece has a length between the bounds of the pattern. -/
theorem Matches.spans {p : Pattern} {c d : Cursor} (h : p.Matches c d) :
    SpansWithin p.width c d := by
  induction p generalizing c d with
  | empty => exact spansWithin_zero_of_eq h
  | char => exact spansWithin_one_of_takes h
  | any => exact spansWithin_one_of_takes h
  | set => exact spansWithin_one_of_takes h
  | start => exact spansWithin_zero_of_eq h.1
  | finish => exact spansWithin_zero_of_eq h.1
  | veryEnd => exact spansWithin_zero_of_eq h.1
  | boundary => exact spansWithin_zero_of_eq h.1
  | ahead => exact spansWithin_zero_of_eq h.1
  | behind => exact spansWithin_zero_of_eq h.1
  | seq p q ihp ihq =>
    obtain ⟨e, h, k⟩ := h
    obtain ⟨u, hu, hul, hug⟩ := ihp h
    obtain ⟨v, hv, hvl, hvg⟩ := ihq k
    refine ⟨u ++ v, hu.append hv, ?_, ?_⟩
    · simp only [width, List.length_append]
      omega
    · intro most hmost
      simp only [width] at hmost
      cases hp : p.width.2 with
      | none => simp [hp] at hmost
      | some m =>
        cases hq : q.width.2 with
        | none => simp [hp, hq] at hmost
        | some k =>
          simp [hp, hq] at hmost
          have := hug m (by simp [hp])
          have := hvg k (by simp [hq])
          rw [List.length_append]
          omega
  | alt p q ihp ihq =>
    have both : SpansWithin p.width c d ∨ SpansWithin q.width c d := h.imp ihp ihq
    have weaken {bounds : Nat × Option Nat} (hl : (alt p q).width.1 ≤ bounds.1)
        (hg : ∀ m ∈ (alt p q).width.2, ∃ k ∈ bounds.2, k ≤ m) (h : SpansWithin bounds c d) :
        SpansWithin (alt p q).width c d := by
      obtain ⟨u, hu, hul, hug⟩ := h
      refine ⟨u, hu, Nat.le_trans hl hul, fun m hm => ?_⟩
      obtain ⟨k, hk, hkm⟩ := hg m hm
      exact Nat.le_trans (hug k hk) hkm
    have greatest (m : Nat) (hm : m ∈ (alt p q).width.2) :
        ∃ j k, p.width.2 = some j ∧ q.width.2 = some k ∧ max j k = m := by
      simp only [width] at hm
      cases hp : p.width.2 with
      | none => simp [hp] at hm
      | some j =>
        cases hq : q.width.2 with
        | none => simp [hp, hq] at hm
        | some k => exact ⟨j, k, rfl, rfl, by simpa [hp, hq] using hm⟩
    rcases both with h | h
    · refine weaken (by simp only [width]; omega) (fun m hm => ?_) h
      obtain ⟨j, k, hj, _, rfl⟩ := greatest m hm
      exact ⟨j, hj, by omega⟩
    · refine weaken (by simp only [width]; omega) (fun m hm => ?_) h
      obtain ⟨j, k, _, hk, rfl⟩ := greatest m hm
      exact ⟨k, hk, by omega⟩
  | repeated p least further ih =>
    obtain ⟨n, hn, hk, h⟩ := h
    obtain ⟨u, hu, hul, hug⟩ := Turns.spansWithin (fun _ _ h => ih h) h
    refine ⟨u, hu, ?_, fun m hm => ?_⟩
    · exact Nat.le_trans (Nat.mul_le_mul_left _ hn) hul
    · simp only [width] at hm
      cases hb : p.width.2 with
      | none =>
        cases further with
        | none => simp [hb] at hm
        | some k =>
          have hnk := hk k rfl
          simp only [hb] at hm
          split at hm
          · have : n = 0 := by omega
            subst this
            have hcd : c = d := h
            have := hu.length_after
            rw [hcd] at this
            omega
          · simp at hm
      | some b =>
        have hun := hug (b * n) (by simp [hb])
        cases further with
        | none =>
          cases b with
          | zero => simp [hb] at hm; omega
          | succ b => simp [hb] at hm
        | some k =>
          have hnk := hk k rfl
          have : b * n ≤ b * (least + k) := Nat.mul_le_mul_left _ hnk
          cases b with
          | zero => simp [hb] at hm; omega
          | succ b => simp only [hb, Option.mem_some] at hm; omega

/-! ## Turns -/

/-- A relation, restricted to where it makes progress. -/
def Advances (rel : Cursor → Cursor → Prop) (c d : Cursor) : Prop :=
  rel c d ∧ d.after.length < c.after.length

theorem Turns.add {rel : Cursor → Cursor → Prop} {m n : Nat} {c d e : Cursor}
    (h : Turns rel m c d) (k : Turns rel n d e) : Turns rel (m + n) c e := by
  induction m generalizing c with
  | zero =>
    have : c = d := h
    subst this
    simpa using k
  | succ m ih =>
    obtain ⟨f, h, l⟩ := h
    rw [Nat.succ_add]
    exact ⟨f, h, ih l⟩

theorem Turns.split {rel : Cursor → Cursor → Prop} {m n : Nat} {c e : Cursor}
    (h : Turns rel (m + n) c e) : ∃ d, Turns rel m c d ∧ Turns rel n d e := by
  induction m generalizing c with
  | zero => exact ⟨c, rfl, by simpa using h⟩
  | succ m ih =>
    rw [Nat.succ_add] at h
    obtain ⟨f, h, l⟩ := h
    obtain ⟨d, k, l⟩ := ih l
    exact ⟨d, ⟨f, h, k⟩, l⟩

theorem Turns.of_advances {rel : Cursor → Cursor → Prop} {n : Nat} {c d : Cursor}
    (h : Turns (Advances rel) n c d) : Turns rel n c d := by
  induction n generalizing c with
  | zero => exact h
  | succ n ih =>
    obtain ⟨e, h, k⟩ := h
    exact ⟨e, h.1, ih k⟩

/-- Turns that make no progress can be left out. -/
theorem Turns.dropStalls {rel : Cursor → Cursor → Prop}
    (hrel : ∀ c d, rel c d → d.after.length < c.after.length ∨ c = d) {n : Nat} {c d : Cursor}
    (h : Turns rel n c d) : ∃ m, m ≤ n ∧ Turns (Advances rel) m c d := by
  induction n generalizing c with
  | zero => exact ⟨0, Nat.le_refl 0, h⟩
  | succ n ih =>
    obtain ⟨e, h, k⟩ := h
    obtain ⟨m, hm, k⟩ := ih k
    rcases hrel _ _ h with l | rfl
    · exact ⟨m + 1, by omega, e, ⟨h, l⟩, k⟩
    · exact ⟨m, by omega, k⟩

/-- Turns that make progress are no more than there are characters. -/
theorem Turns.count_le {rel : Cursor → Cursor → Prop} {n : Nat} {c d : Cursor}
    (h : Turns (Advances rel) n c d) : n ≤ c.after.length := by
  induction n generalizing c with
  | zero => omega
  | succ n ih =>
    obtain ⟨e, h, k⟩ := h
    have := ih k
    have := h.2
    omega

/-- A matching piece makes progress or ends where it began. -/
theorem Matches.advances_or_eq {p : Pattern} {c d : Cursor} (h : p.Matches c d) :
    d.after.length < c.after.length ∨ c = d := by
  obtain ⟨u, hu, _, _⟩ := h.spans
  cases u with
  | nil => exact .inr (spans_nil_iff.1 hu)
  | cons x u =>
    have := hu.length_after
    simp only [List.length_cons] at this
    exact .inl (by omega)

/-- A matching piece makes progress where the pattern takes at least one character. -/
theorem Matches.advances_of_width {p : Pattern} (hwidth : (p.width.1 == 0) = false) {c d : Cursor}
    (h : p.Matches c d) : d.after.length < c.after.length := by
  obtain ⟨u, hu, hul, _⟩ := h.spans
  have hlength := hu.length_after
  have hne : p.width.1 ≠ 0 := by simpa using hwidth
  omega

/-! ## The matcher -/

theorem exactly_eq_true_iff {body : Matcher} {rel : Cursor → Cursor → Prop}
    (hbody : ∀ next c, body next c = true ↔ ∃ d, rel c d ∧ next d = true) (n : Nat)
    (next : Cursor → Bool) (c : Cursor) :
    exactly body n next c = true ↔ ∃ d, Turns rel n c d ∧ next d = true := by
  induction n generalizing c with
  | zero => exact ⟨fun h => ⟨c, rfl, h⟩, fun ⟨d, h, k⟩ => by cases h; exact k⟩
  | succ n ih =>
    rw [exactly, hbody]
    constructor
    · rintro ⟨d, h, k⟩
      obtain ⟨e, l, k⟩ := (ih d).1 k
      exact ⟨e, ⟨d, h, l⟩, k⟩
    · rintro ⟨e, ⟨d, h, l⟩, k⟩
      exact ⟨d, h, (ih d).2 ⟨e, l, k⟩⟩

theorem turns_eq_true_iff {body : Matcher} {rel : Cursor → Cursor → Prop} {mayStall : Bool}
    (hbody : ∀ next c, body next c = true ↔ ∃ d, rel c d ∧ next d = true)
    (hstall : mayStall = false → ∀ c d, rel c d → d.after.length < c.after.length) (n : Nat)
    (next : Cursor → Bool) (c : Cursor) :
    turns body mayStall n next c = true ↔
      ∃ d, (∃ m, m ≤ n ∧ Turns (Advances rel) m c d) ∧ next d = true := by
  induction n generalizing c with
  | zero =>
    constructor
    · exact fun h => ⟨c, ⟨0, Nat.le_refl 0, rfl⟩, h⟩
    · rintro ⟨d, ⟨m, hm, h⟩, k⟩
      obtain rfl : m = 0 := by omega
      cases h
      exact k
  | succ n ih =>
    rw [turns, Bool.or_eq_true, hbody]
    constructor
    · rintro (⟨d, h, k⟩ | h)
      · rw [Bool.and_eq_true] at k
        obtain ⟨e, ⟨m, hm, l⟩, k'⟩ := (ih d).1 k.2
        have advance : d.after.length < c.after.length := by
          cases mayStall with
          | false => exact hstall rfl _ _ h
          | true => simpa using k.1
        exact ⟨e, ⟨m + 1, by omega, d, ⟨h, advance⟩, l⟩, k'⟩
      · exact ⟨c, ⟨0, Nat.zero_le _, rfl⟩, h⟩
    · rintro ⟨e, ⟨m, hm, h⟩, k⟩
      cases m with
      | zero =>
        cases h
        exact .inr k
      | succ m =>
        obtain ⟨d, h, l⟩ := h
        refine .inl ⟨d, h.1, ?_⟩
        rw [Bool.and_eq_true]
        exact ⟨by simp [h.2], (ih d).2 ⟨e, ⟨m, by omega, l⟩, k⟩⟩

theorem take_eq_true_iff {test : Char → Bool} {next : Cursor → Bool} {c : Cursor} :
    c.take test next = true ↔ ∃ d, Takes test c d ∧ next d = true := by
  obtain ⟨before, after⟩ := c
  cases after with
  | nil =>
    simp only [Cursor.take, Bool.false_eq_true, false_iff]
    rintro ⟨d, ⟨x, _, h, _⟩, _⟩
    simp at h
  | cons x after =>
    simp only [Cursor.take, Bool.and_eq_true]
    constructor
    · rintro ⟨h, k⟩
      exact ⟨⟨x :: before, after⟩, ⟨x, h, rfl, rfl⟩, k⟩
    · rintro ⟨⟨before', after'⟩, ⟨y, hy, h, h'⟩, k⟩
      simp only [List.cons_append, List.nil_append, List.cons.injEq] at h
      simp only [List.reverse_cons, List.reverse_nil, List.nil_append, List.cons_append] at h'
      obtain ⟨rfl, rfl⟩ := h
      subst h'
      exact ⟨hy, k⟩

/-- A condition on one place, as a match that ends there. -/
theorem condition_iff {here : Prop} {next : Cursor → Bool} {c : Cursor} :
    here ∧ next c = true ↔ ∃ d, (c = d ∧ here) ∧ next d = true := by
  constructor
  · exact fun h => ⟨c, ⟨rfl, h.1⟩, h.2⟩
  · rintro ⟨d, ⟨rfl, h⟩, k⟩
    exact ⟨h, k⟩

/-- Where all matching pieces have one length, a piece that ends here starts that far back. -/
theorem behind_iff {p : Pattern} (fixed : p.isFixedWidth = true)
    (hrun : ∀ next c, p.run next c = true ↔ ∃ d, p.Matches c d ∧ next d = true) (c : Cursor) :
    (c.back p.width.1).any (p.run fun _ => true) = true ↔ ∃ b, p.Matches b c := by
  have hwidth : p.width.2 = some p.width.1 := by
    rw [isFixedWidth, Bool.and_eq_true] at fixed
    simpa using fixed.1
  have length_eq {b d : Cursor} (h : p.Matches b d) :
      ∃ piece, piece.length = p.width.1 ∧ Spans piece b d := by
    obtain ⟨u, hu, hul, hug⟩ := h.spans
    have := hug p.width.1 (by simp [hwidth])
    exact ⟨u, by omega, hu⟩
  rw [Option.any_eq_true]
  constructor
  · rintro ⟨b, hb, h⟩
    obtain ⟨d, h, -⟩ := (hrun _ _).1 h
    obtain ⟨u, hu, hspan⟩ := back_eq_some_iff.1 hb
    obtain ⟨v, hv, hspan'⟩ := length_eq h
    -- Both pieces start at `b` and have the same length, so they end at the same place.
    have hsame := List.append_inj (hspan.1.symm.trans hspan'.1) (by omega)
    have : c = d := by
      obtain ⟨cb, ca⟩ := c
      obtain ⟨db, da⟩ := d
      have h₁ := hspan.2
      have h₂ := hspan'.2
      simp only at h₁ h₂ hsame
      rw [h₁, h₂, hsame.1, hsame.2]
    exact ⟨b, this ▸ h⟩
  · rintro ⟨b, h⟩
    exact ⟨b, back_eq_some_iff.2 (length_eq h), (hrun _ _).2 ⟨c, h, rfl⟩⟩

theorem beq_eq_true_iff_iff {b w : Bool} {q : Prop} (h : b = true ↔ q) :
    (b == w) = true ↔ (q ↔ w = true) := by
  rw [← h]
  cases b <;> cases w <;> simp

/-- A matcher accepts exactly if a matching piece starts at its place and ends where the
continuation accepts. -/
theorem run_eq_true_iff {p : Pattern} (fixed : p.hasFixedLookBehind = true)
    (next : Cursor → Bool) (c : Cursor) :
    p.run next c = true ↔ ∃ d, p.Matches c d ∧ next d = true := by
  induction p generalizing next c with
  | empty => exact ⟨fun h => ⟨c, rfl, h⟩, fun ⟨d, h, k⟩ => by cases h; exact k⟩
  | char => exact take_eq_true_iff
  | any => exact take_eq_true_iff
  | set => exact take_eq_true_iff
  | start =>
    rw [run, Bool.and_eq_true, List.isEmpty_iff]
    exact condition_iff
  | finish =>
    have : c.atFinish = true ↔ c.after = [] ∨ c.after = ['\n'] := by
      rw [Cursor.atFinish]
      split <;> simp_all
    rw [run, Bool.and_eq_true, this]
    exact condition_iff
  | veryEnd =>
    rw [run, Bool.and_eq_true, List.isEmpty_iff]
    exact condition_iff
  | boundary here =>
    rw [run, Bool.and_eq_true, Bool.and_eq_true, beq_iff_eq]
    exact condition_iff
  | seq p q ihp ihq =>
    rw [hasFixedLookBehind, Bool.and_eq_true] at fixed
    rw [run, ihp fixed.1]
    constructor
    · rintro ⟨d, h, k⟩
      obtain ⟨e, k, l⟩ := (ihq fixed.2 next d).1 k
      exact ⟨e, ⟨d, h, k⟩, l⟩
    · rintro ⟨e, ⟨d, h, k⟩, l⟩
      exact ⟨d, h, (ihq fixed.2 next d).2 ⟨e, k, l⟩⟩
  | alt p q ihp ihq =>
    rw [hasFixedLookBehind, Bool.and_eq_true] at fixed
    rw [run, Bool.or_eq_true, ihp fixed.1, ihq fixed.2]
    constructor
    · rintro (⟨d, h, k⟩ | ⟨d, h, k⟩)
      · exact ⟨d, .inl h, k⟩
      · exact ⟨d, .inr h, k⟩
    · rintro ⟨d, h | h, k⟩
      · exact .inl ⟨d, h, k⟩
      · exact .inr ⟨d, h, k⟩
  | repeated p least further ih =>
    rw [hasFixedLookBehind] at fixed
    have hbody := ih fixed
    have hstall : (p.width.1 == 0) = false → ∀ c d, p.Matches c d →
        d.after.length < c.after.length := fun hwidth _ _ => Matches.advances_of_width hwidth
    rw [run, exactly_eq_true_iff hbody]
    simp only [turns_eq_true_iff hbody hstall]
    constructor
    · rintro ⟨d, h, e, ⟨m, hm, k⟩, l⟩
      refine ⟨e, ⟨least + m, by omega, fun k hk => ?_, h.add k.of_advances⟩, l⟩
      have : further = some k := hk
      rw [this] at hm
      exact Nat.add_le_add_left hm least
    · rintro ⟨e, ⟨n, hn, hk, h⟩, l⟩
      obtain ⟨m, rfl⟩ := Nat.le.dest hn
      obtain ⟨d, h, k⟩ := h.split
      obtain ⟨j, hj, k⟩ := k.dropStalls fun _ _ h => h.advances_or_eq
      refine ⟨d, h, e, ⟨j, ?_, k⟩, l⟩
      cases further with
      | none => exact k.count_le
      | some b =>
        have := hk b rfl
        simp only [Option.getD_some]
        omega
  | ahead wanted p ih =>
    rw [hasFixedLookBehind] at fixed
    have : p.run (fun _ => true) c = true ↔ ∃ e, p.Matches c e := by simp [ih fixed]
    rw [run, Bool.and_eq_true, beq_eq_true_iff_iff this]
    exact condition_iff
  | behind wanted p ih =>
    rw [hasFixedLookBehind, Bool.and_eq_true] at fixed
    rw [run, Bool.and_eq_true, beq_eq_true_iff_iff (behind_iff fixed.1 (ih fixed.2) c)]
    exact condition_iff

theorem searchFrom_eq_true_iff {p : Pattern} (fixed : p.hasFixedLookBehind = true)
    (before after : List Char) :
    p.searchFrom before after = true ↔
      ∃ piece c, Spans piece ⟨before, after⟩ c ∧ ∃ d, p.Matches c d := by
  induction after generalizing before with
  | nil =>
    simp only [searchFrom, run_eq_true_iff fixed, and_true]
    constructor
    · exact fun ⟨d, h⟩ => ⟨[], _, spans_nil_iff.2 rfl, d, h⟩
    · rintro ⟨piece, c, hspan, d, h⟩
      have := hspan.1
      obtain ⟨rfl, -⟩ := List.append_eq_nil_iff.1 this.symm
      rw [spans_nil_iff] at hspan
      exact ⟨d, hspan ▸ h⟩
  | cons x after ih =>
    rw [searchFrom, Bool.or_eq_true, ih, run_eq_true_iff fixed]
    constructor
    · rintro (⟨d, h, -⟩ | ⟨piece, c, hspan, d, h⟩)
      · exact ⟨[], _, spans_nil_iff.2 rfl, d, h⟩
      · refine ⟨x :: piece, c, ⟨?_, ?_⟩, d, h⟩
        · simpa using hspan.1
        · simpa using hspan.2
    · rintro ⟨piece, c, hspan, d, h⟩
      cases piece with
      | nil =>
        rw [spans_nil_iff] at hspan
        exact .inl ⟨d, hspan ▸ h, rfl⟩
      | cons y piece =>
        have h₁ := hspan.1
        have h₂ := hspan.2
        simp only [List.cons_append, List.cons.injEq] at h₁
        obtain ⟨rfl, h₁⟩ := h₁
        exact .inr ⟨piece, c, ⟨h₁, by simpa using h₂⟩, d, h⟩

/-- A search succeeds exactly if there are two places of the line with a matching piece between
them. -/
theorem search_eq_true_iff {p : Pattern} (fixed : p.hasFixedLookBehind = true) (line : List Char) :
    p.search line = true ↔ ∃ c d, c.IsIn line ∧ p.Matches c d := by
  rw [search, searchFrom_eq_true_iff fixed]
  constructor
  · rintro ⟨piece, c, hspan, d, h⟩
    refine ⟨c, d, ?_, h⟩
    have h₁ : line = piece ++ c.after := hspan.1
    have h₂ : c.before = piece.reverse ++ [] := hspan.2
    rw [IsIn, h₂, h₁]
    simp
  · rintro ⟨c, d, hc, h⟩
    exact ⟨c.before.reverse, c, ⟨hc.symm, by simp⟩, d, h⟩

end Pattern

end CodeScan
