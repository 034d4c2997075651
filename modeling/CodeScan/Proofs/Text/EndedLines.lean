import CodeScan.Proofs.Text.Lines
import Mathlib.Data.List.Forall2

/-!
# A text is known by its lines and their endings

Splitting loses two things of a text: the line feeds, and one carriage return before each of them.
Nothing else is lost.  A text is put together again from its lines if each gets back the carriage
return that was dropped from it and each is ended; only the line feed of the last line may have to
be left out again.  The other way round, lines that are ended and put together are split into
themselves.  Both directions, and the number of lines, are in `splitLines_restores`.

## Shape of the argument

`endLines` puts pieces of text together, each with a line feed behind it.  A text that is empty or
ends with a line feed is of this form (`exists_eq_endLines`), and its pieces are what it is split
into (`splitLines_endLines`).  Any other text takes a line feed at its end without its lines
changing (`splitLines_concat_newline`), so nothing has to be proved of it.
-/

namespace CodeScan

namespace Text

/-- A piece of text without a line feed and the line that it becomes: one carriage return at the end
is dropped, and all others are kept. -/
inductive DropsReturn : List Char → List Char → Prop where
  | dropped (line : List Char) : DropsReturn (line ++ ['\r']) line
  | kept {line : List Char} (h : line.getLast? ≠ some '\r') : DropsReturn line line

/-- A line loses one return at most. -/
theorem dropsReturn_dropReturn (piece : List Char) : DropsReturn piece (dropReturn piece) := by
  by_cases h : piece.getLast? = some '\r'
  · obtain ⟨line, rfl⟩ := List.getLast?_eq_some_iff.1 h
    rw [dropReturn, if_pos h, List.dropLast_concat]
    exact .dropped line
  · rw [dropReturn, if_neg h]
    exact .kept h

theorem forall₂_dropsReturn (pieces : List (List Char)) :
    List.Forall₂ DropsReturn pieces (pieces.map dropReturn) := by
  apply List.forall₂_map_right_iff.2
  apply List.forall₂_same.2
  intro piece _
  exact dropsReturn_dropReturn piece

/-- The pieces one after the other, each with a line feed behind it. -/
def endLines (pieces : List (List Char)) : List Char := pieces.flatMap (· ++ ['\n'])

@[simp] theorem endLines_nil : endLines [] = [] := rfl

theorem endLines_cons (piece : List Char) (pieces : List (List Char)) :
    endLines (piece :: pieces) = piece ++ '\n' :: endLines pieces := by
  rw [endLines, List.flatMap_cons, List.append_assoc]
  rfl

/-- Lines that are ended and put together are split into themselves, without the carriage returns
at their ends. -/
theorem splitLines_endLines {pieces : List (List Char)} (h : ∀ piece ∈ pieces, '\n' ∉ piece) :
    splitLines (endLines pieces) = pieces.map dropReturn := by
  induction pieces with
  | nil => rfl
  | cons piece pieces ih =>
    rw [List.forall_mem_cons] at h
    rw [endLines_cons, splitLines_line_cons h.1, ih h.2, List.map_cons]

/-- There are as many line feeds as ended lines. -/
theorem count_endLines {pieces : List (List Char)} (h : ∀ piece ∈ pieces, '\n' ∉ piece) :
    (endLines pieces).count '\n' = pieces.length := by
  induction pieces with
  | nil => rfl
  | cons piece pieces ih =>
    rw [List.forall_mem_cons] at h
    rw [endLines_cons, List.count_append, List.count_eq_zero_of_not_mem h.1, List.count_cons_self,
      ih h.2, List.length_cons, Nat.zero_add]

/-- Whether every line of a text is ended. -/
def IsEnded (code : List Char) : Prop := code = [] ∨ code.getLast? = some '\n'

theorem isEnded_concat (code : List Char) : IsEnded (code ++ ['\n']) := .inr List.getLast?_concat

/-- A text whose lines are all ended is put together from them. -/
theorem exists_eq_endLines {code : List Char} (h : IsEnded code) :
    ∃ pieces, (∀ piece ∈ pieces, '\n' ∉ piece) ∧ code = endLines pieces := by
  induction code using byLines with
  | last line hline =>
    -- Without a line feed it cannot be ended, so there is nothing left.
    obtain rfl : line = [] := by
      apply h.resolve_right
      intro hlast
      exact hline (List.mem_of_getLast? hlast)
    exact ⟨[], by simp, rfl⟩
  | line line rest hline ih =>
    have hrest : IsEnded rest := by
      have hlast := h.resolve_left (by simp)
      cases rest with
      | nil => exact .inl rfl
      | cons c more => exact .inr (by simpa [List.getLast?_append] using hlast)
    obtain ⟨pieces, hpieces, rfl⟩ := ih hrest
    exact ⟨line :: pieces, List.forall_mem_cons.2 ⟨hline, hpieces⟩,
      (endLines_cons line pieces).symm⟩

/-- The lines of a text whose lines are all ended: what it was put together from, without carriage
returns at the ends, and one for each line feed. -/
theorem restores_of_isEnded {code : List Char} (h : IsEnded code) :
    (splitLines code).length = code.count '\n' ∧
      ∃ pieces, List.Forall₂ DropsReturn pieces (splitLines code) ∧ code = endLines pieces := by
  obtain ⟨pieces, hpieces, rfl⟩ := exists_eq_endLines h
  rw [splitLines_endLines hpieces]
  constructor
  · rw [List.length_map, count_endLines hpieces]
  · exact ⟨pieces, forall₂_dropsReturn pieces, rfl⟩

/-- The same for a text whose last line is not ended: a line feed has to be taken off again. -/
theorem restores_of_not_isEnded {code : List Char} (h : ¬ IsEnded code) :
    (splitLines code).length = code.count '\n' + 1 ∧
      ∃ pieces, List.Forall₂ DropsReturn pieces (splitLines code) ∧
        code = (endLines pieces).dropLast := by
  obtain ⟨hne, hlast⟩ := not_or.1 h
  obtain ⟨hlength, pieces, hpieces, hcode⟩ := restores_of_isEnded (isEnded_concat code)
  rw [splitLines_concat_newline hne hlast] at hlength hpieces
  constructor
  · rw [hlength, List.count_append, List.count_singleton_self]
  · exact ⟨pieces, hpieces, by rw [← hcode, List.dropLast_concat]⟩

/-- Lines hold no line feed; there is one for each line feed of the text and one more for an unended
last line; the text is put together from them again by giving back what was dropped; and what is put
together from lines is split into these lines. -/
theorem splitLines_restores (code : List Char) :
    let lines := splitLines code
    (∀ line ∈ lines, '\n' ∉ line) ∧
      lines.length =
        code.count '\n' + (if code ≠ [] ∧ code.getLast? ≠ some '\n' then 1 else 0) ∧
      (∃ pieces, List.Forall₂ DropsReturn pieces lines ∧
        code = if code.getLast? = some '\n' then endLines pieces
          else (endLines pieces).dropLast) ∧
      ∀ pieces : List (List Char), (∀ piece ∈ pieces, '\n' ∉ piece) →
        List.Forall₂ DropsReturn pieces (splitLines (endLines pieces)) := by
  intro lines
  have hlines : ∀ line ∈ lines, '\n' ∉ line := fun line hline =>
    newline_not_mem_of_mem_splitLines hline
  have hback : ∀ pieces : List (List Char), (∀ piece ∈ pieces, '\n' ∉ piece) →
      List.Forall₂ DropsReturn pieces (splitLines (endLines pieces)) := by
    intro pieces h
    rw [splitLines_endLines h]
    exact forall₂_dropsReturn pieces
  -- Only a text that is not ended has a last line without a line feed.
  by_cases hended : IsEnded code
  · obtain ⟨hlength, pieces, hpieces, hcode⟩ := restores_of_isEnded hended
    refine ⟨hlines, ?_, ⟨pieces, hpieces, ?_⟩, hback⟩
    · rw [if_neg (by rwa [← not_or, not_not])]
      exact hlength
    · rcases hended with rfl | hlast
      · rw [← hcode]
        rfl
      · rw [if_pos hlast]
        exact hcode
  · obtain ⟨hlength, pieces, hpieces, hcode⟩ := restores_of_not_isEnded hended
    have hnot := not_or.1 hended
    refine ⟨hlines, ?_, ⟨pieces, hpieces, ?_⟩, hback⟩
    · rw [if_pos hnot]
      exact hlength
    · rw [if_neg hnot.2]
      exact hcode

/-- Runs of carriage returns, a blank line and a line that is a single carriage return: one of each
run is dropped, and the text is the pieces again. -/
theorem splitLines_restores_returns :
    let pieces := [['a', '\r', '\r'], [], ['\r'], ['\r', 'b']]
    (∀ piece ∈ pieces, '\n' ∉ piece) ∧
      splitLines (endLines pieces) = [['a', '\r'], [], [], ['\r', 'b']] ∧
      List.Forall₂ DropsReturn pieces (splitLines (endLines pieces)) := by
  intro pieces
  have hpieces : ∀ piece ∈ pieces, '\n' ∉ piece := by decide
  exact ⟨hpieces, by decide, (splitLines_restores (endLines pieces)).2.2.2 pieces hpieces⟩

end Text

end CodeScan
