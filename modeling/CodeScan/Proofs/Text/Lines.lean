import CodeScan.Text.Lines

/-!
# Lines of joined texts

A text that is empty or ends with a line feed can be put in front of any other text without a line
of either being touched: `splitLines_append`.  Without that condition the last line of the first
text and the first line of the second would run together.

So a text can be taken line by line (`byLines`): it is a last line without a line feed, or a line,
its line feed and a further text.
-/

namespace CodeScan

namespace Text

section Pieces

variable {α : Type} [DecidableEq α] {separator : α}

/-- Splitting leaves one piece at least. -/
theorem splitOn_ne_nil (xs : List α) : splitOn separator xs ≠ [] := by
  cases xs with
  | nil => simp [splitOn]
  | cons x xs =>
    rw [splitOn]
    split
    · simp
    · split <;> simp

/-- A separator ends one piece and starts the next. -/
theorem splitOn_append_cons (xs ys : List α) :
    splitOn separator (xs ++ separator :: ys) = splitOn separator xs ++ splitOn separator ys := by
  induction xs with
  | nil => simp [splitOn]
  | cons x xs ih =>
    rw [List.cons_append, splitOn, splitOn, ih]
    by_cases hx : x = separator
    · simp [hx]
    · cases hxs : splitOn separator xs with
      | nil => exact absurd hxs (splitOn_ne_nil xs)
      | cons piece pieces => simp [hx]

/-- A text without the separator is one piece. -/
theorem splitOn_of_not_mem {xs : List α} (h : separator ∉ xs) : splitOn separator xs = [xs] := by
  induction xs with
  | nil => rfl
  | cons x xs ih =>
    rw [List.mem_cons, not_or] at h
    rw [splitOn, if_neg (Ne.symm h.1), ih h.2]

/-- No piece holds the separator. -/
theorem not_mem_of_mem_splitOn {xs piece : List α} (h : piece ∈ splitOn separator xs) :
    separator ∉ piece := by
  induction xs generalizing piece with
  | nil =>
    rw [splitOn, List.mem_singleton] at h
    simp [h]
  | cons x xs ih =>
    rw [splitOn] at h
    by_cases hx : x = separator
    · rw [if_pos hx, List.mem_cons] at h
      rcases h with rfl | h
      · simp
      · exact ih h
    · rw [if_neg hx] at h
      -- An element that does not separate is put in front of the first piece.
      cases hxs : splitOn separator xs with
      | nil => exact absurd hxs (splitOn_ne_nil xs)
      | cons first pieces =>
        rw [hxs] at ih
        simp only [hxs, List.mem_cons] at h
        rcases h with rfl | h
        · rw [List.mem_cons, not_or]
          exact ⟨Ne.symm hx, ih List.mem_cons_self⟩
        · exact ih (List.mem_cons_of_mem _ h)

end Pieces

/-- Only the very last piece is ever dropped. -/
theorem dropFinalEmpty_append {α : Type} (xs : List (List α)) {ys : List (List α)} (h : ys ≠ []) :
    dropFinalEmpty (xs ++ ys) = xs ++ dropFinalEmpty ys := by
  obtain ⟨init, last, rfl⟩ : ∃ init last, ys = init ++ [last] :=
    ⟨ys.dropLast, ys.getLast h, (List.dropLast_concat_getLast h).symm⟩
  rw [← List.append_assoc]
  cases last <;> simp [dropFinalEmpty]

theorem mem_of_mem_dropFinalEmpty {α : Type} {pieces : List (List α)} {piece : List α}
    (h : piece ∈ dropFinalEmpty pieces) : piece ∈ pieces := by
  rw [dropFinalEmpty] at h
  split at h
  · exact List.dropLast_subset _ h
  · exact h

theorem mem_of_mem_dropReturn {line : List Char} {c : Char} (h : c ∈ dropReturn line) :
    c ∈ line := by
  rw [dropReturn] at h
  split at h
  · exact List.dropLast_subset _ h
  · exact h

/-- The lines of a text that starts with whole lines are those lines and the lines of the rest. -/
theorem splitLines_append {first : List Char} (h : first = [] ∨ first.getLast? = some '\n')
    (second : List Char) :
    splitLines (first ++ second) = splitLines first ++ splitLines second := by
  rcases h with rfl | h
  · rfl
  · obtain ⟨init, rfl⟩ := List.getLast?_eq_some_iff.1 h
    have hend : splitLines (init ++ ['\n']) = (splitOn '\n' init).map dropReturn := by
      rw [splitLines, splitOn_append_cons, dropFinalEmpty_append _ (splitOn_ne_nil [])]
      simp [splitOn, dropFinalEmpty]
    rw [hend, List.append_assoc, List.singleton_append, splitLines, splitOn_append_cons,
      dropFinalEmpty_append _ (splitOn_ne_nil second), List.map_append, ← splitLines]

/-- No line holds a line feed. -/
theorem newline_not_mem_of_mem_splitLines {code line : List Char} (h : line ∈ splitLines code) :
    '\n' ∉ line := by
  obtain ⟨piece, hpiece, rfl⟩ := List.mem_map.1 h
  intro hmem
  exact not_mem_of_mem_splitOn (mem_of_mem_dropFinalEmpty hpiece) (mem_of_mem_dropReturn hmem)

/-- A text without a line feed is a single line, unless it is empty. -/
theorem splitLines_of_not_mem {line : List Char} (hne : line ≠ []) (h : '\n' ∉ line) :
    splitLines line = [dropReturn line] := by
  obtain ⟨x, rest, rfl⟩ := List.exists_cons_of_ne_nil hne
  rw [splitLines, splitOn_of_not_mem h]
  rfl

/-- Induction from the front of a text, a whole line at a time. -/
theorem byLines {motive : List Char → Prop} (last : ∀ line, '\n' ∉ line → motive line)
    (line : ∀ line rest, '\n' ∉ line → motive rest → motive (line ++ '\n' :: rest))
    (code : List Char) : motive code := by
  generalize hn : code.length = n
  induction n using Nat.strongRecOn generalizing code with
  | ind n ih =>
    by_cases hmem : '\n' ∈ code
    · obtain ⟨first, rest, rfl, hfirst⟩ := List.eq_append_cons_of_mem hmem
      refine line first rest hfirst (ih rest.length ?_ rest rfl)
      rw [← hn, List.length_append, List.length_cons]
      omega
    · exact last code hmem

/-- A line that is ended by a line feed comes before the lines of the rest. -/
theorem splitLines_line_cons {line : List Char} (h : '\n' ∉ line) (rest : List Char) :
    splitLines (line ++ '\n' :: rest) = dropReturn line :: splitLines rest := by
  have hline : splitLines (line ++ ['\n']) = [dropReturn line] := by
    rw [splitLines, splitOn_append_cons, splitOn_of_not_mem h]
    rfl
  rw [List.append_cons, splitLines_append (.inr List.getLast?_concat), hline,
    List.singleton_append]

/-- A line feed after the last line leaves the lines as they are. -/
theorem splitLines_concat_newline {code : List Char} (hne : code ≠ [])
    (hend : code.getLast? ≠ some '\n') : splitLines (code ++ ['\n']) = splitLines code := by
  induction code using byLines with
  | last line hline =>
    rw [splitLines_line_cons hline, splitLines_of_not_mem hne hline]
    rfl
  | line line rest hline ih =>
    have hrest : rest ≠ [] := by
      rintro rfl
      exact hend List.getLast?_concat
    have hrestend : rest.getLast? ≠ some '\n' := by
      intro hlast
      obtain ⟨init, rfl⟩ := List.getLast?_eq_some_iff.1 hlast
      exact hend (List.getLast?_eq_some_iff.2 ⟨line ++ '\n' :: init, by simp⟩)
    rw [List.append_assoc, List.cons_append, splitLines_line_cons hline,
      splitLines_line_cons hline, ih hrest hrestend]

end Text

end CodeScan
