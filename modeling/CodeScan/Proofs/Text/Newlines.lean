import CodeScan.Proofs.Text.Lines
import CodeScan.Text.Utf8

/-!
# Unified line endings

A file is read with all line endings unified, while code that is handed over directly keeps its
carriage returns until it is split into lines.  The two ways give the same lines as long as every
carriage return belongs to a line ending that both know: it stands before a line feed or at the very
end.  A carriage return anywhere else ends a line in a file and none in code.

The induction follows `unifyNewlines`, from the front of the text; so the lines of a text are
described from its front as well (`splitLines_newline_cons`, `splitLines_cons`).
-/

namespace CodeScan

namespace Text

/-- Every carriage return stands before a line feed or at the very end. -/
def ReturnsEndLines (t : List Char) : Prop :=
  ∀ i < t.length, t[i]? = some '\r' → t[i + 1]? = none ∨ t[i + 1]? = some '\n'

instance (t : List Char) : Decidable (ReturnsEndLines t) :=
  inferInstanceAs (Decidable (∀ i < t.length, _ → _))

theorem ReturnsEndLines.tail {c : Char} {t : List Char} (h : ReturnsEndLines (c :: t)) :
    ReturnsEndLines t := by
  intro i hi hreturn
  exact h (i + 1) (Nat.succ_lt_succ hi) hreturn

/-- What follows a carriage return at the front. -/
theorem ReturnsEndLines.head {t : List Char} (h : ReturnsEndLines ('\r' :: t)) :
    t = [] ∨ ∃ rest, t = '\n' :: rest := by
  have hnext := h 0 (Nat.succ_pos _) rfl
  cases t with
  | nil => exact .inl rfl
  | cons c rest =>
    rcases hnext with hnone | hsome
    · cases hnone
    · cases hsome
      exact .inr ⟨rest, rfl⟩

/-! ## Lines from the front -/

theorem splitLines_newline_cons (t : List Char) :
    splitLines ('\n' :: t) = [] :: splitLines t :=
  @splitLines_append ['\n'] (.inr rfl) t

/-- A return before a line feed belongs to the line ending. -/
theorem splitLines_crlf (t : List Char) : splitLines ('\r' :: '\n' :: t) = [] :: splitLines t :=
  @splitLines_append ['\r', '\n'] (.inr rfl) t

/-- A character that ends no line goes to the front of the first line. -/
theorem splitLines_cons {c : Char} (hnewline : c ≠ '\n') (hreturn : c ≠ '\r') (t : List Char) :
    splitLines (c :: t) =
      match splitLines t with
      | [] => [[c]]
      | line :: lines => (c :: line) :: lines := by
  have hcons (piece : List Char) : dropReturn (c :: piece) = c :: dropReturn piece := by
    cases piece with
    | nil => simp [dropReturn, hreturn]
    | cons x xs =>
      rw [dropReturn, dropReturn, List.getLast?_cons_cons]
      split <;> rfl
  rw [splitLines, splitLines, splitOn, if_neg hnewline]
  cases hpieces : splitOn '\n' t with
  | nil => exact absurd hpieces (splitOn_ne_nil t)
  | cons piece pieces =>
    cases pieces with
    | nil =>
      -- The only piece is dropped where it is empty, but not with a character in front.
      cases piece with
      | nil => simp [dropFinalEmpty, dropReturn, hreturn]
      | cons x xs => simp [dropFinalEmpty, hcons]
    | cons next more =>
      have hrest (first : List Char) :
          dropFinalEmpty (first :: next :: more) = first :: dropFinalEmpty (next :: more) :=
        dropFinalEmpty_append [first] (List.cons_ne_nil next more)
      simp [hrest, hcons]

/-- Unifying the line endings leaves the lines as they are. -/
theorem splitLines_unifyNewlines {t : List Char} (h : ReturnsEndLines t) :
    splitLines (unifyNewlines t) = splitLines t := by
  fun_induction unifyNewlines t with
  | case1 => rfl
  | case2 rest ih => rw [splitLines_newline_cons, splitLines_crlf, ih h.tail.tail]
  | case3 rest hnext ih =>
    rcases h.head with rfl | ⟨more, rfl⟩
    · rfl
    · exact absurd rfl (hnext more)
  | case4 c rest _ hreturn ih =>
    have hc : c ≠ '\r' := fun heq => hreturn heq
    by_cases hnewline : c = '\n'
    · rw [hnewline, splitLines_newline_cons, splitLines_newline_cons, ih h.tail]
    · rw [splitLines_cons hnewline hc, splitLines_cons hnewline hc, ih h.tail]

end Text

/-- Unifying the line endings makes no text longer. -/
theorem Utf8.size_unifyNewlines_le (t : List Char) :
    size (Text.unifyNewlines t) ≤ size t := by
  have hcons (c : Char) (rest : List Char) : size (c :: rest) = c.utf8Size + size rest := rfl
  have hbreak : Char.utf8Size '\n' = Char.utf8Size '\r' := rfl
  fun_induction Text.unifyNewlines t with
  | case1 => exact Nat.le_refl _
  | case2 rest ih =>
    rw [hcons, hcons, hcons]
    omega
  | case3 rest _ ih =>
    rw [hcons, hcons]
    omega
  | case4 c rest _ _ ih =>
    rw [hcons, hcons]
    omega

end CodeScan
