import CodeScan.Proofs.Text.Lines
import CodeScan.Scan.Detect
import CodeScan.Scan.Metrics

/-!
# Line endings do not show in a scan

A line may end with a line feed or with a carriage return and a line feed, and a text may mix the
two.  Which of them is used where, and whether the last line is ended at all, does not show in the
lines, and so not in anything that is computed from them.

The one thing to keep away from is a line feed that has a carriage return before it already: another
one would stay in the line, since only one is dropped.

Texts are taken line by line (`Text.byLines`).
-/

namespace CodeScan

namespace Text

/-- The text with a carriage return before each line feed that stands at a chosen position.
Positions are counted from `start`. -/
def addReturnsFrom (chosen : Nat → Bool) (start : Nat) (code : List Char) : List Char :=
  (code.zipIdx start).flatMap fun (c, position) =>
    if c = '\n' ∧ chosen position then ['\r', '\n'] else [c]

/-- The text with a carriage return before each line feed that stands at a chosen position. -/
def addReturns (chosen : Nat → Bool) (code : List Char) : List Char :=
  addReturnsFrom chosen 0 code

/-- A line without a line feed gets no return. -/
theorem addReturnsFrom_of_not_mem (chosen : Nat → Bool) (start : Nat) {line : List Char}
    (h : '\n' ∉ line) : addReturnsFrom chosen start line = line := by
  induction line generalizing start with
  | nil => rfl
  | cons c line ih =>
    rw [List.mem_cons, not_or] at h
    have hc : ¬ (c = '\n' ∧ chosen start = true) := fun hboth => h.1 hboth.1.symm
    rw [addReturnsFrom, List.zipIdx_cons, List.flatMap_cons, ← addReturnsFrom, ih _ h.2]
    simp only [hc, if_false, List.singleton_append]

/-- Returns are added piece by piece, with the places counted on. -/
theorem addReturnsFrom_append (chosen : Nat → Bool) (start : Nat) (first second : List Char) :
    addReturnsFrom chosen start (first ++ second) =
      addReturnsFrom chosen start first ++
        addReturnsFrom chosen (start + first.length) second := by
  rw [addReturnsFrom, List.zipIdx_append, List.flatMap_append, ← addReturnsFrom, ← addReturnsFrom]

theorem addReturnsFrom_newline_cons (chosen : Nat → Bool) (start : Nat) (rest : List Char) :
    addReturnsFrom chosen start ('\n' :: rest) =
      (if chosen start then ['\r', '\n'] else ['\n']) ++
        addReturnsFrom chosen (start + 1) rest := by
  rw [addReturnsFrom, List.zipIdx_cons, List.flatMap_cons, ← addReturnsFrom]
  simp only [true_and]

/-- Carriage returns before line feeds leave the lines as they are, as long as there were none. -/
theorem splitLines_addReturnsFrom (chosen : Nat → Bool) (start : Nat) {code : List Char}
    (h : ¬ ['\r', '\n'] <:+: code) :
    splitLines (addReturnsFrom chosen start code) = splitLines code := by
  induction code using byLines generalizing start with
  | last line hline => rw [addReturnsFrom_of_not_mem chosen start hline]
  | line line rest hline ih =>
    have hrest : ¬ ['\r', '\n'] <:+: rest := fun hpair =>
      h (hpair.trans ((List.suffix_cons '\n' rest).trans (List.suffix_append line _)).isInfix)
    -- The line itself does not end with a carriage return, or its line feed would have one.
    have hreturn : line.getLast? ≠ some '\r' := by
      intro hlast
      obtain ⟨init, rfl⟩ := List.getLast?_eq_some_iff.1 hlast
      exact h ⟨init, rest, by simp⟩
    rw [addReturnsFrom_append, addReturnsFrom_of_not_mem chosen start hline,
      addReturnsFrom_newline_cons]
    cases chosen (start + line.length) with
    | false =>
      rw [if_neg Bool.false_ne_true, List.singleton_append, splitLines_line_cons hline,
        splitLines_line_cons hline, ih _ hrest]
    | true =>
      have hended : '\n' ∉ line ++ ['\r'] := by simpa using hline
      have hdrop : dropReturn (line ++ ['\r']) = dropReturn line := by
        rw [dropReturn, if_pos List.getLast?_concat, List.dropLast_concat, dropReturn,
          if_neg hreturn]
      rw [if_pos rfl, List.cons_append, List.singleton_append, List.append_cons,
        splitLines_line_cons hended, splitLines_line_cons hline, hdrop, ih _ hrest]

end Text

namespace Scan

/-- Two texts that no scan and no metrics tell apart. -/
structure Alike (first second : List Char) : Prop where
  lines_eq : Text.splitLines first = Text.splitLines second
  /-- The findings with their identifiers, line numbers and snippets are the same, and so is the
  log. -/
  detect_eq : ∀ rules fileName, detect rules first fileName = detect rules second fileName
  metrics_eq : ∀ lineNumbers,
    Metrics.ofLineNumbers first lineNumbers = Metrics.ofLineNumbers second lineNumbers

/-- Code is known by its lines. -/
theorem Alike.of_splitLines_eq {first second : List Char}
    (h : Text.splitLines first = Text.splitLines second) : Alike first second where
  lines_eq := h
  detect_eq rules fileName := by simp only [detect, detectWith, h]
  metrics_eq lineNumbers := by simp only [Metrics.ofLineNumbers, h]

/-- Any of the line feeds of a text may get a carriage return before it, if none has one already,
and an unended last line may be ended: no scan and no metrics change. -/
theorem alike_of_lineEndings (code : List Char) :
    (¬ ['\r', '\n'] <:+: code → ∀ chosen : Nat → Bool, Alike (Text.addReturns chosen code) code) ∧
      (code ≠ [] → code.getLast? ≠ some '\n' → Alike (code ++ ['\n']) code) :=
  ⟨fun hbare chosen => .of_splitLines_eq (Text.splitLines_addReturnsFrom chosen 0 hbare),
    fun hne hend => .of_splitLines_eq (Text.splitLines_concat_newline hne hend)⟩

/-- Carriage returns inside a line and at the very end, a blank line, and one line feed of two that
gets a carriage return: the scans are the same, and so they are with the last line ended. -/
theorem alike_of_mixed_endings :
    let code := ['a', '\r', 'b', '\n', '\n', 'c', '\r']
    let mixed := ['a', '\r', 'b', '\n', '\r', '\n', 'c', '\r']
    (¬ ['\r', '\n'] <:+: code ∧ Text.addReturns (· == 4) code = mixed ∧ Alike mixed code) ∧
      code ≠ [] ∧ code.getLast? ≠ some '\n' ∧ Alike (code ++ ['\n']) code := by
  intro code mixed
  have hbare : ¬ ['\r', '\n'] <:+: code := by decide
  have hend : code.getLast? ≠ some '\n' := by decide
  exact ⟨⟨hbare, rfl, (alike_of_lineEndings code).1 hbare (· == 4)⟩, List.cons_ne_nil _ _, hend,
    (alike_of_lineEndings code).2 (List.cons_ne_nil _ _) hend⟩

end Scan

end CodeScan
