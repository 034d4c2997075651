import CodeScan.Proofs.Catalog.Flags

/-!
# Debugger statements

The rule on debugger statements is about the whole line: the word stands on it alone, with blanks
around it and at most one semicolon behind it.  `flags_debuggerStatement_iff` says so of the trimmed
line, which no longer depends on how the blanks are shared out between the runs of the pattern.

The end of a line is also where one line feed still follows.  That makes no difference here, because
a line feed is a blank and the blanks in front of the end may take it (`begins_blanks_finish_iff`).
-/

namespace CodeScan

/-- A line is trimmed to a text whose ends are no blanks exactly if it is this text with blanks
around. -/
theorem Text.strip_eq_iff {line kept : List Char} (hne : kept ≠ [])
    (hfirst : kept.head?.any isBlank = false) (hlast : kept.getLast?.any isBlank = false) :
    strip line = kept ↔ ∃ front, AllBlank front ∧
      ∃ back, line = front ++ kept ++ back ∧ AllBlank back := by
  have hsolid {found : Option Char} (h : found.any isBlank = false) :
      ∀ x, found = some x → isBlank x = false := by
    rintro x rfl
    exact h
  unfold strip
  rw [trimWhere_eq_iff hne (hsolid hfirst) (hsolid hlast)]
  constructor
  · rintro ⟨front, back, hline, hfront, hback⟩
    exact ⟨front, hfront, back, hline, hback⟩
  · rintro ⟨front, hfront, back, hline, hback⟩
    exact ⟨front, back, hline, hfront, hback⟩

namespace Catalog

open Pattern

/-- The word of a debugger statement. -/
def debuggerWord : List Char := "debugger".toList

/-- The word, alone on the line up to blanks and a semicolon. -/
def loneDebugger : Pattern :=
  concat (.start :: blankRun :: (chars debuggerWord ++
    [blankRun, opt (.char ';'), blankRun, .finish]))

section Evaluation

set_option maxRecDepth 100000

/-- The tree of the rule for debugger statements. -/
theorem ofText_debuggerStatement : ofText debuggerStatement.pattern = loneDebugger := by
  apply ofText_eq_of_writes
  simp only [debuggerStatement]
  rw [Text.ofString_ofList]
  decide +kernel

end Evaluation

variable {before after line : List Char}

/-- Blanks lead up to the end if nothing but blanks follows. -/
theorem begins_blanks_finish_iff : Begins [blankRun, .finish] before after ↔ AllBlank after := by
  simp only [begins_blankRun_iff, begins_finish_iff, begins_nil, and_true]
  constructor
  · rintro ⟨blanks, hblanks, rest, rfl, rfl | rfl⟩
    · rwa [List.append_nil]
    · have hfeed : AllBlank ['\n'] := fun x hx => List.mem_singleton.1 hx ▸ rfl
      exact allBlank_append.2 ⟨hblanks, hfeed⟩
  · intro h
    exact ⟨after, h, [], (List.append_nil after).symm, .inl rfl⟩

/-- The rule wants the word, blanks and at most one semicolon, with blanks around them. -/
theorem flags_debuggerStatement_parts :
    flags "debugger-statement" line = true ↔
      ∃ front, AllBlank front ∧ ∃ blanks, AllBlank blanks ∧ ∃ close ∈ [[], [';']],
        ∃ back, line = front ++ debuggerWord ++ blanks ++ close ++ back ∧ AllBlank back := by
  have hmem : debuggerStatement ∈ definitions := by simp [definitions]
  have hclose : (opt (.char ';')).words? = some [[], [';']] := rfl
  have hflags := flags_eq_true_iff hmem ofText_debuggerStatement line
  simp only [loneDebugger, begins_concat_iff, List.append_nil, begins_start_iff,
    ↓begins_blanks_finish_iff, begins_blankRun_iff, begins_chars_iff,
    begins_of_accepts (accepts_of_words hclose)] at hflags
  simp only [↓exists_condition_iff, ↓exists_word_iff, ↓exists_piece_iff, exists_eq_left,
    List.nil_append] at hflags
  exact hflags

/-- The rule flags a line exactly if the trimmed line is the word, or the word with blanks and one
semicolon behind it. -/
theorem flags_debuggerStatement_iff (line : List Char) :
    flags "debugger-statement" line = true ↔
      Text.strip line = debuggerWord ∨
        ∃ blanks, AllBlank blanks ∧ Text.strip line = debuggerWord ++ blanks ++ [';'] := by
  have hword : Text.strip line = debuggerWord ↔ ∃ front, AllBlank front ∧
      ∃ back, line = front ++ debuggerWord ++ back ∧ AllBlank back :=
    Text.strip_eq_iff (by decide) (by decide) (by decide)
  have hclosed (blanks : List Char) :
      Text.strip line = debuggerWord ++ blanks ++ [';'] ↔ ∃ front, AllBlank front ∧
        ∃ back, line = front ++ (debuggerWord ++ blanks ++ [';']) ++ back ∧ AllBlank back := by
    refine Text.strip_eq_iff (List.append_ne_nil_of_right_ne_nil _ (List.cons_ne_nil _ _)) rfl ?_
    rw [List.getLast?_concat]
    decide
  rw [flags_debuggerStatement_parts, hword]
  simp only [hclosed]
  constructor
  · rintro ⟨front, hfront, blanks, hblanks, close, hclose, back, rfl, hback⟩
    rcases List.mem_pair.1 hclose with rfl | rfl
    · -- Without a semicolon the two runs of blanks behind the word are one.
      refine .inl ⟨front, hfront, blanks ++ back, ?_, allBlank_append.2 ⟨hblanks, hback⟩⟩
      simp only [List.append_nil, List.append_assoc]
    · refine .inr ⟨blanks, hblanks, front, hfront, back, ?_, hback⟩
      simp only [List.append_assoc]
  · rintro (⟨front, hfront, back, rfl, hback⟩ | ⟨blanks, hblanks, front, hfront, back, rfl, hback⟩)
    · refine ⟨front, hfront, back, hback, [], by decide, [], ?_, by simp [AllBlank]⟩
      simp only [List.append_nil]
    · refine ⟨front, hfront, blanks, hblanks, [';'], by decide, back, ?_, hback⟩
      simp only [List.append_assoc]

end Catalog

end CodeScan
