import CodeScan.Proofs.Catalog.BuiltIn

/-!
# Findings cannot be hidden by more code

Code added to a line, with a blank in between, does not hide what a built-in rule found in the line:
`matchesLine_in_context`.  One rule is about the whole line and so is left out.  Two rules have a
condition on what follows, and for each of them some added text has to be left out too.

The patterns have been checked (`isSound_definitions`): apart from the conditions of the two rules
nothing in them reaches over a blank.
-/

namespace CodeScan

namespace Catalog

open Pattern

/-- What a target that is fixed starts with: one of the listed characters, or a blank. -/
theorem contains_fixedTarget (x : Char) :
    fixedTarget.contains x = (targetStarts.contains x || isBlank x) := by
  simp only [fixedTarget, CharSet.contains, List.any_append, List.any_map, Function.comp_def,
    CharItem.contains_single, CharItem.contains_kind, CharKind.holds, List.any_cons, List.any_nil,
    Bool.or_false, Bool.bne_false, List.contains_eq_any_beq]

/-- The conditions of the rules are borne by the texts that are allowed behind a line. -/
theorem exists_matches_of_isTail {id : String} {b : Char} {back : List Char}
    (hb : isBlank b = true)
    (hloader : id = "insecure-deserialization" → ¬ "SafeLoader".toList <:+: back)
    (htarget : id = "unvalidated-redirect" → ∀ x, back.find? (fun x => !isBlank x) = some x →
      x ∉ targetStarts)
    {q : Pattern} (hq : isTail id q = true) {c d : Cursor} (hm : q.Matches c d) :
    ∃ e, q.Matches (c.pad [] (b :: back)) e := by
  simp only [isTail, Bool.or_eq_true, Bool.and_eq_true, decide_eq_true_eq] at hq
  rcases hq with ⟨hid, rfl⟩ | ⟨hid, rfl⟩
  · have hsolid : ∀ x ∈ "SafeLoader".toList, isBlank x = false := by
      have hnone : ("SafeLoader".toList.any isBlank) = false := by decide
      exact fun x hx => Bool.eq_false_iff.2 (List.any_eq_false.1 hnone x hx)
    exact exists_matches_wordless (by decide) hsolid hb (hloader hid) hm
  · refine exists_matches_blanksThenNot hb (fun x hx => ?_) hm
    have hother : targetStarts.contains x = false := by simpa using htarget hid x hx
    have hsolid : isBlank x = false := by simpa using List.find?_some hx
    rw [contains_fixedTarget, hother, hsolid, Bool.or_false]

/-- A built-in rule other than the one on debugger statements that matches a line also matches the
line with any text before it and a blank in between.  It also matches the line with text behind it
and a blank in between, provided that this text names no safe loader, where the rule is the one on
deserialization, and that it does not go on with a written target, where the rule is the one on
redirects. -/
theorem matchesLine_in_context {rule : Rule} (hrule : rule ∈ builtIn)
    (hid : rule.id ≠ "debugger-statement") {line : List Char}
    (hline : rule.matchesLine line = true) :
    (∀ front : List Char, rule.matchesLine (front ++ ' ' :: line) = true) ∧
      ∀ back : List Char,
        (rule.id = "insecure-deserialization" → ¬ "SafeLoader".toList <:+: back) →
        (rule.id = "unvalidated-redirect" → ∀ x, back.find? (fun x => !isBlank x) = some x →
          x ∉ targetStarts) →
        rule.matchesLine (line ++ ' ' :: back) = true := by
  obtain ⟨fixed, -⟩ := checked_of_mem_builtIn hrule
  rw [builtIn_eq] at hrule
  obtain ⟨d, hd, rfl⟩ := List.mem_map.1 hrule
  obtain ⟨words, -, hsound⟩ := exists_isSound hd
  have hchecks := check_ofText hsound
  rw [Bool.and_eq_true, Bool.and_eq_true] at hchecks
  have hname : d.id ≠ "debugger-statement" := fun h => hid (congrArg Text.ofString h)
  -- The check of the table says what text in front and behind can do to the pattern.
  have hbears : (ofText d.pattern).keepsOff true = true ∧
      (ofText d.pattern).outlasts (isTail d.id) = true := by
    simpa [bearsContext, hname] using hchecks.1.2
  have hb : isBlank ' ' = true := by decide
  constructor
  · intro front
    exact search_append_left fixed hbears.1 hb front hline
  · intro back hloader htarget
    refine search_append_right fixed hbears.2 hb (fun q hq c e hm => ?_) hline
    exact exists_matches_of_isTail hb (fun h => hloader (congrArg Text.ofString h))
      (fun h => htarget (congrArg Text.ofString h)) hq hm

/-- A line that ends where the target of a redirect would start may go on with a name. -/
theorem matchesLine_in_context_redirect :
    unvalidatedRedirect.rule.matchesLine "if ok: location =".toList = true ∧
      unvalidatedRedirect.rule.matchesLine "location = next".toList = true := by
  have hrule : unvalidatedRedirect.rule ∈ builtIn := by
    rw [builtIn_eq]
    exact List.mem_map_of_mem (by simp [definitions])
  have hid : unvalidatedRedirect.rule.id ≠ "debugger-statement" := by decide +kernel
  have hline : unvalidatedRedirect.rule.matchesLine "location =".toList = true := by
    simp only [Definition.rule, unvalidatedRedirect, Text.ofString_append]
    repeat rw [Text.ofString_ofList]
    decide +kernel
  obtain ⟨hfront, hback⟩ := matchesLine_in_context hrule hid hline
  have hloader : unvalidatedRedirect.rule.id ≠ "insecure-deserialization" := by decide +kernel
  have htarget : ∀ x, "next".toList.find? (fun x => !isBlank x) = some x → x ∉ targetStarts := by
    rintro x hx
    cases hx
    decide
  exact ⟨hfront "if ok:".toList, hback "next".toList (absurd · hloader) fun _ => htarget⟩

end Catalog

end CodeScan
