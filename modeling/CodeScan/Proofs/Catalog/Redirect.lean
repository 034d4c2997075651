import CodeScan.Proofs.Catalog.Flags

/-!
# Unvalidated redirects

The rule on redirects looks for two things: a call that redirects to a member of the request, and a
setting of the location whose target is not written out.  `flags_unvalidatedRedirect_iff` says so in
terms of the line: an occurrence of the word, and what a plain forward scan finds behind it.

The second half is where a matcher could go astray.  It takes blanks and then asks that no quote,
slash or blank follows, so it might give some of the blanks back to find a place where the condition
holds.  It cannot, because the condition also refuses a blank (`begins_blanks_not_ahead_iff`): the
blanks are taken to the last one, and the condition is about the first character behind them.

Either half has an optional lead, `res.` or `window.`.  It ends with a point, so the word behind it
starts a word of its own, and the lead makes no difference (`exists_begins_opt_lead_iff`).
-/

namespace CodeScan

namespace Catalog

open Pattern

/-! ## What the rule says -/

/-- The members of a request are reached under these names. -/
def requestNames : List (List Char) := ["req.".toList, "request.".toList]

/-- The line redirects to a member of the request. -/
def RedirectsToRequest (line : List Char) : Prop :=
  ∃ before, EndsOffWord before ∧ ∃ blanks, AllBlank blanks ∧ ∃ blanks', AllBlank blanks' ∧
    ∃ name ∈ requestNames, ∃ after,
      line = before ++ "redirect".toList ++ blanks ++ ['('] ++ blanks' ++ name ++ after

/-- The line sets the location, and the first character behind the sign that is not blank, if there
is one, does not begin a written target. -/
def SetsLocation (line : List Char) : Prop :=
  ∃ before, EndsOffWord before ∧ ∃ member ∈ [[], ".href".toList], ∃ blanks, AllBlank blanks ∧
    ∃ after, line = before ++ "location".toList ++ member ++ blanks ++ ['='] ++ after ∧
      after.head? ≠ some '=' ∧
      ∀ x, after.find? (fun x => !isBlank x) = some x → x ∉ targetStarts

/-! ## The pattern -/

/-- A call that redirects to a member of the request. -/
def requestCall (lead : List Pattern) : Pattern :=
  concat (.boundary true :: (lead ++ (chars "redirect".toList ++
    [blankRun, .char '(', blankRun, oneOf [word "req.".toList, word "request.".toList]])))

/-- A setting of the location to a target that is not written out. -/
def locationSetting (lead : List Pattern) : Pattern :=
  concat (.boundary true :: (lead ++ (chars "location".toList ++
    [opt (word ".href".toList), blankRun, .char '=', .ahead false (.char '='), blankRun,
      .ahead false (.set fixedTarget)])))

/-- The pattern of the rule without its optional leads. -/
def withoutLeads : String :=
  "\\bredirect\\s*\\(\\s*(?:req\\.|request\\.)" ++
    "|\\blocation(?:\\.href)?\\s*=(?!=)\\s*(?![\\\"'`/\\s])"

section Evaluation

set_option maxRecDepth 100000

/-- The tree of the rule for redirects, with its optional leads. -/
theorem ofText_unvalidatedRedirect : ofText unvalidatedRedirect.pattern =
    oneOf [requestCall [opt (word "res.".toList)],
      locationSetting [opt (word "window.".toList)]] := by
  apply ofText_eq_of_writes
  simp only [unvalidatedRedirect, Text.ofString_append]
  repeat rw [Text.ofString_ofList]
  decide +kernel

/-- The tree of the same rule without them. -/
theorem ofText_withoutLeads :
    ofText withoutLeads = oneOf [requestCall [], locationSetting []] := by
  apply ofText_eq_of_writes
  unfold withoutLeads
  rw [Text.ofString_append]
  repeat rw [Text.ofString_ofList]
  decide +kernel

end Evaluation

/-! ## From the pattern to the line -/

variable {before after line : List Char}

/-- Blanks are taken to the last one if what must not follow includes the blanks. -/
theorem begins_blanks_not_ahead_iff {s : CharSet}
    (hs : ∀ x, isBlank x = true → s.contains x = true) :
    Begins [blankRun, .ahead false (.set s)] before after ↔
      ∀ x, after.find? (fun x => !isBlank x) = some x → s.contains x = false := by
  simp only [begins_blankRun_iff, begins_not_ahead_iff, begins_set_iff, begins_nil, and_true,
    List.singleton_append, List.find?_not_eq_head?_dropWhile]
  constructor
  · rintro ⟨blanks, hblanks, rest, rfl, hnone⟩ x hx
    have hset : ∀ y, rest.head? = some y → s.contains y = false := by
      intro y hy
      obtain ⟨rest, rfl⟩ := List.head?_eq_some_iff.1 hy
      exact Bool.eq_false_iff.2 fun hcontains => hnone ⟨y, hcontains, rest, rfl⟩
    -- What may not follow includes every blank, so the run of blanks has been taken whole.
    have hrest : rest.dropWhile isBlank = rest := by
      apply Text.dropWhile_eq_self
      intro y hy
      rw [← Bool.not_eq_true]
      exact fun hblank => Bool.false_ne_true ((hset y hy).symm.trans (hs y hblank))
    rw [List.dropWhile_append_of_pos hblanks, hrest] at hx
    exact hset x hx
  · intro h
    refine ⟨after.takeWhile isBlank, List.all_eq_true.1 List.all_takeWhile,
      after.dropWhile isBlank, List.takeWhile_append_dropWhile.symm, ?_⟩
    rintro ⟨x, hcontains, rest, hrest⟩
    have hx : (after.dropWhile isBlank).head? = some x := by rw [hrest, List.head?_cons]
    exact Bool.false_ne_true ((h x hx).symm.trans hcontains)

/-- The look-ahead of the rule is about the first character that is not blank. -/
theorem begins_fixedTarget_iff :
    Begins [blankRun, .ahead false (.set fixedTarget)] before after ↔
      ∀ x, after.find? (fun x => !isBlank x) = some x → x ∉ targetStarts := by
  rw [begins_blanks_not_ahead_iff fun x hx => by rw [contains_fixedTarget, hx, Bool.or_true]]
  refine forall₂_congr fun x hx => ?_
  have hsolid : isBlank x = false := by simpa using List.find?_some hx
  rw [contains_fixedTarget, hsolid, Bool.or_false, ← Bool.not_eq_true, List.contains_iff_mem]

/-- The first branch is a call with a target that is not fixed. -/
theorem exists_begins_requestCall_iff :
    (∃ before after, line = before ++ after ∧ Begins [requestCall []] before after) ↔
      RedirectsToRequest line := by
  have hnames : (oneOf [word "req.".toList, word "request.".toList]).words? = some requestNames :=
    rfl
  have hword : "redirect".toList.head?.any isWord = true := by decide
  unfold RedirectsToRequest
  simp only [requestCall, begins_concat_iff, List.nil_append, List.append_nil,
    begins_boundary_chars_iff hword, begins_chars_iff, begins_blankRun_iff, begins_char_iff,
    begins_of_accepts (accepts_of_words hnames)]
  simp only [↓exists_condition_iff, ↓exists_word_iff, ↓exists_piece_iff, begins_nil, and_true]

/-- The second branch sets the location to such a target. -/
theorem exists_begins_locationSetting_iff :
    (∃ before after, line = before ++ after ∧ Begins [locationSetting []] before after) ↔
      SetsLocation line := by
  have hmember : (opt (word ".href".toList)).words? = some [[], ".href".toList] := rfl
  have hword : "location".toList.head?.any isWord = true := by decide
  have hsign (rest : List Char) : (¬ ∃ more, rest = ['='] ++ more) ↔ rest.head? ≠ some '=' := by
    rw [ne_eq, List.head?_eq_some_iff]
    rfl
  unfold SetsLocation
  simp only [locationSetting, begins_concat_iff, List.nil_append, List.append_nil,
    begins_boundary_chars_iff hword, begins_chars_iff,
    begins_of_accepts (accepts_of_words hmember), @begins_blankRun_iff (.char '=' :: _),
    begins_char_iff, @begins_not_ahead_iff _ (blankRun :: _), begins_fixedTarget_iff, begins_nil,
    and_true, hsign]
  simp only [↓exists_condition_iff, ↓exists_word_iff, ↓exists_piece_iff]

/-- The optional leads make no difference to a search. -/
theorem exists_begins_leads_iff :
    (∃ before after, line = before ++ after ∧
        Begins [oneOf [requestCall [opt (word "res.".toList)],
          locationSetting [opt (word "window.".toList)]]] before after) ↔
      ∃ before after, line = before ++ after ∧
        Begins [oneOf [requestCall [], locationSetting []]] before after := by
  have hpoint (lead : List Char) (h : lead.getLast? = some '.') : EndsOffWord lead := by
    intro x hx
    obtain rfl : '.' = x := Option.some.inj (h.symm.trans hx)
    decide
  rw [exists_begins_either_iff, exists_begins_either_iff]
  simp only [requestCall, locationSetting, begins_concat_iff, List.cons_append, List.append_assoc,
    List.nil_append]
  rw [exists_begins_opt_lead_iff (by decide) (hpoint _ (by decide)) (by decide),
    exists_begins_opt_lead_iff (by decide) (hpoint _ (by decide)) (by decide)]

/-- The rule on redirects flags a line exactly if the line redirects to a member of the request or
sets the location to a target that is not written out.  The leads that its pattern allows for make
no difference: without them it finds the same lines. -/
theorem flags_unvalidatedRedirect_iff (line : List Char) :
    (flags "unvalidated-redirect" line = true ↔ RedirectsToRequest line ∨ SetsLocation line) ∧
      flags "unvalidated-redirect" line = (ofText withoutLeads).search line := by
  have hmem : unvalidatedRedirect ∈ definitions := by simp [definitions]
  have hflags := flags_eq_true_iff hmem ofText_unvalidatedRedirect line
  have hfixed : (ofText withoutLeads).hasFixedLookBehind = true := by
    rw [ofText_withoutLeads]
    decide
  have hplain := search_eq_true_iff_begins hfixed line
  rw [exists_begins_leads_iff] at hflags
  constructor
  · rw [← exists_begins_requestCall_iff, ← exists_begins_locationSetting_iff,
      ← exists_begins_either_iff]
    exact hflags
  · rw [Bool.eq_iff_iff, hplain, ofText_withoutLeads]
    exact hflags

end Catalog

end CodeScan
