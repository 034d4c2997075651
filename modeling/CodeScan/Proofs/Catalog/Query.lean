import CodeScan.Proofs.Catalog.Flags
import CodeScan.Proofs.Text.Marks

/-!
# Queries that are put together and queries with parameters

The rule on injected queries looks for a query, a text in quotes that begins with a verb, and for
one of four ways to splice a value into it.  Each way is first read as what it asks of a line
(`flags_sqlInjection_iff`); the query itself is the same in all four (`IsQuery`).

`flags_sqlInjection_query` then tells a query that a value is added to from a query that is followed
by its parameters.  The second line is never flagged, whatever the query and the parameters hold:
each of the four ways needs a quote with something beside it that neither quote of the line has.
-/

namespace CodeScan

namespace Catalog

open Pattern

/-- The verbs that a query begins with. -/
def verbs : List (List Char) :=
  ["SELECT", "INSERT", "UPDATE", "DELETE", "DROP"].map String.toList

/-! ## The pattern -/

/-- A query that keeps off the listed quotes, and what comes behind it. -/
def query (cs : List Char) (rest : List Pattern) : List Pattern :=
  oneOf (verbs.map word) :: .boundary true :: gap cs 0 500 :: rest

/-- The characters that a value put in by a percent sign begins with. -/
def valueStart : CharSet := ⟨false, [.kind .word false, .single '('.toNat]⟩

/-- A value is added to the query, or put in by a percent sign. -/
def concatenation : Pattern :=
  concat (anyOf templateQuotes :: blankRun :: query templateQuotes
    [anyOf templateQuotes, blankRun,
      oneOf [.char '+', concat [.char '%', blankRun, .set valueStart]]])

/-- A value stands in braces in the query. -/
def interpolation : Pattern :=
  concat (.boundary true :: .char 'f' :: anyOf quotes :: query quotes [.char '\x7b'])

/-- A value stands in braces in a template. -/
def template : Pattern :=
  concat (.char '\x60' :: query ['\x60'] [.char '$', .char '\x7b'])

/-- The query is a format that values are put into. -/
def formatting : Pattern :=
  concat (anyOf quotes :: query quotes (anyOf quotes :: blankRun ::
    (chars ".format".toList ++ [blankRun, .char '('])))

section Evaluation

set_option maxRecDepth 100000

/-- The tree of the rule for queries: one branch for each way to put a value in. -/
theorem ofText_sqlInjection :
    ofText sqlInjection.pattern = oneOf [concatenation, interpolation, template, formatting] := by
  apply ofText_eq_of_writes
  simp only [sqlInjection, Text.ofString_append]
  repeat rw [Text.ofString_ofList]
  decide +kernel

end Evaluation

/-! ## What the rule says -/

/-- The text is a query that keeps off the listed quotes: a verb and up to 500 characters more. -/
def IsQuery (cs text : List Char) : Prop :=
  ∃ verb ∈ verbs, ∃ more, text = verb ++ more ∧ BeginsOffWord more ∧ IsGap cs 0 500 more

/-- A value is spliced in here, by a plus sign or by a percent sign. -/
def SplicesValue (after : List Char) : Prop :=
  (∃ rest, after = ['+'] ++ rest) ∨
    ∃ blanks, AllBlank blanks ∧ ∃ x, (isWord x = true ∨ x = '(') ∧
      ∃ rest, after = ['%'] ++ blanks ++ [x] ++ rest

/-- A value is added to a query in quotes, or put into it by a percent sign. -/
def ConcatenatesQuery (line : List Char) : Prop :=
  ∃ before, ∃ first ∈ templateQuotes, ∃ blanks, AllBlank blanks ∧
    ∃ text, IsQuery templateQuotes text ∧ ∃ last ∈ templateQuotes, ∃ blanks', AllBlank blanks' ∧
      ∃ after, line = before ++ [first] ++ blanks ++ text ++ [last] ++ blanks' ++ after ∧
        SplicesValue after

/-- A query in quotes that is marked as one with values in braces has a brace. -/
def InterpolatesQuery (line : List Char) : Prop :=
  ∃ before, EndsOffWord before ∧ ∃ first ∈ quotes, ∃ text, IsQuery quotes text ∧
    ∃ after, line = before ++ ['f'] ++ [first] ++ text ++ ['\x7b'] ++ after

/-- A query in a template has a value in it. -/
def TemplatesQuery (line : List Char) : Prop :=
  ∃ before text, IsQuery ['\x60'] text ∧
    ∃ after, line = before ++ ['\x60'] ++ text ++ ['$'] ++ ['\x7b'] ++ after

/-- A query in quotes is used as a format. -/
def FormatsQuery (line : List Char) : Prop :=
  ∃ before, ∃ first ∈ quotes, ∃ text, IsQuery quotes text ∧ ∃ last ∈ quotes,
    ∃ blanks, AllBlank blanks ∧ ∃ blanks', AllBlank blanks' ∧ ∃ after,
      line = before ++ [first] ++ text ++ [last] ++ blanks ++ ".format".toList ++ blanks' ++
        ['('] ++ after

variable {cs before after line : List Char} {parts : List Pattern}

/-- A query that is followed by no word character. -/
theorem begins_query_iff
    (hparts : ∀ {before rest}, Begins parts before rest → BeginsOffWord rest) :
    Begins (query cs parts) before after ↔
      ∃ text, IsQuery cs text ∧ ∃ rest, after = text ++ rest ∧
        Begins parts (before ++ text) rest := by
  have hverbs : (oneOf (verbs.map word)).words? = some verbs := rfl
  have hstop : ∀ verb ∈ verbs, verb.getLast?.any isWord = true := by decide
  simp only [query, begins_of_accepts_boundary (accepts_of_words hverbs) hstop,
    begins_of_accepts accepts_gap]
  constructor
  · rintro ⟨verb, hverb, _, rfl, hedge, more, hmore, rest, rfl, hrest⟩
    rw [(hparts hrest).append_iff] at hedge
    rw [List.append_assoc] at hrest
    exact ⟨verb ++ more, ⟨verb, hverb, more, rfl, hedge, hmore⟩, rest,
      (List.append_assoc verb more rest).symm, hrest⟩
  · rintro ⟨_, ⟨verb, hverb, more, rfl, hedge, hmore⟩, rest, rfl, hrest⟩
    rw [← List.append_assoc] at hrest
    exact ⟨verb, hverb, more ++ rest, List.append_assoc verb more rest,
      (hparts hrest).append_iff.2 hedge, more, hmore, rest, rfl, hrest⟩

/-- A query before one of several characters is a keyword with what follows it up to there. -/
theorem begins_query_anyOf_iff {ds : List Char} (hds : ∀ x ∈ ds, isWord x = false) :
    Begins (query cs (anyOf ds :: parts)) before after ↔
      ∃ text, IsQuery cs text ∧ ∃ rest, after = text ++ rest ∧
        Begins (anyOf ds :: parts) (before ++ text) rest := by
  apply begins_query_iff
  intro before rest h
  obtain ⟨x, hx, rest, rfl, -⟩ := begins_anyOf_iff.1 h
  exact beginsOffWord_singleton_append (hds x hx) rest

/-- The same before a single character. -/
theorem begins_query_char_iff {x : Char} (hx : isWord x = false) :
    Begins (query cs (.char x :: parts)) before after ↔
      ∃ text, IsQuery cs text ∧ ∃ rest, after = text ++ rest ∧
        Begins (.char x :: parts) (before ++ text) rest := by
  apply begins_query_iff
  intro before rest h
  obtain ⟨rest, rfl, -⟩ := begins_char_iff.1 h
  exact beginsOffWord_singleton_append hx rest

/-- A value is spliced in with a plus sign, or with a percent sign and the start of a value. -/
theorem begins_splice_iff :
    Begins [oneOf [.char '+', concat [.char '%', blankRun, .set valueStart]]] before after ↔
      SplicesValue after := by
  have hstart (x : Char) : valueStart.contains x = true ↔ isWord x = true ∨ x = '(' := by
    simp only [valueStart, CharSet.contains, List.any_cons, List.any_nil, CharItem.contains_kind,
      CharItem.contains_single, CharKind.holds, Bool.bne_false, Bool.or_false, Bool.or_eq_true,
      beq_iff_eq]
  unfold SplicesValue
  simp only [begins_oneOf_iff (List.cons_ne_nil _ _), List.mem_cons, List.not_mem_nil, or_false,
    exists_eq_or_imp, exists_eq_left, begins_concat_iff, List.append_nil, begins_char_iff,
    begins_blankRun_iff, begins_set_iff, hstart]
  simp only [↓exists_piece_iff, begins_nil, and_true]

/-- The first branch is a query to which something is added. -/
theorem exists_begins_concatenation_iff :
    (∃ before after, line = before ++ after ∧ Begins [concatenation] before after) ↔
      ConcatenatesQuery line := by
  unfold ConcatenatesQuery
  simp only [concatenation, begins_concat_iff, List.append_nil,
    begins_query_anyOf_iff isWord_of_mem_templateQuotes, begins_anyOf_iff, begins_blankRun_iff,
    begins_splice_iff]
  simp only [↓exists_piece_iff]

/-- The second branch is a query with a placeholder in a formatted string. -/
theorem exists_begins_interpolation_iff :
    (∃ before after, line = before ++ after ∧ Begins [interpolation] before after) ↔
      InterpolatesQuery line := by
  have hstart : ∀ u, u = ['f'] → u.head?.any isWord = true := by
    rintro _ rfl
    decide
  have hbrace : isWord '\x7b' = false := by decide
  unfold InterpolatesQuery
  simp only [interpolation, begins_concat_iff, List.append_nil,
    begins_boundary_of_accepts (accepts_char 'f') hstart, begins_query_char_iff hbrace,
    begins_anyOf_iff, begins_char_iff]
  simp only [↓exists_condition_iff, ↓exists_word_iff, ↓exists_piece_iff, begins_nil, and_true]

/-- The third branch is a query with a placeholder in a template. -/
theorem exists_begins_template_iff :
    (∃ before after, line = before ++ after ∧ Begins [template] before after) ↔
      TemplatesQuery line := by
  have hdollar : isWord '$' = false := by decide
  unfold TemplatesQuery
  simp only [template, begins_concat_iff, List.append_nil, begins_query_char_iff hdollar,
    begins_char_iff]
  simp only [↓exists_word_iff, ↓exists_piece_iff, begins_nil, and_true]

/-- The last branch is a query on which a method for formatting is called. -/
theorem exists_begins_formatting_iff :
    (∃ before after, line = before ++ after ∧ Begins [formatting] before after) ↔
      FormatsQuery line := by
  have hquotes : ∀ x ∈ quotes, isWord x = false := fun x hx =>
    isWord_of_mem_templateQuotes x (mem_templateQuotes_of_mem_quotes hx)
  unfold FormatsQuery
  simp only [formatting, begins_concat_iff, List.append_nil, begins_query_anyOf_iff hquotes,
    begins_anyOf_iff, begins_blankRun_iff, begins_chars_iff, begins_char_iff]
  simp only [↓exists_word_iff, ↓exists_piece_iff, begins_nil, and_true]

/-- The rule flags a line exactly if a value is spliced into a query in one of the four ways. -/
theorem flags_sqlInjection_iff :
    flags "sql-injection" line = true ↔ ConcatenatesQuery line ∨ InterpolatesQuery line ∨
      TemplatesQuery line ∨ FormatsQuery line := by
  have hmem : sqlInjection ∈ definitions := by simp [definitions]
  have hflags := flags_eq_true_iff hmem ofText_sqlInjection line
  simp only [begins_oneOf_iff (List.cons_ne_nil _ _), List.mem_cons, List.not_mem_nil, or_false,
    exists_eq_or_imp, exists_eq_left, and_or_left, exists_or, exists_begins_concatenation_iff,
    exists_begins_interpolation_iff, exists_begins_template_iff,
    exists_begins_formatting_iff] at hflags
  exact hflags

/-! ## A query and its parameters -/

/-- The text has no quotes. -/
def Unquoted (text : List Char) : Prop := ∀ x ∈ text, x ∉ templateQuotes

/-- Texts without quotes have none together. -/
theorem Unquoted.append {text more : List Char} (htext : Unquoted text) (hmore : Unquoted more) :
    Unquoted (text ++ more) := by
  intro x hx
  rcases List.mem_append.1 hx with hx | hx
  · exact htext x hx
  · exact hmore x hx

/-- None of the quotes is in such a text. -/
theorem Unquoted.notMem {text : List Char} (htext : Unquoted text) {x : Char}
    (hx : x ∈ templateQuotes) : x ∉ text := fun hmem => htext x hmem hx

/-- A fixed text is checked character by character. -/
theorem unquoted_of_all {text : List Char}
    (h : (text.all fun x => decide (x ∉ templateQuotes)) = true) : Unquoted text :=
  List.all_iff_forall_prop.1 h

/-- No blanks lead up to a comma that comes at once. -/
theorem eq_of_blanks_append_eq_comma {blanks after args : List Char} (hblanks : AllBlank blanks)
    (h : blanks ++ after = [','] ++ args) : after = [','] ++ args := by
  cases blanks with
  | nil => exact h
  | cons x blanks =>
    obtain ⟨rfl, -⟩ := List.cons.inj h
    exact absurd (hblanks ',' List.mem_cons_self) (by decide)

section Parameters

variable {text args : List Char} {first last : Char} (hbefore : Unquoted before)
  (htext : Unquoted text) (hargs : Unquoted ([','] ++ args))

include hbefore htext hargs

/-- Of two quotes on the line, the second is the one in front of the comma. -/
theorem eq_comma_of_quotes {x y : Char} {u v w : List Char} (hx : x ∈ templateQuotes)
    (hy : y ∈ templateQuotes)
    (h : before ++ [first] ++ text ++ [last] ++ ([','] ++ args) = u ++ [x] ++ v ++ [y] ++ w) :
    w = [','] ++ args := by
  obtain ⟨-, -, -, -, hw⟩ := marks_unique
    ⟨hbefore.notMem hx, htext.notMem hx, hargs.notMem hx⟩ ⟨htext.notMem hy, hargs.notMem hy⟩ h
  exact hw

/-- A query with separate arguments is added to nothing. -/
theorem not_concatenatesQuery :
    ¬ ConcatenatesQuery (before ++ [first] ++ text ++ [last] ++ ([','] ++ args)) := by
  rintro ⟨before', first', hfirst, blanks, -, text', -, last', hlast, blanks', hblanks', after,
    hline, hafter⟩
  have hparts : before ++ [first] ++ text ++ [last] ++ ([','] ++ args) =
      before' ++ [first'] ++ (blanks ++ text') ++ [last'] ++ (blanks' ++ after) := by
    rw [hline]
    simp only [List.append_assoc]
  obtain rfl := eq_of_blanks_append_eq_comma hblanks'
    (eq_comma_of_quotes hbefore htext hargs hfirst hlast hparts)
  rcases hafter with ⟨rest, hsign⟩ | ⟨blanks, -, x, -, rest, hsign⟩
  · exact absurd (List.cons.inj hsign).1 (by decide)
  · exact absurd (List.cons.inj hsign).1 (by decide)

theorem not_formatsQuery :
    ¬ FormatsQuery (before ++ [first] ++ text ++ [last] ++ ([','] ++ args)) := by
  rintro ⟨before', first', hfirst, text', -, last', hlast, blanks, hblanks, blanks', -, after,
    hline⟩
  have hparts : before ++ [first] ++ text ++ [last] ++ ([','] ++ args) = before' ++ [first'] ++
      text' ++ [last'] ++ (blanks ++ (".format".toList ++ blanks' ++ ['('] ++ after)) := by
    rw [hline]
    simp only [List.append_assoc]
  have hcall := eq_of_blanks_append_eq_comma hblanks (eq_comma_of_quotes hbefore htext hargs
    (mem_templateQuotes_of_mem_quotes hfirst) (mem_templateQuotes_of_mem_quotes hlast) hparts)
  exact absurd (List.cons.inj hcall).1 (by decide)

/-- A marked query would have its mark in front of the first quote, or its verb behind the second.
-/
theorem not_interpolatesQuery (hmark : before.getLast? ≠ some 'f') :
    ¬ InterpolatesQuery (before ++ [first] ++ text ++ [last] ++ ([','] ++ args)) := by
  rintro ⟨before', -, first', hfirst, _, ⟨verb, hverb, more, rfl, -, -⟩, after, hline⟩
  have hquote := mem_templateQuotes_of_mem_quotes hfirst
  have hparts : before ++ [first] ++ text ++ [last] ++ ([','] ++ args) =
      (before' ++ ['f']) ++ [first'] ++ (verb ++ (more ++ ['\x7b'] ++ after)) := by
    rw [hline]
    simp only [List.append_assoc]
  rcases mark_cases (hbefore.notMem hquote) (htext.notMem hquote) (hargs.notMem hquote) hparts with
    ⟨hfront, -, -⟩ | ⟨-, -, hback⟩
  · exact hmark (by rw [← hfront, List.getLast?_concat])
  · have hverbs : ∀ verb ∈ verbs, verb ≠ [] ∧ ',' ∉ verb := by decide
    obtain ⟨hne, hcomma⟩ := hverbs verb hverb
    cases verb with
    | nil => exact hne rfl
    | cons x verb =>
      obtain ⟨rfl, -⟩ := List.cons.inj hback
      exact hcomma List.mem_cons_self

/-- The line has no quotes of a template. -/
theorem not_templatesQuery (hfirst : first ∈ quotes) (hlast : last ∈ quotes) :
    ¬ TemplatesQuery (before ++ [first] ++ text ++ [last] ++ ([','] ++ args)) := by
  rintro ⟨before', text', -, after, hline⟩
  have hback : '\x60' ∈ templateQuotes := by decide
  have hquote {x : Char} (hx : x ∈ quotes) : '\x60' ∉ [x] := fun hmem =>
    absurd (List.mem_singleton.1 hmem ▸ hx) (by decide)
  have hnone : '\x60' ∉ before ++ [first] ++ text ++ [last] ++ ([','] ++ args) :=
    List.not_mem_append (List.not_mem_append (List.not_mem_append (List.not_mem_append
      (hbefore.notMem hback) (hquote hfirst)) (htext.notMem hback)) (hquote hlast))
      (hargs.notMem hback)
  rw [hline] at hnone
  exact hnone (by simp)

end Parameters

/-- A query that a value is added to is flagged if it has at most 500 characters behind its verb,
and a query that is followed by its parameters is not flagged at all. -/
theorem flags_sqlInjection_query {verb more : List Char} (hverb : verb ∈ verbs)
    (hmore : Unquoted more) :
    (∀ before first last blanks after, first ∈ templateQuotes → last ∈ templateQuotes →
      AllBlank blanks → more.length ≤ 500 → BeginsOffWord more →
      flags "sql-injection"
        (before ++ [first] ++ verb ++ more ++ [last] ++ blanks ++ ['+'] ++ after) = true) ∧
    ∀ before first last args, Unquoted before → before.getLast? ≠ some 'f' → first ∈ quotes →
      last ∈ quotes → Unquoted args →
      flags "sql-injection" (before ++ [first] ++ verb ++ more ++ [last] ++ [','] ++ args) =
        false := by
  constructor
  · intro before first last blanks after hfirst hlast hblanks hlength hword
    rw [flags_sqlInjection_iff]
    left
    exact ⟨before, first, hfirst, [], by simp [AllBlank], verb ++ more,
      ⟨verb, hverb, more, rfl, hword, hmore, Nat.zero_le _, hlength⟩, last, hlast, blanks, hblanks,
      ['+'] ++ after, by simp, .inl ⟨after, rfl⟩⟩
  · intro before first last args hbefore hmark hfirst hlast hargs
    have hverbs : ∀ verb ∈ verbs, (verb.all fun x => decide (x ∉ templateQuotes)) = true := by
      decide
    have htext : Unquoted (verb ++ more) := (unquoted_of_all (hverbs verb hverb)).append hmore
    have hcomma : Unquoted ([','] ++ args) := (unquoted_of_all (by decide)).append hargs
    have hline : before ++ [first] ++ verb ++ more ++ [last] ++ [','] ++ args =
        before ++ [first] ++ (verb ++ more) ++ [last] ++ ([','] ++ args) := by
      simp only [List.append_assoc]
    rw [hline, ← Bool.not_eq_true, flags_sqlInjection_iff]
    -- Every way of splicing asks for a sign behind the query that the comma does not give.
    rintro (hspliced | hspliced | hspliced | hspliced)
    · exact not_concatenatesQuery hbefore htext hcomma hspliced
    · exact not_interpolatesQuery hbefore htext hcomma hmark hspliced
    · exact not_templatesQuery hbefore htext hcomma hfirst hlast hspliced
    · exact not_formatsQuery hbefore htext hcomma hspliced

/-- The same query with the name added to it and with the name as a parameter. -/
theorem flags_sqlInjection_query_select :
    flags "sql-injection" ("query = ".toList ++ ['"'] ++ "SELECT".toList ++
      " id FROM t WHERE n = ".toList ++ ['\''] ++ [' '] ++ ['+'] ++ " name;".toList) = true ∧
    flags "sql-injection" ("db.run(".toList ++ ['"'] ++ "SELECT".toList ++
      " id FROM t WHERE n = ".toList ++ ['"'] ++ [','] ++
      " \x7b\x7d.format(name) % (x))".toList) = false := by
  have hmore : Unquoted " id FROM t WHERE n = ".toList := unquoted_of_all (by decide)
  have hverb : "SELECT".toList ∈ verbs := by decide
  have hboth := flags_sqlInjection_query hverb hmore
  constructor
  · refine hboth.1 _ _ _ _ _ (by decide) (by decide) ?_ (by decide) ?_
    · exact fun x hx => List.mem_singleton.1 hx ▸ rfl
    · exact fun x hx => Option.some.inj hx ▸ rfl
  · exact hboth.2 _ _ _ _ (unquoted_of_all (by decide)) (by decide) (by decide) (by decide)
      (unquoted_of_all (by decide))

end Catalog

end CodeScan
