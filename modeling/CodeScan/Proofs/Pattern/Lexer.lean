import CodeScan.Pattern.Parser
import Mathlib.Data.List.Basic
import Mathlib.Tactic.SplitIfs

/-!
# Nothing of a pattern is passed over

A source is read as pieces, and pieces as tokens.  The pieces make up the source again
(`text_pieces`), and every token takes its pieces from the front and leaves the others
(`suffix_token`).

The reader of tokens and the reader of sets are given a number that bounds their steps.  As each
step takes a piece at least, a number above that of the pieces is never used up: any such number
gives the same tokens (`tokensFrom_of_length_lt`, `readSet_of_length_lt`), so the number is no part
of what a pattern is.
-/

namespace CodeScan

namespace Pattern

variable {database? : Option CharacterDatabase} {total position start : Nat} {rest : List Piece}

/-! ## Pieces -/

/-- The pieces of a source are the source again, up to a lone backslash at its end. -/
theorem text_pieces (position : Nat) (source : Text) :
    (pieces position source).1.flatMap (fun piece => piece.2.text) ++
      ((pieces position source).2.toList.map fun _ => CodePoint.char '\\') = source := by
  fun_induction pieces position source with
  | case1 => rfl
  | case2 => rfl
  | case3 position c rest more dangling heq ih =>
    rw [heq] at ih
    simp [Sign.text, ← ih]
  | case4 position c rest _ _ more dangling heq ih =>
    rw [heq] at ih
    simp [Sign.text, ← ih]

/-- Every piece stands for a code point of the source at least. -/
theorem length_pieces_le (position : Nat) (source : Text) :
    (pieces position source).1.length ≤ source.length := by
  fun_induction pieces position source with
  | case1 => exact Nat.le_refl 0
  | case2 => exact Nat.zero_le 1
  | case3 position c rest more dangling heq ih =>
    rw [heq] at ih
    simp only [List.length_cons] at ih ⊢
    omega
  | case4 position c rest _ _ more dangling heq ih =>
    rw [heq] at ih
    simpa using ih

/-! ## Parts of tokens -/

/-- A token that took its pieces leaves the others. -/
@[simp] theorem rest_lexed (token : Token) (rest : List Piece) : (lexed token rest).rest = rest :=
  rfl

/-- The token of what was read leaves what the reading left. -/
@[simp] theorem Reading.rest_lexed {α : Type} (reading : Reading α) (token : α → Token) :
    (reading.lexed token).rest = reading.rest := by
  rw [Reading.lexed]
  split <;> rfl

/-- Characters are taken from the front. -/
theorem suffix_spanChars (test : Char → Bool) (most : Nat) (rest : List Piece) :
    (spanChars test most rest).2 <:+ rest := by
  fun_induction spanChars test most rest with
  | case3 most position rest c _ found after heq ih =>
    rw [heq] at ih
    exact ih.trans (List.suffix_cons _ _)
  | _ => exact List.suffix_rfl

/-- A name is taken from the front. -/
theorem suffix_readName (named : PatternName) (name : Text) :
    (readName total named start name rest).rest <:+ rest := by
  fun_induction readName total named start name rest with
  | case1 => exact List.suffix_rfl
  | case2 => exact List.suffix_cons _ _
  | case3 name position sign rest _ ih => exact ih.trans (List.suffix_cons _ _)

/-- An escape with digits is taken from the front. -/
theorem suffix_digitEscape (inSet : Bool) (digit : Char) :
    (digitEscape inSet position digit rest).rest <:+ rest := by
  simp only [digitEscape]
  split_ifs <;> first | exact suffix_spanChars _ _ _ | exact List.suffix_rfl

/-- A character by its name is taken from the front. -/
theorem suffix_nameEscape : (nameEscape database? total position rest).rest <:+ rest := by
  rw [nameEscape.eq_def]
  split
  · exact (suffix_readName _ _).trans (List.suffix_cons _ _)
  · exact List.suffix_rfl

/-- An escape for a code point is taken from the front. -/
theorem suffix_codePointEscape (inSet : Bool) (c : CodePoint) :
    (codePointEscape database? total inSet position c rest).rest <:+ rest := by
  rw [codePointEscape.eq_def]
  split
  · exact List.suffix_rfl
  · exact suffix_spanChars _ _ _
  · exact suffix_spanChars _ _ _
  · exact suffix_spanChars _ _ _
  · exact suffix_nameEscape
  · split
    · exact List.suffix_rfl
    · split_ifs
      · exact suffix_digitEscape _ _
      · exact List.suffix_rfl
      · exact List.suffix_rfl

/-- An escape outside a set is taken from the front. -/
theorem suffix_escapeToken (c : CodePoint) :
    (escapeToken database? total position c rest).rest <:+ rest := by
  rw [escapeToken]
  split
  · exact List.suffix_rfl
  · exact List.suffix_rfl
  · rw [Reading.rest_lexed]
    exact suffix_codePointEscape _ _

/-! ## Sets -/

/-- The entry of a set is taken from the front. -/
theorem suffix_setItem (sign : Sign) :
    (setItem database? total position sign rest).rest <:+ rest := by
  rw [setItem.eq_def]
  split
  · exact List.suffix_rfl
  · exact List.suffix_rfl
  · split
    · exact List.suffix_rfl
    · exact suffix_codePointEscape _ _

/-- One step of reading a set, whatever number bounds it: the set ends here, or it goes on with an
entry more and with fewer pieces. -/
theorem readSet_cons (negated : Bool) (items : List CharItem) (piece : Piece)
    (rest : List Piece) :
    (∃ set : Lexed, set.rest <:+ rest ∧
      ∀ budget, readSet database? total start negated (budget + 1) items (piece :: rest) = set) ∨
    ∃ more after, after <:+ rest ∧
      ∀ budget, readSet database? total start negated (budget + 1) items (piece :: rest) =
        readSet database? total start negated budget more after := by
  obtain ⟨position, sign⟩ := piece
  simp only [readSet]
  have hitem := @suffix_setItem database? total position rest sign
  generalize setItem database? total position sign rest = reading at hitem
  obtain ⟨outcome, after⟩ := reading
  by_cases hclosing : sign = .plain (.char ']') ∧ items ≠ []
  · exact .inl ⟨_, List.suffix_rfl, fun _ => if_pos hclosing⟩
  simp only [if_neg hclosing]
  split
  · exact .inl ⟨_, hitem, fun _ => rfl⟩
  · exact .inl ⟨_, List.nil_suffix, fun _ => rfl⟩
  · rename_i lastPosition lastSign after
    have htail : after <:+ rest := (List.suffix_cons _ _).trans ((List.suffix_cons _ _).trans hitem)
    have hlast := (@suffix_setItem database? total lastPosition after lastSign).trans htail
    generalize setItem database? total lastPosition lastSign after = reading at hlast
    obtain ⟨outcome, last⟩ := reading
    -- A minus sign right before the closing bracket is an entry, else it makes a range.
    by_cases hmark : lastSign = .plain (.char ']')
    · exact .inl ⟨_, htail, fun _ => if_pos hmark⟩
    simp only [if_neg hmark]
    split
    · exact .inl ⟨_, hlast, fun _ => rfl⟩
    · split
      · rename_i first final
        by_cases horder : final < first
        · exact .inl ⟨_, hlast, fun _ => if_pos horder⟩
        · exact .inr ⟨_, _, hlast, fun _ => if_neg horder⟩
      · exact .inl ⟨_, hlast, fun _ => rfl⟩
  · exact .inr ⟨_, _, hitem, fun _ => rfl⟩

/-- A set is taken from the front. -/
theorem suffix_readSet (negated : Bool) (budget : Nat) (items : List CharItem) :
    (readSet database? total start negated budget items rest).rest <:+ rest := by
  induction budget generalizing items rest with
  | zero => exact List.suffix_rfl
  | succ budget ih =>
    cases rest with
    | nil => exact List.suffix_rfl
    | cons piece rest =>
      rcases readSet_cons negated items piece rest with
        ⟨set, hset, hread⟩ | ⟨more, after, hafter, hread⟩
      · exact (hread budget ▸ hset).trans (List.suffix_cons _ _)
      · rw [hread budget]
        exact ((ih more).trans hafter).trans (List.suffix_cons _ _)

/-- All numbers above that of the pieces give the same set. -/
theorem readSet_of_length_lt (negated : Bool) {budget more : Nat} (items : List CharItem)
    (hbudget : rest.length < budget) (hmore : rest.length < more) :
    readSet database? total start negated budget items rest =
      readSet database? total start negated more items rest := by
  induction budget generalizing more items rest with
  | zero => cases hbudget
  | succ budget ih =>
    obtain ⟨more, rfl⟩ := Nat.exists_eq_succ_of_ne_zero (Nat.ne_zero_of_lt hmore)
    cases rest with
    | nil => rfl
    | cons piece rest =>
      rcases readSet_cons negated items piece rest with
        ⟨set, -, hread⟩ | ⟨further, after, hafter, hread⟩
      · rw [hread, hread]
      · have hle := hafter.length_le
        rw [List.length_cons] at hbudget hmore
        rw [hread, hread]
        exact ih further (by omega) (by omega)

/-- A set is taken from the front, with the sign that negates it. -/
theorem suffix_setToken : (setToken database? total start rest).rest <:+ rest := by
  rw [setToken.eq_def]
  split
  · exact (suffix_readSet _ _ _).trans (List.suffix_cons _ _)
  · exact suffix_readSet _ _ _

/-! ## Tokens -/

/-- A bounded repeat is taken from the front. -/
theorem suffix_braceToken : (braceToken start rest).rest <:+ rest := by
  rw [braceToken.eq_def]
  split
  · exact List.suffix_rfl
  · have hlower := suffix_spanChars Char.isDigit rest.length rest
    simp only
    generalize spanChars Char.isDigit rest.length rest = lower at hlower ⊢
    obtain ⟨lower, afterLower⟩ := lower
    replace hlower : afterLower <:+ rest := hlower
    split
    · rename_i mark after hclosing
      have htail : after <:+ rest := by
        refine (List.suffix_cons (mark, Sign.plain (.char '\x7d')) after).trans ?_
        rw [← hclosing]
        split
        · rename_i comma more hcomma
          replace hcomma : afterLower = (comma, .plain (.char ',')) :: more := hcomma
          rw [hcomma] at hlower
          exact ((suffix_spanChars _ _ _).trans (List.suffix_cons _ _)).trans hlower
        · exact hlower
      split
      · exact htail
      · split_ifs <;> exact htail
    · -- A brace that starts no repeat is a character, and its digits are read again.
      exact List.suffix_rfl

/-- A comment is taken from the front. -/
theorem suffix_commentToken : (commentToken start rest).rest <:+ rest := by
  fun_induction commentToken start rest with
  | case1 => exact List.suffix_rfl
  | case2 => exact List.suffix_cons _ _
  | case3 piece rest _ ih => exact ih.trans (List.suffix_cons _ _)

/-- The opening of a group with a name is taken from the front. -/
theorem suffix_namedGroup : (namedGroup database? total start rest).rest <:+ rest := by
  rw [namedGroup, Reading.rest_lexed]
  exact suffix_readName _ _

/-- The opening of a group is taken from the front. -/
theorem suffix_groupToken : (groupToken database? total start rest).rest <:+ rest := by
  rw [groupToken.eq_def]
  split
  · rename_i mark rest
    refine List.IsSuffix.trans ?_ (List.suffix_cons _ _)
    simp only
    split
    · exact List.suffix_rfl
    · exact List.suffix_cons _ _
    · exact List.suffix_cons _ _
    · exact List.suffix_cons _ _
    · exact suffix_commentToken.trans (List.suffix_cons _ _)
    · exact List.suffix_cons _ _
    · exact List.suffix_cons _ _
    · refine List.IsSuffix.trans ?_ (List.suffix_cons _ _)
      split
      · exact List.suffix_rfl
      all_goals exact List.suffix_cons _ _
    · refine List.IsSuffix.trans ?_ (List.suffix_cons _ _)
      split
      · exact List.suffix_rfl
      · exact suffix_namedGroup.trans (List.suffix_cons _ _)
      all_goals exact List.suffix_cons _ _
    · split_ifs <;> exact List.suffix_cons _ _
    · exact List.suffix_cons _ _
  · exact List.suffix_rfl

/-- Every token is taken from the front: what it leaves is the end of what was there. -/
theorem suffix_token (piece : Piece) : (token database? total piece rest).rest <:+ rest := by
  obtain ⟨position, sign⟩ := piece
  cases sign with
  | escaped c => exact suffix_escapeToken c
  | plain c =>
    simp only [token]
    split
    case h_7 => exact suffix_braceToken
    case h_8 => exact suffix_setToken
    case h_9 => exact suffix_groupToken
    all_goals exact List.suffix_rfl

/-- All numbers above that of the pieces give the same tokens. -/
theorem tokensFrom_of_length_lt (dangling : Option Nat) {budget more : Nat}
    (hbudget : rest.length < budget) (hmore : rest.length < more) :
    tokensFrom database? total dangling budget rest =
      tokensFrom database? total dangling more rest := by
  induction budget generalizing more rest with
  | zero => cases hbudget
  | succ budget ih =>
    obtain ⟨more, rfl⟩ := Nat.exists_eq_succ_of_ne_zero (Nat.ne_zero_of_lt hmore)
    cases rest with
    | nil => rfl
    | cons piece rest =>
      have hle := (@suffix_token database? total rest piece).length_le
      rw [List.length_cons] at hbudget hmore
      have hrest : tokensFrom database? total dangling budget
            (token database? total piece rest).rest =
          tokensFrom database? total dangling more (token database? total piece rest).rest :=
        ih (by omega) (by omega)
      simp only [tokensFrom, hrest]

/-- The tokens of a source, with any number above its length as the bound. -/
theorem tokens_eq_tokensFrom (source : Text) {budget : Nat} (h : source.length < budget) :
    tokens database? source =
      tokensFrom database? source.length (pieces 0 source).2 budget (pieces 0 source).1 :=
  tokensFrom_of_length_lt _ (Nat.lt_succ_self _)
    (Nat.lt_of_le_of_lt (length_pieces_le 0 source) h)

end Pattern

end CodeScan
