import CodeScan.Proofs.Json.Ascii
import CodeScan.Proofs.Json.Number
import CodeScan.Proofs.Json.Strings

/-!
# Written JSON reads back

Not every value can come from a text: the names of an object are distinct, an integer has a limited
number of digits and a float is canonical.  These are the conditions of `WellFormed`, and they are
all that is needed for a value that is written to be read, whatever follows it (`readValue_write`,
`read_write`).  What is read is the same value with the halves of surrogate pairs joined in its
texts; names of members that are the same after that are one name.

A well-formed value is a value on texts of some kind.  With the texts in which no halves stand side
by side these are the values that read back as they are (`joined_eq_self`); with all texts they are
all values that a text can write.

Reading recurses on a budget.  A written value costs no more than twice its length: each of the
calls for an element or a member has a separator or a bracket to itself.
-/

namespace CodeScan

namespace Json

section Kinds

variable (P : Text → Prop)

mutual

/-- The values that a text can write, on strings and names of a given kind. -/
def WellFormed : Json → Prop
  | .null | .bool _ => True
  | .int n => n.natAbs < 10 ^ maxDigits
  | .float x => x.IsCanonical
  | .string t => P t
  | .array items => AreWellFormed items
  | .object members => (members.map Prod.fst).Nodup ∧ MembersWellFormed members

/-- The elements of an array that a text can write. -/
def AreWellFormed : List Json → Prop
  | [] => True
  | item :: rest => item.WellFormed ∧ AreWellFormed rest

/-- The members of an object that a text can write. -/
def MembersWellFormed : List (Text × Json) → Prop
  | [] => True
  | (name, value) :: rest => P name ∧ value.WellFormed ∧ MembersWellFormed rest

end

end Kinds

mutual

/-- A value with the halves of surrogate pairs joined in all its texts.  Of several members that
have one name then, the last one counts. -/
def joined : Json → Json
  | .null => .null
  | .bool b => .bool b
  | .int n => .int n
  | .float x => .float x
  | .string t => .string t.joined
  | .array items => .array (joinedItems items)
  | .object members => .object (Members.ofPairs (joinedMembers members))

/-- The elements of an array with joined texts. -/
def joinedItems : List Json → List Json
  | [] => []
  | item :: rest => item.joined :: joinedItems rest

/-- The members of an object with joined texts, whether or not their names still differ. -/
def joinedMembers : List (Text × Json) → List (Text × Json)
  | [] => []
  | (name, value) :: rest => (name.joined, value.joined) :: joinedMembers rest

end

variable {P : Text → Prop}

/-! ## Blanks -/

/-- Nothing is skipped before a character that is no blank. -/
theorem skipSpace_cons {c : Char} (hc : isSpace c = false) (rest : Text) :
    skipSpace (.char c :: rest) = .char c :: rest :=
  List.dropWhile_cons_of_neg (by simp [CodePoint.satisfies, hc])

theorem skipSpace_blank_cons (rest : Text) : skipSpace (.char ' ' :: rest) = skipSpace rest :=
  List.dropWhile_cons_of_pos rfl

/-- A character with which a value starts. -/
def isOpening (c : Char) : Bool :=
  c.isDigit || ['"', '[', '\x7b', '-', 'n', 't', 'f', 'N', 'I'].contains c

/-- No value starts with a blank, nor with what closes an array or an object. -/
theorem isOpening_spec {c : Char} (h : isOpening c = true) :
    isSpace c = false ∧ c ≠ ']' ∧ c ≠ '\x7d' := by
  have hother : ∀ x ∈ [' ', '\t', '\n', '\r', ']', '\x7d'], c ≠ x := by
    rintro x hx rfl
    have hnone : [' ', '\t', '\n', '\r', ']', '\x7d'].any isOpening = false := by decide
    exact List.any_eq_false.1 hnone c hx h
  simp only [List.forall_mem_cons, List.not_mem_nil, false_implies, implies_true] at hother
  obtain ⟨hblank, htab, hfeed, hreturn, hbracket, hbrace, -⟩ := hother
  exact ⟨by simp [isSpace, hblank, htab, hfeed, hreturn], hbracket, hbrace⟩

/-! ## Scalars -/

/-- A word that could be dropped was there. -/
theorem eq_append_of_dropWord? {word source rest : Text} (h : dropWord? word source = some rest) :
    source = word ++ rest := by
  fun_induction dropWord? word source with
  | case1 source =>
    cases h
    rfl
  | case2 w word source ih => rw [ih h, List.cons_append]
  | _ => cases h

/-- A scalar is a word or a number, and an integer among the numbers is not too long. -/
theorem readScalar_cases {source rest : Text} {v : Json} (h : readScalar source = .ok (v, rest)) :
    (∃ word, (word, v) ∈ constants ∧ source = word ++ rest) ∨
      ∃ negative number, source = signed negative number ∧
        readMagnitude? negative number = some (v, rest) ∧
        ∀ n, v = .int n → (spanDigits number).1.length ≤ maxDigits := by
  have hfound : (constant? source).or (number? source) = some (v, rest) ∧
      ∀ n, v = .int n → digitCount source ≤ maxDigits := by
    rw [readScalar_eq] at h
    generalize (constant? source).or (number? source) = found at h
    unfold scalarOf at h
    split at h
    · split at h
      · cases h
      · rename_i hlength
        cases h
        exact ⟨rfl, fun _ _ => not_lt.1 hlength⟩
    · rename_i result hother
      cases h
      exact ⟨rfl, fun n hn => absurd (hn ▸ rfl) (hother n rest)⟩
    · cases h
  obtain ⟨hfound, hlength⟩ := hfound
  rcases Option.or_eq_some_iff.1 hfound with hconstant | ⟨-, hnumber⟩
  · obtain ⟨⟨word, value⟩, hmem, hword⟩ := List.exists_of_findSome?_eq_some hconstant
    obtain ⟨rest, hrest, heq⟩ := Option.map_eq_some_iff.1 hword
    cases heq
    exact .inl ⟨word, hmem, eq_append_of_dropWord? hrest⟩
  · right
    unfold number? at hnumber
    split at hnumber
    · rename_i number
      exact ⟨true, number, rfl, hnumber, hlength⟩
    · rename_i hminus
      refine ⟨false, source, rfl, hnumber, fun n hn => ?_⟩
      have hcount := hlength n hn
      rwa [digitCount] at hcount
      exact hminus

/-- A scalar starts like a value, but not like a string, an array or an object. -/
theorem exists_opening_of_readScalar {source : Text} {result : Json × Text}
    (h : readScalar source = .ok result) :
    ∃ c more, source = .char c :: more ∧ isOpening c = true ∧ c ∉ ['"', '[', '\x7b'] := by
  rcases readScalar_cases h with ⟨word, hword, rfl⟩ | ⟨negative, number, rfl, hnumber, -⟩
  · simp only [constants, List.mem_cons, Prod.mk.injEq, List.not_mem_nil, or_false] at hword
    rcases hword with ⟨rfl, -⟩ | ⟨rfl, -⟩ | ⟨rfl, -⟩ | ⟨rfl, -⟩ | ⟨rfl, -⟩ | ⟨rfl, -⟩ <;>
      exact ⟨_, _, rfl, by decide, by decide⟩
  · obtain ⟨c, more, rfl, hc⟩ := exists_digit_of_readMagnitude? negative hnumber
    cases negative with
    | true => exact ⟨'-', _, rfl, by decide, by decide⟩
    | false =>
      refine ⟨c, more, rfl, by rw [isOpening, hc, Bool.true_or], fun hmem => ?_⟩
      have hnone : ['"', '[', '\x7b'].any Char.isDigit = false := by decide
      exact List.any_eq_false.1 hnone c hmem hc

/-- A scalar is read by the reader of values. -/
theorem readValue_of_readScalar {source : Text} {result : Json × Text}
    (h : readScalar source = .ok result) (budget : Nat) :
    readValue (budget + 1) source = .ok result := by
  obtain ⟨c, more, rfl, -, hother⟩ := exists_opening_of_readScalar h
  simp only [List.mem_cons, List.not_mem_nil, or_false, not_or] at hother
  rw [readValue, h]
  all_goals simp_all

/-! ## Values -/

theorem ended_nil : Ended [] := fun _ hc => nomatch hc

/-- A value may end before what closes or separates. -/
theorem ended_cons {x : Char} (hx : x ∈ closers) (rest : Text) : Ended (.char x :: rest) := by
  rintro c hc
  cases hc
  exact ⟨x, hx, rfl⟩

/-- A comma and a blank separate values. -/
theorem ended_comma (rest : Text) : Ended (.char ',' :: .char ' ' :: rest) :=
  ended_cons (by decide) _

/-- A written value starts with a character with which values start. -/
theorem exists_opening_write {v : Json} (hv : v.WellFormed P) :
    ∃ c more, v.write = .char c :: more ∧ isOpening c = true := by
  cases v with
  | null => exact ⟨'n', _, rfl, by decide⟩
  | bool b =>
    cases b with
    | true => exact ⟨'t', _, rfl, by decide⟩
    | false => exact ⟨'f', _, rfl, by decide⟩
  | int n =>
    have hread := readScalar_ofInt hv ended_nil
    obtain ⟨c, more, hsource, hc, -⟩ := exists_opening_of_readScalar hread
    exact ⟨c, more, by rw [write, ← hsource, List.append_nil], hc⟩
  | float x =>
    have hread := readScalar_toText hv ended_nil
    obtain ⟨c, more, hsource, hc, -⟩ := exists_opening_of_readScalar hread
    exact ⟨c, more, by rw [write, ← hsource, List.append_nil], hc⟩
  | string t => exact ⟨'"', _, rfl, by decide⟩
  | array items => exact ⟨'[', _, rfl, by decide⟩
  | object members => exact ⟨'\x7b', _, rfl, by decide⟩

/-- No blank is skipped before a written value. -/
theorem skipSpace_write {v : Json} (hv : v.WellFormed P) (rest : Text) :
    skipSpace (v.write ++ rest) = v.write ++ rest := by
  obtain ⟨c, more, hsource, hc⟩ := exists_opening_write hv
  rw [hsource, List.cons_append, skipSpace_cons (isOpening_spec hc).1]

/-- A written value takes at least one code point. -/
theorem length_write_pos {v : Json} (hv : v.WellFormed P) : 0 < v.write.length := by
  obtain ⟨c, more, hsource, -⟩ := exists_opening_write hv
  rw [hsource]
  exact Nat.succ_pos _

/-- Joined pieces start like the first one. -/
theorem exists_join_eq_cons {piece : Text} {c : CodePoint} {more : Text} (h : piece = c :: more)
    (separator : Text) (pieces : List Text) :
    ∃ rest, Text.join separator (piece :: pieces) = c :: rest := by
  cases pieces with
  | nil => exact ⟨more, by rw [Text.join_singleton, h]⟩
  | cons second pieces => exact ⟨_, by rw [Text.join_cons_cons, h, List.cons_append]⟩

/-- Written elements start like a value. -/
theorem exists_join_writeItems {item : Json} (h : item.WellFormed P) (items : List Json) :
    ∃ c rest, Text.join ", " (writeItems (item :: items)) = .char c :: rest ∧
      isOpening c = true := by
  obtain ⟨c, more, hhead, hc⟩ := exists_opening_write h
  obtain ⟨rest, hrest⟩ := exists_join_eq_cons hhead ", " (writeItems items)
  exact ⟨c, rest, hrest, hc⟩

/-- Written members start with a quote. -/
theorem exists_join_writeMembers (member : Text × Json) (members : Members) :
    ∃ rest, Text.join ", " (writeMembers (member :: members)) = .char '"' :: rest :=
  exists_join_eq_cons rfl ", " (writeMembers members)

/-! ## One step of the reader -/

section Steps

variable {budget : Nat} {source rest after : Text} {c : Char}

/-- An array is read from its elements. -/
theorem readValue_bracket (hc : isOpening c = true) {items : List Json}
    (h : readItems budget (.char c :: source) = .ok (items, rest)) :
    readValue (budget + 1) (.char '[' :: .char c :: source) = .ok (.array items, rest) := by
  obtain ⟨hspace, hbracket, -⟩ := isOpening_spec hc
  rw [readValue, skipSpace_cons hspace]
  split
  · rename_i heq
    cases heq
    exact absurd rfl hbracket
  · rw [h]
    rfl

/-- An object is read from its members, of which the last of each name counts. -/
theorem readValue_brace (hc : isOpening c = true) {members : Members}
    (h : readPairs budget (.char c :: source) = .ok (members, rest)) :
    readValue (budget + 1) (.char '\x7b' :: .char c :: source) =
      .ok (.object (Members.ofPairs members), rest) := by
  obtain ⟨hspace, -, hbrace⟩ := isOpening_spec hc
  rw [readValue, skipSpace_cons hspace]
  split
  · rename_i heq
    cases heq
    exact absurd rfl hbrace
  · rw [h]
    rfl

/-- An element before a closing bracket is the last. -/
theorem readItems_last {item : Json} (h : readValue budget source = .ok (item, .char ']' :: rest)) :
    readItems (budget + 1) source = .ok ([item], rest) := by
  rw [readItems, h]
  rfl

/-- An element before a comma is followed by others. -/
theorem readItems_comma {item : Json} {items : List Json}
    (h : readValue budget source = .ok (item, .char ',' :: .char ' ' :: after))
    (hskip : skipSpace after = after) (hafter : readItems budget after = .ok (items, rest)) :
    readItems (budget + 1) source = .ok (item :: items, rest) := by
  rw [readItems, h]
  simp only [bind, Except.bind, skipSpace_cons (c := ',') rfl, skipSpace_blank_cons, hskip, hafter,
    pure, Except.pure]

/-- A member before a closing brace is the last. -/
theorem readPairs_last (name : Text) {value : Json} (hsource : skipSpace source = source)
    (h : readValue budget source = .ok (value, .char '\x7d' :: rest)) :
    readPairs (budget + 1) (writeString name ++ (.char ':' :: .char ' ' :: source)) =
      .ok ([(name.joined, value)], rest) := by
  have htext : writeString name ++ (.char ':' :: .char ' ' :: source) =
      .char '"' ::
        (name.flatMap writeCodePoint ++ .char '"' :: .char ':' :: .char ' ' :: source) := by
    simp [writeString]
  rw [htext, readPairs, readString_write]
  simp only [bind, Except.bind, skipSpace_cons (c := ':') rfl, skipSpace_blank_cons, hsource, h,
    skipSpace_cons (c := '\x7d') rfl, pure, Except.pure]

/-- A member before a comma is followed by others. -/
theorem readPairs_comma (name : Text) {value : Json} {members : Members}
    (hsource : skipSpace source = source)
    (h : readValue budget source = .ok (value, .char ',' :: .char ' ' :: after))
    (hskip : skipSpace after = after) (hafter : readPairs budget after = .ok (members, rest)) :
    readPairs (budget + 1) (writeString name ++ (.char ':' :: .char ' ' :: source)) =
      .ok ((name.joined, value) :: members, rest) := by
  have htext : writeString name ++ (.char ':' :: .char ' ' :: source) =
      .char '"' ::
        (name.flatMap writeCodePoint ++ .char '"' :: .char ':' :: .char ' ' :: source) := by
    simp [writeString]
  rw [htext, readPairs, readString_write]
  simp only [bind, Except.bind, skipSpace_cons (c := ':') rfl, skipSpace_blank_cons, hsource, h,
    skipSpace_cons (c := ',') rfl, hskip, hafter, pure, Except.pure]

end Steps

mutual

/-- A written value reads back with joined texts, whatever follows it. -/
theorem readValue_write (v : Json) (hv : v.WellFormed P) {rest : Text} (hrest : Ended rest)
    {budget : Nat} (hbudget : 2 * v.write.length ≤ budget) :
    readValue budget (v.write ++ rest) = .ok (v.joined, rest) := by
  have hpos := length_write_pos hv
  -- What is written is not empty, so there is budget for one step at least.
  obtain ⟨budget, rfl⟩ : ∃ b, budget = b + 1 := ⟨budget - 1, by omega⟩
  cases v with
  | null => exact readValue_of_readScalar rfl _
  | bool b =>
    cases b with
    | true => exact readValue_of_readScalar rfl _
    | false => exact readValue_of_readScalar rfl _
  | int n => exact readValue_of_readScalar (readScalar_ofInt hv hrest) _
  | float x => exact readValue_of_readScalar (readScalar_toText hv hrest) _
  | string t =>
    have htext : write (.string t) ++ rest =
        .char '"' :: (t.flatMap writeCodePoint ++ .char '"' :: rest) := by
      simp [write, writeString]
    rw [htext, readValue, readString_write]
    rfl
  | array items =>
    have htext : write (.array items) ++ rest =
        .char '[' :: (Text.join ", " (writeItems items) ++ .char ']' :: rest) := by
      simp [write]
    have hlength : (write (.array items)).length =
        (Text.join ", " (writeItems items)).length + 2 := by
      simp [write]
    rw [htext]
    cases items with
    | nil => rfl
    | cons item items =>
      -- The first item does not begin with the closing bracket, so the items are read.
      obtain ⟨c, joined, hjoined, hc⟩ := exists_join_writeItems hv.1 items
      have hread : readItems budget _ = .ok (joinedItems (item :: items), rest) :=
        readItems_write (item :: items) (List.cons_ne_nil _ _) hv rest (by omega)
      rw [hjoined, List.cons_append] at hread ⊢
      exact readValue_bracket hc hread
  | object members =>
    have htext : write (.object members) ++ rest =
        .char '\x7b' :: (Text.join ", " (writeMembers members) ++ .char '\x7d' :: rest) := by
      simp [write]
    have hlength : (write (.object members)).length =
        (Text.join ", " (writeMembers members)).length + 2 := by
      simp [write]
    rw [htext]
    cases members with
    | nil => rfl
    | cons member members =>
      -- A name begins with a quote, so the members are read.
      obtain ⟨joined, hjoined⟩ := exists_join_writeMembers member members
      have hread : readPairs budget _ = .ok (joinedMembers (member :: members), rest) :=
        readPairs_write (member :: members) (List.cons_ne_nil _ _) hv.2 rest (by omega)
      rw [hjoined, List.cons_append] at hread ⊢
      exact readValue_brace (by decide) hread

/-- The written elements of an array read back. -/
theorem readItems_write (items : List Json) (hne : items ≠ []) (hitems : AreWellFormed P items)
    (rest : Text) {budget : Nat}
    (hbudget : 2 * (Text.join ", " (writeItems items)).length + 1 ≤ budget) :
    readItems budget (Text.join ", " (writeItems items) ++ .char ']' :: rest) =
      .ok (joinedItems items, rest) := by
  obtain ⟨budget, rfl⟩ : ∃ b, budget = b + 1 := ⟨budget - 1, by omega⟩
  match items, hne, hitems with
  | [item], _, ⟨hitem, _⟩ =>
    rw [writeItems, writeItems, Text.join_singleton] at hbudget ⊢
    have hended : Ended (.char ']' :: rest) := ended_cons (by decide) rest
    exact readItems_last (readValue_write item hitem hended (by omega))
  | item :: second :: items, _, ⟨hitem, hitems⟩ =>
    have htext : Text.join ", " (writeItems (item :: second :: items)) ++ .char ']' :: rest =
        item.write ++ .char ',' :: .char ' ' ::
          (Text.join ", " (writeItems (second :: items)) ++ .char ']' :: rest) := by
      simp [writeItems, Text.join_cons_cons, Text.ofString]
    have hlength : (Text.join ", " (writeItems (item :: second :: items))).length =
        item.write.length + 2 + (Text.join ", " (writeItems (second :: items))).length := by
      simp [writeItems, Text.join_cons_cons, Text.ofString]
      omega
    obtain ⟨c, joined, hjoined, hc⟩ := exists_join_writeItems hitems.1 items
    have hskip : skipSpace (Text.join ", " (writeItems (second :: items)) ++ .char ']' :: rest) =
        Text.join ", " (writeItems (second :: items)) ++ .char ']' :: rest := by
      rw [hjoined, List.cons_append, skipSpace_cons (isOpening_spec hc).1]
    have hitem := readValue_write item hitem
      (ended_comma (Text.join ", " (writeItems (second :: items)) ++ .char ']' :: rest))
      (show 2 * item.write.length ≤ budget by omega)
    have hrest : readItems budget _ = .ok (joinedItems (second :: items), rest) :=
      readItems_write (second :: items) (List.cons_ne_nil _ _) hitems rest (by omega)
    rw [htext]
    exact readItems_comma hitem hskip hrest

/-- The written members of an object read back. -/
theorem readPairs_write (members : List (Text × Json)) (hne : members ≠ [])
    (hmembers : MembersWellFormed P members) (rest : Text) {budget : Nat}
    (hbudget : 2 * (Text.join ", " (writeMembers members)).length + 1 ≤ budget) :
    readPairs budget (Text.join ", " (writeMembers members) ++ .char '\x7d' :: rest) =
      .ok (joinedMembers members, rest) := by
  obtain ⟨budget, rfl⟩ : ∃ b, budget = b + 1 := ⟨budget - 1, by omega⟩
  match members, hne, hmembers with
  | [(name, value)], _, ⟨_, hvalue, _⟩ =>
    have htext : Text.join ", " (writeMembers [(name, value)]) ++ .char '\x7d' :: rest =
        writeString name ++ (.char ':' :: .char ' ' :: (value.write ++ .char '\x7d' :: rest)) := by
      simp [writeMembers, Text.join_singleton, Text.ofString]
    have hlength : value.write.length ≤ (Text.join ", " (writeMembers [(name, value)])).length := by
      simp [writeMembers, Text.join_singleton, Text.ofString]
      omega
    have hended : Ended (.char '\x7d' :: rest) := ended_cons (by decide) rest
    rw [htext]
    exact readPairs_last name (skipSpace_write hvalue _)
      (readValue_write value hvalue hended (by omega))
  | (name, value) :: second :: members, _, ⟨_, hvalue, hmembers⟩ =>
    have htext : Text.join ", " (writeMembers ((name, value) :: second :: members)) ++
        .char '\x7d' :: rest = writeString name ++ (.char ':' :: .char ' ' :: (value.write ++
          .char ',' :: .char ' ' ::
            (Text.join ", " (writeMembers (second :: members)) ++ .char '\x7d' :: rest))) := by
      simp [writeMembers, Text.join_cons_cons, Text.ofString]
    have hlength : value.write.length + 2 +
        (Text.join ", " (writeMembers (second :: members))).length ≤
          (Text.join ", " (writeMembers ((name, value) :: second :: members))).length := by
      simp [writeMembers, Text.join_cons_cons, Text.ofString]
      omega
    obtain ⟨joined, hjoined⟩ := exists_join_writeMembers second members
    have hskip : skipSpace (Text.join ", " (writeMembers (second :: members)) ++
        .char '\x7d' :: rest) =
          Text.join ", " (writeMembers (second :: members)) ++ .char '\x7d' :: rest := by
      rw [hjoined, List.cons_append, skipSpace_cons (c := '"') rfl]
    have hvalueRead := readValue_write value hvalue
      (ended_comma (Text.join ", " (writeMembers (second :: members)) ++ .char '\x7d' :: rest))
      (show 2 * value.write.length ≤ budget by omega)
    have hrest : readPairs budget _ = .ok (joinedMembers (second :: members), rest) :=
      readPairs_write (second :: members) (List.cons_ne_nil _ _) hmembers rest (by omega)
    rw [htext]
    exact readPairs_comma name (skipSpace_write hvalue _) hvalueRead hskip hrest

end

/-- A value that is written on a line of its own reads back with joined texts. -/
theorem read_write {v : Json} (hv : v.WellFormed P) : read (v.write ++ "\n") = .ok v.joined := by
  obtain ⟨c, more, hhead, hc⟩ := exists_opening_write hv
  have hmark : ¬ (v.write ++ "\n").head? = some (.char '\uFEFF') := by
    rw [hhead]
    rintro h
    cases h
    exact absurd hc (by decide)
  have hended : Ended "\n" := ended_cons (by decide) []
  have hread : readValue (2 * (v.write ++ "\n").length + 2) (v.write ++ "\n") =
      .ok (v.joined, "\n") :=
    readValue_write v hv hended (by rw [List.length_append]; omega)
  rw [read, if_neg hmark, readDocument, skipSpace_write hv, hread]
  rfl

/-! ## Values that read back as they are -/

/-- A new name is set at the end. -/
theorem insert_of_not_mem {members : Members} {name : Text} (h : name ∉ members.map Prod.fst)
    (value : Json) : members.insert name value = members ++ [(name, value)] := by
  induction members with
  | nil => rfl
  | cons member members ih =>
    rw [List.map_cons, List.mem_cons, not_or] at h
    rw [Members.insert, if_neg (Ne.symm h.1), ih h.2, List.cons_append]

/-- Members whose names are distinct are read as they stand. -/
theorem ofPairs_eq_self {members : Members} (h : (members.map Prod.fst).Nodup) :
    Members.ofPairs members = members := by
  have hfold : ∀ (done : Members), ((done ++ members).map Prod.fst).Nodup →
      members.foldl (fun done pair => Members.insert done pair.1 pair.2) done =
        done ++ members := by
    clear h
    induction members with
    | nil => exact fun done _ => (List.append_nil done).symm
    | cons member members ih =>
      intro done h
      have hnew : member.1 ∉ done.map Prod.fst := by
        intro hmem
        rw [List.map_append, List.map_cons] at h
        exact (List.nodup_append.1 h).2.2 _ hmem _ (List.mem_cons_self ..) rfl
      rw [List.append_cons] at h ⊢
      rw [List.foldl_cons, insert_of_not_mem hnew]
      exact ih _ h
  exact hfold [] h

mutual

/-- A value on texts without halves side by side is joined already. -/
theorem joined_eq_self (v : Json) (hv : v.WellFormed Text.IsPaired) : v.joined = v := by
  cases v with
  | string t => rw [joined, Text.joined_eq_self_iff.2 hv]
  | array items => rw [joined, joinedItems_eq_self items hv]
  | object members => rw [joined, joinedMembers_eq_self members hv.2, ofPairs_eq_self hv.1]
  | _ => rfl

theorem joinedItems_eq_self (items : List Json) (hitems : AreWellFormed Text.IsPaired items) :
    joinedItems items = items := by
  match items, hitems with
  | [], _ => rfl
  | item :: items, ⟨hitem, hitems⟩ =>
    rw [joinedItems, joined_eq_self item hitem, joinedItems_eq_self items hitems]

theorem joinedMembers_eq_self (members : List (Text × Json))
    (hmembers : MembersWellFormed Text.IsPaired members) : joinedMembers members = members := by
  match members, hmembers with
  | [], _ => rfl
  | (name, value) :: members, ⟨hname, hvalue, hmembers⟩ =>
    rw [joinedMembers, Text.joined_eq_self_iff.2 hname, joined_eq_self value hvalue,
      joinedMembers_eq_self members hmembers]

end

end Json

end CodeScan
