import CodeScan.Proofs.Json.RoundTrip

/-!
# Values that were read

A value that was read is well-formed (`wellFormed_of_read`), so it can be written and read again; if
it was read from characters, it comes back as it is (`wellFormed_of_read_plain`).  The reader goes
from left to right, and so the proof also says that what remains is an end of what was there.

What is known of the texts of a value comes from what is known of the source.  `Yields` says this of
single strings, and everything above strings is proved once for all such kinds.
-/

namespace CodeScan

namespace Json

variable {source rest : Text} {P Q : Text → Prop}

/-! ## Scalars -/

/-- A row of digits writes a number below the power of ten of its length. -/
theorem digitsValue_lt {digits : Text} (h : ∀ c ∈ digits, isDigit c = true) :
    digitsValue digits < 10 ^ digits.length := by
  have hdigits : ∀ d ∈ digits.map (fun c => c.value - '0'.toNat), d ≤ 9 := by
    intro d hd
    obtain ⟨c, hc, rfl⟩ := List.mem_map.1 hd
    cases c with
    | surrogate offset => cases h _ hc
    | char c =>
      have hdigit : c.toNat ≤ 57 := (Char.isDigit_iff_toNat.1 (h _ hc)).2
      have hzero : '0'.toNat = 48 := rfl
      rw [CodePoint.value]
      omega
  have hlt := Literal.ofDigits_lt hdigits
  rwa [List.length_map, Literal.ofDigits, List.foldl_map] at hlt

/-- What remains after digits is an end of the text. -/
theorem suffix_of_spanDigits {digits : Text} (h : spanDigits source = (digits, rest)) :
    rest <:+ source := by
  rw [← (Prod.mk.inj h).2]
  exact List.dropWhile_suffix _

/-- What remains after a fraction, or where none is, is an end of the text. -/
theorem suffix_readFraction (source : Text) : (readFraction source).2 <:+ source := by
  unfold readFraction
  split
  · split
    · exact List.suffix_refl _
    · rename_i hspan
      exact (suffix_of_spanDigits hspan).trans (List.suffix_cons _ _)
  · exact List.suffix_refl _

/-- The exponent with the given sign, from the digits after it. -/
def exponentOf (source : Text) (sign : Int) (rest : Text) : Option Int × Text :=
  match spanDigits rest with
  | ([], _) => (none, source)
  | (digits, rest) => (some (sign * (digitsValue digits : Int)), rest)

/-- What remains after the digits of an exponent is an end of the text before its mark. -/
theorem suffix_exponentOf (sign : Int) (hrest : rest <:+ source) :
    (exponentOf source sign rest).2 <:+ source := by
  unfold exponentOf
  split
  · exact List.suffix_refl _
  · rename_i hspan
    exact (suffix_of_spanDigits hspan).trans hrest

/-- What remains after an exponent, or where none is, is an end of the text. -/
theorem suffix_readExponent (source : Text) : (readExponent source).2 <:+ source := by
  unfold readExponent
  split
  · split
    · split
      · exact suffix_exponentOf (-1) ⟨[_, _], rfl⟩
      · exact suffix_exponentOf 1 ⟨[_, _], rfl⟩
      · exact suffix_exponentOf 1 (List.suffix_cons _ _)
    · exact List.suffix_refl _
  · exact List.suffix_refl _

/-- A number that was read is well-formed if its digits are not too many for an integer. -/
theorem wellFormed_of_readMagnitude? {negative : Bool} {v : Json}
    (h : readMagnitude? negative source = some (v, rest))
    (hlength : ∀ n, v = .int n → (spanDigits source).1.length ≤ maxDigits) :
    v.WellFormed P ∧ rest <:+ source := by
  -- What follows the whole part: with neither a fraction nor an exponent the number is an integer.
  have hfinish {whole after : Text} {value : Binary64}
      (hwhole : ∀ n, v = .int n → digitsValue whole < 10 ^ maxDigits)
      (hvalue : value.IsCanonical)
      (h : (if (readFraction after).1.isNone = true ∧
          (readExponent (readFraction after).2).1.isNone = true then
        (Json.int (if negative = true then -(digitsValue whole : Int) else digitsValue whole),
          (readExponent (readFraction after).2).2)
        else (.float value, (readExponent (readFraction after).2).2)) = (v, rest)) :
      v.WellFormed P ∧ rest <:+ after := by
    split at h
    · cases h
      refine ⟨?_, (suffix_readExponent _).trans (suffix_readFraction after)⟩
      have hlt := hwhole _ rfl
      rw [WellFormed]
      split <;> omega
    · cases h
      exact ⟨hvalue, (suffix_readExponent _).trans (suffix_readFraction after)⟩
  simp only [readMagnitude?] at h
  split at h
  · rename_i after
    have hzero : digitsValue [.char '0'] < 10 ^ maxDigits := Nat.pow_pos (by decide)
    obtain ⟨hv, hsuffix⟩ := hfinish (fun _ _ => hzero) (Binary64.isCanonical_ofDecimal ..)
      (Option.some.inj h)
    exact ⟨hv, hsuffix.trans (List.suffix_cons _ _)⟩
  · split at h
    · cases h
    · rename_i whole after _ hspan
      have hdigits : ∀ c ∈ whole, isDigit c = true := by
        rw [← (Prod.mk.inj hspan).1]
        exact fun c hc => List.mem_takeWhile_imp hc
      -- Only an integer is held to the limit on digits; a float may have any number of them.
      have hlt (n : Int) (hn : v = .int n) : digitsValue whole < 10 ^ maxDigits := by
        have hcount := hlength n hn
        rw [hspan] at hcount
        exact (digitsValue_lt hdigits).trans_le (Nat.pow_le_pow_right (by decide) hcount)
      obtain ⟨hv, hsuffix⟩ := hfinish hlt (Binary64.isCanonical_ofDecimal ..) (Option.some.inj h)
      exact ⟨hv, hsuffix.trans (suffix_of_spanDigits hspan)⟩

/-- A scalar that was read is well-formed, on texts of any kind: it holds none. -/
theorem wellFormed_of_readScalar {v : Json} (h : readScalar source = .ok (v, rest)) :
    v.WellFormed P ∧ rest <:+ source := by
  rcases readScalar_cases h with ⟨word, hword, rfl⟩ | ⟨negative, number, rfl, hnumber, hlength⟩
  · refine ⟨?_, List.suffix_append word rest⟩
    simp only [constants, List.mem_cons, Prod.mk.injEq, List.not_mem_nil, or_false] at hword
    rcases hword with ⟨-, rfl⟩ | ⟨-, rfl⟩ | ⟨-, rfl⟩ | ⟨-, rfl⟩ | ⟨-, rfl⟩ | ⟨-, rfl⟩ <;>
      simp [WellFormed, Binary64.IsCanonical]
  · obtain ⟨hv, hsuffix⟩ := wellFormed_of_readMagnitude? hnumber hlength
    refine ⟨hv, hsuffix.trans ?_⟩
    cases negative with
    | true => exact List.suffix_cons _ _
    | false => exact List.suffix_refl _

/-! ## Members -/

/-- A member of an object in which a name was set is that one or was there before. -/
theorem mem_insert {members : Members} {name : Text} {value : Json} {member : Text × Json}
    (h : member ∈ members.insert name value) :
    (member.1 = name ∧ member.2 = value) ∨ member ∈ members := by
  induction members with
  | nil =>
    rw [Members.insert, List.mem_singleton] at h
    exact .inl (h ▸ ⟨rfl, rfl⟩)
  | cons other members ih =>
    rw [Members.insert] at h
    split at h
    · rename_i hname
      rcases List.mem_cons.1 h with rfl | h
      · exact .inl ⟨hname, rfl⟩
      · exact .inr (List.mem_cons_of_mem _ h)
    · rcases List.mem_cons.1 h with rfl | h
      · exact .inr (List.mem_cons_self ..)
      · exact (ih h).imp_right (List.mem_cons_of_mem _)

/-- Setting a name that is there keeps all names in their order. -/
theorem map_fst_insert_of_mem {members : Members} {name : Text} (h : name ∈ members.map Prod.fst)
    (value : Json) : (members.insert name value).map Prod.fst = members.map Prod.fst := by
  induction members with
  | nil => cases h
  | cons other members ih =>
    rw [Members.insert]
    split
    · rfl
    · rename_i hne
      have hrest : name ∈ members.map Prod.fst := by
        rcases List.mem_cons.1 h with rfl | h
        · exact absurd rfl hne
        · exact h
      rw [List.map_cons, ih hrest, List.map_cons]

/-- Members are well-formed one by one. -/
theorem membersWellFormed_iff {members : Members} :
    MembersWellFormed P members ↔ ∀ member ∈ members, P member.1 ∧ member.2.WellFormed P := by
  induction members with
  | nil => simp [MembersWellFormed]
  | cons member members ih =>
    obtain ⟨name, value⟩ := member
    rw [MembersWellFormed, List.forall_mem_cons, ih, and_assoc]

/-- Elements are well-formed one by one. -/
theorem areWellFormed_iff {items : List Json} :
    AreWellFormed P items ↔ ∀ item ∈ items, item.WellFormed P := by
  induction items with
  | nil => simp [AreWellFormed]
  | cons item items ih => rw [AreWellFormed, List.forall_mem_cons, ih]

/-- Setting a name keeps an object well-formed: the name is not there twice. -/
theorem wellFormed_insert {members : Members} (h : WellFormed P (.object members)) {name : Text}
    (hname : P name) {value : Json} (hvalue : value.WellFormed P) :
    WellFormed P (.object (members.insert name value)) := by
  obtain ⟨hnodup, hmembers⟩ := h
  rw [membersWellFormed_iff] at hmembers
  refine ⟨?_, membersWellFormed_iff.2 fun member hmember => ?_⟩
  · by_cases hmem : name ∈ members.map Prod.fst
    · rwa [map_fst_insert_of_mem hmem]
    · rw [insert_of_not_mem hmem, List.map_append]
      exact List.nodup_append_comm.1 (List.nodup_cons.2 ⟨hmem, hnodup⟩)
  · rcases mem_insert hmember with ⟨hfirst, hsecond⟩ | hmember
    · rw [hfirst, hsecond]
      exact ⟨hname, hvalue⟩
    · exact hmembers member hmember

/-- The members that were read make a well-formed object, also if a name occurs twice. -/
theorem wellFormed_ofPairs {pairs : Members} (h : MembersWellFormed P pairs) :
    WellFormed P (.object (Members.ofPairs pairs)) := by
  have hfold : ∀ done : Members, WellFormed P (.object done) → WellFormed P (.object
      (pairs.foldl (fun done pair => Members.insert done pair.1 pair.2) done)) := by
    induction pairs with
    | nil => exact fun done hdone => hdone
    | cons pair pairs ih =>
      obtain ⟨name, value⟩ := pair
      intro done hdone
      exact ih h.2.2 _ (wellFormed_insert hdone h.1 h.2.1)
  exact hfold [] ⟨List.nodup_nil, trivial⟩

/-- A member of a well-formed object is well-formed; one that is not there counts as null. -/
theorem wellFormed_get? {members : Members} (h : WellFormed P (.object members)) (name : Text) :
    ((members.get? name).getD .null).WellFormed P := by
  cases hvalue : members.get? name with
  | none => trivial
  | some value =>
    obtain ⟨before, after, rfl, -⟩ := List.lookup_eq_some_iff.1 hvalue
    exact (membersWellFormed_iff.1 h.2 (name, value) (by simp)).2

/-! ## Values -/

theorem suffix_skipSpace (source : Text) : skipSpace source <:+ source := List.dropWhile_suffix _

/-- What remains after blanks and one code point is a suffix of the source. -/
theorem suffix_of_skipSpace_eq_cons {c : CodePoint} (h : skipSpace source = c :: rest) :
    rest <:+ source :=
  (List.suffix_cons c rest).trans (h ▸ suffix_skipSpace source)

/-- Only strings of the kind `P` are read from sources of the kind `Q`, and the ends of such sources
are of that kind too. -/
structure Yields (Q P : Text → Prop) : Prop where
  of_suffix : ∀ {s t : Text}, Q t → s <:+ t → Q s
  of_readString : ∀ {source t rest : Text}, Q source → readString source = .ok (t, rest) → P t

/-- Any string may be read from any source. -/
theorem yields_any : Yields (fun _ => True) fun _ => True :=
  ⟨fun _ _ => trivial, fun _ _ => trivial⟩

/-- From characters no string is read in which the halves of a pair stand side by side. -/
theorem yields_isPaired : Yields IsPlain Text.IsPaired :=
  ⟨IsPlain.of_suffix, fun hsource h => (isPaired_of_readUpToQuote hsource h).1⟩

/-- What a reader of one of the three kinds promises on a source, if it succeeds. -/
def ReadsWell {α : Type} (Q : Text → Prop) (read : Text → Except Fault (α × Text))
    (isWell : α → Prop) : Prop :=
  ∀ ⦃source a rest⦄, Q source → read source = .ok (a, rest) → isWell a ∧ rest <:+ source

section Readers

variable (hyields : Yields Q P)

include hyields

/-- Strings are read well, by what is known of the source. -/
theorem readsWell_readString : ReadsWell Q readString P := fun _ _ _ hsource h =>
  ⟨hyields.of_readString hsource h, suffix_of_readUpToQuote h⟩

/-- What is read from an end of a source is as good as what is read from the source. -/
theorem ReadsWell.of_suffix {α : Type} {read : Text → Except Fault (α × Text)} {isWell : α → Prop}
    (hread : ReadsWell Q read isWell) {part : Text} {a : α} (hsource : Q source)
    (hpart : part <:+ source) (h : read part = .ok (a, rest)) : isWell a ∧ rest <:+ source := by
  obtain ⟨hwell, hsuffix⟩ := hread (hyields.of_suffix hsource hpart) h
  exact ⟨hwell, hsuffix.trans hpart⟩

variable {budget : Nat}

/-- Values are read well if elements and members are, with one call less. -/
theorem readsWell_readValue_succ (hitems : ReadsWell Q (readItems budget) (AreWellFormed P))
    (hpairs : ReadsWell Q (readPairs budget) (MembersWellFormed P)) :
    ReadsWell Q (readValue (budget + 1)) (WellFormed P) := by
  intro source v rest hsource h
  unfold readValue at h
  split at h
  · rename_i heq
    cases heq
  · rename_i _ after heq
    cases heq
    obtain ⟨⟨t, after'⟩, hread, h⟩ := exists_of_bind_eq_ok h
    cases h
    exact (readsWell_readString hyields).of_suffix hyields hsource (List.suffix_cons _ _) hread
  · rename_i _ after heq
    cases heq
    have htail : after <:+ .char '[' :: after := List.suffix_cons _ _
    split at h
    · rename_i hskip
      cases h
      exact ⟨trivial, (suffix_of_skipSpace_eq_cons hskip).trans htail⟩
    · obtain ⟨⟨items, after'⟩, hread, h⟩ := exists_of_bind_eq_ok h
      cases h
      exact hitems.of_suffix hyields hsource ((suffix_skipSpace after).trans htail) hread
  · rename_i _ after heq
    cases heq
    have htail : after <:+ .char '\x7b' :: after := List.suffix_cons _ _
    split at h
    · rename_i hskip
      cases h
      exact ⟨⟨List.nodup_nil, trivial⟩, (suffix_of_skipSpace_eq_cons hskip).trans htail⟩
    · obtain ⟨⟨pairs, after'⟩, hread, h⟩ := exists_of_bind_eq_ok h
      cases h
      have hskip := (suffix_skipSpace after).trans htail
      obtain ⟨hwell, hsuffix⟩ := hpairs.of_suffix hyields hsource hskip hread
      exact ⟨wellFormed_ofPairs hwell, hsuffix⟩
  · exact wellFormed_of_readScalar h

/-- Elements are read well if values and the elements after them are. -/
theorem readsWell_readItems_succ (hvalue : ReadsWell Q (readValue budget) (WellFormed P))
    (hitems : ReadsWell Q (readItems budget) (AreWellFormed P)) :
    ReadsWell Q (readItems (budget + 1)) (AreWellFormed P) := by
  intro source items rest hsource h
  rw [readItems] at h
  obtain ⟨⟨item, after⟩, hread, h⟩ := exists_of_bind_eq_ok h
  obtain ⟨hitem, hafter⟩ := hvalue hsource hread
  simp only at h
  split at h
  · rename_i hskip
    cases h
    exact ⟨⟨hitem, trivial⟩, (suffix_of_skipSpace_eq_cons hskip).trans hafter⟩
  · rename_i next hskip
    obtain ⟨⟨more, last⟩, hmore, h⟩ := exists_of_bind_eq_ok h
    cases h
    have hnext : skipSpace next <:+ source :=
      ((suffix_skipSpace next).trans (suffix_of_skipSpace_eq_cons hskip)).trans hafter
    obtain ⟨hwell, hsuffix⟩ := hitems.of_suffix hyields hsource hnext hmore
    exact ⟨⟨hitem, hwell⟩, hsuffix⟩
  · cases h

/-- Members are read well if values and the members after them are. -/
theorem readsWell_readPairs_succ (hvalue : ReadsWell Q (readValue budget) (WellFormed P))
    (hpairs : ReadsWell Q (readPairs budget) (MembersWellFormed P)) :
    ReadsWell Q (readPairs (budget + 1)) (MembersWellFormed P) := by
  intro source pairs rest hsource h
  unfold readPairs at h
  split at h
  · rename_i heq
    cases heq
  · rename_i _ after heq
    cases heq
    obtain ⟨⟨name, afterName⟩, hname, h⟩ := exists_of_bind_eq_ok h
    have htail : after <:+ .char '"' :: after := List.suffix_cons _ _
    obtain ⟨hpaired, hafterName⟩ :=
      (readsWell_readString hyields).of_suffix hyields hsource htail hname
    simp only at h
    split at h
    · rename_i afterColon hskip
      obtain ⟨⟨value, afterValue⟩, hread, h⟩ := exists_of_bind_eq_ok h
      -- Every reader leaves a suffix of the source, and what holds of the source holds of these.
      have hcolon : skipSpace afterColon <:+ .char '"' :: after :=
        ((suffix_skipSpace _).trans (suffix_of_skipSpace_eq_cons hskip)).trans hafterName
      obtain ⟨hwell, hafterValue⟩ := hvalue.of_suffix hyields hsource hcolon hread
      simp only at h
      split at h
      · rename_i hskip
        cases h
        exact ⟨⟨hpaired, hwell, trivial⟩, (suffix_of_skipSpace_eq_cons hskip).trans hafterValue⟩
      · rename_i next hskip
        obtain ⟨⟨more, last⟩, hmore, h⟩ := exists_of_bind_eq_ok h
        cases h
        have hnext : skipSpace next <:+ .char '"' :: after :=
          ((suffix_skipSpace next).trans (suffix_of_skipSpace_eq_cons hskip)).trans hafterValue
        obtain ⟨hrest, hsuffix⟩ := hpairs.of_suffix hyields hsource hnext hmore
        exact ⟨⟨hpaired, hwell, hrest⟩, hsuffix⟩
      · cases h
    · cases h
  · cases h

/-- Reading with any budget gives well-formed values, elements and members, and leaves an end of the
text. -/
theorem readsWell (budget : Nat) :
    ReadsWell Q (readValue budget) (WellFormed P) ∧
      ReadsWell Q (readItems budget) (AreWellFormed P) ∧
      ReadsWell Q (readPairs budget) (MembersWellFormed P) := by
  induction budget with
  | zero => refine ⟨?_, ?_, ?_⟩ <;> · rintro source a rest - h; cases h
  | succ budget ih =>
    obtain ⟨hvalue, hitems, hpairs⟩ := ih
    exact ⟨readsWell_readValue_succ hyields hitems hpairs,
      readsWell_readItems_succ hyields hvalue hitems,
      readsWell_readPairs_succ hyields hvalue hpairs⟩

/-- A value that was read is well-formed, on texts of the kind that its source yields. -/
theorem Yields.wellFormed_of_read {v : Json} (hsource : Q source) (h : read source = .ok v) :
    v.WellFormed P := by
  rw [read] at h
  split at h
  · cases h
  · rw [readDocument] at h
    split at h
    · cases h
    · rename_i value rest hread
      have hskip := hyields.of_suffix hsource (suffix_skipSpace source)
      obtain ⟨hwell, -⟩ := (readsWell hyields _).1 hskip hread
      split at h
      · cases h
        exact hwell
      · cases h

end Readers

/-- Whatever was read is well-formed. -/
theorem wellFormed_of_read {v : Json} (h : read source = .ok v) : v.WellFormed fun _ => True :=
  yields_any.wellFormed_of_read trivial h

/-- A value that was read from characters is well-formed on texts without halves side by side. -/
theorem wellFormed_of_read_plain {v : Json} (hsource : IsPlain source) (h : read source = .ok v) :
    v.WellFormed Text.IsPaired :=
  yields_isPaired.wellFormed_of_read hsource h

/-! ## Texts of a value -/

/-- A line of ASCII is made of characters. -/
theorem isPlain_line {t : Text} (h : t.IsAscii) : IsPlain (t ++ "\n") := by
  refine List.forall_mem_append.2 ⟨fun c hc => ?_, List.forall_mem_singleton.2 rfl⟩
  cases c with
  | char x => rfl
  | surrogate offset =>
    have hascii := h _ hc
    rw [CodePoint.isAscii, Bool.and_eq_true, decide_eq_true_eq, decide_eq_true_eq,
      CodePoint.value] at hascii
    omega

/-- Joining gives a value on texts without halves side by side: what was written was read from
characters. -/
theorem wellFormed_joined {v : Json} (hv : v.WellFormed P) : v.joined.WellFormed Text.IsPaired :=
  wellFormed_of_read_plain (isPlain_line (isAscii_write v)) (read_write hv)

mutual

/-- The texts in a value: its strings and the names of its members. -/
def texts : Json → List Text
  | .null | .bool _ | .int _ | .float _ => []
  | .string t => [t]
  | .array items => textsOfItems items
  | .object members => textsOfMembers members

/-- The texts in the elements of an array. -/
def textsOfItems : List Json → List Text
  | [] => []
  | item :: rest => item.texts ++ textsOfItems rest

/-- The texts in the members of an object. -/
def textsOfMembers : List (Text × Json) → List Text
  | [] => []
  | (name, value) :: rest => name :: value.texts ++ textsOfMembers rest

end

mutual

/-- A well-formed value on texts of a kind is a well-formed value whose texts are of that kind. -/
theorem wellFormed_iff_texts (v : Json) :
    v.WellFormed P ↔ v.WellFormed (fun _ => True) ∧ ∀ t ∈ v.texts, P t := by
  cases v with
  | string t => simp [WellFormed, texts]
  | array items => exact areWellFormed_iff_texts items
  | object members =>
    rw [WellFormed, membersWellFormed_iff_texts members, WellFormed, and_assoc, texts]
  | _ => simp [WellFormed, texts]

theorem areWellFormed_iff_texts (items : List Json) :
    AreWellFormed P items ↔
      AreWellFormed (fun _ => True) items ∧ ∀ t ∈ textsOfItems items, P t := by
  match items with
  | [] => simp [AreWellFormed, textsOfItems]
  | item :: items =>
    rw [AreWellFormed, wellFormed_iff_texts item, areWellFormed_iff_texts items, AreWellFormed,
      textsOfItems, List.forall_mem_append, and_and_and_comm]

theorem membersWellFormed_iff_texts (members : List (Text × Json)) :
    MembersWellFormed P members ↔
      MembersWellFormed (fun _ => True) members ∧ ∀ t ∈ textsOfMembers members, P t := by
  match members with
  | [] => simp [MembersWellFormed, textsOfMembers]
  | (name, value) :: members =>
    rw [MembersWellFormed, wellFormed_iff_texts value, membersWellFormed_iff_texts members,
      MembersWellFormed, textsOfMembers, List.cons_append, List.forall_mem_cons,
      List.forall_mem_append]
    tauto

end

/-- A value that a text can write is joined already exactly if no halves of a surrogate pair stand
side by side in any of its texts. -/
theorem joined_eq_self_iff {v : Json} (hv : v.WellFormed fun _ => True) :
    v.joined = v ↔ ∀ t ∈ v.texts, t.IsPaired := by
  constructor
  · intro h
    have hjoined := wellFormed_joined hv
    rw [h, wellFormed_iff_texts] at hjoined
    exact hjoined.2
  · intro h
    exact joined_eq_self v ((wellFormed_iff_texts v).2 ⟨hv, h⟩)

end Json

end CodeScan
