import CodeScan.Json.Reader
import CodeScan.Json.Writer
import Mathlib.Data.List.Chain

/-!
# Written strings read back

A string is written in ASCII, so a character above the basic plane becomes two escapes and a lone
surrogate becomes one.  A reader joins the two halves of a pair.  So a string reads back with its
halves joined (`readString_write`), and as it was written if no first half stands right before a
second half in it (`IsPaired`).

A string that was read from characters never has two such halves side by side
(`isPaired_of_readUpToQuote`): they have been joined.  Only a source with lone surrogates of its own
can put a half that is escaped next to one that is not.
-/

namespace CodeScan

/-- A step and what follows it succeed together. -/
theorem exists_of_bind_eq_ok {ε α β : Type} {x : Except ε α} {f : α → Except ε β} {b : β}
    (h : x >>= f = .ok b) : ∃ a, x = .ok a ∧ f a = .ok b := by
  cases x with
  | error e => cases h
  | ok a => exact ⟨a, rfl, h⟩

/-- Either a step fails or what follows it does. -/
theorem error_or_exists_of_bind_eq_error {ε α β : Type} {x : Except ε α} {f : α → Except ε β}
    {e : ε} (h : x >>= f = .error e) : x = .error e ∨ ∃ a, x = .ok a ∧ f a = .error e := by
  cases x with
  | error other =>
    cases h
    exact .inl rfl
  | ok a => exact .inr ⟨a, rfl, h⟩

namespace CodePoint

/-- The first half of a surrogate pair. -/
def isHigh : CodePoint → Bool
  | .char _ => false
  | .surrogate offset => offset.val < 0x400

/-- The second half of a surrogate pair. -/
def isLow : CodePoint → Bool
  | .char _ => false
  | .surrogate offset => 0x400 ≤ offset.val

/-- A code point is found by its number. -/
theorem ofValue_value (c : CodePoint) : ofValue c.value = c := by
  cases c with
  | char c =>
    have hvalid : ¬ (0xD800 ≤ c.toNat ∧ c.toNat < 0xE000) := by
      have := c.valid
      simp only [UInt32.isValidChar, Nat.isValidChar] at this
      simp only [Char.toNat]
      omega
    rw [value, ofValue, dif_neg hvalid, Char.ofNat_toNat]
  | surrogate offset =>
    have hoffset := offset.isLt
    rw [value, ofValue, dif_pos ⟨Nat.le_add_right _ _, by omega⟩]
    exact congrArg surrogate (Fin.ext (Nat.add_sub_cancel_left ..))

theorem value_lt (c : CodePoint) : c.value < 0x110000 := by
  cases c with
  | char c =>
    have := c.valid
    simp only [UInt32.isValidChar, Nat.isValidChar] at this
    simp only [value, Char.toNat]
    omega
  | surrogate offset =>
    have := offset.isLt
    simp only [value]
    omega

end CodePoint

namespace Text

/-- No first half of a surrogate pair stands right before a second half. -/
def IsPaired (t : Text) : Prop := t.IsChain fun a b => ¬ (a.isHigh = true ∧ b.isLow = true)

/-- A code point in front stands beside the first one of the text only. -/
theorem isPaired_cons_iff {c : CodePoint} {t : Text} :
    IsPaired (c :: t) ↔ (c.isHigh = true → ∀ d ∈ t.head?, d.isLow = false) ∧ IsPaired t := by
  rw [IsPaired, List.isChain_cons]
  refine and_congr_left fun _ => ⟨fun h hhigh d hd => ?_, fun h d hd hboth => ?_⟩
  · have hlow := h d hd
    simpa [hhigh] using hlow
  · have hlow := h hboth.1 d hd
    rw [hboth.2] at hlow
    cases hlow

@[simp] theorem isPaired_nil : IsPaired [] := List.isChain_nil

/-- A character in front stands beside nothing that could be its half. -/
@[simp] theorem isPaired_cons_char (c : Char) (t : Text) :
    IsPaired (.char c :: t) ↔ t.IsPaired := by
  simp [isPaired_cons_iff, CodePoint.isHigh]

/-- A text with each first half of a surrogate pair joined with the second half that stands right
after it. -/
def joined : Text → Text
  | [] => []
  | c :: t => Json.consEscaped c true (joined t)

end Text

namespace Json

open CodePoint

variable {opening tail t rest : Text} {c : CodePoint}

/-! ## Escapes -/

/-- A written hexadecimal digit is read back. -/
theorem hexDigit?_hexDigit {n : Nat} (h : n < 16) : hexDigit? (Text.hexDigit n) = some n := by
  have hall : ∀ n < 16, hexDigit? (Text.hexDigit n) = some n := by decide
  exact hall n h

/-- Nothing is joined unless a first half comes before a second half that is escaped. -/
theorem consEscaped_eq_cons {unit : CodePoint} {next : Bool}
    (h : next = true → unit.isHigh = true → ∀ c ∈ t.head?, c.isLow = false) :
    consEscaped unit next t = unit :: t := by
  unfold consEscaped
  split
  · rename_i first second t
    refine if_neg ?_
    rintro ⟨hnext, hhigh, hlow⟩
    have hother := h hnext (decide_eq_true hhigh) _ rfl
    exact absurd (decide_eq_true hlow) (by rw [isLow] at hother; simp [hother])
  · rfl

/-- Whether what comes next is escaped matters only before a second half. -/
theorem consEscaped_eq_true {next : Bool} (h : ∀ d ∈ t.head?, d.isLow = true → next = true) :
    consEscaped c next t = consEscaped c true t := by
  cases next with
  | true => rfl
  | false =>
    have hlow : ∀ d ∈ t.head?, d.isLow = false := by
      intro d hd
      by_contra hlow
      cases h d hd (by simpa using hlow)
    rw [consEscaped_eq_cons fun _ _ => hlow, consEscaped_eq_cons fun _ _ => hlow]

/-- An escape is read as its code unit, before what is read after it. -/
theorem readUpToQuote_escapeUnit {unit : Nat} (hunit : unit < 0x10000) (htail : tail ≠ [])
    (h : readUpToQuote opening tail = .ok (t, rest)) :
    readUpToQuote opening (escapeUnit unit ++ tail) =
      .ok (consEscaped (.ofValue unit) (startsWithEscape tail) t, rest) := by
  obtain ⟨e, tail, rfl⟩ := List.exists_cons_of_ne_nil htail
  have htext : escapeUnit unit ++ e :: tail = .char '\\' :: .char 'u' ::
      Text.hexDigit (unit / 16 / 16 / 16 % 16) :: Text.hexDigit (unit / 16 / 16 % 16) ::
      Text.hexDigit (unit / 16 % 16) :: Text.hexDigit (unit % 16) :: e :: tail := rfl
  have hdigits : hex4? (Text.hexDigit (unit / 16 / 16 / 16 % 16))
      (Text.hexDigit (unit / 16 / 16 % 16)) (Text.hexDigit (unit / 16 % 16))
      (Text.hexDigit (unit % 16)) = some unit := by
    have hmod (n : Nat) : n % 16 < 16 := Nat.mod_lt _ (by decide)
    simp only [hex4?, hexDigit?_hexDigit (hmod _), Option.bind_eq_bind, Option.bind_some,
      Option.pure_def, Option.some.injEq]
    omega
  rw [htext]
  simp only [readUpToQuote, hdigits, h, bind, Except.bind, pure, Except.pure]

/-- A character above the basic plane is read from its two halves. -/
theorem readUpToQuote_pair {offset : Nat} (hoffset : offset < 0x100000) (htail : tail ≠ [])
    (h : readUpToQuote opening tail = .ok (t, rest)) :
    readUpToQuote opening (escapeUnit (0xD800 + offset / 0x400) ++
        (escapeUnit (0xDC00 + offset % 0x400) ++ tail)) =
      .ok (.ofValue (0x10000 + offset) :: t, rest) := by
  have hlow : CodePoint.ofValue (0xDC00 + offset % 0x400) =
      .surrogate ⟨0x400 + offset % 0x400, by omega⟩ := by
    rw [CodePoint.ofValue, dif_pos (by omega)]
    exact congrArg surrogate (Fin.ext (by simp only; omega))
  have hhigh : CodePoint.ofValue (0xD800 + offset / 0x400) =
      .surrogate ⟨offset / 0x400, by omega⟩ := by
    rw [CodePoint.ofValue, dif_pos (by omega)]
    exact congrArg surrogate (Fin.ext (by simp only; omega))
  have hunit : 0xDC00 + offset % 0x400 < 0x10000 := by omega
  -- The second escape is read first: on its own it is a lone second half.
  have hsecond := readUpToQuote_escapeUnit hunit htail h
  have hlone : consEscaped (.ofValue (0xDC00 + offset % 0x400)) (startsWithEscape tail) t =
      .ofValue (0xDC00 + offset % 0x400) :: t := by
    refine consEscaped_eq_cons fun _ hfirst => ?_
    rw [hlow, isHigh] at hfirst
    exact absurd (of_decide_eq_true hfirst) (by simp)
  rw [hlone] at hsecond
  rw [readUpToQuote_escapeUnit (by omega) (List.append_ne_nil_of_right_ne_nil _ htail) hsecond,
    hlow, hhigh]
  -- The first escape finds that half and an escape in front of it, so the two are joined.
  have hjoined : consEscaped (.surrogate ⟨offset / 0x400, by omega⟩)
      (startsWithEscape (escapeUnit (0xDC00 + offset % 0x400) ++ tail))
      (.surrogate ⟨0x400 + offset % 0x400, by omega⟩ :: t) =
        .ofValue (0x10000 + offset / 0x400 * 0x400 + (0x400 + offset % 0x400 - 0x400)) :: t :=
    if_pos ⟨rfl, by simp only; omega, by simp only; omega⟩
  have hsum : 0x10000 + offset / 0x400 * 0x400 + (0x400 + offset % 0x400 - 0x400) =
      0x10000 + offset := by omega
  rw [hjoined, hsum]

/-- A backslash and a letter are read as the character they stand for. -/
theorem readUpToQuote_letter {letter x : Char} (hletter : simpleEscape? (.char letter) = some x)
    (h : readUpToQuote opening tail = .ok (t, rest)) :
    readUpToQuote opening (.char '\\' :: .char letter :: tail) = .ok (.char x :: t, rest) := by
  have hother : letter ≠ 'u' := by
    rintro rfl
    cases hletter
  simp [readUpToQuote, hother, hletter, h, bind, Except.bind, pure, Except.pure]

/-- A printable code point that needs no escape is read as itself. -/
theorem readUpToQuote_plain (hquote : c ≠ .char '"') (hbackslash : c ≠ .char '\\')
    (hprintable : 0x20 ≤ c.value) (h : readUpToQuote opening tail = .ok (t, rest)) :
    readUpToQuote opening (c :: tail) = .ok (c :: t, rest) := by
  rw [readUpToQuote]
  all_goals simp_all [bind, Except.bind, pure, Except.pure]

/-- A written character is read as itself, before what is read after it. -/
theorem readUpToQuote_writeCodePoint_char {x : Char} (htail : tail ≠ [])
    (h : readUpToQuote opening tail = .ok (t, rest)) :
    readUpToQuote opening (writeCodePoint (.char x) ++ tail) = .ok (.char x :: t, rest) := by
  unfold writeCodePoint
  split_ifs with hquote hbackslash hnewline hreturn htab hbackspace hfeed hprintable hplane
  · exact hquote ▸ readUpToQuote_letter rfl h
  · exact hbackslash ▸ readUpToQuote_letter rfl h
  · exact hnewline ▸ readUpToQuote_letter rfl h
  · exact hreturn ▸ readUpToQuote_letter rfl h
  · exact htab ▸ readUpToQuote_letter rfl h
  · exact hbackspace ▸ readUpToQuote_letter rfl h
  · exact hfeed ▸ readUpToQuote_letter rfl h
  · exact readUpToQuote_plain hquote hbackslash hprintable.1 h
  · have hnotHigh : (CodePoint.char x).isHigh = true → ∀ d ∈ t.head?, d.isLow = false := nofun
    have hlone := consEscaped_eq_cons fun (_ : startsWithEscape tail = true) => hnotHigh
    rw [readUpToQuote_escapeUnit hplane htail h, ofValue_value, hlone]
  · have hbound := (CodePoint.char x).value_lt
    have hsum : 0x10000 + ((CodePoint.char x).value - 0x10000) = (CodePoint.char x).value := by
      omega
    have hoffset : (CodePoint.char x).value - 0x10000 < 0x100000 := by omega
    have hread := readUpToQuote_pair hoffset htail h
    rw [hsum, ofValue_value] at hread
    rw [List.append_assoc, hread]

/-- A lone surrogate is written as one escape. -/
theorem writeCodePoint_surrogate (offset : Fin 0x800) :
    writeCodePoint (.surrogate offset) = escapeUnit (CodePoint.surrogate offset).value := by
  have hlow : 0xD800 ≤ (CodePoint.surrogate offset).value := Nat.le_add_right _ _
  have hhigh : (CodePoint.surrogate offset).value < 0x10000 := by
    simp only [CodePoint.value]
    omega
  simp only [writeCodePoint, reduceCtorEq, if_false, if_pos hhigh]
  exact if_neg (by omega)

/-- A second half in front of a joined text was written as an escape. -/
theorem startsWithEscape_of_joined {d : CodePoint} (hd : d ∈ (Text.joined t).head?)
    (hlow : d.isLow = true) (tail : Text) :
    startsWithEscape (t.flatMap writeCodePoint ++ tail) = true := by
  cases t with
  | nil => cases hd
  | cons c t =>
    cases c with
    | surrogate offset =>
      rw [List.flatMap_cons, writeCodePoint_surrogate]
      rfl
    | char x =>
      -- A character is joined with nothing, so it stands in front itself.
      have hhead : d = .char x := by
        rw [Text.joined, consEscaped] at hd
        · exact (Option.mem_some.1 hd).symm
        · rintro first second _ ⟨⟩
      cases hhead ▸ hlow

/-- A written string reads back with its halves joined, whatever follows it. -/
theorem readString_write (t rest : Text) :
    readString (t.flatMap writeCodePoint ++ .char '"' :: rest) = .ok (t.joined, rest) := by
  have hread (opening : Text) :
      readUpToQuote opening (t.flatMap writeCodePoint ++ .char '"' :: rest) =
        .ok (t.joined, rest) := by
    induction t with
    | nil => rw [List.flatMap_nil, List.nil_append, readUpToQuote, Text.joined]
    | cons c t ih =>
      have htail : t.flatMap writeCodePoint ++ .char '"' :: rest ≠ [] :=
        List.append_ne_nil_of_right_ne_nil _ (List.cons_ne_nil _ _)
      rw [List.flatMap_cons, List.append_assoc, Text.joined]
      cases c with
      | char x =>
        rw [readUpToQuote_writeCodePoint_char htail ih, consEscaped]
        rintro first second _ ⟨⟩
      | surrogate offset =>
        have hunit : (CodePoint.surrogate offset).value < 0x10000 := by
          simp only [CodePoint.value]
          omega
        rw [writeCodePoint_surrogate, readUpToQuote_escapeUnit hunit htail ih, ofValue_value,
          consEscaped_eq_true fun d hd hlow => startsWithEscape_of_joined hd hlow _]
  exact hread _

/-! ## Strings that were read -/

/-- A text of characters, without surrogates. -/
def IsPlain (t : Text) : Prop := ∀ c ∈ t, c.char?.isSome = true

/-- The end of a text of characters is made of characters. -/
theorem IsPlain.of_suffix {s : Text} (h : IsPlain t) (hs : s <:+ t) : IsPlain s :=
  fun c hc => h c (hs.subset hc)

/-- Joining the halves of a pair leaves none of them behind. -/
theorem isPaired_consEscaped {unit : CodePoint} {next : Bool} (ht : t.IsPaired)
    (hnext : ∀ c ∈ t.head?, c.isLow = true → next = true) :
    (consEscaped unit next t).IsPaired := by
  by_cases hpair : unit.isHigh = true ∧ ∃ c ∈ t.head?, c.isLow = true
  · obtain ⟨hhigh, c, hc, hlow⟩ := hpair
    obtain ⟨t, rfl⟩ : ∃ rest, t = c :: rest := List.head?_eq_some_iff.1 hc
    cases unit with
    | char x => cases hhigh
    | surrogate first =>
      cases c with
      | char x => cases hlow
      | surrogate second =>
        have hbounds : first.val < 0x400 ∧ 0x400 ≤ second.val :=
          ⟨of_decide_eq_true hhigh, of_decide_eq_true hlow⟩
        have hjoined : consEscaped (.surrogate first) next (.surrogate second :: t) =
            .ofValue (0x10000 + first.val * 0x400 + (second.val - 0x400)) :: t :=
          if_pos ⟨hnext _ hc hlow, hbounds⟩
        rw [hjoined, ofValue, dif_neg (by omega), Text.isPaired_cons_char]
        exact (Text.isPaired_cons_iff.1 ht).2
  · -- Without a pair the unit is put in front as it is, and it has no partner.
    have halone : unit.isHigh = true → ∀ c ∈ t.head?, c.isLow = false := by
      intro hhigh c hc
      by_contra hlow
      exact hpair ⟨hhigh, c, hc, by simpa using hlow⟩
    rw [consEscaped_eq_cons fun _ => halone, Text.isPaired_cons_iff]
    exact ⟨halone, ht⟩

/-- What remains after a string is an end of what was there. -/
theorem suffix_of_readUpToQuote {source : Text}
    (h : readUpToQuote opening source = .ok (t, rest)) : rest <:+ source := by
  fun_induction readUpToQuote opening source generalizing t rest with
  | case2 =>
    cases h
    exact List.suffix_cons _ _
  | case5 a b c d e source unit _ ih =>
    obtain ⟨⟨read, after⟩, hread, h⟩ := exists_of_bind_eq_ok h
    cases h
    exact (ih hread).trans ⟨[_, _, _, _, _, _], rfl⟩
  | case8 letter source _ _ c _ ih =>
    obtain ⟨⟨read, after⟩, hread, h⟩ := exists_of_bind_eq_ok h
    cases h
    exact (ih hread).trans ⟨[_, _], rfl⟩
  | case10 c source _ _ _ _ _ _ ih =>
    obtain ⟨⟨read, after⟩, hread, h⟩ := exists_of_bind_eq_ok h
    cases h
    exact (ih hread).trans (List.suffix_cons _ _)
  | _ => cases h

/-- A string that was read from characters has no two halves of a pair side by side, and it starts
with a second half only if that was escaped. -/
theorem isPaired_of_readUpToQuote {source : Text} (hsource : IsPlain source)
    (h : readUpToQuote opening source = .ok (t, rest)) :
    t.IsPaired ∧ ∀ c ∈ t.head?, c.isLow = true → startsWithEscape source = true := by
  fun_induction readUpToQuote opening source generalizing t rest with
  | case2 =>
    cases h
    exact ⟨Text.isPaired_nil, by rintro _ ⟨⟩⟩
  | case5 a b c d e source unit _ ih =>
    obtain ⟨⟨read, after⟩, hread, h⟩ := exists_of_bind_eq_ok h
    cases h
    obtain ⟨hpaired, hlow⟩ := ih (hsource.of_suffix ⟨[_, _, _, _, _, _], rfl⟩) hread
    exact ⟨isPaired_consEscaped hpaired hlow, fun _ _ _ => rfl⟩
  | case8 letter source _ _ c _ ih =>
    obtain ⟨⟨read, after⟩, hread, h⟩ := exists_of_bind_eq_ok h
    cases h
    obtain ⟨hpaired, -⟩ := ih (hsource.of_suffix ⟨[_, _], rfl⟩) hread
    exact ⟨(Text.isPaired_cons_char c _).2 hpaired, by rintro _ ⟨⟩ ⟨⟩⟩
  | case10 c source _ _ _ _ _ _ ih =>
    obtain ⟨⟨read, after⟩, hread, h⟩ := exists_of_bind_eq_ok h
    cases h
    obtain ⟨hpaired, -⟩ := ih (hsource.of_suffix (List.suffix_cons _ _)) hread
    have hc := hsource c (by simp)
    cases c with
    | surrogate offset => cases hc
    | char c => exact ⟨(Text.isPaired_cons_char c _).2 hpaired, by rintro _ ⟨⟩ ⟨⟩⟩
  | _ => cases h

end Json

namespace Text

variable {t : Text}

/-- No halves of a pair are left side by side in a joined text. -/
theorem isPaired_joined (t : Text) : t.joined.IsPaired := by
  induction t with
  | nil => exact isPaired_nil
  | cons c t ih => exact Json.isPaired_consEscaped ih fun _ _ _ => rfl

/-- Joining changes nothing exactly if no halves of a pair stand side by side. -/
theorem joined_eq_self_iff : t.joined = t ↔ t.IsPaired := by
  refine ⟨fun h => h ▸ isPaired_joined t, fun h => ?_⟩
  induction t with
  | nil => rfl
  | cons c t ih =>
    rw [isPaired_cons_iff] at h
    rw [joined, ih h.2, Json.consEscaped_eq_cons fun _ => h.1]

end Text

end CodeScan
