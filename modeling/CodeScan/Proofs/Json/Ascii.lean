import CodeScan.Json.Writer
import CodeScan.Proofs.Text.Digits

/-!
# Written JSON is one line of ASCII

Whatever a value holds, its text is made of printable ASCII characters only (`isAscii_write`); in
particular there is no line feed in it.
-/

namespace CodeScan

/-- A printable ASCII character. -/
def CodePoint.isAscii (c : CodePoint) : Bool := 0x20 ≤ c.value && c.value < 0x7F

namespace Text

/-- A text of printable ASCII characters. -/
def IsAscii (t : Text) : Prop := ∀ c ∈ t, c.isAscii = true

instance (t : Text) : Decidable t.IsAscii :=
  inferInstanceAs (Decidable (∀ c ∈ t, c.isAscii = true))

theorem isAscii_nil : IsAscii [] := List.forall_mem_nil _

theorem IsAscii.cons {c : CodePoint} {t : Text} (hc : c.isAscii = true) (h : t.IsAscii) :
    IsAscii (c :: t) := List.forall_mem_cons.2 ⟨hc, h⟩

theorem IsAscii.append {s t : Text} (hs : s.IsAscii) (ht : t.IsAscii) : IsAscii (s ++ t) :=
  List.forall_mem_append.2 ⟨hs, ht⟩

@[simp] theorem join_singleton (separator piece : Text) : join separator [piece] = piece := by
  simp [join]

/-- The separator stands between the first piece and the others. -/
theorem join_cons_cons (separator first second : Text) (pieces : List Text) :
    join separator (first :: second :: pieces) =
      first ++ (separator ++ join separator (second :: pieces)) := by
  simp [join]

/-- What holds of the code points of all pieces and of the separator holds of those of the whole. -/
theorem forall_mem_join {p : CodePoint → Prop} {separator : Text}
    (hseparator : ∀ c ∈ separator, p c) {pieces : List Text}
    (hpieces : ∀ piece ∈ pieces, ∀ c ∈ piece, p c) :
    ∀ c ∈ join separator pieces, p c := by
  induction pieces with
  | nil => exact List.forall_mem_nil _
  | cons piece pieces ih =>
    rw [List.forall_mem_cons] at hpieces
    cases pieces with
    | nil =>
      rw [join_singleton]
      exact hpieces.1
    | cons second pieces =>
      rw [join_cons_cons, List.forall_mem_append, List.forall_mem_append]
      exact ⟨hpieces.1, hseparator, ih hpieces.2⟩

/-- The characters of numbers. -/
def isNumeral (c : Char) : Bool := c.isDigit || ['.', 'e', '+', '-'].contains c

/-- Digits are characters of numbers. -/
theorem isNumeral_of_isDigit {c : Char} (h : c.isDigit = true) : isNumeral c = true := by
  rw [isNumeral, h, Bool.true_or]

/-- The characters of numbers are ASCII. -/
theorem isAscii_ofChars {cs : List Char} (h : ∀ c ∈ cs, isNumeral c = true) :
    IsAscii (ofChars cs) := by
  intro c hc
  obtain ⟨x, hx, rfl⟩ := List.mem_map.1 hc
  have hnumeral := h x hx
  rw [isNumeral, Bool.or_eq_true] at hnumeral
  rcases hnumeral with hdigit | hmark
  · have hbounds := Char.isDigit_iff_toNat.1 hdigit
    have hzero : '0'.toNat = 48 := rfl
    have hnine : '9'.toNat = 57 := rfl
    rw [CodePoint.isAscii, CodePoint.value, Bool.and_eq_true, decide_eq_true_eq, decide_eq_true_eq]
    omega
  · have hall : ∀ x ∈ ['.', 'e', '+', '-'], (CodePoint.char x).isAscii = true :=
      List.all_eq_true.1 (by decide)
    exact hall x (List.contains_iff_mem.1 hmark)

theorem isAscii_ofNat (n : Nat) : IsAscii (ofNat n) :=
  isAscii_ofChars fun c hc => isNumeral_of_isDigit (areDigits_toDigits n c hc)

theorem isAscii_ofInt (n : Int) : IsAscii (ofInt n) := by
  cases n with
  | ofNat n => exact isAscii_ofNat n
  | negSucc n => exact IsAscii.cons (by decide) (isAscii_ofNat (n + 1))

theorem isAscii_hex (width n : Nat) : IsAscii (hex width n) := by
  induction width generalizing n with
  | zero => exact isAscii_nil
  | succ width ih =>
    have hall : ∀ n < 16, IsAscii [hexDigit n] := by decide
    exact (ih _).append (hall _ (Nat.mod_lt _ (by decide)))

end Text

open Text

/-! ## Numbers -/

namespace Binary64

/-- However the digits of a float are laid out, only characters of numbers are used. -/
theorem isNumeral_of_mem_layOut {digits : List Char} (h : AreDigits digits) (point : Int) :
    ∀ c ∈ layOut digits point, isNumeral c = true := by
  have hdigits : ∀ c ∈ digits, isNumeral c = true := fun c hc => isNumeral_of_isDigit (h c hc)
  have hzeros (k : Nat) : ∀ c ∈ List.replicate k '0', isNumeral c = true := fun c hc =>
    isNumeral_of_isDigit (areDigits_zeros k c hc)
  have hfront : ∀ c ∈ ['0', '.'], isNumeral c = true := List.all_eq_true.1 (by decide)
  unfold layOut
  split_ifs
  · split
    · exact List.forall_mem_append.2 ⟨List.forall_mem_append.2 ⟨hfront, hzeros _⟩, hdigits⟩
    · exact List.forall_mem_append.2 ⟨hfront, hdigits⟩
    · refine List.forall_mem_append.2 ⟨List.forall_mem_append.2 ⟨?_, hzeros _⟩,
        List.forall_mem_cons.2 ⟨by decide, ?_⟩⟩
      · exact fun c hc => hdigits c (List.mem_of_mem_take hc)
      · split
        · exact List.forall_mem_singleton.2 (by decide)
        · exact fun c hc => hdigits c (List.mem_of_mem_drop hc)
  · refine List.forall_mem_append.2 ⟨?_, List.forall_mem_cons.2 ⟨by decide,
      List.forall_mem_cons.2 ⟨?_, List.forall_mem_append.2 ⟨hzeros _, ?_⟩⟩⟩⟩
    · split
      · exact List.forall_mem_singleton.2 (by decide)
      · exact hdigits
      · rw [List.forall_mem_cons] at hdigits
        exact List.forall_mem_cons.2 ⟨hdigits.1, List.forall_mem_cons.2 ⟨by decide, hdigits.2⟩⟩
    · split <;> decide
    · exact fun c hc => isNumeral_of_isDigit (areDigits_toDigits _ c hc)

/-- The digits of a float are characters of numbers. -/
theorem isNumeral_of_mem_magnitudeDigits (mantissa : Nat) (exponent : Int) :
    ∀ c ∈ magnitudeDigits mantissa exponent, isNumeral c = true := by
  rw [magnitudeDigits]
  split_ifs
  · exact List.all_eq_true.1 (by decide)
  · refine isNumeral_of_mem_layOut (fun c hc => ?_) _
    rw [dropTrailingZeros, List.mem_reverse] at hc
    have hmem := (List.dropWhile_suffix _).subset hc
    exact areDigits_toDigits _ c (List.mem_reverse.1 hmem)

/-- A float is written in ASCII if the special names are. -/
theorem isAscii_toText {names : SpecialNames} (hnan : names.nan.IsAscii)
    (hinfinity : names.infinity.IsAscii) (x : Binary64) : (x.toText names).IsAscii := by
  cases x with
  | nan => exact hnan
  | infinite negative =>
    cases negative with
    | true => exact IsAscii.cons (by decide) hinfinity
    | false => exact hinfinity
  | finite negative mantissa exponent =>
    refine isAscii_ofChars (List.forall_mem_append.2
      ⟨?_, isNumeral_of_mem_magnitudeDigits mantissa exponent⟩)
    cases negative with
    | true => exact List.forall_mem_singleton.2 (by decide)
    | false => exact List.forall_mem_nil _

end Binary64

/-! ## Values -/

namespace Json

theorem isAscii_escapeUnit (unit : Nat) : (escapeUnit unit).IsAscii :=
  IsAscii.append (by decide) (isAscii_hex 4 unit)

/-- A code point is written in ASCII: itself, by a letter or by number. -/
theorem isAscii_writeCodePoint (c : CodePoint) : (writeCodePoint c).IsAscii := by
  unfold writeCodePoint
  split_ifs with _ _ _ _ _ _ _ hprintable
  all_goals try decide
  · refine IsAscii.cons ?_ isAscii_nil
    simpa [CodePoint.isAscii] using hprintable
  · exact isAscii_escapeUnit _
  · exact (isAscii_escapeUnit _).append (isAscii_escapeUnit _)

/-- A string is written in ASCII, whatever is in it. -/
theorem isAscii_writeString (t : Text) : (writeString t).IsAscii := by
  refine IsAscii.append (IsAscii.cons (by decide) ?_) (by decide)
  intro c hc
  obtain ⟨x, -, hc⟩ := List.mem_flatMap.1 hc
  exact isAscii_writeCodePoint x c hc

mutual

/-- A value is written in printable ASCII. -/
theorem isAscii_write (v : Json) : v.write.IsAscii := by
  cases v with
  | null => exact (by decide : IsAscii "null")
  | bool b =>
    cases b with
    | true => exact (by decide : IsAscii "true")
    | false => exact (by decide : IsAscii "false")
  | int n => exact isAscii_ofInt n
  | float x => exact Binary64.isAscii_toText (by decide) (by decide) x
  | string t => exact isAscii_writeString t
  | array items =>
    exact (IsAscii.cons (by decide) (forall_mem_join (by decide) (isAscii_writeItems items))).append
      (by decide)
  | object members =>
    exact (IsAscii.cons (by decide)
      (forall_mem_join (by decide) (isAscii_writeMembers members))).append (by decide)

/-- The elements of an array are written in ASCII. -/
theorem isAscii_writeItems (items : List Json) :
    ∀ piece ∈ writeItems items, Text.IsAscii piece := by
  cases items with
  | nil => exact List.forall_mem_nil _
  | cons item items =>
    exact List.forall_mem_cons.2 ⟨isAscii_write item, isAscii_writeItems items⟩

/-- The members of an object are written in ASCII. -/
theorem isAscii_writeMembers (members : List (Text × Json)) :
    ∀ piece ∈ writeMembers members, Text.IsAscii piece := by
  match members with
  | [] => exact List.forall_mem_nil _
  | (name, value) :: members =>
    exact List.forall_mem_cons.2
      ⟨((isAscii_writeString name).append (by decide)).append (isAscii_write value),
        isAscii_writeMembers members⟩

end

end Json

end CodeScan
