import CodeScan.Json.Reader
import CodeScan.Json.Writer
import CodeScan.Proofs.Number.Shortest
import CodeScan.Proofs.Record.Fields
import CodeScan.Proofs.Text.Digits

/-!
# Written numbers read back

A number ends where a digit, a point or the mark of an exponent could no longer continue it.  In
written JSON one of four characters follows, or nothing (`Ended`), and then an integer that is not
too long and a canonical float read back as themselves (`readScalar_ofInt`, `readScalar_toText`).

For a float the digits have to be brought together again: wherever the layout puts the point, the
digits and the exponent that are read make the decimal that was laid out, up to zeros at its end
(`readMagnitude?_layOut`).
-/

namespace CodeScan

namespace Json

open Text (AreDigits)

/-- The characters that may follow a written value. -/
def closers : List Char := [',', ']', '\x7d', '\n']

/-- What follows a written value: nothing, or one of the closing characters. -/
def Ended (rest : Text) : Prop := ∀ c ∈ rest.head?, ∃ x ∈ closers, c = .char x

/-! ## Digits -/

section Digits

variable {digits : List Char} {rest : Text}

/-- Digits are read up to where something else follows. -/
theorem spanDigits_append (hdigits : AreDigits digits)
    (hrest : ∀ c ∈ rest.head?, isDigit c = false) :
    spanDigits (.ofChars digits ++ rest) = (.ofChars digits, rest) := by
  have hrun : ∀ c ∈ Text.ofChars digits, isDigit c = true := by
    intro c hc
    obtain ⟨x, hx, rfl⟩ := List.mem_map.1 hc
    exact hdigits x hx
  rw [spanDigits, Text.takeWhile_append_rest hrun hrest, Text.dropWhile_append_rest hrun hrest]

/-- Digits are worth what the library says. -/
theorem digitsValue_ofChars (digits : List Char) :
    digitsValue (.ofChars digits) = Nat.ofDigitChars 10 digits 0 := by
  have hfold (n : Nat) : (Text.ofChars digits).foldl
      (fun n c => n * 10 + (c.value - '0'.toNat)) n = Nat.ofDigitChars 10 digits n := by
    induction digits generalizing n with
    | nil => rfl
    | cons c digits ih =>
      rw [Text.ofChars_cons, List.foldl_cons, ih, Nat.ofDigitChars_cons, Nat.mul_comm n]
      rfl
  exact hfold 0

/-- Where a value ends, no digit follows. -/
theorem Ended.isDigit_eq_false (h : Ended rest) : ∀ c ∈ rest.head?, isDigit c = false := by
  intro c hc
  obtain ⟨x, hx, rfl⟩ := h c hc
  have hnone : (closers.any fun x => isDigit (.char x)) = false := by decide
  exact Bool.eq_false_iff.2 (List.any_eq_false.1 hnone x hx)

/-- Where a value ends, there is no fraction. -/
theorem Ended.readFraction (h : Ended rest) : readFraction rest = (none, rest) := by
  cases rest with
  | nil => rfl
  | cons c rest =>
    obtain ⟨x, hx, rfl⟩ := h c rfl
    have hpoint : x ≠ '.' := by
      rintro rfl
      exact absurd hx (by decide)
    simp [Json.readFraction, hpoint]

/-- Where a value ends, there is no exponent. -/
theorem Ended.readExponent (h : Ended rest) : readExponent rest = (none, rest) := by
  cases rest with
  | nil => rfl
  | cons c rest =>
    obtain ⟨x, hx, rfl⟩ := h c rfl
    have hnone : (closers.any fun x => x = 'e' ∨ x = 'E') = false := by decide
    have hmark : ¬ (x = 'e' ∨ x = 'E') := by simpa using List.any_eq_false.1 hnone x hx
    simp only [Json.readExponent, if_neg hmark]

/-- A fraction is read from the digits after its point. -/
theorem readFraction_point (hdigits : AreDigits digits) (hne : digits ≠ [])
    (hrest : ∀ c ∈ rest.head?, isDigit c = false) :
    readFraction (.char '.' :: (Text.ofChars digits ++ rest)) =
      (some (.ofChars digits), rest) := by
  have hspan := spanDigits_append hdigits hrest
  obtain ⟨c, digits, rfl⟩ := List.exists_cons_of_ne_nil hne
  simp only [Text.ofChars_cons, List.cons_append] at hspan ⊢
  simp only [readFraction, hspan]

/-- An exponent is read from its sign and the digits after that. -/
theorem readExponent_mark (hdigits : AreDigits digits) (hne : digits ≠ [])
    (hrest : ∀ c ∈ rest.head?, isDigit c = false) {sign : Char} (hsign : sign = '-' ∨ sign = '+') :
    readExponent (.char 'e' :: .char sign :: (Text.ofChars digits ++ rest)) =
      (some ((if sign = '-' then -1 else 1) * (Nat.ofDigitChars 10 digits 0 : Int)), rest) := by
  have hvalue := digitsValue_ofChars digits
  have hspan := spanDigits_append hdigits hrest
  obtain ⟨c, digits, rfl⟩ := List.exists_cons_of_ne_nil hne
  simp only [Text.ofChars_cons, List.cons_append] at hvalue hspan ⊢
  rcases hsign with rfl | rfl <;> simp [readExponent, hspan, hvalue]

end Digits

/-! ## Magnitudes -/

/-- Digits before the point: a zero alone, or digits that do not start with a zero. -/
structure IsWhole (whole : List Char) : Prop where
  areDigits : AreDigits whole
  ne_nil : whole ≠ []
  head_ne_zero : whole ≠ ['0'] → whole.head? ≠ some '0'

variable {whole : List Char} {rest : Text} (negative : Bool)

/-- What is read after the digits before the point. -/
theorem readMagnitude?_append (hwhole : IsWhole whole)
    (hrest : ∀ c ∈ rest.head?, isDigit c = false) :
    readMagnitude? negative (Text.ofChars whole ++ rest) =
      let fraction := readFraction rest
      let exponent := readExponent fraction.2
      some <|
        if fraction.1.isNone ∧ exponent.1.isNone then
          let n : Int := Nat.ofDigitChars 10 whole 0
          (.int (if negative then -n else n), exponent.2)
        else
          let places := fraction.1.getD []
          let value := Binary64.ofDecimal negative (digitsValue (Text.ofChars whole ++ places))
            (exponent.1.getD 0 - places.length)
          (.float value, exponent.2) := by
  have hvalue := digitsValue_ofChars whole
  -- A zero in front ends the whole part at once.
  by_cases hzero : whole = ['0']
  · subst hzero
    simp only [readMagnitude?, Text.ofChars_cons, Text.ofChars_nil, List.cons_append,
      List.nil_append, ← hvalue]
  · have hspan := spanDigits_append hwhole.areDigits hrest
    have hhead := hwhole.head_ne_zero hzero
    obtain ⟨c, digits, rfl⟩ := List.exists_cons_of_ne_nil hwhole.ne_nil
    have hc : c ≠ '0' := fun h => hhead (congrArg some h)
    simp only [Text.ofChars_cons, List.cons_append] at hspan hvalue ⊢
    simp only [readMagnitude?]
    split
    · rename_i heq
      cases heq
      exact absurd rfl hc
    · simp only [hspan, hvalue, List.cons_append]

/-! ## Integers -/

/-- The digits of a natural number can stand in front of a point. -/
theorem isWhole_toDigits (n : Nat) : IsWhole (Nat.toDigits 10 n) where
  areDigits := Text.areDigits_toDigits n
  ne_nil := Nat.toDigits_ne_nil
  head_ne_zero hne := by
    rcases Nat.eq_zero_or_pos n with rfl | hn
    · exact absurd rfl hne
    · exact Text.head?_toDigits_ne_zero hn

/-- The digits of a natural number are read as that number, or its negative. -/
theorem readMagnitude?_toDigits (hrest : Ended rest) (n : Nat) :
    readMagnitude? negative (Text.ofChars (Nat.toDigits 10 n) ++ rest) =
      some (.int (if negative then -(n : Int) else n), rest) := by
  rw [readMagnitude?_append negative (isWhole_toDigits n) hrest.isDigit_eq_false]
  simp only [hrest.readFraction, hrest.readExponent, Option.isNone_none, and_self, if_true,
    Nat.ofDigitChars_ten_toDigits]

/-! ## Floats -/

/-- Significant digits: the first one is not zero. -/
structure IsSignificant (digits : List Char) : Prop where
  areDigits : AreDigits digits
  ne_nil : digits ≠ []
  head_ne_zero : digits.head? ≠ some '0'

/-- Zeros behind digits multiply by powers of ten. -/
theorem ofDigitChars_append_zeros (digits : List Char) (k : Nat) :
    Nat.ofDigitChars 10 (digits ++ List.replicate k '0') 0 =
      Nat.ofDigitChars 10 digits 0 * 10 ^ k := by
  rw [Nat.ofDigitChars_append, Nat.ofDigitChars_replicate_zero, Nat.mul_comm]

/-- The digits of a float around its point. -/
theorem readMagnitude?_point {places : List Char} (hwhole : IsWhole whole)
    (hplaces : AreDigits places) (hne : places ≠ []) (hrest : Ended rest) :
    readMagnitude? negative (Text.ofChars (whole ++ '.' :: places) ++ rest) =
      some (.float (Binary64.ofDecimal negative (Nat.ofDigitChars 10 (whole ++ places) 0)
        (-places.length)), rest) := by
  have hsplit : Text.ofChars (whole ++ '.' :: places) ++ rest =
      Text.ofChars whole ++ .char '.' :: (Text.ofChars places ++ rest) := by
    simp [Text.ofChars]
  have hstop : ∀ c ∈ (CodePoint.char '.' :: (Text.ofChars places ++ rest)).head?,
      isDigit c = false := by
    rintro c hc
    cases hc
    rfl
  have hdigits : Text.ofChars whole ++ Text.ofChars places = .ofChars (whole ++ places) := by
    simp [Text.ofChars]
  rw [hsplit, readMagnitude?_append negative hwhole hstop]
  simp only [readFraction_point hplaces hne hrest.isDigit_eq_false, hrest.readExponent,
    Option.isNone_some, Bool.false_eq_true, false_and, if_false, Option.getD_some, Option.getD_none,
    hdigits, digitsValue_ofChars, zero_sub]
  simp [Text.ofChars]

/-- The digits of a float with an exponent. -/
theorem readMagnitude?_exponent {digit : Char} {more power : List Char}
    (hdigits : IsSignificant (digit :: more)) (hpower : AreDigits power) (hne : power ≠ [])
    {sign : Char} (hsign : sign = '-' ∨ sign = '+') (hrest : Ended rest) :
    readMagnitude? negative (Text.ofChars ((if more = [] then [digit] else digit :: '.' :: more) ++
        'e' :: sign :: power) ++ rest) =
      some (.float (Binary64.ofDecimal negative (Nat.ofDigitChars 10 (digit :: more) 0)
        ((if sign = '-' then -1 else 1) * (Nat.ofDigitChars 10 power 0 : Int) - more.length)),
        rest) := by
  have hwhole : IsWhole [digit] :=
    ⟨fun c hc => hdigits.areDigits c (List.mem_cons.2 (.inl (List.mem_singleton.1 hc))),
      List.cons_ne_nil _ _, fun _ h => hdigits.head_ne_zero h⟩
  have hexponent := readExponent_mark hpower hne hrest.isDigit_eq_false hsign
  have hstop : ∀ c ∈ (CodePoint.char 'e' :: .char sign :: (Text.ofChars power ++ rest)).head?,
      isDigit c = false := by
    rintro c hc
    cases hc
    rfl
  -- A single digit has no point behind it.
  split
  · rename_i hnil
    subst hnil
    have hsplit : Text.ofChars ([digit] ++ 'e' :: sign :: power) ++ rest =
        Text.ofChars [digit] ++ .char 'e' :: .char sign :: (Text.ofChars power ++ rest) := by
      simp [Text.ofChars]
    have hfraction : readFraction (.char 'e' :: .char sign :: (Text.ofChars power ++ rest)) =
        (none, .char 'e' :: .char sign :: (Text.ofChars power ++ rest)) := by
      simp [readFraction]
    rw [hsplit, readMagnitude?_append negative hwhole hstop]
    simp only [hfraction, hexponent, Option.isNone_some, Bool.false_eq_true, and_false, if_false,
      Option.getD_some, Option.getD_none, List.append_nil, digitsValue_ofChars, List.length_nil]
  · rename_i hmore
    have hplaces : AreDigits more := fun c hc => hdigits.areDigits c (List.mem_cons_of_mem _ hc)
    have hsplit : Text.ofChars ((digit :: '.' :: more) ++ 'e' :: sign :: power) ++ rest =
        Text.ofChars [digit] ++ .char '.' :: (Text.ofChars more ++
          .char 'e' :: .char sign :: (Text.ofChars power ++ rest)) := by
      simp [Text.ofChars]
    have hpoint : ∀ c ∈ (CodePoint.char '.' :: (Text.ofChars more ++
        .char 'e' :: .char sign :: (Text.ofChars power ++ rest))).head?, isDigit c = false := by
      rintro c hc
      cases hc
      rfl
    have hjoined : Text.ofChars [digit] ++ Text.ofChars more = .ofChars (digit :: more) := rfl
    rw [hsplit, readMagnitude?_append negative hwhole hpoint]
    simp only [readFraction_point hplaces hmore hstop, hexponent, Option.isNone_some,
      Bool.false_eq_true, and_false, if_false, Option.getD_some, hjoined, digitsValue_ofChars]
    simp [Text.ofChars]

/-- Digits with the point in front of them, after a zero and perhaps more zeros. -/
theorem readMagnitude?_zeros {digits : List Char} (hdigits : IsSignificant digits) (zeros : Nat)
    (hrest : Ended rest) :
    readMagnitude? negative
        (Text.ofChars ('0' :: '.' :: (List.replicate zeros '0' ++ digits)) ++ rest) =
      some (.float (Binary64.ofDecimal negative (Nat.ofDigitChars 10 digits 0)
        (-(zeros + digits.length : Nat))), rest) := by
  have hzero : IsWhole ['0'] :=
    ⟨Text.areDigits_zeros 1, List.cons_ne_nil _ _, fun h => absurd rfl h⟩
  have hplaces : AreDigits (List.replicate zeros '0' ++ digits) :=
    (Text.areDigits_zeros _).append hdigits.areDigits
  have hne : List.replicate zeros '0' ++ digits ≠ [] := by
    simp [hdigits.ne_nil]
  have hvalue : Nat.ofDigitChars 10 (['0'] ++ (List.replicate zeros '0' ++ digits)) 0 =
      Nat.ofDigitChars 10 digits 0 := by
    rw [Nat.ofDigitChars_append, Nat.ofDigitChars_append, Nat.ofDigitChars_replicate_zero]
    rfl
  have hread := readMagnitude?_point negative hzero hplaces hne hrest
  rwa [hvalue, List.length_append, List.length_replicate] at hread

/-- Digits with the point among them. -/
theorem readMagnitude?_inside {digits : List Char} (hdigits : IsSignificant digits) {places : Nat}
    (hplaces : 0 < places) (hlength : places < digits.length) (hrest : Ended rest) :
    readMagnitude? negative
        (Text.ofChars (digits.take places ++ '.' :: digits.drop places) ++ rest) =
      some (.float (Binary64.ofDecimal negative (Nat.ofDigitChars 10 digits 0)
        (places - digits.length)), rest) := by
  have hwhole : IsWhole (digits.take places) := by
    refine ⟨fun c hc => hdigits.areDigits c (List.mem_of_mem_take hc), ?_, fun _ => ?_⟩
    · rw [Ne, List.take_eq_nil_iff]
      exact not_or.2 ⟨hplaces.ne', hdigits.ne_nil⟩
    · rw [List.head?_take, if_neg hplaces.ne']
      exact hdigits.head_ne_zero
  have hdrop : AreDigits (digits.drop places) :=
    fun c hc => hdigits.areDigits c (List.mem_of_mem_drop hc)
  have hne : digits.drop places ≠ [] := by
    rw [Ne, List.drop_eq_nil_iff]
    omega
  rw [readMagnitude?_point negative hwhole hdrop hne hrest, List.take_append_drop, List.length_drop]
  congr 4
  omega

/-- Digits with the point after them, perhaps after more zeros. -/
theorem readMagnitude?_after {digits : List Char} (hdigits : IsSignificant digits) (zeros : Nat)
    (hrest : Ended rest) :
    readMagnitude? negative
        (Text.ofChars (digits ++ List.replicate zeros '0' ++ ['.', '0']) ++ rest) =
      some (.float (Binary64.ofDecimal negative (Nat.ofDigitChars 10 digits 0) zeros), rest) := by
  have hhead : (digits ++ List.replicate zeros '0').head? ≠ some '0' := by
    rw [List.head?_append_of_ne_nil _ hdigits.ne_nil]
    exact hdigits.head_ne_zero
  have hwhole : IsWhole (digits ++ List.replicate zeros '0') :=
    ⟨hdigits.areDigits.append (Text.areDigits_zeros _), by simp [hdigits.ne_nil], fun _ => hhead⟩
  have hdigit : digits ++ List.replicate zeros '0' ++ ['0'] =
      digits ++ List.replicate (zeros + 1) '0' := by
    rw [List.append_assoc, List.replicate_succ']
  have hshift := Binary64.ofDecimal_shift negative (Nat.ofDigitChars 10 digits 0) zeros (zeros + 1)
  have hplaces : AreDigits ['0'] := Text.areDigits_zeros 1
  rw [readMagnitude?_point negative hwhole hplaces (List.cons_ne_nil _ _) hrest, hdigit,
    ofDigitChars_append_zeros, ← hshift]
  congr 4
  rw [List.length_singleton]
  push_cast
  omega

/-- Digits in the form with an exponent. -/
theorem readMagnitude?_power {digit : Char} {more : List Char}
    (hdigits : IsSignificant (digit :: more)) (power : Int) (hrest : Ended rest) :
    readMagnitude? negative (Text.ofChars ((if more = [] then [digit] else digit :: '.' :: more) ++
        'e' :: (if power < 0 then '-' else '+') :: Text.paddedDigits 2 power.natAbs) ++ rest) =
      some (.float (Binary64.ofDecimal negative (Nat.ofDigitChars 10 (digit :: more) 0)
        (power - more.length)), rest) := by
  have hne : Text.paddedDigits 2 power.natAbs ≠ [] := by
    simp [Text.paddedDigits]
  by_cases hneg : power < 0
  · have hpower : (if '-' = '-' then -1 else 1) * (power.natAbs : Int) = power := by
      rw [if_pos rfl]
      omega
    rw [if_pos hneg, readMagnitude?_exponent negative hdigits (Text.areDigits_paddedDigits _ _) hne
      (.inl rfl) hrest, Text.ofDigitChars_paddedDigits, hpower]
  · have hpower : (if '+' = '-' then -1 else 1) * (power.natAbs : Int) = power := by
      rw [if_neg (by decide)]
      omega
    rw [if_neg hneg, readMagnitude?_exponent negative hdigits (Text.areDigits_paddedDigits _ _) hne
      (.inr rfl) hrest, Text.ofDigitChars_paddedDigits, hpower]

/-- Wherever the point is put, the digits that were laid out are read, with the exponent that
belongs to them. -/
theorem readMagnitude?_layOut {digits : List Char} (hdigits : IsSignificant digits) (point : Int)
    (hrest : Ended rest) :
    readMagnitude? negative (Text.ofChars (Binary64.layOut digits point) ++ rest) =
      some (.float (Binary64.ofDecimal negative (Nat.ofDigitChars 10 digits 0)
        (point - digits.length)), rest) := by
  unfold Binary64.layOut
  -- The layouts: a point in front of the digits, among them or behind them, or an exponent.
  split
  · split
    · rename_i zeros _
      rw [List.cons_append, List.cons_append, readMagnitude?_zeros negative hdigits _ hrest]
      congr 4
      omega
    · rw [← List.nil_append digits, ← List.replicate_zero,
        readMagnitude?_zeros negative hdigits _ hrest]
      congr 4
      simp
    · rename_i places hne _
      have hpos : 0 < places := Nat.pos_of_ne_zero hne
      by_cases hlength : places < digits.length
      · have hzeros : places - digits.length = 0 := by omega
        have hdrop : (digits.drop places).isEmpty = false := by
          rw [List.isEmpty_eq_false_iff, Ne, List.drop_eq_nil_iff]
          omega
        simp only [hzeros, List.replicate_zero, List.append_nil, hdrop, Bool.false_eq_true,
          if_false]
        exact readMagnitude?_inside negative hdigits hpos hlength hrest
      · have hdrop : digits.drop places = [] := List.drop_eq_nil_iff.2 (by omega)
        have htake : digits.take places = digits := List.take_of_length_le (by omega)
        simp only [hdrop, htake, List.isEmpty_nil, if_true]
        rw [readMagnitude?_after negative hdigits _ hrest]
        congr 4
        simp
        omega
  · obtain ⟨digit, more, rfl⟩ := List.exists_cons_of_ne_nil hdigits.ne_nil
    have hread := readMagnitude?_power negative hdigits (point - 1) hrest
    have hexponent : point - 1 - (more.length : Int) = point - (digit :: more).length := by
      rw [List.length_cons]
      push_cast
      omega
    rw [hexponent] at hread
    cases more with
    | nil => exact hread
    | cons next more => exact hread

/-- The digits of a number without the zeros at its end. -/
theorem exists_eq_dropTrailingZeros (digits : List Char) :
    ∃ k, digits = Binary64.dropTrailingZeros digits ++ List.replicate k '0' := by
  refine ⟨(digits.reverse.takeWhile (· == '0')).length, ?_⟩
  have hzeros : digits.reverse.takeWhile (· == '0') =
      List.replicate (digits.reverse.takeWhile (· == '0')).length '0' := by
    rw [List.eq_replicate_iff]
    refine ⟨rfl, fun c hc => ?_⟩
    have hc := List.mem_takeWhile_imp hc
    simpa using hc
  have hsplit : (digits.reverse.takeWhile (· == '0') ++
      digits.reverse.dropWhile (· == '0')).reverse = digits.reverse.reverse :=
    congrArg List.reverse List.takeWhile_append_dropWhile
  rw [List.reverse_append, List.reverse_reverse, hzeros, List.reverse_replicate] at hsplit
  exact hsplit.symm

/-- What is left of a positive number's digits without the zeros behind is significant. -/
theorem isSignificant_dropTrailingZeros {n : Nat} (hn : 0 < n) :
    IsSignificant (Binary64.dropTrailingZeros (Nat.toDigits 10 n)) := by
  obtain ⟨k, hk⟩ := exists_eq_dropTrailingZeros (Nat.toDigits 10 n)
  have hne : Binary64.dropTrailingZeros (Nat.toDigits 10 n) ≠ [] := by
    intro hnil
    rw [hnil, List.nil_append] at hk
    have hvalue := congrArg (Nat.ofDigitChars 10 · 0) hk
    simp only [Nat.ofDigitChars_ten_toDigits, Nat.ofDigitChars_replicate_zero] at hvalue
    omega
  refine ⟨fun c hc => Text.areDigits_toDigits n c (hk ▸ List.mem_append_left _ hc), hne, ?_⟩
  have hhead := Text.head?_toDigits_ne_zero hn
  rw [hk, List.head?_append_of_ne_nil _ hne] at hhead
  exact hhead

/-- A canonical float that is written reads back. -/
theorem readMagnitude?_magnitudeDigits {mantissa : Nat} {exponent : Int}
    (h : (Binary64.finite negative mantissa exponent).IsCanonical) (hrest : Ended rest) :
    readMagnitude? negative (Text.ofChars (Binary64.magnitudeDigits mantissa exponent) ++ rest) =
      some (.float (.finite negative mantissa exponent), rest) := by
  rw [Binary64.magnitudeDigits]
  split
  · -- Zero is written out; it has the least exponent since it is canonical.
    rename_i hzero
    subst hzero
    obtain ⟨-, -, -, hfull⟩ := h
    have hexponent : exponent = Binary64.leastExponent :=
      hfull.resolve_left (by decide)
    have hwhole : IsWhole ['0'] :=
      ⟨Text.areDigits_zeros 1, List.cons_ne_nil _ _, fun h => absurd rfl h⟩
    rw [hexponent]
    exact readMagnitude?_point negative hwhole (Text.areDigits_zeros 1) (List.cons_ne_nil _ _) hrest
  · rename_i hne
    have hread := Binary64.ofDecimal_shortestDecimal (Nat.pos_of_ne_zero hne) h
    simp only
    generalize Binary64.shortestDecimal mantissa exponent = decimal at hread ⊢
    have hpos : 0 < decimal.digits := by
      rw [Nat.pos_iff_ne_zero]
      intro hzero
      rw [hzero, Binary64.ofDecimal, if_pos (.inl rfl)] at hread
      injection hread with _ hmantissa _
      exact hne hmantissa.symm
    obtain ⟨k, hk⟩ := exists_eq_dropTrailingZeros (Nat.toDigits 10 decimal.digits)
    have hvalue : decimal.digits =
        Nat.ofDigitChars 10 (Binary64.dropTrailingZeros (Nat.toDigits 10 decimal.digits)) 0 *
          10 ^ k := by
      rw [← ofDigitChars_append_zeros, ← hk, Nat.ofDigitChars_ten_toDigits]
    have hlength : (Nat.toDigits 10 decimal.digits).length =
        (Binary64.dropTrailingZeros (Nat.toDigits 10 decimal.digits)).length + k := by
      conv_lhs => rw [hk]
      rw [List.length_append, List.length_replicate]
    -- What is read is the decimal, with the zeros at its end in the exponent.
    have hshift := Binary64.ofDecimal_shift negative
      (Nat.ofDigitChars 10 (Binary64.dropTrailingZeros (Nat.toDigits 10 decimal.digits)) 0)
      (k + decimal.exponent) k
    rw [← hvalue, add_sub_cancel_left, Binary64.ofDecimal_of_positive hread] at hshift
    rw [readMagnitude?_layOut negative (isSignificant_dropTrailingZeros hpos) _ hrest, hlength,
      hshift]
    congr 4
    push_cast
    omega

/-! ## Scalars -/

/-- A minus sign in front of what is negative. -/
def signed (negative : Bool) (t : Text) : Text := if negative then .char '-' :: t else t

/-- The words that stand for a value. -/
def constants : List (Text × Json) :=
  [("null", .null), ("true", .bool true), ("false", .bool false), ("NaN", .float .nan),
   ("Infinity", .float (.infinite false)), ("-Infinity", .float (.infinite true))]

/-- The constant at the front. -/
def constant? (source : Text) : Option (Json × Text) :=
  constants.findSome? fun entry => (dropWord? entry.1 source).map fun rest => (entry.2, rest)

/-- The number at the front. -/
def number? : Text → Option (Json × Text)
  | .char '-' :: rest => readMagnitude? true rest
  | rest => readMagnitude? false rest

/-- What was found at the front of a text, unless it is an integer of too many digits. -/
def scalarOf (source : Text) : Option (Json × Text) → Except Fault (Json × Text)
  | some (.int n, rest) =>
    if maxDigits < digitCount source then faultAt .overlongInteger source else .ok (.int n, rest)
  | some result => .ok result
  | none => faultAt .expectedValue source

/-- Reading a scalar in steps: what it could be, and whether that is accepted. -/
theorem readScalar_eq (source : Text) :
    readScalar source = scalarOf source ((constant? source).or (number? source)) := by
  simp only [readScalar, Option.orElse_eq_orElse, Option.orElse_eq_or]
  rfl

/-- What starts like a number is read as one. -/
theorem readScalar_signed {c : Char} (hc : c.isDigit = true) (more : Text) :
    readScalar (signed negative (.char c :: more)) =
      scalarOf (signed negative (.char c :: more)) (readMagnitude? negative (.char c :: more)) := by
  have hletter {x : Char} (hx : x.isDigit = false) : CodePoint.char x ≠ .char c := by
    rintro heq
    cases heq
    rw [hc] at hx
    cases hx
  -- No constant starts with a digit, nor with a digit behind a minus sign.
  have hconstant : constant? (signed negative (.char c :: more)) = none := by
    rw [constant?, List.findSome?_eq_none_iff, constants]
    repeat rw [Text.ofString_ofList]
    cases negative <;> simp [signed, dropWord?, hletter]
  have hnumber : number? (signed negative (.char c :: more)) =
      readMagnitude? negative (.char c :: more) := by
    cases negative with
    | true => rfl
    | false =>
      have hminus : c ≠ '-' := by
        rintro rfl
        cases hc
      simp [signed, number?, hminus]
  rw [readScalar_eq, hconstant, Option.none_or, hnumber]

/-- A sign does not count as a digit. -/
theorem digitCount_signed {c : Char} (hc : c.isDigit = true) (more : Text) :
    digitCount (signed negative (.char c :: more)) = (spanDigits (.char c :: more)).1.length := by
  cases negative with
  | true => rfl
  | false =>
    have hminus : c ≠ '-' := by
      rintro rfl
      cases hc
    simp [signed, digitCount, hminus]

/-- A written integer of limited length is read back. -/
theorem readScalar_ofInt {n : Int} (hn : n.natAbs < 10 ^ maxDigits) (hrest : Ended rest) :
    readScalar (Text.ofInt n ++ rest) = .ok (.int n, rest) := by
  have htext : Text.ofInt n ++ rest =
      signed (n < 0) (Text.ofChars (Nat.toDigits 10 n.natAbs) ++ rest) := by
    cases n with
    | ofNat n => simp [Text.ofInt, Text.ofNat, signed]
    | negSucc n => simp [Text.ofInt, Text.ofNat, signed]
  have hread := readMagnitude?_toDigits (n < 0) hrest n.natAbs
  have hspan := spanDigits_append (Text.areDigits_toDigits n.natAbs) hrest.isDigit_eq_false
  have hlength := (Nat.length_toDigits_le_iff (by decide) (by decide)).2 hn
  have hvalue : (if decide (n < 0) = true then -(n.natAbs : Int) else n.natAbs) = n := by
    split
    · rename_i hneg
      have := of_decide_eq_true hneg
      omega
    · rename_i hpos
      have := mt decide_eq_true hpos
      omega
  rw [hvalue] at hread
  have hdigits := Text.areDigits_toDigits n.natAbs
  have hne : Nat.toDigits 10 n.natAbs ≠ [] := Nat.toDigits_ne_nil
  obtain ⟨c, digits, hcons⟩ := List.exists_cons_of_ne_nil hne
  rw [hcons] at hread hspan hlength hdigits htext
  rw [htext, Text.ofChars_cons, List.cons_append, readScalar_signed _ (hdigits c (by simp))]
  rw [Text.ofChars_cons, List.cons_append] at hread hspan
  rw [hread, scalarOf, digitCount_signed _ (hdigits c (by simp)), hspan, if_neg]
  simpa [Text.ofChars] using hlength

/-- A number starts with a digit. -/
theorem exists_digit_of_readMagnitude? {source : Text} {result : Json × Text}
    (h : readMagnitude? negative source = some result) :
    ∃ c more, source = .char c :: more ∧ c.isDigit = true := by
  cases source with
  | nil => cases h
  | cons x more =>
    have hx : isDigit x = true := by
      by_contra hother
      rw [Bool.not_eq_true] at hother
      have hspan : spanDigits (x :: more) = ([], x :: more) := by
        simp [spanDigits, hother]
      simp only [readMagnitude?] at h
      split at h
      · rename_i heq
        cases heq
        cases hother
      · rw [hspan] at h
        cases h
    cases x with
    | char c => exact ⟨c, more, rfl, hx⟩
    | surrogate offset => cases hx

/-- A canonical float that is written reads back. -/
theorem readScalar_toText {x : Binary64} (hx : x.IsCanonical) (hrest : Ended rest) :
    readScalar (x.toText specialNumbers ++ rest) = .ok (.float x, rest) := by
  cases x with
  | nan => rfl
  | infinite negative => cases negative <;> rfl
  | finite negative mantissa exponent =>
    have hread := readMagnitude?_magnitudeDigits negative hx hrest
    obtain ⟨c, more, hsource, hc⟩ := exists_digit_of_readMagnitude? negative hread
    have htext : (Binary64.finite negative mantissa exponent).toText specialNumbers ++ rest =
        signed negative
          (Text.ofChars (Binary64.magnitudeDigits mantissa exponent) ++ rest) := by
      cases negative <;> simp [Binary64.toText, signed, Text.ofChars]
    rw [hsource] at hread
    rw [htext, hsource, readScalar_signed negative hc, hread]
    rfl

end Json

end CodeScan
