import CodeScan.Proofs.Text.Digits
import CodeScan.Proofs.Timestamp.Calendar

/-!
# Written timestamps read back

A timestamp of the calendar that is written as records write it reads back as itself:
`timestamp_recordText`.  Every part of the text has a fixed width or an end that can be told, so
each lemma below says what a reader makes of a written part with any text behind it.
-/

namespace CodeScan

namespace Timestamp

open Text

/-! ## Numbers of a fixed width -/

theorem padded_eq (width n : Nat) : padded width n = .ofChars (paddedDigits width n) := by
  simp [padded, paddedDigits, Text.padZeros, Text.ofNat, Text.ofChars]

/-- Digits at the front are read as the number that they write. -/
theorem digits?_append {digits : List Char} (h : AreDigits digits)
    (value : Nat) (rest : List Char) :
    digits? digits.length value (digits ++ rest) =
      some (Nat.ofDigitChars 10 digits value, rest) := by
  induction digits generalizing value with
  | nil => rfl
  | cons c digits ih =>
    rw [AreDigits, List.forall_mem_cons] at h
    rw [List.length_cons, List.cons_append, digits?, if_pos h.1, ih h.2, Nat.ofDigitChars_cons,
      Nat.mul_comm]

/-- A padded number is read back, whatever follows it. -/
theorem digits?_paddedDigits {width n : Nat} (hwidth : width ≠ 0) (h : n < 10 ^ width)
    (rest : List Char) :
    digits? width 0 (paddedDigits width n ++ rest) = some (n, rest) := by
  have hread := digits?_append (areDigits_paddedDigits width n) 0 rest
  rwa [length_paddedDigits hwidth h, ofDigitChars_paddedDigits] at hread

/-! ## The parts of a text -/

/-- The written fraction of a second. -/
def fractionChars (microsecond : Nat) : List Char :=
  if microsecond = 0 then [] else '.' :: paddedDigits 6 microsecond

/-- The written offset. -/
def offsetChars : Option Int → List Char
  | none => []
  | some minutes =>
    if minutes = 0 then ['Z']
    else (if minutes < 0 then '-' else '+') ::
      (paddedDigits 2 (minutes.natAbs / 60) ++ ':' :: paddedDigits 2 (minutes.natAbs % 60))

/-- The written timestamp, part by part. -/
def recordChars (t : Timestamp) : List Char :=
  paddedDigits 4 t.year ++ '-' :: (paddedDigits 2 t.month ++ '-' :: (paddedDigits 2 t.day ++
    'T' :: (paddedDigits 2 t.hour ++ ':' :: (paddedDigits 2 t.minute ++
      ':' :: (paddedDigits 2 t.second ++
        (fractionChars t.microsecond ++ offsetChars t.offset))))))

/-- A written time is made of characters. -/
theorem recordText_eq (t : Timestamp) : t.recordText = .ofChars t.recordChars := by
  have hfraction : fractionText t.microsecond = .ofChars (fractionChars t.microsecond) := by
    rw [fractionText, fractionChars, padded_eq]
    split <;> rfl
  have hoffset : t.recordText = t.localText ++ .ofChars (offsetChars t.offset) := by
    rw [recordText]
    congr 1
    split
    · rename_i h
      rw [h]
      rfl
    · rename_i h
      rw [h]
      rfl
    · rename_i minutes hne h
      rw [h, offsetChars, if_neg hne, offsetText, padded_eq, padded_eq]
      simp [Text.ofChars, Text.ofString]
  rw [hoffset, localText, hfraction]
  simp [padded_eq, recordChars, Text.ofChars, Text.ofString]

/-- The first of several choices is taken where it stands. -/
theorem oneOf?_self (c : Char) (choices rest : List Char) :
    oneOf? (c :: choices) (c :: rest) = some rest :=
  if_pos (by rw [List.contains_cons, beq_self_eq_true, Bool.true_or])

/-- A written date is read back, whatever follows it. -/
theorem date?_append {year month day : Nat} (hyear : year ≤ 9999) (hmonth : month ≤ 12)
    (hday : day ≤ 31) (rest : List Char) :
    date? (paddedDigits 4 year ++ '-' :: (paddedDigits 2 month ++ '-' ::
      (paddedDigits 2 day ++ rest))) = some ((year, month, day), rest) := by
  have hfour : year < 10 ^ 4 := by omega
  have hmonths : month < 10 ^ 2 := by omega
  have hdays : day < 10 ^ 2 := by omega
  simp only [date?, digits?_paddedDigits (by decide) hfour,
    digits?_paddedDigits (by decide) hmonths, digits?_paddedDigits (by decide) hdays, oneOf?_self,
    Option.bind_eq_bind, Option.bind_some, Option.pure_def]

/-- A fraction is told from what follows, if that starts with no digit, no point and no comma. -/
theorem fraction?_append {microsecond : Nat} (h : microsecond < 1000000) {rest : List Char}
    (hrest : ∀ c ∈ rest.head?, c.isDigit = false ∧ c ≠ '.' ∧ c ≠ ',') :
    fraction? (fractionChars microsecond ++ rest) = some (microsecond, rest) := by
  rw [fractionChars]
  split
  · -- A fraction of zero is not written.
    rename_i hzero
    rw [hzero, List.nil_append]
    cases rest with
    | nil => rfl
    | cons c rest =>
      obtain ⟨-, hpoint, hcomma⟩ := hrest c rfl
      exact if_neg (not_or.2 ⟨hpoint, hcomma⟩)
  · have hdigits := areDigits_paddedDigits 6 microsecond
    have hlength : (paddedDigits 6 microsecond).length = 6 := length_paddedDigits (by decide) h
    have hstop : ∀ c ∈ rest.head?, c.isDigit = false := fun c hc => (hrest c hc).1
    have hne : (paddedDigits 6 microsecond).isEmpty = false := by
      rw [List.isEmpty_eq_false_iff, ← List.length_pos_iff, hlength]
      decide
    have hread := digits?_append hdigits 0 []
    rw [hlength, List.append_nil, ofDigitChars_paddedDigits] at hread
    simp only [List.cons_append, fraction?, true_or, if_true,
      takeWhile_append_rest hdigits hstop, dropWhile_append_rest hdigits hstop, hne,
      List.take_left' hlength, hread, Option.map_some, Bool.false_eq_true, if_false]

/-- An offset of less than a day with its sign. -/
theorem offset?_signed {sign : Char} (hsign : sign = '+' ∨ sign = '-') {total : Nat}
    (htotal : total < 1440) :
    offset? (sign :: (paddedDigits 2 (total / 60) ++ ':' :: paddedDigits 2 (total % 60))) =
      some (some (if sign = '+' then (total : Int) else -total)) := by
  have hhours : total / 60 < 10 ^ 2 := by omega
  have hminutes : total % 60 < 10 ^ 2 := by omega
  have hlast := digits?_paddedDigits (by decide) hminutes []
  rw [List.append_nil] at hlast
  have hsum : (total : Int) / 60 * 60 + total % 60 = total := by omega
  have hbounds : total % 60 < 60 ∧ (total : Int) < 1440 := by omega
  rcases hsign with rfl | rfl <;>
    simp [offset?, digits?_paddedDigits (by decide) hhours, oneOf?, hlast, hsum, hbounds]
  omega

/-- A written offset is read back if it is less than a day. -/
theorem offset?_offsetChars {offset : Option Int} (h : ∀ minutes ∈ offset, minutes.natAbs < 1440) :
    offset? (offsetChars offset) = some offset := by
  cases offset with
  | none => rfl
  | some minutes =>
    have hbound : minutes.natAbs < 1440 := h minutes rfl
    rw [offsetChars]
    split
    · rename_i hzero
      rw [hzero]
      rfl
    · by_cases hneg : minutes < 0
      · rw [if_pos hneg, offset?_signed (.inr rfl) hbound, if_neg (by decide)]
        congr 2
        omega
      · rw [if_neg hneg, offset?_signed (.inl rfl) hbound, if_pos rfl]
        congr 2
        omega

/-- Written seconds are read back with their fraction, if there is one. -/
theorem seconds?_append {second microsecond : Nat} (hsecond : second < 60)
    (hmicrosecond : microsecond < 1000000) {rest : List Char}
    (hrest : ∀ c ∈ rest.head?, c.isDigit = false ∧ c ≠ '.' ∧ c ≠ ',') :
    seconds? (':' :: (paddedDigits 2 second ++ (fractionChars microsecond ++ rest))) =
      some (second, microsecond, rest) := by
  have hwidth : second < 10 ^ 2 := by omega
  simp only [seconds?, oneOf?_self, digits?_paddedDigits (by decide) hwidth,
    fraction?_append hmicrosecond hrest, Option.bind_eq_bind, Option.bind_some, Option.pure_def]

/-- An offset does not start like more digits or a fraction. -/
theorem head?_offsetChars (offset : Option Int) :
    ∀ c ∈ (offsetChars offset).head?, c.isDigit = false ∧ c ≠ '.' ∧ c ≠ ',' := by
  intro c hc
  have hsign : c ∈ ['Z', '-', '+'] := by
    cases offset with
    | none => cases hc
    | some minutes =>
      rw [offsetChars] at hc
      split_ifs at hc <;> cases hc <;> simp
  have hall : (['Z', '-', '+'].all fun c => c.isDigit = false ∧ c ≠ '.' ∧ c ≠ ',') = true := by
    decide
  exact of_decide_eq_true (List.all_eq_true.1 hall c hsign)

/-- A moment of the calendar is read off its text. -/
theorem ofChars?_recordChars {t : Timestamp} (h : t.IsValid) : ofChars? t.recordChars = some t := by
  obtain ⟨hyear, -, hmonth, -, hday, hhour, hminute, hsecond, hmicrosecond, hoffset⟩ := id h
  have hlength : daysInMonth t.year t.month ≤ 31 := by
    unfold daysInMonth
    split
    · split <;> decide
    all_goals decide
  have hhours : t.hour < 10 ^ 2 := by omega
  have hminutes : t.minute < 10 ^ 2 := by omega
  simp only [ofChars?, recordChars, date?_append hyear hmonth (hday.trans hlength), oneOf?_self,
    digits?_paddedDigits (by decide) hhours, digits?_paddedDigits (by decide) hminutes,
    seconds?_append hsecond hmicrosecond (head?_offsetChars t.offset), offset?_offsetChars hoffset,
    Option.bind_eq_bind, Option.bind_some]
  exact if_pos h

end Timestamp

/-- A time of the calendar is read back from its written form. -/
theorem Reader.timestamp_recordText {t : Timestamp} (h : t.IsProper) :
    timestamp (.string t.recordText) = .ok t := by
  have hread : Timestamp.ofText t.recordChars = .ok t := by
    simp only [Timestamp.ofText, Timestamp.ofChars?_recordChars h.1, if_neg h.2]
  simp only [timestamp, Timestamp.recordText_eq, Text.chars?_ofChars, Option.getD_some, hread]

end CodeScan
