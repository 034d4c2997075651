import CodeScan.Record.Checked
import Mathlib.Tactic.IntervalCases

/-!
# Every timestamp that is read is a moment of the calendar

A timestamp is read from a text or from a count.  A text is checked field by field, but a count is
turned into a date by arithmetic alone, and that the date exists is a fact about the arithmetic:
`civilOfDays_valid`.  From it `isProper_of_timestamp` follows, that whatever way a timestamp is
given the result names a moment of a year from 1 to 9999.

The days of 400 years are split by centuries, spans of four years and years from March to February
(`exists_split_dayOfEra`), so that the leap day is the last day of its year.
-/

namespace CodeScan

namespace Timestamp

/-- A moment of the calendar that no year zero belongs to. -/
def IsProper (t : Timestamp) : Prop := t.IsValid ∧ t.year ≠ 0

instance (t : Timestamp) : Decidable t.IsProper := inferInstanceAs (Decidable (_ ∧ _))

/-! ## Dates of days -/

/-- A day of the 400 years after a first of March, by centuries, spans of four years, years and
days.  Only a year that ends with a 29th of February has 366 days. -/
theorem exists_split_dayOfEra {dayOfEra : Nat} (h : dayOfEra < 146097) :
    ∃ century span year day, century < 4 ∧ span < 25 ∧ year < 4 ∧ day ≤ 365 ∧
      dayOfEra = 36524 * century + 1461 * span + 365 * year + day ∧
      (day = 365 → year = 3 ∧ (span = 24 → century = 3)) := by
  have hcentury : ∃ century rest, century < 4 ∧ dayOfEra = 36524 * century + rest ∧
      rest ≤ 36524 ∧ (rest = 36524 → century = 3) :=
    ⟨min 3 (dayOfEra / 36524), dayOfEra - 36524 * min 3 (dayOfEra / 36524), by omega⟩
  obtain ⟨century, rest, hcentury, hera, hrest, hlast⟩ := hcentury
  have hyear : ∃ year day, year < 4 ∧ rest % 1461 = 365 * year + day ∧ day ≤ 365 ∧
      (day = 365 → year = 3) :=
    ⟨min 3 (rest % 1461 / 365), rest % 1461 - 365 * min 3 (rest % 1461 / 365), by omega⟩
  obtain ⟨year, day, hyear, hsplit, hday, hleap⟩ := hyear
  exact ⟨century, rest / 1461, year, day, by omega⟩

/-- The year of an era, from its day: centuries, spans of four years, years and days are taken apart
again, where only the last year of a span and the last century of an era have a leap day. -/
theorem yearOfEra_eq {century span year day : Nat} (hcentury : century < 4) (hspan : span < 25)
    (hyear : year < 4) (hday : day ≤ 365)
    (hleap : day = 365 → year = 3 ∧ (span = 24 → century = 3)) {dayOfEra : Nat}
    (h : dayOfEra = 36524 * century + 1461 * span + 365 * year + day) :
    (dayOfEra - dayOfEra / 1460 + dayOfEra / 36524 - dayOfEra / 146096) / 365 =
      100 * century + 4 * span + year := by
  by_cases hlast : dayOfEra = 146096
  · omega
  · have hcenturies : dayOfEra / 36524 = century := by omega
    have heras : dayOfEra / 146096 = 0 := by omega
    -- The quotient by 1460 counts the leap days, and the one to come at the end of a span.
    by_cases hcarry : 24 * century + span + 365 * year + day < 1460
    · have hspans : dayOfEra / 1460 = 25 * century + span := by omega
      omega
    · have hspans : dayOfEra / 1460 = 25 * century + span + 1 := by omega
      omega

/-- The last of the twelve months from March on is February, and only it depends on the year. -/
theorem month_valid {dayOfYear shifted year : Nat} (hday : dayOfYear ≤ 365)
    (hleap : dayOfYear = 365 → isLeapYear (year + 1) = true)
    (hshifted : (5 * dayOfYear + 2) / 153 = shifted) :
    let month := if shifted < 10 then shifted + 3 else shifted - 9
    1 ≤ month ∧ month ≤ 12 ∧ (month ≤ 2 ↔ 306 ≤ dayOfYear) ∧
      dayOfYear - (153 * shifted + 2) / 5 + 1 ≤
        daysInMonth (year + if month ≤ 2 then 1 else 0) month := by
  have hmonths : shifted ≤ 11 := by omega
  by_cases hlong : dayOfYear = 365
  · subst hlong hshifted
    simp [daysInMonth, hleap rfl]
  · have hfebruary : 28 ≤ if isLeapYear (year + 1) = true then 29 else 28 := by
      split <;> omega
    interval_cases shifted <;> simp [daysInMonth] <;> omega

/-- The days from the first of January of the year one to the end of the year 9999 have a date. -/
theorem civilOfDays_valid {days year month day : Nat} (hfirst : 306 ≤ days)
    (hlast : days ≤ 3652364) (h : civilOfDays days = (year, month, day)) :
    1 ≤ year ∧ year ≤ 9999 ∧ 1 ≤ month ∧ month ≤ 12 ∧ 1 ≤ day ∧ day ≤ daysInMonth year month := by
  have hera : days % 146097 < 146097 := Nat.mod_lt _ (by decide)
  obtain ⟨century, span, rest, dayOfYear, hcentury, hspan, hrest, hday, hsplit, hleap⟩ :=
    exists_split_dayOfEra hera
  obtain ⟨yearOfEra, hyear⟩ : ∃ n, n = 100 * century + 4 * span + rest := ⟨_, rfl⟩
  have hquarter : yearOfEra / 4 = 25 * century + span := by omega
  have hhundred : yearOfEra / 100 = century := by omega
  have hdayOfYear : days % 146097 - (365 * yearOfEra + yearOfEra / 4 - yearOfEra / 100) =
      dayOfYear := by omega
  have hleapYear : dayOfYear = 365 → isLeapYear (yearOfEra + days / 146097 * 400 + 1) = true := by
    intro hlong
    obtain ⟨hthird, hturn⟩ := hleap hlong
    simp only [isLeapYear, Bool.and_eq_true, Bool.or_eq_true, beq_iff_eq, bne_iff_ne]
    omega
  obtain ⟨hleast, hmost, hnewYear, hlength⟩ := month_valid hday hleapYear rfl
  simp only [civilOfDays, yearOfEra_eq hcentury hspan hrest hday hleap hsplit, ← hyear, hdayOfYear,
    Prod.mk.injEq] at h
  obtain ⟨rfl, rfl, rfl⟩ := h
  refine ⟨?_, ?_, hleast, hmost, Nat.le_add_left 1 _, hlength⟩
  · simp only [hnewYear]
    split <;> omega
  · simp only [hnewYear]
    split <;> omega

/-! ## Moments of counts -/

/-- A time that was computed from seconds is one of the calendar. -/
theorem isProper_of_ofSeconds {seconds : Int} {microseconds : Nat} {t : Timestamp}
    (h : ofSeconds seconds microseconds = .ok t) : t.IsProper := by
  obtain ⟨second, hsecond⟩ : ∃ n, n = seconds + (microseconds / 1000000 : Nat) := ⟨_, rfl⟩
  simp only [ofSeconds, ← hsecond, yearZeroSecond, lastSecond, firstSecond, unixDay] at h
  have hrange : -62135596800 ≤ second ∧ second ≤ 253402300799 := by
    split_ifs at h
    omega
  rw [if_neg (by omega), if_neg (by omega), if_neg (by omega)] at h
  obtain ⟨⟨year, month, day⟩, hdate⟩ :
      ∃ date, date = civilOfDays (second / 86400 + 719468).toNat := ⟨_, rfl⟩
  have hvalid := civilOfDays_valid (by omega) (by omega) hdate.symm
  rw [← hdate] at h
  cases h
  have htime : (second % 86400).toNat < 86400 := by omega
  have hoffset : ∀ minutes ∈ some (0 : Int), minutes.natAbs < 1440 := by decide
  refine ⟨⟨hvalid.2.1, hvalid.2.2.1, hvalid.2.2.2.1, hvalid.2.2.2.2.1, hvalid.2.2.2.2.2, ?_, ?_, ?_,
    ?_, hoffset⟩, ?_⟩
  all_goals simp only; omega

theorem isProper_of_ofMilliseconds {milliseconds : Int} {microseconds : Nat} {t : Timestamp}
    (h : ofMilliseconds milliseconds microseconds = .ok t) : t.IsProper :=
  isProper_of_ofSeconds h

/-- A time stamp from an integer is proper, whether that counts seconds or milliseconds. -/
theorem isProper_of_ofUnix {count : Int} {t : Timestamp} (h : ofUnix count = .ok t) :
    t.IsProper := by
  rw [ofUnix] at h
  split at h
  · exact isProper_of_ofSeconds h
  · exact isProper_of_ofMilliseconds h

theorem isProper_of_ofUnixFloat {count : Binary64} {t : Timestamp}
    (h : ofUnixFloat count = .ok t) : t.IsProper := by
  cases count with
  | nan => cases h
  | infinite negative => cases h
  | finite negative mantissa exponent =>
    simp only [ofUnixFloat] at h
    split at h
    · exact isProper_of_ofSeconds h
    · exact isProper_of_ofMilliseconds h

/-! ## Moments of texts -/

/-- A time that was read from its written form is valid. -/
theorem isValid_of_ofChars? {cs : List Char} {t : Timestamp} (h : ofChars? cs = some t) :
    t.IsValid := by
  simp only [ofChars?, Option.bind_eq_bind, Option.bind_eq_some_iff] at h
  obtain ⟨date, -, h⟩ := h
  split at h
  · simp only [Option.bind_some, Option.ite_none_right_eq_some] at h
    exact Option.some.inj h.2 ▸ h.1
  · simp only [Option.bind_some, Option.bind_eq_some_iff, Option.ite_none_right_eq_some] at h
    obtain ⟨_, _, _, _, _, _, _, _, _, _, _, _, hvalid, hread⟩ := h
    exact Option.some.inj hread ▸ hvalid

/-- A time that was read from any text is one of the calendar. -/
theorem isProper_of_ofText {cs : List Char} {t : Timestamp} (h : ofText cs = .ok t) :
    t.IsProper := by
  rw [ofText] at h
  split at h
  · rename_i read hread
    split at h
    · cases h
    · rename_i hyear
      cases h
      exact ⟨isValid_of_ofChars? hread, hyear⟩
  · exact isProper_of_ofUnix h
  · rename_i hfloat
    obtain ⟨count, -, hcount⟩ := Option.map_eq_some_iff.1 hfloat
    cases h
    exact isProper_of_ofUnixFloat hcount
  all_goals cases h

end Timestamp

/-- Every way to give a timestamp gives a moment of the calendar. -/
theorem Reader.isProper_of_timestamp {input : Json} {t : Timestamp}
    (h : timestamp input = .ok t) : t.IsProper := by
  have hcount {outcome : Except Timestamp.Fault Timestamp}
      (h : timestamp.ofCount input outcome = .ok t) : outcome = .ok t := by
    cases outcome with
    | ok moment =>
      cases h
      rfl
    | error fault => cases h
  cases input with
  | string written =>
    simp only [timestamp] at h
    split at h
    · rename_i hread
      cases h
      exact Timestamp.isProper_of_ofText hread
    all_goals cases h
  | int n =>
    simp only [timestamp] at h
    split at h
    · exact Timestamp.isProper_of_ofUnix (hcount h)
    · cases h
  | float x => exact Timestamp.isProper_of_ofUnixFloat (hcount h)
  | _ => cases h

end CodeScan
