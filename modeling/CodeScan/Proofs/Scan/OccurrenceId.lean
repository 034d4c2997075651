import CodeScan.Proofs.Scan.Sighting

/-!
# Identifiers of findings

The identifier of a finding joins the rule's identifier, the line number and the occurrence number
with dashes.  The rule's identifier may itself hold dashes and digits, so the join is read from its
end: the two numbers hold no dash, which makes the last two dashes the ones that were put there.

Two findings of one scan never share the rule's identifier and the occurrence number, even if the
catalog repeats an identifier.  Hence no two of them share an identifier.
-/

namespace CodeScan

namespace Text

/-- What stands before and after the last separator, if there is one. -/
def cutLast? (separator : CodePoint) : Text → Option (Text × Text)
  | [] => none
  | x :: rest =>
    match cutLast? separator rest with
    | some (head, tail) => some (x :: head, tail)
    | none => if x = separator then some ([], rest) else none

/-- A text without the separator cannot be cut there. -/
theorem cutLast?_eq_none {separator : CodePoint} {t : Text} (h : separator ∉ t) :
    cutLast? separator t = none := by
  induction t with
  | nil => rfl
  | cons x rest ih =>
    rw [List.mem_cons, not_or] at h
    rw [cutLast?, ih h.2, if_neg (Ne.symm h.1)]

/-- A separator is the last one if none follows. -/
theorem cutLast?_append {separator : CodePoint} {tail : Text} (h : separator ∉ tail) (head : Text) :
    cutLast? separator (head ++ separator :: tail) = some (head, tail) := by
  induction head with
  | nil => rw [List.nil_append, cutLast?, cutLast?_eq_none h, if_pos rfl]
  | cons x head ih => rw [List.cons_append, cutLast?, ih]

/-- The number that a text of decimal digits writes. -/
def decimal? (t : Text) : Option Nat := t.chars?.map fun digits => Nat.ofDigitChars 10 digits 0

/-- A written number is read back. -/
@[simp] theorem decimal?_ofNat (n : Nat) : (ofNat n).decimal? = some n := by
  rw [decimal?, ofNat, chars?_ofChars, Option.map_some, Nat.ofDigitChars_ten_toDigits]

/-- Different numbers are written differently. -/
theorem ofNat_inj {m n : Nat} : ofNat m = ofNat n ↔ m = n := by
  constructor
  · intro h
    have := congrArg decimal? h
    simpa using this
  · rintro rfl
    rfl

/-- A number is written without a dash. -/
theorem dash_not_mem_ofNat (n : Nat) : CodePoint.char '-' ∉ ofNat n := by
  intro h
  obtain ⟨c, hc, hdash⟩ := List.mem_map.1 h
  have hdigit := Nat.isDigit_of_mem_toDigits (by decide) (by decide) hc
  rw [CodePoint.char.inj hdash] at hdigit
  exact absurd hdigit (by decide)

end Text

namespace Finding

/-- The rule, the line and the occurrence that an identifier names: its parts around the last two
dashes. -/
def origin? (id : Text) : Option (Text × Text × Text) := do
  let (rest, occurrence) ← Text.cutLast? (.char '-') id
  let (ruleId, lineNumber) ← Text.cutLast? (.char '-') rest
  return (ruleId, lineNumber, occurrence)

/-- Reading an identifier from its end gives back what was joined, whatever the rule's identifier
holds. -/
theorem origin?_occurrenceId (ruleId : Text) (lineNumber occurrence : Nat) :
    origin? (occurrenceId ruleId lineNumber occurrence) =
      some (ruleId, Text.ofNat lineNumber, Text.ofNat occurrence) := by
  have hid : occurrenceId ruleId lineNumber occurrence =
      (ruleId ++ .char '-' :: Text.ofNat lineNumber) ++ .char '-' :: Text.ofNat occurrence := by
    have hdash : ("-" : Text) = [.char '-'] := by decide
    simp [occurrenceId, hdash]
  rw [origin?, hid, Text.cutLast?_append (Text.dash_not_mem_ofNat occurrence)]
  simp only [Option.bind_eq_bind, Option.bind_some]
  rw [Text.cutLast?_append (Text.dash_not_mem_ofNat lineNumber)]
  rfl

/-- The identifier of the rule that a finding names. -/
def ruleId? (f : Finding) : Option Text := (origin? f.id).map Prod.fst

end Finding

namespace Scan

namespace Sighting

theorem finding_id (fileName : Text) (s : Sighting) (k : Nat) :
    (s.finding fileName k).id = Finding.occurrenceId s.rule.id s.lineNumber k := rfl

/-- The identifier of a finding tells the rule. -/
@[simp] theorem ruleId?_finding (fileName : Text) (s : Sighting) (k : Nat) :
    (s.finding fileName k).ruleId? = some s.rule.id := by
  rw [Finding.ruleId?, finding_id, Finding.origin?_occurrenceId]
  rfl

/-- Occurrence numbers do not pass the number of sightings of their rule identifier. -/
theorem le_countOf_of_mem_numbered {xs : List Sighting} {s : Sighting} {k : Nat}
    (h : (s, k) ∈ numbered xs) : k ≤ countOf s.rule.id xs := by
  have hmem : k ∈ ((numbered xs).filter fun p => p.1.rule.id = s.rule.id).map Prod.snd :=
    List.mem_map.2 ⟨(s, k), List.mem_filter.2 ⟨h, by simp⟩, rfl⟩
  rw [occurrences_numbered, List.mem_range'_1] at hmem
  omega

/-- No two sightings share their rule identifier and their occurrence number. -/
theorem numbered_pairwise_ne (xs : List Sighting) :
    ((numbered xs).map fun (s, k) => (s.rule.id, k)).Nodup := by
  induction xs using List.reverseRecOn with
  | nil => exact List.Pairwise.nil
  | append_singleton xs s ih =>
    rw [numbered_concat, List.map_append, List.nodup_append]
    refine ⟨ih, List.pairwise_singleton _ _, ?_⟩
    -- The last sighting has a greater number than any earlier one of its identifier.
    rintro pair hpair _ hlast rfl
    obtain ⟨⟨x, k⟩, hx, rfl⟩ := List.mem_map.1 hpair
    simp only [List.map_cons, List.map_nil, List.mem_singleton, Prod.mk.injEq] at hlast
    have := le_countOf_of_mem_numbered hx
    rw [hlast.1] at this
    omega

end Sighting

open Sighting

/-- The identifiers of the findings of a scan are pairwise distinct, and each of them, cut at its
last two dashes, gives back the identifier of its rule, its line number and its occurrence
number. -/
theorem detect_ids_nodup_and_origin (rules : List Rule) (code : List Char) (fileName : Text) :
    ((detect rules code fileName).findings.map Finding.id).Nodup ∧
      ∀ f ∈ (detect rules code fileName).findings,
        ∃ s k, (s, k) ∈ numbered (kept search rules code) ∧ f = s.finding fileName k ∧
          Finding.origin? f.id = some (s.rule.id, Text.ofNat s.lineNumber, Text.ofNat k) := by
  rw [detect, detectWith_findings, report]
  constructor
  · have hpairs := numbered_pairwise_ne (kept search rules code)
    rw [List.Nodup, List.pairwise_map] at hpairs
    rw [List.map_map, List.Nodup, List.pairwise_map]
    -- Equal identifiers would be cut into equal rule identifiers and equal numbers.
    refine hpairs.imp fun {p q} hne hid => hne ?_
    have horigin := congrArg Finding.origin? hid
    simp only [Function.comp, finding_id, Finding.origin?_occurrenceId, Option.some.injEq,
      Prod.mk.injEq, Text.ofNat_inj] at horigin
    exact Prod.ext horigin.1 horigin.2.2
  · intro f hf
    obtain ⟨⟨s, k⟩, hs, rfl⟩ := List.mem_map.1 hf
    exact ⟨s, k, hs, rfl, Finding.origin?_occurrenceId s.rule.id s.lineNumber k⟩

end Scan

end CodeScan
