import CodeScan.Proofs.Record.Fields

/-!
# The issues of a record

A record that cannot be read is told with all its issues.  Which issues these are is said here field
by field: `RefusesBy` gives the kind of issue for which a reader refuses a value, `fieldIssue` the
issue of a field that is missing or refused.

`Judges` ties a checked value to such a list.  It leaves no third way: without issues there is a
value, and with issues exactly these are told.  Combining checked values keeps it, the lists one
after the other, so that a record is judged by its fields in order.
-/

namespace CodeScan

namespace Checked

/-- Exactly these issues stand in the way of the value. -/
inductive Judges {α : Type} : Checked α → List Issue → Prop
  | ok (a : α) : Judges (.ok a) []
  | bad {issues : List Issue} (h : issues ≠ []) : Judges (.bad issues) issues

namespace Judges

variable {α β : Type} {issues more : List Issue}

/-- Where a value was read there are no issues. -/
theorem eq_nil {a : α} (h : Judges (.ok a) issues) : issues = [] := by
  cases h
  rfl

/-- Where no value was read the issues are those found, and there are some. -/
theorem eq_of_bad {found : List Issue} (h : Judges (.bad found : Checked α) issues) :
    found = issues ∧ issues ≠ [] := by
  cases h with
  | bad hne => exact ⟨rfl, hne⟩

/-- What is done with a value does not touch its issues. -/
theorem map {x : Checked α} (f : α → β) (h : Judges x issues) : Judges (f <$> x) issues := by
  cases h with
  | ok a => exact .ok (f a)
  | bad h => exact .bad h

/-- The issues of both sides are kept, in order. -/
theorem seq {f : Checked (α → β)} {x : Checked α} (hf : Judges f issues) (hx : Judges x more) :
    Judges (f <*> x) (issues ++ more) := by
  cases hf with
  | ok f =>
    cases hx with
    | ok a => exact .ok (f a)
    | bad h => exact .bad h
  | bad hf =>
    cases hx with
    | ok a =>
      rw [List.append_nil]
      exact .bad hf
    | bad h => exact .bad (List.append_ne_nil_of_left_ne_nil hf _)

end Judges

end Checked

namespace Reader

/-- A reader refuses a value exactly for the kind of issue that `refusal` tells. -/
def RefusesBy {α : Type} (read : Reader α) (refusal : Json → Option IssueKind) : Prop :=
  ∀ value, (refusal value = none → ∃ a, read value = .ok a) ∧
    ∀ kind ∈ refusal value, read value = .issue kind value

/-- Why a value is no string. -/
def textRefusal : Json → Option IssueKind
  | .string _ => none
  | _ => some .notString

/-- Whatever is no string is refused as a text. -/
theorem text_refusesBy : text.RefusesBy textRefusal := by
  intro value
  cases value <;> simp [textRefusal, text]

/-- Only strings are read as texts. -/
theorem text_eq_ok_iff {value : Json} {t : Text} : text value = .ok t ↔ value = .string t := by
  cases value <;> simp [text, Checked.issue]

/-- The issue of a field that must be present, if it has one. -/
def fieldIssue (members : Json.Members) (name : Text) (refusal : Json → Option IssueKind) :
    List Issue :=
  match members.get? name with
  | none => [⟨.missing, [.name name], .object members⟩]
  | some value => ((refusal value).map fun kind => ⟨kind, [.name name], value⟩).toList

/-- A field is judged by its issue. -/
theorem judges_required {α : Type} {read : Reader α} {refusal : Json → Option IssueKind}
    (h : read.RefusesBy refusal) (name : Text) (members : Json.Members) :
    Checked.Judges ((FieldName.same name).required read members)
      (fieldIssue members name refusal) := by
  rw [FieldName.required_same, fieldIssue]
  cases members.get? name with
  | none => exact .bad (List.cons_ne_nil _ _)
  | some value =>
    cases hrefusal : refusal value with
    | none =>
      obtain ⟨a, ha⟩ := (h value).1 hrefusal
      simpa only [ha, hrefusal] using .ok a
    | some kind =>
      simp only [(h value).2 kind hrefusal, hrefusal]
      exact .bad (List.cons_ne_nil _ _)

end Reader

/-- A field with one name is read from the value of that name. -/
theorem FieldName.required_same_eq_ok_iff {α : Type} {name : Text} {read : Reader α}
    {members : Json.Members} {a : α} :
    (FieldName.same name).required read members = .ok a ↔
      ∃ value, members.get? name = some value ∧ read value = .ok a := by
  rw [FieldName.required_same]
  cases members.get? name <;> simp

end CodeScan
