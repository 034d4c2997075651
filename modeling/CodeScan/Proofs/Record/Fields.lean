import CodeScan.Record.Checked

/-!
# Fields by name

Field names are written out as string literals, and a name is found among the members of an object
by comparing the literals (`get?_cons_ofString`).  With the lemmas below a reader whose members are
written out is evaluated by rewriting, whatever the values are, and a record that was read is taken
apart into its fields.
-/

namespace CodeScan

namespace Text

theorem ofString_append (s t : String) : ofString (s ++ t) = ofString s ++ ofString t := by
  simp only [ofString, ofChars, String.toList_append, List.map_append]

/-- The characters of a string literal, for evaluation. -/
theorem ofString_ofList (cs : List Char) : ofString (String.ofList cs) = ofChars cs := by
  rw [ofString, String.toList_ofList]

@[simp] theorem ofString_empty : ofString "" = [] := rfl

/-- Different strings are different texts. -/
theorem ofString_inj {s t : String} : ofString s = ofString t ↔ s = t := by
  constructor
  · intro h
    have := congrArg chars? h
    rw [ofString, ofString, chars?_ofChars, chars?_ofChars, Option.some.injEq] at this
    exact String.toList_inj.1 this
  · rintro rfl
    rfl

/-- Names that are written out are compared as strings. -/
theorem lookup_cons_ofString {α : Type} (name other : String) (value : α)
    (rest : List (Text × α)) :
    ((ofString other, value) :: rest).lookup (ofString name) =
      if name = other then some value else rest.lookup (ofString name) := by
  rw [List.lookup_cons]
  by_cases h : name = other
  · simp [h]
  · rw [if_neg h, beq_eq_false_iff_ne.2 fun heq => h (ofString_inj.1 heq)]

end Text

/-- A member is found by comparing names that are written out. -/
@[simp] theorem Json.Members.get?_cons_ofString (name other : String) (value : Json)
    (rest : Members) :
    get? ((Text.ofString other, value) :: rest) name =
      if name = other then some value else get? rest name :=
  Text.lookup_cons_ofString name other value rest

@[simp] theorem Json.Members.get?_nil (name : Text) : get? [] name = none := rfl

/-- A field with one name is looked up once. -/
theorem FieldName.required_same {α : Type} (name : Text) (read : Reader α)
    (members : Json.Members) :
    (FieldName.same name).required read members =
      match members.get? name with
      | some value => (read value).within (.name name)
      | none => .bad [⟨.missing, [.name name], .object members⟩] := by
  cases hget : members.get? name <;> simp only [required, find?, same, hget, Option.map_none]

/-- The value of a field is found under the wire name, else under the plain one. -/
theorem FieldName.map_snd_find? (field : FieldName) (members : Json.Members) :
    (field.find? members).map Prod.snd =
      (members.get? field.wire).or (members.get? field.plain) := by
  rw [find?]
  cases members.get? field.wire with
  | some value => rfl
  | none => cases members.get? field.plain <;> rfl

/-- A field with a value to fall back on, where what is found under either name can be read. -/
theorem FieldName.withDefault_eq_ok {α : Type} {field : FieldName} {fallback a : α}
    {read : Reader α} {members : Json.Members}
    (h : ((members.get? field.wire).or (members.get? field.plain)).elim (.ok fallback) read =
      .ok a) : field.withDefault fallback read members = .ok a := by
  rw [← map_snd_find?] at h
  rw [withDefault]
  cases hfind : field.find? members with
  | none => rwa [hfind] at h
  | some found =>
    rw [hfind, Option.map_some, Option.elim_some] at h
    simp only [h]
    rfl

@[simp] theorem Checked.map_ok {α β : Type} (f : α → β) (a : α) :
    f <$> Checked.ok a = .ok (f a) := rfl

@[simp] theorem Checked.seq_ok {α β : Type} (f : α → β) (a : α) :
    Checked.ok f <*> Checked.ok a = .ok (f a) := rfl

@[simp] theorem Checked.within_ok {α : Type} (step : PathStep) (a : α) :
    (Checked.ok a).within step = .ok a := rfl

@[simp] theorem Checked.toExcept_ok {α : Type} (record : Text) (a : α) :
    (Checked.ok a).toExcept record = .ok a := rfl

namespace Checked

variable {α β : Type}

/-- A function was applied exactly if its argument was read. -/
@[simp] theorem map_eq_ok_iff {f : α → β} {x : Checked α} {b : β} :
    f <$> x = .ok b ↔ ∃ a, x = .ok a ∧ f a = b := by
  cases x with
  | ok a => simp
  | bad issues => simp [Functor.map, Checked.map]

/-- A record is read exactly if each of its parts is. -/
@[simp] theorem seq_eq_ok_iff {f : Checked (α → β)} {x : Checked α} {b : β} :
    f <*> x = .ok b ↔ ∃ g a, f = .ok g ∧ x = .ok a ∧ g a = b := by
  cases f <;> cases x <;> simp [Seq.seq, apply]

/-- Reading does not succeed or fail by the path. -/
@[simp] theorem within_eq_ok_iff {step : PathStep} {x : Checked α} {a : α} :
    x.within step = .ok a ↔ x = .ok a := by
  cases x <;> simp [within]

/-- A check lets those values pass for which it holds. -/
theorem ensure_eq_ok_iff {holds : α → Bool} {kind : IssueKind} {input : Json} {x : Checked α}
    {a : α} : x.ensure holds kind input = .ok a ↔ x = .ok a ∧ holds a = true := by
  cases x with
  | ok value =>
    by_cases h : holds value = true
    · simp only [ensure, if_pos h, ok.injEq, iff_self_and]
      rintro rfl
      exact h
    · simp only [ensure, if_neg h, issue, reduceCtorEq, ok.injEq, false_iff, not_and]
      rintro rfl
      exact h
  | bad issues => simp [ensure]

/-- A record has no report exactly if it was read. -/
theorem toExcept_eq_ok_iff {record : Text} {x : Checked α} {a : α} :
    x.toExcept record = .ok a ↔ x = .ok a := by
  cases x <;> simp [toExcept]

end Checked

namespace Reader

@[simp] theorem text_string (t : Text) : text (.string t) = .ok t := rfl

@[simp] theorem integer_int (n : Int) : integer (.int n) = .ok n := rfl

theorem integerFrom_int {bound n : Int} (h : bound ≤ n) : integerFrom bound (.int n) = .ok n := by
  simp [integerFrom, Checked.ensure, h]

/-- An integer within its bounds is read as itself. -/
theorem integerWithin_int {least most n : Int} (hleast : least ≤ n) (hmost : n ≤ most) :
    integerWithin least most (.int n) = .ok n := by
  simp [integerWithin, Checked.ensure, hleast, hmost]

end Reader

end CodeScan
