import CodeScan.Catalog.Build
import CodeScan.Proofs.Catalog.BuiltIn
import CodeScan.Proofs.Record.Issues

/-!
# When a catalog can be built

Building a catalog walks through the definitions, checks each of them in six steps and stops at the
first fault.  Here the same is said without the walk.  `Check.fault?` gives the fault of one check
on its own, whatever the other checks say; `faultAt?` is the first fault of the definition at an
index, with the identifiers of the definitions before it; and `build_outcome` says that a catalog is
either the rules of its definitions or refused with the fault of the smallest index that has one.

How patterns are compiled is left open: everything is said of any compiler.

## Shape of the argument

`buildRule_cases` compares one definition with its checks.  The only check that may find more than
one thing is the last: a definition is read field by field, and all issues are kept.  They are the
issues of its fields in order (`judges_readRule`).

`buildFrom_eq_ok_iff` and `buildFrom_eq_error_iff` carry this through the definitions.  The list of
taken identifiers only matters by what is in it (`firstFault?_congr`).
-/

namespace CodeScan

/-- Why a value is no category. -/
def Category.refusal : Json → Option IssueKind
  | .string t => if t ∈ all.map label then none else some (.notListed (all.map label))
  | _ => some (.notListed (all.map label))

/-- A category is found by its label, and by nothing else. -/
theorem Category.ofLabel?_eq_some_iff {t : Text} {category : Category} :
    ofLabel? t = some category ↔ category.label = t := by
  constructor
  · intro h
    simpa using List.find?_some h
  · rintro rfl
    have hread := Category.read_label category
    simp only [read] at hread
    split at hread
    · rename_i found hfound
      rw [hfound, Checked.ok.inj hread]
    · cases hread

/-- No category has a label that is not listed. -/
theorem Category.ofLabel?_eq_none_iff {t : Text} : ofLabel? t = none ↔ t ∉ all.map label := by
  simp [ofLabel?]

/-- What is read as a category is a string that is a listed label. -/
theorem Category.read_refusesBy : Reader.RefusesBy read refusal := by
  intro value
  cases value with
  | string t =>
    by_cases ht : t ∈ all.map label
    · have hfound : ofLabel? t ≠ none := fun hnone => ofLabel?_eq_none_iff.1 hnone ht
      obtain ⟨category, hcategory⟩ := Option.ne_none_iff_exists'.1 hfound
      simp [refusal, ht, read, hcategory]
    · simp [refusal, ht, read, ofLabel?_eq_none_iff.2 ht]
  | _ => simp [refusal, read]

/-- A value is read as a category exactly if it is its label. -/
theorem Category.read_eq_ok_iff {value : Json} {category : Category} :
    read value = .ok category ↔ value = .string category.label := by
  constructor
  · intro h
    cases value with
    | string t =>
      simp only [read] at h
      split at h
      · rename_i found hfound
        cases h
        rw [ofLabel?_eq_some_iff.1 hfound]
      · cases h
    | _ => cases h
  · rintro rfl
    exact read_label category

open Reader (fieldIssue)

namespace Catalog

/-! ## The checks of one definition -/

/-- The fields of a rule in their order, with what each of them refuses. -/
def ruleFields : List (Text × (Json → Option IssueKind)) :=
  [("id", Reader.textRefusal), ("vulnerability_type", Reader.textRefusal),
   ("category", Category.refusal), ("description", Reader.textRefusal),
   ("explanation", Reader.textRefusal), ("mitigation", Reader.textRefusal),
   ("safe_code", Reader.textRefusal)]

/-- The issues of all fields, in the order of the fields. -/
def fieldIssues (members : Json.Members) : List Issue :=
  ruleFields.flatMap fun (name, refusal) => fieldIssue members name refusal

/-- What is checked of a definition. -/
inductive Check where
  | idGiven
  | idNew
  | patternGiven
  | patternReadable
  | matcherAbsent
  | fieldsReadable

/-- The fault that a check finds, given the identifiers of earlier definitions. -/
def Check.fault? (compile : Compiler) (earlier : List Text) (fields : Fields) :
    Check → Option CatalogError
  | .idGiven => if definitionId fields = [] then some .missingId else none
  | .idNew =>
    if definitionId fields ∈ earlier then some (.duplicateId (definitionId fields)) else none
  | .patternGiven =>
    if fields.get? "pattern" matches none then some (.missingPattern (definitionId fields))
    else none
  | .patternReadable =>
    match (fields.get? "pattern").map FieldValue.asName with
    | none => none
    | some source =>
      match compile source with
      | .ok _ => none
      | .error refusal => some (.invalidPattern (definitionId fields) refusal)
  | .matcherAbsent => if fields.get? "matcher" matches some _ then some .givenMatcher else none
  | .fieldsReadable =>
    if fieldIssues fields.contents matches [] then none
    else some (.malformed (definitionId fields) (fieldIssues fields.contents))

/-- The checks in the order in which their faults are told. -/
def Check.order : List Check :=
  [.idGiven, .idNew, .patternGiven, .patternReadable, .matcherAbsent, .fieldsReadable]

/-- The fault of the first check that finds one. -/
def firstFault? (compile : Compiler) (earlier : List Text) (fields : Fields) :
    Option CatalogError :=
  Check.order.findSome? (Check.fault? compile earlier fields)

/-- The first fault of the definition at an index.  Its identifier has to differ from those of the
definitions before it and from the given ones. -/
def faultAt? (compile : Compiler) (taken : List Text) (definitions : List Fields) (index : Nat) :
    Option CatalogError :=
  definitions[index]?.bind
    (firstFault? compile (taken ++ (definitions.take index).map definitionId))

/-- A definition says what the rule says. -/
structure Defines (compile : Compiler) (fields : Fields) (rule : Rule) : Prop where
  id_eq : fields.contents.get? "id" = some (.string rule.id)
  source_eq : (fields.get? "pattern").map FieldValue.asName = some rule.source
  compile_eq : compile rule.source = .ok rule.pattern
  kind_eq : fields.contents.get? "vulnerability_type" = some (.string rule.kind)
  category_eq : fields.contents.get? "category" = some (.string rule.category.label)
  description_eq : fields.contents.get? "description" = some (.string rule.description)
  explanation_eq : fields.contents.get? "explanation" = some (.string rule.explanation)
  mitigation_eq : fields.contents.get? "mitigation" = some (.string rule.mitigation)
  safeCode_eq : fields.contents.get? "safe_code" = some (.string rule.safeCode)

variable {compile : Compiler} {fields : Fields} {rule : Rule}

/-- A rule reads what a definition gives under the same name. -/
theorem get?_contents (fields : Fields) (name : Text) :
    fields.contents.get? name = (fields.get? name).map FieldValue.content := by
  induction fields with
  | nil => rfl
  | cons field fields ih =>
    obtain ⟨other, value⟩ := field
    simp only [Fields.get?, Json.Members.get?, Fields.contents, List.map_cons,
      List.lookup_cons] at ih ⊢
    cases name == other
    · exact ih
    · rfl

/-- The identifier of a rule is given by a category or shown by its definition. -/
theorem Defines.id_cases (h : Defines compile fields rule) :
    (∃ c, fields.get? "id" = some (.category c) ∧ rule.id = c.label) ∨
      definitionId fields = rule.id := by
  have hid := h.id_eq
  rw [get?_contents, Option.map_eq_some_iff] at hid
  obtain ⟨value, hget, hcontent⟩ := hid
  cases value with
  | category c => exact .inl ⟨c, hget, (Json.string.inj hcontent).symm⟩
  | plain value =>
    obtain rfl : value = .string rule.id := hcontent
    exact .inr (by rw [definitionId, hget]; rfl)

/-- The identifier of a rule is not empty if the definition shows one. -/
theorem Defines.id_ne_nil (h : Defines compile fields rule) (hid : definitionId fields ≠ []) :
    rule.id ≠ [] := by
  rcases h.id_cases with ⟨c, -, hlabel⟩ | hsame
  · rw [hlabel]
    cases c <;> simp [Category.label, ← Text.ofString_empty, Text.ofString_inj]
  · exact hsame ▸ hid

/-- Reading a rule tells the issues of its fields. -/
theorem judges_readRule (source : Text) (pattern : Pattern) (members : Json.Members) :
    Checked.Judges (readRule source pattern members) (fieldIssues members) := by
  have text (name : Text) := Reader.judges_required Reader.text_refusesBy name members
  have category := Reader.judges_required Category.read_refusesBy "category" members
  have hissues : fieldIssues members =
      fieldIssue members "id" Reader.textRefusal ++
        fieldIssue members "vulnerability_type" Reader.textRefusal ++
        fieldIssue members "category" Category.refusal ++
        fieldIssue members "description" Reader.textRefusal ++
        fieldIssue members "explanation" Reader.textRefusal ++
        fieldIssue members "mitigation" Reader.textRefusal ++
        fieldIssue members "safe_code" Reader.textRefusal := by
    simp only [fieldIssues, ruleFields, List.flatMap_cons, List.flatMap_nil, List.append_nil,
      List.append_assoc]
  rw [hissues, readRule]
  exact (((((((text "id").map _).seq (text "vulnerability_type")).seq category).seq
    (text "description")).seq (text "explanation")).seq (text "mitigation")).seq (text "safe_code")

/-- What a definition reads as. -/
theorem readRule_eq_ok_iff {source : Text} {pattern : Pattern}
    (hsource : (fields.get? "pattern").map FieldValue.asName = some source)
    (hcompile : compile source = .ok pattern) :
    readRule source pattern fields.contents = .ok rule ↔ Defines compile fields rule := by
  simp only [readRule, Checked.seq_eq_ok_iff, Checked.map_eq_ok_iff,
    FieldName.required_same_eq_ok_iff, Reader.text_eq_ok_iff, Category.read_eq_ok_iff,
    exists_eq_right]
  constructor
  · rintro ⟨_, safeCode, ⟨_, mitigation, ⟨_, explanation, ⟨_, description, ⟨_, category, ⟨_, kind,
      ⟨id, hid, rfl⟩, hkind, rfl⟩, hcategory, rfl⟩, hdescription, rfl⟩, hexplanation, rfl⟩,
      hmitigation, rfl⟩, hsafeCode, rfl⟩
    exact ⟨hid, hsource, hcompile, hkind, hcategory, hdescription, hexplanation, hmitigation,
      hsafeCode⟩
  · intro h
    obtain rfl : source = rule.source := Option.some.inj (hsource.symm.trans h.source_eq)
    obtain rfl : pattern = rule.pattern := Except.ok.inj (hcompile.symm.trans h.compile_eq)
    exact ⟨_, _, ⟨_, _, ⟨_, _, ⟨_, _, ⟨_, _, ⟨_, _, ⟨_, h.id_eq, rfl⟩, h.kind_eq, rfl⟩,
      h.category_eq, rfl⟩, h.description_eq, rfl⟩, h.explanation_eq, rfl⟩, h.mitigation_eq, rfl⟩,
      h.safeCode_eq, rfl⟩

/-- The building of one rule as a cascade of its checks. -/
theorem buildRule_eq (earlier : List Text) (fields : Fields) :
    buildRule compile earlier fields =
      if definitionId fields = [] then .error .missingId
      else if definitionId fields ∈ earlier then .error (.duplicateId (definitionId fields))
      else match (fields.get? "pattern").map FieldValue.asName with
        | none => .error (.missingPattern (definitionId fields))
        | some source =>
          match compile source with
          | .error refusal => .error (.invalidPattern (definitionId fields) refusal)
          | .ok pattern =>
            if (fields.get? "matcher").isSome then .error .givenMatcher
            else match readRule source pattern fields.contents with
              | .ok rule => .ok rule
              | .bad issues => .error (.malformed (definitionId fields) issues) := by
  simp only [buildRule, List.isEmpty_iff, List.contains_iff_mem]
  split
  · rfl
  split
  · rfl
  cases fields.get? "pattern" with
  | none => rfl
  | some written =>
    simp only [Option.map_some]
    cases compile written.asName with
    | error refusal => rfl
    | ok pattern =>
      simp only [Except.mapError, bind, Except.bind]
      split
      · rfl
      · rfl

/-- One definition either has a first fault, which ends the building, or it builds its rule. -/
theorem buildRule_cases (compile : Compiler) (earlier : List Text) (fields : Fields) :
    (∃ e, firstFault? compile earlier fields = some e ∧
        buildRule compile earlier fields = .error e) ∨
      firstFault? compile earlier fields = none ∧
        (∃ rule, buildRule compile earlier fields = .ok rule) ∧
        ∀ rule, buildRule compile earlier fields = .ok rule ↔ Defines compile fields rule := by
  rw [buildRule_eq]
  simp only [firstFault?, Check.order, List.findSome?_cons, List.findSome?_nil, Check.fault?]
  -- One check after the other: either it fails, or the next one is looked at.
  by_cases hid : definitionId fields = []
  · exact .inl ⟨.missingId, by simp [hid]⟩
  by_cases hnew : definitionId fields ∈ earlier
  · exact .inl ⟨.duplicateId (definitionId fields), by simp [hid, hnew]⟩
  cases hpattern : fields.get? "pattern" with
  | none => exact .inl ⟨.missingPattern (definitionId fields), by simp [hid, hnew]⟩
  | some written =>
  have hsource : (fields.get? "pattern").map FieldValue.asName = some written.asName := by
    rw [hpattern, Option.map_some]
  cases hcompile : compile written.asName with
  | error refusal =>
    exact .inl ⟨.invalidPattern (definitionId fields) refusal, by simp [hid, hnew, hcompile]⟩
  | ok pattern =>
  cases hmatcher : fields.get? "matcher" with
  | some matcher => exact .inl ⟨.givenMatcher, by simp [hid, hnew, hcompile]⟩
  | none =>
  have hjudges := judges_readRule written.asName pattern fields.contents
  cases hread : readRule written.asName pattern fields.contents with
  | bad issues =>
    rw [hread] at hjudges
    obtain ⟨rfl, hne⟩ := hjudges.eq_of_bad
    obtain ⟨issue, more, hissues⟩ := List.exists_cons_of_ne_nil hne
    exact .inl ⟨.malformed (definitionId fields) (fieldIssues fields.contents),
      by simp [hid, hnew, hcompile, hread, hissues]⟩
  | ok rule =>
    rw [hread] at hjudges
    refine .inr ⟨by simp [hid, hnew, hcompile, hjudges.eq_nil],
      ⟨rule, by simp [hid, hnew, hcompile, hread]⟩, fun other => ?_⟩
    rw [← readRule_eq_ok_iff hsource hcompile, hread, Checked.ok.injEq]
    simp [hid, hnew, hcompile, hread]

/-- A rule is built from a definition without a fault that says what the rule says. -/
theorem buildRule_eq_ok_iff {taken : List Text} :
    buildRule compile taken fields = .ok rule ↔
      firstFault? compile taken fields = none ∧ Defines compile fields rule := by
  rcases buildRule_cases compile taken fields with ⟨e, hfault, hbuild⟩ | ⟨hfault, -, hbuild⟩
  · simp [hfault, hbuild]
  · simp [hfault, hbuild]

/-- What ends the building of a rule is the first fault of its definition. -/
theorem buildRule_eq_error_iff {taken : List Text} {e : CatalogError} :
    buildRule compile taken fields = .error e ↔ firstFault? compile taken fields = some e := by
  rcases buildRule_cases compile taken fields with ⟨f, hfault, hbuild⟩ | ⟨hfault, ⟨rule, hbuild⟩, -⟩
  · simp [hfault, hbuild]
  · simp [hfault, hbuild]

/-- A definition without a fault builds a rule. -/
theorem exists_buildRule_iff {taken : List Text} :
    (∃ rule, buildRule compile taken fields = .ok rule) ↔
      firstFault? compile taken fields = none := by
  rcases buildRule_cases compile taken fields with ⟨e, hfault, hbuild⟩ | ⟨hfault, hbuild, -⟩
  · simp [hfault, hbuild]
  · simp [hfault, hbuild]

/-- A definition that says what a rule says may only fail for its identifier or for a matcher. -/
theorem Defines.firstFault?_eq_none_iff (h : Defines compile fields rule) {taken : List Text} :
    firstFault? compile taken fields = none ↔
      fields.get? "matcher" = none ∧ definitionId fields ≠ [] ∧ definitionId fields ∉ taken := by
  obtain ⟨written, hpattern, hsource⟩ := Option.map_eq_some_iff.1 h.source_eq
  have hcompile : compile written.asName = .ok rule.pattern := hsource ▸ h.compile_eq
  have hjudges := judges_readRule rule.source rule.pattern fields.contents
  rw [(readRule_eq_ok_iff h.source_eq h.compile_eq).2 h] at hjudges
  simp only [firstFault?, Check.order, List.findSome?_cons, List.findSome?_nil, Check.fault?,
    hpattern, Option.map_some, hcompile, hjudges.eq_nil]
  by_cases hid : definitionId fields = []
  · simp [hid]
  by_cases hnew : definitionId fields ∈ taken
  · simp [hid, hnew]
  cases hmatcher : fields.get? "matcher" <;> simp [hid, hnew]

/-! ## All definitions -/

/-- Only membership counts among the identifiers that are taken. -/
theorem firstFault?_congr {taken other : List Text} (h : ∀ id, id ∈ taken ↔ id ∈ other)
    (fields : Fields) : firstFault? compile taken fields = firstFault? compile other fields := by
  have hfault : Check.fault? compile taken fields = Check.fault? compile other fields := by
    funext check
    cases check <;> simp only [Check.fault?, h]
  rw [firstFault?, firstFault?, hfault]

section Walk

variable {taken : List Text} {definitions : List Fields}

/-- No definition has no fault. -/
theorem faultAt?_nil (index : Nat) : faultAt? compile taken [] index = none := rfl

/-- The first definition is judged by the identifiers that are taken. -/
theorem faultAt?_cons_zero :
    faultAt? compile taken (fields :: definitions) 0 = firstFault? compile taken fields := by
  simp [faultAt?]

/-- Behind the first definition its identifier is taken as well. -/
theorem faultAt?_cons_succ (index : Nat) :
    faultAt? compile taken (fields :: definitions) (index + 1) =
      faultAt? compile (definitionId fields :: taken) definitions index := by
  simp only [faultAt?, List.getElem?_cons_succ, List.take_succ_cons, List.map_cons]
  congr 1
  funext other
  refine firstFault?_congr (fun id => ?_) other
  simp only [List.mem_append, List.mem_cons]
  exact or_left_comm.trans or_assoc.symm

/-- What a sequence holds first is what it starts with or, if it starts with nothing, what the rest
of it holds first. -/
theorem exists_first_iff {ε : Type} {f : Nat → Option ε} {e : ε} :
    (∃ n, f n = some e ∧ ∀ m < n, f m = none) ↔
      f 0 = some e ∨ f 0 = none ∧ ∃ n, f (n + 1) = some e ∧ ∀ m < n, f (m + 1) = none := by
  constructor
  · rintro ⟨n, hn, hbefore⟩
    cases n with
    | zero => exact .inl hn
    | succ n =>
      exact .inr ⟨hbefore 0 n.succ_pos, n, hn, fun m h => hbefore (m + 1) (Nat.succ_lt_succ h)⟩
  · rintro (h | ⟨hstart, n, hn, hbefore⟩)
    · exact ⟨0, h, fun m hm => absurd hm m.not_lt_zero⟩
    · refine ⟨n + 1, hn, fun m hm => ?_⟩
      cases m with
      | zero => exact hstart
      | succ m => exact hbefore m (Nat.lt_of_succ_lt_succ hm)

/-- Building stops at the first fault of the smallest index that has one. -/
theorem buildFrom_eq_error_iff {e : CatalogError} :
    buildFrom compile taken definitions = .error e ↔
      ∃ index, faultAt? compile taken definitions index = some e ∧
        ∀ earlier < index, faultAt? compile taken definitions earlier = none := by
  induction definitions generalizing taken with
  | nil => simp [buildFrom, faultAt?_nil, pure, Except.pure]
  | cons fields definitions ih =>
    have hsteps : buildFrom compile taken (fields :: definitions) = .error e ↔
        buildRule compile taken fields = .error e ∨
          (∃ rule, buildRule compile taken fields = .ok rule) ∧
            buildFrom compile (definitionId fields :: taken) definitions = .error e := by
      rw [buildFrom]
      cases buildRule compile taken fields <;>
        cases buildFrom compile (definitionId fields :: taken) definitions <;>
        simp [bind, Except.bind, pure, Except.pure]
    -- The index of the first fault is zero, or the successor of the one in the rest.
    have hfirst := @exists_first_iff _ (faultAt? compile taken (fields :: definitions)) e
    simp only [faultAt?_cons_zero, faultAt?_cons_succ] at hfirst
    rw [hsteps, buildRule_eq_error_iff, exists_buildRule_iff, ih, hfirst]

/-- Building succeeds if no index has a fault, with one rule for each definition, in order. -/
theorem buildFrom_eq_ok_iff {rules : List Rule} :
    buildFrom compile taken definitions = .ok rules ↔
      (∀ index, faultAt? compile taken definitions index = none) ∧
        List.Forall₂ (Defines compile) definitions rules := by
  induction definitions generalizing taken rules with
  | nil => simp [buildFrom, faultAt?_nil, pure, Except.pure, eq_comm]
  | cons fields definitions ih =>
    -- The faults after the first definition are those of the others with one more identifier taken.
    have hfaults : (∀ index, faultAt? compile taken (fields :: definitions) index = none) ↔
        firstFault? compile taken fields = none ∧
          ∀ index, faultAt? compile (definitionId fields :: taken) definitions index = none := by
      rw [← Nat.and_forall_add_one, faultAt?_cons_zero]
      simp only [faultAt?_cons_succ]
    have hsteps : buildFrom compile taken (fields :: definitions) = .ok rules ↔
        ∃ rule rest, buildRule compile taken fields = .ok rule ∧
          buildFrom compile (definitionId fields :: taken) definitions = .ok rest ∧
          rules = rule :: rest := by
      rw [buildFrom]
      cases buildRule compile taken fields <;>
        cases buildFrom compile (definitionId fields :: taken) definitions <;>
        simp [bind, Except.bind, pure, Except.pure, eq_comm]
    rw [hsteps, hfaults, List.forall₂_cons_left_iff]
    simp only [buildRule_eq_ok_iff, ih]
    constructor
    · rintro ⟨rule, rest, ⟨hfault, hdefines⟩, ⟨hnone, hrest⟩, rfl⟩
      exact ⟨⟨hfault, hnone⟩, rule, rest, hdefines, hrest, rfl⟩
    · rintro ⟨⟨hfault, hnone⟩, rule, rest, hdefines, hrest, rfl⟩
      exact ⟨rule, rest, ⟨hfault, hdefines⟩, ⟨hnone, hrest⟩, rfl⟩

/-- Definitions that say what rules say may only fail for their identifiers or for a matcher. -/
theorem forall_faultAt?_eq_none_iff {rules : List Rule}
    (h : List.Forall₂ (Defines compile) definitions rules) :
    (∀ index, faultAt? compile taken definitions index = none) ↔
      (∀ fields ∈ definitions, fields.get? "matcher" = none) ∧
        (∀ fields ∈ definitions, definitionId fields ≠ [] ∧ definitionId fields ∉ taken) ∧
        (definitions.map definitionId).Nodup := by
  induction h generalizing taken with
  | nil => simp [faultAt?_nil]
  | @cons fields rule definitions rules hdefines _ ih =>
    rw [← Nat.and_forall_add_one, faultAt?_cons_zero, hdefines.firstFault?_eq_none_iff]
    simp only [faultAt?_cons_succ, ih, List.forall_mem_cons]
    simp only [List.map_cons, List.nodup_cons, List.mem_cons, List.mem_map, not_or, not_exists,
      not_and]
    constructor
    · rintro ⟨⟨hmatcher, hid, hnew⟩, hmatchers, hids, hnodup⟩
      exact ⟨⟨hmatcher, hmatchers⟩, ⟨⟨hid, hnew⟩, fun other hother =>
        ⟨(hids other hother).1, (hids other hother).2.2⟩⟩,
        fun other hother => (hids other hother).2.1, hnodup⟩
    · rintro ⟨⟨hmatcher, hmatchers⟩, ⟨⟨hid, hnew⟩, hids⟩, hother, hnodup⟩
      exact ⟨⟨hmatcher, hid, hnew⟩, hmatchers, fun other hmem =>
        ⟨(hids other hmem).1, hother other hmem, (hids other hmem).2⟩, hnodup⟩

/-- Further definitions do not change which index has the first fault. -/
theorem faultAt?_append_of_lt {index : Nat} (h : index < definitions.length)
    (more : List Fields) :
    faultAt? compile taken (definitions ++ more) index =
      faultAt? compile taken definitions index := by
  rw [faultAt?, faultAt?, List.getElem?_append_left h,
    List.take_append_of_le_length (Nat.le_of_lt h)]

/-- A fault is that of a definition. -/
theorem lt_length_of_faultAt? {index : Nat} {e : CatalogError}
    (h : faultAt? compile taken definitions index = some e) : index < definitions.length := by
  obtain ⟨fields, hfields, -⟩ := Option.bind_eq_some_iff.1 h
  exact (List.getElem?_eq_some_iff.1 hfields).1

/-- A fault is not mended by further definitions. -/
theorem buildFrom_append_of_error {e : CatalogError}
    (h : buildFrom compile taken definitions = .error e) (more : List Fields) :
    buildFrom compile taken (definitions ++ more) = .error e := by
  obtain ⟨index, hindex, hearlier⟩ := buildFrom_eq_error_iff.1 h
  have hlt := lt_length_of_faultAt? hindex
  refine buildFrom_eq_error_iff.2 ⟨index, ?_, fun earlier hless => ?_⟩
  · rw [faultAt?_append_of_lt hlt, hindex]
  · rw [faultAt?_append_of_lt (Nat.lt_trans hless hlt), hearlier earlier hless]

/-- A rule of a catalog has the pattern that its source compiles to. -/
theorem compile_of_mem_build {rules : List Rule} (h : build compile definitions = .ok rules)
    (hrule : rule ∈ rules) : compile rule.source = .ok rule.pattern := by
  obtain ⟨hlength, hdefines⟩ := List.forall₂_iff_get.1 (buildFrom_eq_ok_iff.1 h).2
  obtain ⟨index, hindex, rfl⟩ := List.mem_iff_getElem.1 hrule
  exact (hdefines index (hlength ▸ hindex) hindex).compile_eq

/-- A catalog is built if every definition says what its rule says and gives no matcher, and the
identifiers that the definitions show are not empty and pairwise distinct. -/
theorem build_eq_ok_iff {rules : List Rule} : build compile definitions = .ok rules ↔
    List.Forall₂ (Defines compile) definitions rules ∧
      (∀ fields ∈ definitions, fields.get? "matcher" = none) ∧
      (∀ fields ∈ definitions, definitionId fields ≠ []) ∧
      (definitions.map definitionId).Nodup := by
  rw [build, buildFrom_eq_ok_iff, and_comm]
  refine and_congr_right fun hdefines => ?_
  rw [forall_faultAt?_eq_none_iff hdefines]
  simp only [List.not_mem_nil, not_false_eq_true, and_true]

/-! ## The identifiers of the rules -/

/-- No rule has an empty identifier if every definition shows one. -/
theorem id_ne_nil_of_defines {rules : List Rule}
    (h : List.Forall₂ (Defines compile) definitions rules)
    (hids : ∀ fields ∈ definitions, definitionId fields ≠ []) : ∀ rule ∈ rules, rule.id ≠ [] := by
  induction h with
  | nil => exact fun _ hmem => absurd hmem List.not_mem_nil
  | cons hdefines _ ih =>
    rw [List.forall_mem_cons] at hids ⊢
    exact ⟨hdefines.id_ne_nil hids.1, ih hids.2⟩

/-- Where no identifier is a category, the rules have the identifiers that the definitions show. -/
theorem map_id_eq_of_defines {rules : List Rule}
    (h : List.Forall₂ (Defines compile) definitions rules)
    (hplain : ∀ fields ∈ definitions, ∀ c, fields.get? "id" ≠ some (.category c)) :
    rules.map Rule.id = definitions.map definitionId := by
  induction h with
  | nil => rfl
  | cons hdefines _ ih =>
    rw [List.forall_mem_cons] at hplain
    rcases hdefines.id_cases with ⟨c, hget, -⟩ | hsame
    · exact absurd hget (hplain.1 c)
    · rw [List.map_cons, List.map_cons, hsame, ih hplain.2]

end Walk

/-! ## The outcome -/

/-- Which errors are no faults of the catalog: a matcher that is given twice, and what the compiler
does not refuse as a fault of the pattern. -/
theorem kind_iff (e : CatalogError) :
    (e.kind = .argument ↔ e = .givenMatcher) ∧
      ∀ kind, e.kind = .compiler kind ↔
        kind ≠ .malformed ∧ ∃ id message, e = .invalidPattern id ⟨kind, message⟩ := by
  cases e with
  | invalidPattern id refusal =>
    obtain ⟨given, message⟩ := refusal
    refine ⟨?_, fun kind => ?_⟩
    · cases given <;> simp [CatalogError.kind]
    · cases given <;> cases kind <;> simp [CatalogError.kind]
  | _ => simp [CatalogError.kind]

/-- A catalog can be built exactly if every definition says what some rule says and gives no
matcher, and the identifiers that the definitions show are not empty and pairwise distinct; it is
then the list of these rules, in order, whose identifiers are not empty, and pairwise distinct where
none is given as a category.  Otherwise building ends with the first fault, by index and for one
definition by the order of the checks, and what is defined after it does not matter.  All errors are
faults of the catalog, except for a matcher and for what the compiler does not refuse as a fault of
the pattern. -/
theorem build_outcome (compile : Compiler) (definitions : List Fields) :
    (∀ rules, build compile definitions = .ok rules ↔
      List.Forall₂ (Defines compile) definitions rules ∧
        (∀ fields ∈ definitions, fields.get? "matcher" = none) ∧
        (∀ fields ∈ definitions, definitionId fields ≠ []) ∧
        (definitions.map definitionId).Nodup) ∧
    (∀ rules, build compile definitions = .ok rules → (∀ rule ∈ rules, rule.id ≠ []) ∧
      ((∀ fields ∈ definitions, ∀ c, fields.get? "id" ≠ some (.category c)) →
        (rules.map Rule.id).Nodup)) ∧
    ((∃ rules, build compile definitions = .ok rules) ↔
      ∀ index, faultAt? compile [] definitions index = none) ∧
    ∀ e, (build compile definitions = .error e ↔
        ∃ index, faultAt? compile [] definitions index = some e ∧
          ∀ earlier < index, faultAt? compile [] definitions earlier = none) ∧
      (build compile definitions = .error e →
        ∀ more, build compile (definitions ++ more) = .error e) ∧
      (e.kind = .argument ↔ e = .givenMatcher) ∧
      ∀ kind, e.kind = .compiler kind ↔
        kind ≠ .malformed ∧ ∃ id message, e = .invalidPattern id ⟨kind, message⟩ := by
  refine ⟨fun _ => build_eq_ok_iff, fun rules hbuild => ?_, ?_, fun e =>
    ⟨buildFrom_eq_error_iff, fun h more => buildFrom_append_of_error h more, kind_iff e⟩⟩
  · obtain ⟨hdefines, -, hids, hnodup⟩ := build_eq_ok_iff.1 hbuild
    exact ⟨id_ne_nil_of_defines hdefines hids, fun hplain =>
      (map_id_eq_of_defines hdefines hplain).symm ▸ hnodup⟩
  · constructor
    · rintro ⟨rules, hbuild⟩
      exact (buildFrom_eq_ok_iff.1 hbuild).1
    · intro hnone
      cases hbuild : build compile definitions with
      | ok rules => exact ⟨rules, rfl⟩
      | error e =>
        obtain ⟨index, hindex, -⟩ := buildFrom_eq_error_iff.1 hbuild
        rw [hnone index] at hindex
        cases hindex

/-- A second definition with the identifier of the first, no pattern and a matcher: the identifier
is what is told, whatever else is defined after it. -/
theorem build_outcome_duplicate :
    let first : Definition := ⟨"a", "x|", "k", .codeQuality, "d", "e", "m", "s"⟩
    let second : Fields := [("id", .plain (.string "a")), ("matcher", .plain .null)]
    let compile := Pattern.compile .standard
    build compile [first.fields, second] = .error (.duplicateId "a") ∧
      ∀ more, build compile ([first.fields, second] ++ more) = .error (.duplicateId "a") := by
  intro first second compile
  have hcompile : compile first.pattern = .ok (.ofText first.pattern) :=
    Pattern.compile_eq_ok_iff.2 (Pattern.parse_of_writes
      (by decide +kernel : Pattern.writes (fun _ => true) _ = true))
  have hfirst : faultAt? compile [] [first.fields, second] 0 = none :=
    (buildRule_eq_ok_iff.1
      (Definition.buildRule_fields (by decide) List.not_mem_nil hcompile)).1
  have hid : definitionId second = Text.ofString first.id := by
    simp [definitionId, second, Fields.get?, FieldValue.asName, Json.asName, first]
  have hsecond : faultAt? compile [] [first.fields, second] 1 = some (.duplicateId "a") := by
    rw [faultAt?_cons_succ, faultAt?_cons_zero, Definition.definitionId_fields]
    simp [firstFault?, Check.order, Check.fault?, hid, first, ← Text.ofString_empty,
      Text.ofString_inj]
  obtain ⟨hfault, hmore, -⟩ :=
    (build_outcome compile [first.fields, second]).2.2.2 (.duplicateId "a")
  have hbuild := hfault.2 ⟨1, hsecond, fun earlier hless => by
    rw [Nat.lt_one_iff.1 hless, hfirst]⟩
  exact ⟨hbuild, hmore hbuild⟩

/-- A count that is too large ends the building with an error that is no fault of the catalog. -/
theorem build_stops_at_large_count :
    let d : Definition := ⟨"sample", "a\x7b4294967295\x7d", "k", .codeQuality, "d", "e", "m", "s"⟩
    let e : CatalogError :=
      .invalidPattern "sample" ⟨.overflow, "the repetition number is too large"⟩
    build (Pattern.compile .standard) [d.fields] = .error e ∧ e ≠ .givenMatcher ∧
      e.kind ≠ .catalog := by
  intro d e
  have hparse : Pattern.parse .standard d.pattern = .error .repeatCount := by decide +kernel
  have hcompile : Pattern.compile .standard d.pattern =
      .error ⟨.overflow, "the repetition number is too large"⟩ := by
    rw [Pattern.compile, hparse]
    rfl
  have hpattern : (d.fields.get? "pattern").map FieldValue.asName =
      some (Text.ofString d.pattern) := by
    simp [Definition.fields, Fields.get?, Text.lookup_cons_ofString, FieldValue.asName,
      Json.asName]
  have hrule : buildRule (Pattern.compile .standard) [] d.fields = .error e := by
    rw [buildRule_eq, Definition.definitionId_fields, if_neg (by decide),
      if_neg List.not_mem_nil, hpattern]
    simp only [hcompile]
    rfl
  refine ⟨?_, CatalogError.noConfusion, by decide⟩
  rw [build, buildFrom, hrule]
  rfl

/-- A definition with another identifier. -/
def withId (d : Definition) (id : FieldValue) : Fields := (Text.ofString "id", id) :: d.fields.tail

/-- A definition with a category for its identifier goes by the constant, and its rule by the label.
So the label may be the identifier of another rule of the same catalog. -/
theorem build_category_and_label {compile : Compiler} {d : Definition}
    (hcompile : compile d.pattern = .ok (.ofText d.pattern)) (c : Category) :
    build compile [withId d (.category c), withId d (.plain (.string c.label))] =
      .ok [{ d.rule with id := c.label }, { d.rule with id := c.label }] := by
  have hdefines (value : FieldValue) (hvalue : value.content = .string c.label) :
      Defines compile (withId d value) { d.rule with id := c.label } := by
    constructor
    case id_eq => simpa [withId, Fields.contents] using hvalue
    all_goals
      simp [withId, Definition.fields, Fields.contents, Fields.get?, Text.lookup_cons_ofString,
        FieldValue.asName, Json.asName, FieldValue.content, Definition.rule, hcompile]
  have hmatcher (value : FieldValue) : (withId d value).get? "matcher" = none := by
    simp [withId, Definition.fields, Fields.get?, Text.lookup_cons_ofString]
  have hids : definitionId (withId d (.category c)) = c.shown ∧
      definitionId (withId d (.plain (.string c.label))) = c.label := by
    simp [definitionId, withId, Fields.get?, FieldValue.asName, Json.asName]
  refine build_eq_ok_iff.2 ⟨.cons (hdefines _ rfl) (.cons (hdefines _ rfl) .nil), ?_, ?_, ?_⟩
  · simp only [List.forall_mem_cons, hmatcher, List.not_mem_nil, false_implies, implies_true,
      and_self]
  · simp only [List.forall_mem_cons, hids]
    cases c <;> simp [Category.label, Category.shown, ← Text.ofString_empty, Text.ofString_inj]
  · simp only [List.map_cons, List.map_nil, hids]
    cases c <;> simp [Category.label, Category.shown, Text.ofString_inj]

end Catalog

end CodeScan
