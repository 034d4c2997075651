import CodeScan.Proofs.Json.Ascii
import CodeScan.Proofs.Json.Strings
import CodeScan.Proofs.Service.Sendable
import CodeScan.Settings

/-!
# Messages have a UTF-8 form

A message may show any value that was read, and a value may hold lone surrogates.  Quoting writes
them by their numbers, so that a message has a UTF-8 form whatever it shows (`isEncodable_shown`).

The rest of the report on a record is made of names of fields and of fixed wordings.  `IsPlain` says
so of issues; it passes through every reader that is put together from others, and it is all that
`IssueReport.isEncodable_text` needs.
-/

namespace CodeScan

/-! ## Quoted texts -/

/-- A table holds all numbers between two that lie within one of its ranges. -/
theorem RangeTable.contains_of_le {table : RangeTable} {page : Nat × List (Nat × Nat)}
    {range : Nat × Nat} {first last n : Nat}
    (hpage : table.find? (fun page => first ≤ page.1) = some page) (hlast : last ≤ page.1)
    (hmem : range ∈ page.2) (hrange : range.1 ≤ first ∧ last ≤ range.2)
    (hn : first ≤ n ∧ n ≤ last) : table.contains n = true := by
  have hfound : table.find? (fun page => n ≤ page.1) = some page := by
    rw [List.find?_eq_some_iff_append] at hpage ⊢
    obtain ⟨-, before, after, hsplit, hbefore⟩ := hpage
    refine ⟨decide_eq_true (by omega), before, after, hsplit, fun other hother => ?_⟩
    have hpassed := hbefore other hother
    simp only [Bool.not_eq_true', decide_eq_false_iff_not] at hpassed ⊢
    omega
  rw [contains, hfound]
  refine List.any_eq_true.2 ⟨range, hmem, ?_⟩
  rw [Bool.and_eq_true, decide_eq_true_eq, decide_eq_true_eq]
  omega

/-- Lone surrogates are not printable. -/
theorem CodePoint.isPrintable_surrogate (offset : Fin 0x800) :
    (CodePoint.surrogate offset).isPrintable = false := by
  have hpage : ∃ page, unprintableRanges.find? (fun page => 0xD800 ≤ page.1) = some page ∧
      0xDFFF ≤ page.1 ∧ (0xD7FC, 0xF8FF) ∈ page.2 := ⟨_, rfl, by decide, by decide⟩
  obtain ⟨page, hpage, hlast, hmem⟩ := hpage
  have hunprintable : unprintableRanges.contains (0xD800 + offset.val) = true :=
    RangeTable.contains_of_le hpage hlast hmem (by decide) (by omega)
  rw [isPrintable, value, hunprintable, Bool.not_true, Bool.and_false]

namespace Json

/-- A text has a UTF-8 form if all its code points are characters. -/
theorem isEncodable_iff {t : Text} : isEncodable t = true ↔ ∀ c ∈ t, c.char?.isSome = true := by
  rw [isEncodable_eq_all, List.all_eq_true]

/-- A text has a UTF-8 form if all of its code points stand in one that has. -/
theorem isEncodable_of_subset {s t : Text} (ht : isEncodable t = true) (h : s ⊆ t) :
    isEncodable s = true :=
  isEncodable_iff.2 fun c hc => isEncodable_iff.1 ht c (h hc)

/-- Pieces that have a UTF-8 form can be joined. -/
theorem isEncodable_join {separator : Text} (hseparator : isEncodable separator = true)
    {pieces : List Text} (hpieces : ∀ piece ∈ pieces, isEncodable piece = true) :
    isEncodable (Text.join separator pieces) = true :=
  isEncodable_iff.2 (Text.forall_mem_join (isEncodable_iff.1 hseparator)
    fun piece hpiece => isEncodable_iff.1 (hpieces piece hpiece))

@[simp] theorem isEncodable_hex (width n : Nat) : isEncodable (Text.hex width n) = true := by
  induction width generalizing n with
  | zero => rfl
  | succ width ih => simp [Text.hex, Text.hexDigit, ih]

/-- An escape by number has a UTF-8 form, also if the code point has none. -/
@[simp] theorem isEncodable_numericEscape (c : CodePoint) :
    isEncodable (Text.numericEscape c) = true := by
  rw [Text.numericEscape]
  split_ifs <;> simp

/-- Lone surrogates are quoted by their numbers. -/
@[simp] theorem isEncodable_quoted (t : Text) : isEncodable t.quoted = true := by
  have hquote (quote : Char) (c : CodePoint) :
      isEncodable (Text.quoteCodePoint quote c) = true := by
    cases c with
    | char x =>
      rw [Text.quoteCodePoint]
      split_ifs <;> simp
    | surrogate offset =>
      simp [Text.quoteCodePoint, CodePoint.isPrintable_surrogate]
  have hflat : isEncodable (t.flatMap (Text.quoteCodePoint (Text.quoteFor t))) = true := by
    rw [isEncodable_iff]
    intro c hc
    obtain ⟨x, -, hc⟩ := List.mem_flatMap.1 hc
    exact isEncodable_iff.1 (hquote _ x) c hc
  simp [Text.quoted, hflat]

/-! ## Shown values -/

mutual

/-- A shown value has a UTF-8 form. -/
theorem isEncodable_shown (v : Json) : isEncodable v.shown = true := by
  cases v with
  | null => exact isEncodable_ofString _
  | bool b => cases b <;> exact isEncodable_ofString _
  | int n => exact isEncodable_ofInt n
  | float x =>
    cases x with
    | nan => exact isEncodable_ofString _
    | infinite negative => cases negative <;> simp [shown, Binary64.toText, shownSpecials]
    | finite negative mantissa exponent => exact isEncodable_ofChars _
  | string t => exact isEncodable_quoted t
  | array items =>
    have hjoin := isEncodable_join (isEncodable_ofString ", ") (isEncodable_shownItems items)
    simp [shown, hjoin]
  | object members =>
    have hjoin := isEncodable_join (isEncodable_ofString ", ") (isEncodable_shownMembers members)
    simp [shown, hjoin]

/-- The shown elements of an array have a UTF-8 form. -/
theorem isEncodable_shownItems (items : List Json) :
    ∀ piece ∈ shownItems items, isEncodable piece = true := by
  cases items with
  | nil => exact List.forall_mem_nil _
  | cons item items =>
    exact List.forall_mem_cons.2 ⟨isEncodable_shown item, isEncodable_shownItems items⟩

/-- The shown members of an object have a UTF-8 form, names included. -/
theorem isEncodable_shownMembers (members : List (Text × Json)) :
    ∀ piece ∈ shownMembers members, isEncodable piece = true := by
  match members with
  | [] => exact List.forall_mem_nil _
  | (name, value) :: members =>
    exact List.forall_mem_cons.2
      ⟨by simp [isEncodable_shown value], isEncodable_shownMembers members⟩

end

@[simp] theorem isEncodable_typeName (v : Json) : isEncodable v.typeName = true := by
  cases v <;> exact isEncodable_ofString _

end Json

open Json

/-! ## Issues -/

namespace Issue

/-- Cutting a text off to a number of bytes leaves a part in front of it. -/
theorem takeBytes_prefix_self (budget : Nat) (t : Text) : takeBytes budget t <+: t := by
  induction t generalizing budget with
  | nil => exact List.prefix_rfl
  | cons c t ih =>
    simp only [takeBytes]
    split
    · exact List.cons_prefix_cons.2 ⟨rfl, ih _⟩
    · exact List.nil_prefix

/-- An excerpt of a text that has a UTF-8 form has one. -/
theorem isEncodable_excerpt {t : Text} (h : isEncodable t = true) :
    isEncodable (excerpt t) = true := by
  have hfront := isEncodable_of_subset h (takeBytes_prefix_self 25 t).subset
  have hback : isEncodable (takeBytes 24 t.reverse).reverse = true :=
    isEncodable_of_subset h fun c hc =>
      List.mem_reverse.1 ((takeBytes_prefix_self 24 t.reverse).subset (List.mem_reverse.1 hc))
  rw [excerpt]
  split
  · exact h
  · simp [hfront, hback]

/-- The wording of an issue and the names in its path have a UTF-8 form. -/
def IsPlain (issue : Issue) : Prop :=
  isEncodable issue.kind.message = true ∧ ∀ t, PathStep.name t ∈ issue.path → isEncodable t = true

/-- The path of a plain issue can be written. -/
theorem IsPlain.isEncodable_pathText {issue : Issue} (h : issue.IsPlain) :
    isEncodable (pathText issue.path) = true := by
  refine isEncodable_join (isEncodable_ofString ".") fun piece hpiece => ?_
  obtain ⟨step, hstep, rfl⟩ := List.mem_map.1 hpiece
  cases step with
  | name t => exact h.2 t hstep
  | index n => exact isEncodable_ofNat n

/-- The lines on a plain issue can be written. -/
theorem IsPlain.isEncodable_lines {issue : Issue} (h : issue.IsPlain) :
    ∀ line ∈ issue.lines, isEncodable line = true := by
  have hcode : isEncodable issue.kind.code = true := by
    cases issue.kind <;> exact isEncodable_ofString _
  have hexcerpt := isEncodable_excerpt (isEncodable_shown issue.input)
  simp [lines, h.isEncodable_pathText, h.1, hcode, hexcerpt, helpPage]

end Issue

/-- The report on a record whose issues are plain has a UTF-8 form. -/
theorem IssueReport.isEncodable_text {report : IssueReport}
    (hrecord : isEncodable report.record = true) (h : ∀ issue ∈ report.issues, issue.IsPlain) :
    isEncodable report.text = true := by
  refine isEncodable_join (isEncodable_ofString "\n") (List.forall_mem_cons.2 ⟨?_, ?_⟩)
  · split <;> simp [hrecord]
  · intro line hline
    obtain ⟨issue, hissue, hline⟩ := List.mem_flatMap.1 hline
    exact (h issue hissue).isEncodable_lines line hline

/-! ## Readers -/

/-- All issues in the way of a value are plain. -/
def Checked.IsPlain {α : Type} : Checked α → Prop
  | .ok _ => True
  | .bad issues => ∀ issue ∈ issues, issue.IsPlain

namespace Checked

variable {α β : Type}

/-- What is done with a value that was read adds no issue. -/
theorem IsPlain.map {x : Checked α} (hx : x.IsPlain) (f : α → β) : (f <$> x).IsPlain := by
  cases x with
  | ok value => trivial
  | bad issues => exact hx

/-- Issues of two readers are those of either. -/
theorem IsPlain.seq {f : Checked (α → β)} {x : Checked α} (hf : f.IsPlain) (hx : x.IsPlain) :
    (f <*> x).IsPlain := by
  cases f with
  | ok f =>
    cases x with
    | ok value => trivial
    | bad issues => exact hx
  | bad issues =>
    cases x with
    | ok value => exact hf
    | bad more => exact List.forall_mem_append.2 ⟨hf, hx⟩

/-- A step of the path that can be written keeps issues plain. -/
theorem IsPlain.within {x : Checked α} (hx : x.IsPlain) {step : PathStep}
    (hstep : ∀ t, step = .name t → isEncodable t = true) : (x.within step).IsPlain := by
  cases x with
  | ok value => trivial
  | bad issues =>
    intro issue hissue
    obtain ⟨inner, hinner, rfl⟩ := List.mem_map.1 hissue
    refine ⟨(hx inner hinner).1, fun t ht => ?_⟩
    rcases List.mem_cons.1 ht with hsame | hmem
    · exact hstep t hsame.symm
    · exact (hx inner hinner).2 t hmem

/-- A fixed wording makes a plain issue, whatever the input is. -/
theorem isPlain_issue (kind : IssueKind) (hkind : isEncodable kind.message = true) (input : Json) :
    (issue kind input : Checked α).IsPlain := by
  intro issue hissue
  rw [List.mem_singleton.1 hissue]
  exact ⟨hkind, fun _ h => nomatch h⟩

/-- A check with a fixed wording keeps a reader's issues plain. -/
theorem IsPlain.ensure {x : Checked α} (hx : x.IsPlain) (holds : α → Bool) {kind : IssueKind}
    (hkind : isEncodable kind.message = true) (input : Json) :
    (x.ensure holds kind input).IsPlain := by
  cases x with
  | ok value =>
    rw [Checked.ensure]
    split
    · trivial
    · exact isPlain_issue kind hkind input
  | bad issues => exact hx

end Checked

/-- A reader that reports plain issues only. -/
def Reader.IsPlain {α : Type} (read : Reader α) : Prop := ∀ input, (read input).IsPlain

namespace Reader

variable {α : Type}

theorem isPlain_text : text.IsPlain := by
  intro input
  cases input with
  | string t => trivial
  | _ => exact Checked.isPlain_issue .notString (isEncodable_ofString _) _

theorem isPlain_integer : integer.IsPlain := by
  intro input
  unfold integer
  split
  · trivial
  · trivial
  · split
    · split
      · trivial
      · exact Checked.isPlain_issue .integerTooLarge (isEncodable_ofString _) _
    · refine Checked.isPlain_issue _ ?_ _
      split <;> exact isEncodable_ofString _
  · split
    · trivial
    · refine Checked.isPlain_issue _ ?_ _
      split <;> exact isEncodable_ofString _
  · exact Checked.isPlain_issue .notInteger (isEncodable_ofString _) _

theorem isPlain_integerFrom (bound : Int) : (integerFrom bound).IsPlain := fun input =>
  (isPlain_integer input).ensure _ (by simp [IssueKind.message]) input

theorem isPlain_integerWithin (least most : Int) : (integerWithin least most).IsPlain :=
  fun input => ((isPlain_integer input).ensure _ (by simp [IssueKind.message]) input).ensure _
    (by simp [IssueKind.message]) input

theorem isPlain_integerAbove (bound : Int) : (integerAbove bound).IsPlain := fun input =>
  (isPlain_integer input).ensure _ (by simp [IssueKind.message]) input

/-- The elements of a list are read one by one, each under its index. -/
theorem IsPlain.elements {read : Reader α} (h : read.IsPlain) (n : Nat) (items : List Json) :
    (elements read n items).IsPlain := by
  induction items generalizing n with
  | nil => trivial
  | cons item items ih =>
    have hitem : ((read item).within (.index n)).IsPlain :=
      (h item).within fun _ hstep => nomatch hstep
    exact (hitem.map List.cons).seq (ih (n + 1))

/-- Reading a list gives plain issues if reading its elements does. -/
theorem IsPlain.list {read : Reader α} (h : read.IsPlain) {kind : IssueKind}
    (hkind : isEncodable kind.message = true) : (list kind read).IsPlain := by
  intro input
  cases input with
  | array items => exact h.elements 0 items
  | _ => exact Checked.isPlain_issue kind hkind _

/-- Reading a record gives plain issues if reading its members does. -/
theorem isPlain_record {name : Text} (hname : isEncodable name = true)
    {read : Json.Members → Checked α} (h : ∀ members, (read members).IsPlain) :
    (record name read).IsPlain := by
  intro input
  cases input with
  | object members => exact h members
  | _ => exact Checked.isPlain_issue (.notRecord name) (by simp [IssueKind.message, hname]) _

end Reader

namespace FieldName

variable {α : Type} {field : FieldName} {read : Reader α}

/-- Both names of a field have a UTF-8 form. -/
def IsPlain (field : FieldName) : Prop :=
  isEncodable field.wire = true ∧ isEncodable field.plain = true

/-- The two names of a field that are given as strings can be written. -/
theorem isPlain_mk (wire plain : String) : IsPlain ⟨wire, plain⟩ :=
  ⟨isEncodable_ofString wire, isEncodable_ofString plain⟩

theorem isPlain_same (s : String) : (same s).IsPlain := isPlain_mk s s

/-- A field is found under one of its own names. -/
theorem IsPlain.of_find? (hfield : field.IsPlain) {members : Json.Members} {name : Text}
    {value : Json} (h : field.find? members = some (name, value)) : isEncodable name = true := by
  rw [find?] at h
  split at h
  · cases h
    exact hfield.1
  · obtain ⟨_, -, h⟩ := Option.map_eq_some_iff.1 h
    cases h
    exact hfield.2

/-- Reading a field that has to be there gives plain issues if its reader does. -/
theorem IsPlain.required (hfield : field.IsPlain) (hread : read.IsPlain)
    (members : Json.Members) : (field.required read members).IsPlain := by
  rw [FieldName.required]
  split
  · rename_i hfind
    exact (hread _).within fun _ hstep => PathStep.name.inj hstep ▸ hfield.of_find? hfind
  · intro issue hissue
    rw [List.mem_singleton.1 hissue]
    refine ⟨isEncodable_ofString _, fun t ht => ?_⟩
    rw [PathStep.name.inj (List.mem_singleton.1 ht)]
    exact hfield.1

/-- Reading a field that may be left out gives plain issues if its reader does. -/
theorem IsPlain.withDefault (hfield : field.IsPlain) (fallback : α) (hread : read.IsPlain)
    (members : Json.Members) : (field.withDefault fallback read members).IsPlain := by
  rw [FieldName.withDefault]
  split
  · rename_i hfind
    exact (hread _).within fun _ hstep => PathStep.name.inj hstep ▸ hfield.of_find? hfind
  · trivial

end FieldName

/-! ## Records -/

/-- The report on plain issues of a record has a UTF-8 form. -/
theorem Checked.IsPlain.isEncodable_text {α : Type} {x : Checked α} (hx : x.IsPlain) {record : Text}
    (hrecord : isEncodable record = true) {report : IssueReport}
    (h : x.toExcept record = .error report) : isEncodable report.text = true := by
  cases x with
  | ok value => cases h
  | bad issues =>
    cases h
    exact IssueReport.isEncodable_text hrecord hx

open FieldName Reader

/-- A list of alternatives has a UTF-8 form if it is put in quotes. -/
theorem IssueKind.isEncodable_alternatives (names : List Text) :
    isEncodable (alternatives names) = true := by
  fun_induction alternatives names with
  | case1 => rfl
  | case2 name => exact isEncodable_quoted name
  | case3 name last => simp
  | case4 name rest _ _ ih => simp [ih]

/-- Reading a category gives plain issues. -/
theorem Category.isPlain_read : Category.read.IsPlain := by
  have hkind : isEncodable (IssueKind.notListed (all.map label)).message = true := by
    rw [IssueKind.message, isEncodable_append, isEncodable_ofString,
      IssueKind.isEncodable_alternatives, Bool.and_self]
  intro input
  dsimp only [Category.read]
  split
  · trivial
  · exact Checked.isPlain_issue _ hkind input

/-- Reading a finding gives plain issues. -/
theorem Finding.isPlain_readMembers (members : Json.Members) :
    (Finding.readMembers members).IsPlain := by
  have htext {field : FieldName} (h : field.IsPlain) :
      (field.required Reader.text members).IsPlain := h.required isPlain_text members
  dsimp only [Finding.readMembers]
  refine Checked.IsPlain.seq ?_ (htext (isPlain_mk "safeCode" "safe_code"))
  refine Checked.IsPlain.seq ?_ (htext (isPlain_mk "unsafeCode" "unsafe_code"))
  refine Checked.IsPlain.seq ?_ (htext (isPlain_same "explanation"))
  refine Checked.IsPlain.seq ?_ (htext (isPlain_same "mitigation"))
  refine Checked.IsPlain.seq ?_ (htext (isPlain_same "description"))
  refine Checked.IsPlain.seq ?_ ((isPlain_same "category").required Category.isPlain_read members)
  refine Checked.IsPlain.seq ?_ (htext (isPlain_same "type"))
  refine Checked.IsPlain.seq ?_
    ((isPlain_mk "lineNumber" "line_number").required (isPlain_integerFrom 1) members)
  refine Checked.IsPlain.seq ?_ (htext (isPlain_mk "fileName" "file_name"))
  exact (htext (isPlain_same "id")).map Finding.mk

theorem Metrics.isPlain_read : Metrics.read.IsPlain := by
  refine Reader.isPlain_record (isEncodable_ofString _) fun members => ?_
  refine Checked.IsPlain.seq ?_
    ((isPlain_mk "codeHealthPercentage" "code_health_percentage").required
      (isPlain_integerWithin 0 100) members)
  refine Checked.IsPlain.seq ?_
    ((isPlain_mk "cleanLines" "clean_lines").required (isPlain_integerFrom 0) members)
  refine Checked.IsPlain.seq ?_
    ((isPlain_mk "vulnerableLines" "vulnerable_lines").required (isPlain_integerFrom 0) members)
  exact ((isPlain_mk "totalLines" "total_lines").required (isPlain_integerFrom 0) members).map
    Metrics.mk

namespace ScanReport

/-- Of several findings, the first that cannot be made gives the report. -/
theorem isEncodable_text_of_mapM {fileName : Json} {findings : List Finding} {issues : IssueReport}
    (h : findings.mapM (Finding.make fileName) = .error issues) :
    isEncodable issues.text = true := by
  induction findings with
  | nil => cases h
  | cons f findings ih =>
    rw [List.mapM_cons] at h
    rcases error_or_exists_of_bind_eq_error h with h | ⟨made, -, h⟩
    · exact (Finding.isPlain_readMembers _).isEncodable_text (isEncodable_ofString _) h
    · rcases error_or_exists_of_bind_eq_error h with h | ⟨rest, -, h⟩
      · exact ih h
      · cases h

/-- The message of a report that cannot be built has a UTF-8 form, whatever the file name is. -/
theorem isEncodable_text_of_build {session : Session} {serial : Nat} {code : List Char}
    {fileName : Json} {issues : IssueReport}
    (h : (build session serial code fileName).outcome = .error issues) :
    isEncodable issues.text = true := by
  have hfield : Finding.fileNameField.IsPlain := isPlain_mk "fileName" "file_name"
  rw [build] at h
  split at h
  · rename_i report hfindings
    cases h
    exact isEncodable_text_of_mapM hfindings
  · split at h
    · rename_i report hmetrics
      cases h
      exact (Metrics.isPlain_read _).isEncodable_text (isEncodable_ofString _) hmetrics
    · simp only [assemble, ScanSummary.make_eq_ok, CodeMetrics.make_eq_ok, bind, Except.bind] at h
      exact ((hfield.required isPlain_text _).map _).isEncodable_text (isEncodable_ofString _) h

end ScanReport

/-- Reading a log level gives plain issues; the name it refuses is quoted. -/
theorem Settings.isPlain_readLogLevel : Settings.readLogLevel.IsPlain := by
  intro input
  unfold Settings.readLogLevel
  split
  · split
    · trivial
    · exact Checked.isPlain_issue _ (by simp [IssueKind.message]) _
  · exact Checked.isPlain_issue .notString (isEncodable_ofString _) _

theorem Settings.isPlain_readMembers (members : Json.Members) :
    (Settings.readMembers members).IsPlain := by
  have htuple : isEncodable IssueKind.notTuple.message = true := isEncodable_ofString _
  unfold Settings.readMembers
  apply_rules [Checked.IsPlain.seq, Checked.IsPlain.map, FieldName.IsPlain.withDefault,
    isPlain_text, isPlain_integerAbove, Reader.IsPlain.list, isPlain_readLogLevel, isPlain_same]

/-- The message of settings that cannot be loaded has a UTF-8 form. -/
theorem Settings.isEncodable_message_of_load {env : Environment} {e : LoadError}
    (h : load env = .error e) : isEncodable e.message = true := by
  rw [load] at h
  cases hsize : sizeOf env.maxCodeBytes with
  | error fault =>
    rw [hsize] at h
    cases h
    -- Only a size that is no integer stops the loading here.
    simp only [sizeOf] at hsize
    split at hsize
    · cases hsize
    · split_ifs at hsize
      split at hsize <;> cases hsize
      simp [LoadError.message]
  | ok size =>
    simp only [hsize, bind, Except.bind] at h
    split at h
    · cases h
    · rename_i issues hissues
      cases h
      have hplain : (Checked.bad issues : Checked Settings).IsPlain :=
        hissues ▸ isPlain_readMembers _
      exact IssueReport.isEncodable_text (isEncodable_ofString _) hplain

end CodeScan
