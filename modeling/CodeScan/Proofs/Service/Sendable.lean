import CodeScan.Proofs.Catalog.BuiltIn
import CodeScan.Proofs.Report.Consistency
import CodeScan.Report.Export
import CodeScan.Service.Message

/-!
# Reports that can be sent

A response goes out in UTF-8, and a text with a lone surrogate has no UTF-8 form.  In a report on a
scan only two texts can hold one: the identifier and the file name.  All the other texts are digits,
characters of the code, or texts of the built-in catalog, which are written as strings.

So a report can be sent exactly if those two texts have a UTF-8 form (`isSendable_ofScan`), and its
export can be sent exactly if the report can (`isSendable_exportPayload`).
-/

namespace CodeScan

namespace Json

/-! ## Texts with a UTF-8 form -/

/-- A text has a UTF-8 form if each of its code points is a character. -/
theorem isEncodable_eq_all (t : Text) : isEncodable t = t.all fun c => c.char?.isSome := by
  rw [isEncodable, Text.chars?]
  induction t with
  | nil => rfl
  | cons c t ih =>
    rw [List.mapM_cons, List.all_cons, ← ih]
    cases c.char? with
    | none => rfl
    | some x => cases t.mapM CodePoint.char? <;> rfl

@[simp] theorem isEncodable_nil : isEncodable [] = true := rfl

/-- A character in front changes nothing. -/
@[simp] theorem isEncodable_cons_char (c : Char) (t : Text) :
    isEncodable (.char c :: t) = isEncodable t := by
  simp [isEncodable_eq_all, CodePoint.char?]

/-- A text in two halves has a UTF-8 form if both have. -/
@[simp] theorem isEncodable_append (s t : Text) :
    isEncodable (s ++ t) = (isEncodable s && isEncodable t) := by
  simp only [isEncodable_eq_all, List.all_append]

@[simp] theorem isEncodable_ofChars (cs : List Char) : isEncodable (Text.ofChars cs) = true := by
  rw [isEncodable, Text.chars?_ofChars, Option.isSome_some]

/-- A string has a UTF-8 form. -/
@[simp] theorem isEncodable_ofString (s : String) : isEncodable s = true :=
  isEncodable_ofChars s.toList

@[simp] theorem isEncodable_ofNat (n : Nat) : isEncodable (Text.ofNat n) = true :=
  isEncodable_ofChars (Nat.toDigits 10 n)

@[simp] theorem isEncodable_ofInt (n : Int) : isEncodable (Text.ofInt n) = true := by
  cases n <;> simp [Text.ofInt]

@[simp] theorem isEncodable_label (category : Category) : isEncodable category.label = true := by
  cases category <;> exact isEncodable_ofString _

theorem isEncodable_padded (width n : Nat) : isEncodable (Timestamp.padded width n) = true := by
  have hzeros (k : Nat) : isEncodable (List.replicate k (.char '0')) = true := by
    simp [isEncodable_eq_all, CodePoint.char?]
  rw [Timestamp.padded, Text.padZeros, isEncodable_append, hzeros, isEncodable_ofNat, Bool.and_self]

/-- A written offset has a UTF-8 form. -/
theorem isEncodable_offsetText (minutes : Int) :
    isEncodable (Timestamp.offsetText minutes) = true := by
  simp [Timestamp.offsetText, isEncodable_padded]

/-- A written date with its time of day has a UTF-8 form. -/
theorem isEncodable_localText (t : Timestamp) : isEncodable t.localText = true := by
  have hfraction : isEncodable (Timestamp.fractionText t.microsecond) = true := by
    rw [Timestamp.fractionText]
    split <;> simp [isEncodable_padded]
  simp [Timestamp.localText, isEncodable_padded, hfraction]

/-- A time as records write it has a UTF-8 form. -/
@[simp] theorem isEncodable_recordText (t : Timestamp) : isEncodable t.recordText = true := by
  rw [Timestamp.recordText, isEncodable_append, isEncodable_localText, Bool.true_and]
  split <;> simp [isEncodable_offsetText]

/-- A time as exports write it has a UTF-8 form. -/
@[simp] theorem isEncodable_isoText (t : Timestamp) : isEncodable t.isoText = true := by
  rw [Timestamp.isoText, isEncodable_append, isEncodable_localText, Bool.true_and]
  cases t.offset <;> simp [isEncodable_offsetText]

/-! ## Values -/

/-- Elements can be sent if each of them can. -/
theorem areSendable_eq_all (items : List Json) : areSendable items = items.all isSendable := by
  induction items with
  | nil => rfl
  | cons item items ih => rw [areSendable, List.all_cons, ih]

/-- Members can be sent piece by piece. -/
@[simp] theorem membersAreSendable_append (members more : Members) :
    membersAreSendable (members ++ more) =
      (membersAreSendable members && membersAreSendable more) := by
  induction members with
  | nil => rfl
  | cons member members ih =>
    obtain ⟨name, value⟩ := member
    simp only [List.cons_append, membersAreSendable, ih, Bool.and_assoc]

end Json

/-! ## Reports -/

/-- The texts of a built-in rule are written as strings. -/
theorem Catalog.isEncodable_of_mem_builtIn {rule : Rule} (h : rule ∈ builtIn) :
    Json.isEncodable rule.id = true ∧ Json.isEncodable rule.kind = true ∧
      Json.isEncodable rule.description = true ∧ Json.isEncodable rule.mitigation = true ∧
      Json.isEncodable rule.explanation = true ∧ Json.isEncodable rule.safeCode = true := by
  rw [builtIn_eq] at h
  obtain ⟨d, -, rfl⟩ := List.mem_map.1 h
  simp [Definition.rule]

open Scan Sighting in
/-- A finding of a scan with the built-in catalog can be sent if its file name can. -/
theorem Finding.isSendable_of_mem_findings {code : List Char} {fileName : Text} {f : Finding}
    (h : f ∈ (detect Catalog.builtIn code fileName).findings)
    (hname : Json.isEncodable fileName = true) : f.toJson.isSendable = true := by
  rw [detect, detectWith_findings] at h
  obtain ⟨s, hs, k, rfl⟩ := exists_of_mem_report h
  obtain ⟨-, hrule, -⟩ := mem_kept_search hs
  obtain ⟨hid, hkind, hdescription, hmitigation, hexplanation, hsafe⟩ :=
    Catalog.isEncodable_of_mem_builtIn hrule
  simp [toJson, finding, Json.isSendable, Json.membersAreSendable, fileNameField, lineNumberField,
    unsafeCodeField, safeCodeField, hname, hid, hkind, hdescription, hmitigation, hexplanation,
    hsafe]

namespace ScanReport

/-- A report on a scan can be sent exactly if its identifier and its file name have a UTF-8 form. -/
theorem isSendable_ofScan (code : List Char) (fileName id : Text) (now : Timestamp) :
    (ofScan code fileName id now).1.toJson.isSendable =
      (Json.isEncodable id && Json.isEncodable fileName) := by
  have hfindings (hname : Json.isEncodable fileName = true) :
      Json.areSendable ((Scan.detect Catalog.builtIn code fileName).findings.map
        Finding.toJson) = true := by
    rw [Json.areSendable_eq_all, List.all_map, List.all_eq_true]
    exact fun f hf => Finding.isSendable_of_mem_findings hf hname
  rw [ofScan_eq]
  cases hname : Json.isEncodable fileName with
  | false =>
    simp [toJson, members, Json.isSendable, Json.membersAreSendable, hname]
  | true =>
    simp [toJson, members, Json.isSendable, Json.membersAreSendable, hname, hfindings hname,
      Finding.fileNameField, Metrics.totalLinesField, codeMetricsField, ScanSummary.toJson,
      CodeMetrics.toJson, Metrics.cleanLinesField, Metrics.vulnerableLinesField,
      Metrics.healthField]

/-- An export can be sent exactly if the report can. -/
theorem isSendable_exportPayload (r : ScanReport) (exportedAt : Timestamp) :
    (r.exportPayload exportedAt).isSendable = r.toJson.isSendable := by
  simp [exportPayload, exportInfo, toJson, Json.isSendable, Json.membersAreSendable, toolName,
    toolVersion]

end ScanReport

end CodeScan
