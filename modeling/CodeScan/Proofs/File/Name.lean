import CodeScan.File.Name
import CodeScan.Proofs.Text.Case
import CodeScan.Proofs.Text.Digits
import CodeScan.Proofs.Text.Lines
import CodeScan.Proofs.Text.Marks

/-!
# Names of source files

Whether a file is scanned depends on the last component of its name only.  A slash joins the
components of what stands before it and behind it (`components_append_slash`), so folders in front
of a name change nothing, and neither does what has no components of its own.

The last component has to be something, a point and one of the known endings.  The point is the last
one, since no ending holds a point.  Endings are compared in full lower case, but they have no
letter that full lower case brings in from beyond ASCII, so ASCII letters of either case are all
that passes (`lower_mem_sourceEndings_iff`).
-/

namespace CodeScan

/-- A list with a mark has a last one. -/
theorem exists_last_mark {α : Type} {x : α} {xs : List α} (h : x ∈ xs) :
    ∃ front back, xs = front ++ x :: back ∧ x ∉ back := by
  obtain ⟨back, front, hsplit, hback⟩ := List.eq_append_cons_of_mem (List.mem_reverse.2 h)
  refine ⟨front.reverse, back.reverse, ?_, mt List.mem_reverse.1 hback⟩
  rw [← List.reverse_reverse xs, hsplit]
  simp

namespace FileName

/-! ## Components -/

/-- A slash joins components. -/
theorem components_append_slash (folder name : Text) :
    components (folder ++ .char '/' :: name) = components folder ++ components name := by
  rw [components, Text.splitOn_append_cons, List.filter_append, ← components, ← components]

/-- Only the last component counts. -/
theorem isSupported_congr {name other : Text}
    (h : (components name).getLast? = (components other).getLast?) :
    isSupported name = isSupported other := by
  rw [isSupported, ofPath, h, ← ofPath, ← isSupported]

/-- A slash and nothing behind a name do not matter. -/
theorem isSupported_append_slash {name rest : Text} (h : components rest = []) :
    isSupported (name ++ .char '/' :: rest) = isSupported name := by
  apply isSupported_congr
  rw [components_append_slash, h, List.append_nil]

/-- The folder of a file does not matter. -/
theorem isSupported_in_folder {name : Text} (h : components name ≠ []) (folder : Text) :
    isSupported (folder ++ .char '/' :: name) = isSupported name := by
  apply isSupported_congr
  rw [components_append_slash, List.getLast?_append_of_ne_nil _ h]

/-! ## Extensions -/

/-- A name without a point has no extension. -/
theorem extension_of_notMem {name : Text} (h : .char '.' ∉ name) : extension name = [] := by
  have htail : (name.reverse.takeWhile (· ≠ .char '.')).reverse = name := by
    rw [List.takeWhile_eq_self_iff.2, List.reverse_reverse]
    intro c hc
    exact decide_eq_true fun hpoint => h (hpoint ▸ List.mem_reverse.1 hc)
  simp only [extension, htail, true_or, if_true]

/-- The extension starts at the last point, unless that is the first or the last character. -/
theorem extension_append {stem ending : Text} (h : .char '.' ∉ ending) :
    extension (stem ++ .char '.' :: ending) =
      if stem = [] ∨ ending = [] then [] else .char '.' :: ending := by
  have htail : ((stem ++ .char '.' :: ending).reverse.takeWhile (· ≠ .char '.')).reverse =
      ending := by
    rw [List.reverse_append, List.reverse_cons, List.append_assoc, Text.takeWhile_append_rest,
      List.reverse_reverse]
    · intro c hc
      exact decide_eq_true fun hpoint => h (hpoint ▸ List.mem_reverse.1 hc)
    · simp
  have hlength : (stem ++ .char '.' :: ending).length - ending.length - 1 = stem.length := by
    rw [List.length_append, List.length_cons]
    omega
  have hpoint : ending.length ≠ (stem ++ .char '.' :: ending).length := by
    rw [List.length_append, List.length_cons]
    omega
  simp only [extension, htail, hlength, hpoint, false_or, List.isEmpty_iff, List.length_eq_zero_iff,
    or_comm]

/-- What has an extension is something, a point and what stands behind the last point. -/
theorem extension_eq_cons_iff {name : Text} {c : CodePoint} {ending : Text} :
    extension name = c :: ending ↔ c = .char '.' ∧ ending ≠ [] ∧ .char '.' ∉ ending ∧
      ∃ stem, stem ≠ [] ∧ name = stem ++ .char '.' :: ending := by
  by_cases hmem : .char '.' ∈ name
  · obtain ⟨front, back, rfl, hback⟩ := exists_last_mark hmem
    rw [extension_append hback]
    constructor
    · intro h
      split at h
      · cases h
      · rename_i hne
        cases h
        exact ⟨rfl, fun hnil => hne (.inr hnil), hback, front, fun hnil => hne (.inl hnil), rfl⟩
    · rintro ⟨rfl, hending, hpoint, stem, hstem, hname⟩
      obtain ⟨rfl, -, rfl⟩ := last_mark_unique hpoint hback hname
      rw [if_neg (not_or.2 ⟨hstem, hending⟩)]
  · rw [extension_of_notMem hmem]
    refine iff_of_false (List.cons_ne_nil _ _).symm ?_
    rintro ⟨rfl, -, -, stem, -, rfl⟩
    exact hmem (List.mem_append_right _ List.mem_cons_self)

/-! ## Source files -/

/-- The endings of the names of source files. -/
def sourceEndings : List Text := ["js", "py", "ts", "jsx", "tsx"]

/-- The name is something, a point and an ending of source files in letters of either case. -/
def NamesSource (name : Text) : Prop :=
  ∃ stem ending : Text, stem ≠ [] ∧ name = stem ++ .char '.' :: ending ∧
    ending.lowerAscii ∈ sourceEndings

theorem supportedExtensions_eq : supportedExtensions = sourceEndings.map (.char '.' :: ·) := rfl

/-- No character from beyond ASCII becomes a part of an ending. -/
theorem lower_mem_sourceEndings_iff {ending : Text} :
    ending.lower ∈ sourceEndings ↔ ending.lowerAscii ∈ sourceEndings := by
  have hletters : (sourceEndings.all fun t => t.all CodePoint.lowersFromAscii) = true := by decide
  have hiff : ∀ t ∈ sourceEndings, (ending.lower = t ↔ ending.lowerAscii = t) := fun t ht =>
    Text.lower_eq_iff_lowerAscii_eq
      (List.all_eq_true.1 (List.all_eq_true.1 hletters t ht))
  exact ⟨fun h => (hiff _ h).1 rfl ▸ h, fun h => (hiff _ h).2 rfl ▸ h⟩

/-- Endings are not empty and hold no point. -/
theorem ne_nil_and_notMem_of_lowerAscii {ending : Text} (h : ending.lowerAscii ∈ sourceEndings) :
    ending ≠ [] ∧ .char '.' ∉ ending := by
  have hall : ∀ t ∈ sourceEndings, t ≠ [] ∧ .char '.' ∉ t := by decide
  obtain ⟨hne, hpoint⟩ := hall _ h
  refine ⟨?_, fun hmem => hpoint (List.mem_map.2 ⟨_, hmem, rfl⟩)⟩
  rintro rfl
  exact hne rfl

/-- A name has a supported extension if it names a source file. -/
theorem lower_extension_mem_iff (name : Text) :
    (extension name).lower ∈ supportedExtensions ↔ NamesSource name := by
  rw [supportedExtensions_eq]
  constructor
  · intro h
    obtain ⟨known, hknown, heq⟩ := List.mem_map.1 h
    cases hextension : extension name with
    | nil =>
      rw [hextension] at heq
      cases heq
    | cons c ending =>
      obtain ⟨rfl, -, -, stem, hstem, rfl⟩ := extension_eq_cons_iff.1 hextension
      rw [hextension] at heq
      cases heq
      exact ⟨stem, ending, hstem, rfl, lower_mem_sourceEndings_iff.1 hknown⟩
  · rintro ⟨stem, ending, hstem, rfl, hending⟩
    obtain ⟨hne, hpoint⟩ := ne_nil_and_notMem_of_lowerAscii hending
    rw [extension_append hpoint, if_neg (not_or.2 ⟨hstem, hne⟩)]
    exact List.mem_map.2 ⟨_, lower_mem_sourceEndings_iff.2 hending, rfl⟩

/-- A file is scanned exactly if the last component of its name is something, a point and one of the
endings of source files, in ASCII letters of either case.  A slash at the end, with a point or
without, does not change it, and neither does a folder in front of a name that has a component. -/
theorem isSupported_iff_namesSource (name : Text) :
    (isSupported name = true ↔
        ∃ last, (components name).getLast? = some last ∧ NamesSource last) ∧
      (∀ ending : Text, ending.lower ∈ sourceEndings ↔ ending.lowerAscii ∈ sourceEndings) ∧
      isSupported (name ++ "/") = isSupported name ∧
      isSupported (name ++ "/.") = isSupported name ∧
      (components name ≠ [] →
        ∀ folder : Text, isSupported (folder ++ "/" ++ name) = isSupported name) := by
  have hlast : isSupported name = true ↔
      ∃ last, (components name).getLast? = some last ∧ NamesSource last := by
    rw [isSupported, List.contains_iff_mem, lower_extension_mem_iff, ofPath]
    -- A path without a component has an empty name, and that has no ending.
    cases (components name).getLast? with
    | none =>
      refine iff_of_false ?_ (by simp)
      rintro ⟨stem, ending, hstem, hname, -⟩
      exact List.append_ne_nil_of_left_ne_nil hstem _ hname.symm
    | some last => simp
  refine ⟨hlast, fun ending => lower_mem_sourceEndings_iff, ?_, ?_, fun hname folder => ?_⟩
  · exact isSupported_append_slash rfl
  · exact isSupported_append_slash rfl
  · rw [List.append_assoc]
    exact isSupported_in_folder hname folder

/-- Capital letters and what follows a slash, in a folder that is named like a text. -/
theorem isSupported_iff_namesSource_capitals :
    let name : Text := "..View.TSX/./"
    components name ≠ [] ∧
      isSupported ("notes.md" ++ "/" ++ name) = isSupported name ∧ isSupported name = true := by
  intro name
  have hname : components name ≠ [] := by decide
  exact ⟨hname, (isSupported_iff_namesSource name).2.2.2.2 hname "notes.md", by decide⟩

end FileName

end CodeScan
