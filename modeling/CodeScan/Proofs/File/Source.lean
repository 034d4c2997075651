import CodeScan.File.Read
import CodeScan.Proofs.Text.Utf8

/-!
# Paths that cannot be asked about

A path reaches a file system as bytes.  A path with the character `NUL` in it has no such form, nor
has one with a lone surrogate that stands for no raw byte.  Reading such a path is neither a text
nor a message; every other fault of opening a file is a message.

`FileSource.IsRegular` says of a file system that it follows this rule.  A tree in memory does, as
long as no path is denied that could not be asked about (`FileTree.isRegular_source`).
-/

namespace CodeScan

namespace PathText

/-- A path that a file system can be asked about: no code point is `NUL`, and each has a byte
form. -/
def IsAskable (path : Text) : Prop :=
  .char '\x00' ∉ path ∧ ∀ c ∈ path, isSurrogate c = true → isRawByte c = true

instance (path : Text) : Decidable (IsAskable path) := inferInstanceAs (Decidable (_ ∧ _))

/-- A path has a byte form if every lone surrogate in it stands for a raw byte. -/
theorem unencodable?_eq_none_iff {path : Text} :
    unencodable? path = none ↔ ∀ c ∈ path, isSurrogate c = true → isRawByte c = true := by
  have hbad : (path.find? fun c => isSurrogate c && !isRawByte c) = none ↔
      ∀ c ∈ path, isSurrogate c = true → isRawByte c = true := by
    simp [List.find?_eq_none]
  have hindex : (path.findIdx? fun c => isSurrogate c && !isRawByte c) = none ↔
      (path.find? fun c => isSurrogate c && !isRawByte c) = none := by
    rw [List.findIdx?_eq_none_iff, List.find?_eq_none]
    simp
  rw [← hbad, unencodable?]
  split
  · rename_i hsample
    simp [hsample]
  · rename_i hnone
    simp only [true_iff]
    cases hfind : path.find? fun c => isSurrogate c && !isRawByte c with
    | none => rfl
    | some sample =>
      cases hidx : path.findIdx? fun c => isSurrogate c && !isRawByte c with
      | none => exact absurd (hindex.1 hidx) (by simp [hfind])
      | some first => exact absurd hfind (hnone first sample hidx)

/-- Nothing is wrong with a path exactly if a file system can be asked about it. -/
theorem fault?_eq_none_iff {path : Text} : fault? path = none ↔ IsAskable path := by
  rw [fault?, IsAskable, ← unencodable?_eq_none_iff]
  cases unencodable? path <;> simp [and_comm]

/-- A path that was given as bytes is asked about by the same bytes, well-formed or not. -/
theorem bytes_decodeKeeping (raw : List UInt8) : bytes (Utf8.decodeKeeping raw) = raw := by
  induction raw using Utf8.keeping_induction with
  | nil => rfl
  | char c rest ih =>
    rw [Utf8.decodeKeeping_utf8EncodeChar]
    exact congrArg (String.utf8EncodeChar c ++ ·) ih
  | kept b rest hfront ih =>
    have hbyte : UInt8.ofNat ((Utf8.surrogateOf b).value - 0xDC00) = b := by
      have hvalue : (Utf8.surrogateOf b).value - 0xDC00 = b.toNat := by
        simp only [Utf8.surrogateOf, CodePoint.value]
        omega
      rw [hvalue, UInt8.ofNat_toNat]
    rw [Utf8.decodeKeeping_cons hfront]
    exact List.cons_eq_cons.2 ⟨hbyte, ih⟩

end PathText

/-- A fault of the path itself, which no file system has been asked about. -/
def OpenFault.concernsPath : OpenFault → Bool
  | .nulCharacter | .unencodable .. => true
  | _ => false

/-- What is wrong with a path before it is asked about concerns the path. -/
theorem PathText.concernsPath_of_fault? {path : Text} {fault : OpenFault}
    (h : fault? path = some fault) : fault.concernsPath = true := by
  rw [fault?] at h
  split at h
  · rename_i hunencodable
    rw [unencodable?] at hunencodable
    split at hunencodable
    · cases hunencodable
      cases h
      rfl
    · cases hunencodable
  · split at h
    · cases h
      rfl
    · cases h

/-- Only a fault of the path itself makes reading impossible. -/
theorem ReadResult.ofFault_eq_impossible_iff {path : Text} {fault : OpenFault} :
    (∃ reason, ofFault path fault = .impossible reason) ↔ fault.concernsPath = true := by
  cases fault <;> simp [ofFault, OpenFault.concernsPath]

/-- A file system for which reading is impossible exactly where the path cannot be asked about. -/
def FileSource.IsRegular (files : FileSource) : Prop :=
  ∀ path, (∃ reason, files.read path = .impossible reason) ↔ ¬ PathText.IsAskable path

namespace FileTree

/-- Walking through a tree never blames the path itself. -/
theorem concernsPath_of_walk_eq_error {tree : FileTree} {place : Place} {components : List Text}
    {fault : OpenFault} (h : tree.walk place components = .error fault) :
    fault.concernsPath = false := by
  fun_induction walk tree place components with
  | case2 | case3 | case8 =>
    rename_i ih
    exact ih h
  | case6 => cases h
  | _ =>
    cases h
    rfl

/-- A tree follows the rule if every denied path could have been asked about. -/
theorem isRegular_source {tree : FileTree} (h : ∀ path ∈ tree.denied, PathText.IsAskable path) :
    tree.source.IsRegular := by
  intro path
  have hread {fault : OpenFault} (hfault : tree.source path = .error fault) :
      (∃ reason, tree.source.read path = .impossible reason) ↔ fault.concernsPath = true := by
    rw [FileSource.read, hfault]
    exact ReadResult.ofFault_eq_impossible_iff
  by_cases haskable : PathText.IsAskable path
  · -- Nothing but the path itself could make the reading impossible, and the path is in order.
    refine iff_of_false ?_ (not_not_intro haskable)
    cases hsource : tree.source path with
    | ok bytes => simp [FileSource.read, hsource]
    | error fault =>
      rw [hread hsource, Bool.not_eq_true]
      rw [source, PathText.fault?_eq_none_iff.2 haskable] at hsource
      dsimp only at hsource
      split at hsource
      · cases hsource
        rfl
      · split at hsource
        · cases hsource
          rfl
        · split at hsource
          · cases hsource
            rfl
          · exact concernsPath_of_walk_eq_error hsource
  · refine iff_of_true ?_ haskable
    -- Such a path is not denied, so the path itself is what is found first.
    have hdenied : tree.denied.contains path = false := by
      simpa using fun hmem => haskable (h path hmem)
    obtain ⟨fault, hfault⟩ : ∃ fault, PathText.fault? path = some fault := by
      rw [← Option.ne_none_iff_exists', Ne, PathText.fault?_eq_none_iff]
      exact haskable
    have hsource : tree.source path = .error fault := by
      rw [source, hdenied, hfault]
      rfl
    rw [hread hsource]
    exact PathText.concernsPath_of_fault? hfault

end FileTree

end CodeScan
