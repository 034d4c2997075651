import CodeScan.Proofs.Json.Ascii
import CodeScan.Proofs.Text.Marks
import CodeScan.Report.Export
import CodeScan.Session

/-!
# Download names

An export is offered under a name that holds the file name and the identifier of its report.  The
file name may be any text, so every code point of it that is no ASCII letter or digit becomes an
underscore, one for one.  What is left fits into a quoted header value (`isHeaderSafe_quoted`).

Names of reports with different identifiers are different, whatever the file names are.  The hyphens
say why: none is left of a file name, so the first hyphen behind the fixed front stands between the
file name and the identifier, which may hold hyphens itself (`exportName_inj`).
-/

namespace CodeScan

/-! ## Characters of a name -/

/-- ASCII letters, digits, underscores, hyphens and points. -/
def isNameCharacter (c : CodePoint) : Bool :=
  c.satisfies fun x => x.isAlphanum || x == '_' || x == '-' || x == '.'

/-- The value of a header has just two double quotes, and only printable ASCII characters. -/
structure IsHeaderSafe (value : Text) : Prop where
  count_quote : value.count (.char '"') = 2
  isAscii : value.IsAscii

/-- Hexadecimal digits of either case, and hyphens. -/
def identifierCharacters : Text := "0123456789abcdefABCDEF-"

/-- The text consists of hexadecimal digits and hyphens. -/
def IsIdentifier (id : Text) : Prop := ∀ c ∈ id, c ∈ identifierCharacters

/-- The text consists of ASCII letters and digits. -/
def IsExtension (ext : Text) : Prop := ∀ c ∈ ext, c.satisfies Char.isAlphanum = true

variable {fileName id ext t : Text} {c : CodePoint}

/-- Letters and digits of ASCII are printable. -/
theorem isAscii_of_isAlphanum {x : Char} (h : x.isAlphanum = true) :
    (CodePoint.char x).isAscii = true := by
  rw [CodePoint.isAscii, CodePoint.value, Bool.and_eq_true, decide_eq_true_eq, decide_eq_true_eq]
  exact Text.toNat_of_isAlphanum h

/-- Letters and digits are harmless in a name. -/
theorem isNameCharacter_of_isAlphanum (h : c.satisfies Char.isAlphanum = true) :
    isNameCharacter c = true := by
  cases c with
  | char x =>
    have hx : x.isAlphanum = true := h
    simp [isNameCharacter, CodePoint.satisfies, hx]
  | surrogate => cases h

/-- So is what identifiers are made of. -/
theorem isNameCharacter_of_mem_identifier (h : IsIdentifier id) (hc : c ∈ id) :
    isNameCharacter c = true := by
  have hall : (identifierCharacters.all isNameCharacter) = true := by decide
  exact List.all_eq_true.1 hall c (h c hc)

/-- The characters of a name are printable, and no quotes. -/
theorem isAscii_of_isNameCharacter (h : isNameCharacter c = true) :
    c.isAscii = true ∧ c ≠ .char '"' := by
  refine ⟨?_, fun hquote => absurd (hquote ▸ h) (by decide)⟩
  cases c with
  | surrogate => cases h
  | char x =>
    simp only [isNameCharacter, CodePoint.satisfies, Bool.or_eq_true, beq_iff_eq] at h
    rcases h with ((h | rfl) | rfl) | rfl
    · exact isAscii_of_isAlphanum h
    all_goals decide

/-- A quoted name behind a front without quotes is safe as a header. -/
theorem isHeaderSafe_quoted {front name : Text} (hfront : front.IsAscii)
    (hnone : .char '"' ∉ front) (hname : ∀ c ∈ name, isNameCharacter c = true) :
    IsHeaderSafe (front ++ [.char '"'] ++ name ++ [.char '"']) := by
  have hplain : .char '"' ∉ name := fun hmem =>
    (isAscii_of_isNameCharacter (hname _ hmem)).2 rfl
  constructor
  · simp [List.count_append, List.count_eq_zero.2 hnone, List.count_eq_zero.2 hplain]
  · have hquote : Text.IsAscii [.char '"'] := by decide
    exact ((hfront.append hquote).append fun c hc =>
      (isAscii_of_isNameCharacter (hname c hc)).1).append hquote

/-- The identifiers of version four are hexadecimal digits and hyphens. -/
theorem isIdentifier_randomIdentifier (bytes : List UInt8) :
    IsIdentifier (Session.randomIdentifier bytes) := by
  have hdigit : ∀ n < 16, Text.hexDigit n ∈ identifierCharacters := by decide
  have hhex (width n : Nat) : IsIdentifier (Text.hex width n) := by
    induction width generalizing n with
    | zero => exact List.forall_mem_nil _
    | succ width ih =>
      exact List.forall_mem_append.2
        ⟨ih _, List.forall_mem_singleton.2 (hdigit _ (Nat.mod_lt _ (by decide)))⟩
  have hdigits (marked : List UInt8) :
      IsIdentifier (marked.flatMap fun b => Text.hex 2 b.toNat) := by
    intro c hc
    obtain ⟨b, -, hb⟩ := List.mem_flatMap.1 hc
    exact hhex 2 b.toNat c hb
  refine Text.forall_mem_join (List.forall_mem_singleton.2 (by decide)) fun piece hpiece c hc => ?_
  simp only [List.mem_cons, List.not_mem_nil, or_false] at hpiece
  rcases hpiece with rfl | rfl | rfl | rfl | rfl
  all_goals exact hdigits _ c (List.mem_of_mem_drop (List.mem_of_mem_take hc))

/-! ## Names -/

namespace ScanReport

/-- After sanitizing there are letters, digits and underscores only. -/
theorem satisfies_of_mem_sanitize (hc : c ∈ sanitize t) :
    c.satisfies Char.isAlphanum = true ∨ c = .char '_' := by
  obtain ⟨d, -, rfl⟩ := List.mem_map.1 hc
  by_cases h : d.satisfies Char.isAlphanum = true
  · exact .inl (by rwa [if_pos h])
  · exact .inr (if_neg h)

theorem length_sanitize (t : Text) : (sanitize t).length = t.length := List.length_map _

/-- Letters and digits stay in their places. -/
theorem getElem?_sanitize {i : Nat} {x : Char} (hi : t[i]? = some (.char x))
    (hx : x.isAlphanum = true) : (sanitize t)[i]? = some (.char x) := by
  simp [sanitize, List.getElem?_map, hi, CodePoint.satisfies, hx]

/-- After sanitizing there is no hyphen. -/
theorem hyphen_notMem_sanitize (t : Text) : .char '-' ∉ sanitize t := by
  intro hmem
  rcases satisfies_of_mem_sanitize hmem with h | h
  · exact absurd h (by decide)
  · exact absurd h (by decide)

/-- A download name holds only characters of names. -/
theorem isNameCharacter_of_mem_exportName (hid : IsIdentifier id) (hext : IsExtension ext) :
    ∀ c ∈ exportName fileName id ext, isNameCharacter c = true := by
  have hfront : ∀ c ∈ ("guardian-scan-report-" : Text), isNameCharacter c = true :=
    List.all_eq_true.1 (by decide)
  intro c hc
  simp only [exportName, List.mem_append] at hc
  rcases hc with ((((hc | hc) | hc) | hc) | hc) | hc
  · exact hfront c hc
  · rcases satisfies_of_mem_sanitize hc with h | rfl
    · exact isNameCharacter_of_isAlphanum h
    · decide
  · obtain rfl := List.mem_singleton.1 hc
    decide
  · exact isNameCharacter_of_mem_identifier hid hc
  · obtain rfl := List.mem_singleton.1 hc
    decide
  · exact isNameCharacter_of_isAlphanum (hext c hc)

/-- A download name with a given extension belongs to one identifier only. -/
theorem exportName_inj {otherName otherId : Text}
    (h : exportName otherName otherId ext = exportName fileName id ext) : otherId = id := by
  simp only [exportName, List.append_assoc] at h
  have hrest := List.append_cancel_left h
  -- Identifiers may hold hyphens, so it is the first one that tells where they begin.
  have hmark : sanitize otherName ++ [.char '-'] ++ (otherId ++ (Text.ofString "." ++ ext)) =
      sanitize fileName ++ [.char '-'] ++ (id ++ (Text.ofString "." ++ ext)) := by
    rw [List.append_assoc, List.append_assoc]
    exact hrest
  obtain ⟨-, hback⟩ :=
    first_mark_unique (hyphen_notMem_sanitize otherName) (hyphen_notMem_sanitize fileName) hmark
  exact List.append_cancel_right hback

end ScanReport

end CodeScan
