import CodeScan.Proofs.Settings.Load
import CodeScan.Proofs.Text.Lines

/-!
# Allowed origins

The variable of the allowed origins is a list that is separated by commas.  Its pieces that are not
blank, trimmed, are the origins (`originsIn`), and every origin read is one that can be written:
it is not blank, starts and ends with no blank and holds no comma (`IsOrigin`).

So reading undoes writing, however the origins are spread over pieces: each is a piece with blanks
around it, and any number of blank pieces may stand between (`SpreadOver`).  A list without an
origin is the exception, since its shortest writing is the empty text and that counts as unset.
-/

namespace CodeScan

namespace Text

/-- The pieces of a list are those that the library finds. -/
theorem splitOn_eq_splitOn {α : Type} [DecidableEq α] (separator : α) (xs : List α) :
    splitOn separator xs = xs.splitOn separator := by
  induction xs with
  | nil => rfl
  | cons x xs ih =>
    rw [splitOn, List.splitOn, List.splitOnP_cons_eq_if_modifyHead, ← List.splitOn, ← ih]
    simp only [beq_iff_eq]
    split
    · rfl
    · cases hxs : splitOn separator xs with
      | nil => exact absurd hxs (splitOn_ne_nil xs)
      | cons piece pieces => rfl

/-- Nothing is left of a text exactly if it is blank. -/
theorem isEmpty_trim (t : Text) : (trim t).isEmpty = t.all CodePoint.isBlank := by
  rw [Bool.eq_iff_iff, List.isEmpty_iff, List.all_eq_true]
  constructor
  · intro h
    obtain ⟨front, back, ht, hfront, hback⟩ := exists_eq_append_trimWhere CodePoint.isBlank t
    rw [← trim, h, List.append_nil] at ht
    rw [ht]
    exact fun c hc => (List.mem_append.1 hc).elim (hfront c) (hback c)
  · intro h
    rw [trim, trimWhere, List.dropWhile_eq_nil_iff.2 h]
    rfl

end Text

namespace Settings

variable {origins pieces : List Text} {origin : Text}

/-- The mark between origins. -/
abbrev comma : CodePoint := .char ','

/-- The origins among the pieces of a list. -/
def originsIn (pieces : List Text) : List Text :=
  (pieces.filter fun piece => !piece.all CodePoint.isBlank).map Text.trim

/-- A text that can be an origin. -/
structure IsOrigin (origin : Text) : Prop where
  notBlank : origin.all CodePoint.isBlank = false
  first : ∀ c, origin.head? = some c → c.isBlank = false
  last : ∀ c, origin.getLast? = some c → c.isBlank = false
  noComma : comma ∉ origin

/-- Each origin is a piece with blanks around it, in order, and the other pieces are blank. -/
inductive SpreadOver : List Text → List Text → Prop where
  | nil : SpreadOver [] []
  | blank {run : Text} {origins pieces : List Text}
    (hrun : ∀ c ∈ run, c.isBlank = true) (rest : SpreadOver origins pieces) :
    SpreadOver origins (run :: pieces)
  | origin {front origin back : Text} {origins pieces : List Text}
    (hfront : ∀ c ∈ front, c.isBlank = true) (hback : ∀ c ∈ back, c.isBlank = true)
    (rest : SpreadOver origins pieces) :
    SpreadOver (origin :: origins) ((front ++ origin ++ back) :: pieces)

/-! ## Pieces -/

/-- A blank piece is no origin. -/
theorem originsIn_cons_of_blank {piece : Text} (h : piece.all CodePoint.isBlank = true) :
    originsIn (piece :: pieces) = originsIn pieces := by
  rw [originsIn, List.filter_cons_of_neg (by rw [h]; decide), ← originsIn]

/-- Any other piece is an origin without the blanks around it. -/
theorem originsIn_cons_of_not_blank {piece : Text} (h : piece.all CodePoint.isBlank = false) :
    originsIn (piece :: pieces) = Text.trim piece :: originsIn pieces := by
  rw [originsIn, List.filter_cons_of_pos (by rw [h]; rfl), List.map_cons, ← originsIn]

/-- The origins among pieces are spread over them. -/
theorem spreadOver_originsIn (pieces : List Text) :
    SpreadOver (originsIn pieces) pieces := by
  induction pieces with
  | nil => exact .nil
  | cons piece pieces ih =>
    cases hblank : piece.all CodePoint.isBlank with
    | true =>
      rw [originsIn_cons_of_blank hblank]
      exact .blank (List.all_eq_true.1 hblank) ih
    | false =>
      rw [originsIn_cons_of_not_blank hblank]
      obtain ⟨front, back, hpiece, hfront, hback⟩ :=
        Text.exists_eq_append_trimWhere CodePoint.isBlank piece
      have hspread : SpreadOver (Text.trim piece :: originsIn pieces)
          ((front ++ Text.trim piece ++ back) :: pieces) := .origin hfront hback ih
      rwa [Text.trim, ← hpiece, ← Text.trim] at hspread

/-! ## Reading -/

/-- What is read does not depend on whether blank pieces are dropped before they are trimmed. -/
theorem splitOrigins_eq (written : Text) :
    splitOrigins written = (originsIn (List.splitOn comma written)) := by
  rw [splitOrigins, originsIn, Text.splitOn_eq_splitOn, List.filter_map]
  simp only [Function.comp_def, Text.isEmpty_trim]

/-- Texts without commas are the pieces of the list that they are joined to. -/
theorem originsOf_intercalate (hcomma : ∀ piece ∈ pieces, comma ∉ piece)
    (hne : [comma].intercalate pieces ≠ []) :
    originsOf (some ([comma].intercalate pieces)) = (originsIn pieces) := by
  have hpieces : pieces ≠ [] := by
    rintro rfl
    exact hne rfl
  obtain ⟨c, cs, hcs⟩ := List.exists_cons_of_ne_nil hne
  rw [hcs, originsOf, ← hcs, splitOrigins_eq, List.splitOn_intercalate comma hcomma hpieces]
  exact List.cons_ne_nil c cs

/-- A list with an origin is not the empty text. -/
theorem intercalate_ne_nil (hcomma : ∀ piece ∈ pieces, comma ∉ piece) (h : originsIn pieces ≠ []) :
    [comma].intercalate pieces ≠ [] := by
  intro hnil
  have hpieces : pieces ≠ [] := by
    rintro rfl
    exact h rfl
  have hsingle : [].splitOn comma = pieces := by
    rw [← hnil, List.splitOn_intercalate comma hcomma hpieces]
  rw [← hsingle] at h
  exact h rfl

/-- What pieces without a comma give has what origins have. -/
theorem isOrigin_of_mem (hcomma : ∀ piece ∈ pieces, comma ∉ piece) (h : origin ∈ originsIn pieces) :
    IsOrigin origin := by
  obtain ⟨piece, hpiece, rfl⟩ := List.mem_map.1 h
  obtain ⟨hmem, hkept⟩ := List.mem_filter.1 hpiece
  refine ⟨?_, fun c => Text.test_of_head?_trimWhere, fun c => Text.test_of_getLast?_trimWhere,
    fun hc => hcomma piece hmem (Text.mem_of_mem_trimWhere hc)⟩
  rw [← Text.isEmpty_trim, Text.trim_trim, Text.isEmpty_trim]
  simpa using hkept

/-! ## Writing -/

theorem IsOrigin.ne_nil (h : IsOrigin origin) : origin ≠ [] := by
  rintro rfl
  cases h.notBlank

/-- Blanks around an origin are read away. -/
theorem IsOrigin.strip_eq (h : IsOrigin origin) {front back : Text}
    (hfront : ∀ c ∈ front, c.isBlank = true) (hback : ∀ c ∈ back, c.isBlank = true) :
    Text.trim (front ++ origin ++ back) = origin :=
  (Text.trimWhere_eq_iff h.ne_nil h.first h.last).2 ⟨front, back, rfl, hfront, hback⟩

/-- Origins are read from the pieces that they are spread over. -/
theorem originsIn_eq (h : SpreadOver origins pieces) (horigins : ∀ t ∈ origins, IsOrigin t) :
    originsIn pieces = origins := by
  induction h with
  | nil => rfl
  | blank hrun rest ih =>
    rw [originsIn_cons_of_blank (List.all_eq_true.2 hrun), ih horigins]
  | @origin front origin back _ _ hfront hback rest ih =>
    obtain ⟨horigin, hrest⟩ := List.forall_mem_cons.1 horigins
    have hstrip := horigin.strip_eq hfront hback
    have hkept : (front ++ origin ++ back).all CodePoint.isBlank = false := by
      rw [← Text.isEmpty_trim, hstrip, List.isEmpty_eq_false_iff]
      exact horigin.ne_nil
    rw [originsIn_cons_of_not_blank hkept, hstrip, ih hrest]

theorem not_mem_of_blank {run : Text} (h : ∀ c ∈ run, c.isBlank = true) : comma ∉ run :=
  fun hmem => absurd (h comma hmem) (by decide)

/-- No comma comes in where origins are spread. -/
theorem SpreadOver.not_mem (h : SpreadOver origins pieces) (horigins : ∀ t ∈ origins, IsOrigin t) :
    ∀ piece ∈ pieces, comma ∉ piece := by
  induction h with
  | nil => exact fun _ h => absurd h List.not_mem_nil
  | blank hrun rest ih =>
    exact List.forall_mem_cons.2 ⟨not_mem_of_blank hrun, ih horigins⟩
  | origin hfront hback rest ih =>
    obtain ⟨horigin, hrest⟩ := List.forall_mem_cons.1 horigins
    refine List.forall_mem_cons.2 ⟨?_, ih hrest⟩
    simp only [List.mem_append, not_or]
    exact ⟨⟨not_mem_of_blank hfront, horigin.noComma⟩, not_mem_of_blank hback⟩

/-- Origins, however spread, are read back from the text that the pieces are joined to. -/
theorem originsOf_spreadOver (h : SpreadOver origins pieces) (horigins : ∀ t ∈ origins, IsOrigin t)
    (hne : origins ≠ []) :
    originsOf (some ([comma].intercalate pieces)) = origins := by
  have hread := originsIn_eq h horigins
  have hcomma := h.not_mem horigins
  rw [originsOf_intercalate hcomma (intercalate_ne_nil hcomma (hread ▸ hne)), hread]

/-! ## Loading -/

/-- Whether settings load does not depend on the origins, and neither do the other settings. -/
theorem load_allowedOrigins_eq (env : Environment) (value : Option Text) :
    load { env with allowedOrigins := value } =
      (load env).map fun s => { s with allowedOrigins := originsOf value } := by
  let changed : Environment := { env with allowedOrigins := value }
  rcases load_cases env with
    ⟨size, level, hsize, hpos, hlevel, hload⟩ | ⟨t, ht, hnone, hload⟩ | ⟨size, hsize, hne, hload⟩
  · have hchanged : load changed = .ok (settingsOf changed size level) :=
      load_of_valid hsize hpos hlevel
    rw [hload, hchanged]
    rfl
  · have hchanged : load changed = .error (.unreadableSize t) :=
      load_eq_unreadableSize_iff.2 ⟨ht, hnone⟩
    rw [hload, hchanged]
    rfl
  · have hchanged : load changed =
        .error (.invalid ⟨"Settings", issuesOf size (levelNameOf env.logLevel)⟩) :=
      load_of_issues hsize hne
    rw [hload, hchanged]
    rfl

/-- The allowed origins are the pieces between commas that are not blank, trimmed, in order, so they
are spread over these pieces and each of them is a text that can be an origin.  If there is one,
they are loaded again from any text that spreads them over pieces between commas. -/
theorem load_allowedOrigins (env : Environment) {written : Text} (hwritten : written ≠ []) :
    ∃ pieces, written = [comma].intercalate pieces ∧ (∀ piece ∈ pieces, comma ∉ piece) ∧
      load { env with allowedOrigins := some written } = (load env).map (fun s =>
        { s with allowedOrigins := originsIn pieces }) ∧
      SpreadOver (originsIn pieces) pieces ∧
      (∀ origin ∈ originsIn pieces, IsOrigin origin) ∧
      (originsIn pieces ≠ [] → ∀ again, SpreadOver (originsIn pieces) again →
        load { env with allowedOrigins := some ([comma].intercalate again) } =
          load { env with allowedOrigins := some written }) := by
  have hjoined : written = [comma].intercalate (List.splitOn comma written) :=
    (List.intercalate_splitOn comma).symm
  have hcomma : ∀ piece ∈ List.splitOn comma written, comma ∉ piece := by
    intro piece hpiece
    rw [← Text.splitOn_eq_splitOn] at hpiece
    exact Text.not_mem_of_mem_splitOn hpiece
  have horigins : ∀ origin ∈ originsIn (List.splitOn comma written), IsOrigin origin :=
    fun origin => isOrigin_of_mem hcomma
  -- The value has the pieces that the library splits it into.
  have hread : originsOf (some written) = originsIn (List.splitOn comma written) := by
    conv_lhs => rw [hjoined]
    exact originsOf_intercalate hcomma (hjoined ▸ hwritten)
  refine ⟨List.splitOn comma written, hjoined, hcomma, ?_, spreadOver_originsIn _, horigins,
    fun hne again hspread => ?_⟩
  · rw [load_allowedOrigins_eq, hread]
  · rw [load_allowedOrigins_eq env (some written), hread, load_allowedOrigins_eq,
      originsOf_spreadOver hspread horigins hne]

/-- Two origins, one with a blank inside, read again from a list with other blanks and with empty
pieces. -/
theorem load_allowedOrigins_again :
    let written : Text := " http://a b ,\u3000,http://c"
    let again : Text := ",\thttp://a b\u2028, ,http://c,"
    written ≠ [] ∧
      load { allowedOrigins := some written } =
        .ok { default with allowedOrigins := ["http://a b", "http://c"] } ∧
      load { allowedOrigins := some again } = load { allowedOrigins := some written } := by
  intro written again
  have hwritten : written ≠ [] := by decide
  obtain ⟨pieces, hjoined, hcomma, hload, -, -, hagain⟩ := load_allowedOrigins {} hwritten
  have hpieces : pieces = Text.splitOn comma written := by
    have hne : pieces ≠ [] := by
      rintro rfl
      exact hwritten hjoined
    rw [Text.splitOn_eq_splitOn, hjoined, List.splitOn_intercalate comma hcomma hne]
  have horigins : originsIn pieces = ["http://a b", "http://c"] := by
    rw [hpieces]
    decide
  -- A blank piece, an origin with blanks around it, two more blank pieces and a bare origin.
  have hspread : SpreadOver (originsIn pieces)
      [[], Text.ofChars ['\t'] ++ Text.ofString "http://a b" ++ Text.ofChars ['\u2028'],
        Text.ofChars [' '], [] ++ Text.ofString "http://c" ++ [], []] := by
    have hnone : ∀ c ∈ [], CodePoint.isBlank c = true := List.forall_mem_nil _
    have hblank {c : Char} (hc : isBlank c = true) :
        ∀ x ∈ Text.ofChars [c], x.isBlank = true := List.forall_mem_singleton.2 hc
    rw [horigins]
    exact .blank hnone (.origin (hblank (by decide)) (hblank (by decide))
      (.blank (hblank (by decide)) (.origin hnone hnone (.blank hnone .nil))))
  have hwrites : [comma].intercalate
      [[], Text.ofChars ['\t'] ++ Text.ofString "http://a b" ++ Text.ofChars ['\u2028'],
        Text.ofChars [' '], [] ++ Text.ofString "http://c" ++ [], []] = again := by decide
  have hsame := hagain (by rw [horigins]; decide) _ hspread
  rw [hwrites] at hsame
  rw [horigins] at hload
  exact ⟨hwritten, hload, hsame⟩

end Settings

end CodeScan
