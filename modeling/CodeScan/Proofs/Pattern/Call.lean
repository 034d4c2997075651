import CodeScan.Proofs.Pattern.Parts
import CodeScan.Proofs.Text.Brackets

/-!
# Calls in a line

Most of what a rule looks for is a row of pieces (`Row`): a name, blanks, an opening bracket, each
with a test of its own.  `Occurs` says that a line holds such a row, with a condition on what stands
before it and one on what stands behind it.  A call is a row that ends with an opening bracket, and
behind it a rule may ask for something among the arguments (`OpensCall`).

The second half of the module is about what a line is continued with.  If the row cannot reach into
the tail and the condition behind it does not look there, the tail makes no difference
(`occurs_append_iff`).  A condition on the arguments that stops at the first bracket that closes
does not look past the brackets of the arguments, so whatever follows an inner call is out of its
sight (`opensCall_append_iff`).
-/

namespace CodeScan

namespace Pattern

/-! ## Rows of pieces -/

/-- The text is one piece after the other, and each passes its test. -/
def Row : List (List Char → Prop) → List Char → Prop
  | [], u => u = []
  | test :: tests, u => ∃ v, test v ∧ ∃ w, Row tests w ∧ u = v ++ w

variable {test : List Char → Prop} {tests more : List (List Char → Prop)} {u v w : List Char}
  {x : Char}

/-- No piece that passes the test holds the character. -/
def Avoids (x : Char) (test : List Char → Prop) : Prop := ∀ u, test u → x ∉ u

theorem avoids_eq (h : x ∉ w) : Avoids x (· = w) := by
  rintro _ rfl
  exact h

/-- Blanks avoid every character that is none. -/
theorem avoids_allBlank (h : isBlank x = false) : Avoids x AllBlank :=
  fun _ hblank hmem => Bool.false_ne_true (h.symm.trans (hblank x hmem))

/-- A gap avoids the characters it stops at. -/
theorem avoids_gap {cs : List Char} {least most : Nat} (h : x ∈ cs) :
    Avoids x (IsGap cs least most) :=
  fun _ hgap hmem => hgap.clean x hmem h

theorem avoids_nil : Avoids x (Row []) := avoids_eq List.not_mem_nil

/-- A row holds no character that all its tests refuse. -/
theorem avoids_cons (htest : Avoids x test) (hrest : Avoids x (Row tests)) :
    Avoids x (Row (test :: tests)) := by
  rintro _ ⟨v, hv, w, hw, rfl⟩
  exact List.not_mem_append (htest v hv) (hrest w hw)

/-- A row that ends with a fixed piece. -/
theorem Row.exists_eq_append (h : Row (tests ++ [(· = w)]) u) : ∃ front, u = front ++ w := by
  induction tests generalizing u with
  | nil =>
    obtain ⟨v, rfl, _, rfl, rfl⟩ := h
    exact ⟨[], List.append_nil v⟩
  | cons test tests ih =>
    obtain ⟨v, -, _, hrest, rfl⟩ := h
    obtain ⟨front, rfl⟩ := ih hrest
    exact ⟨v ++ front, (List.append_assoc v front w).symm⟩

/-- The blocks of a pattern accept a row of pieces if each block accepts the pieces of its test. -/
theorem accepts_row {blocks : List (List Pattern)}
    (h : List.Forall₂ (fun block test => (concat block).Accepts test) blocks tests) :
    (concat blocks.flatten).Accepts (Row tests) := by
  intro c d
  induction h generalizing c with
  | nil =>
    simp only [List.flatten_nil, Row, exists_eq_right, Cursor.spans_nil_iff]
    rfl
  | cons hblock _ ih =>
    simp only [List.flatten_cons, matches_concat_append_iff, hblock _ _, ih]
    constructor
    · rintro ⟨e, ⟨v, hv, htest⟩, w, hw, hrow⟩
      exact ⟨v ++ w, hv.append hw, v, htest, w, hrow, rfl⟩
    · rintro ⟨_, hspan, v, htest, w, hrow, rfl⟩
      obtain ⟨e, hv, hw⟩ := Cursor.spans_append_iff.1 hspan
      exact ⟨e, ⟨v, hv, htest⟩, w, hw, hrow⟩

/-! ## Rows in a line -/

/-- The line holds a piece that passes the test, with one condition on the text before it and one on
the text behind it. -/
def Occurs (lead piece stop : List Char → Prop) (line : List Char) : Prop :=
  ∃ before, lead before ∧ ∃ u, piece u ∧ ∃ after, line = before ++ u ++ after ∧ stop after

/-- Nothing is asked of the text. -/
abbrev Anything : List Char → Prop := fun _ => True

/-- The text begins with a piece that passes the test. -/
def Starts (piece : List Char → Prop) (after : List Char) : Prop := ∃ u, piece u ∧ u <+: after

variable {p : Pattern} {parts first : List Pattern} {piece stop : List Char → Prop}
  {before after line core tail : List Char}

/-- Parts that accept a piece match where a text starts with such a piece. -/
theorem begins_iff_starts (h : (concat parts).Accepts piece) :
    Begins parts before after ↔ Starts piece after := by
  have hconcat : Begins [concat parts] before after ↔ Begins (parts ++ []) before after :=
    begins_concat_iff
  rw [List.append_nil] at hconcat
  rw [← hconcat, begins_of_accepts h]
  simp only [begins_nil, and_true, Starts, List.IsPrefix, eq_comm]

/-- A search for a row that starts a word. -/
theorem exists_begins_boundary_iff (hpiece : (concat first).Accepts piece)
    (hword : ∀ u, piece u → u.head?.any isWord = true)
    (hstop : ∀ before u after, piece u → (Begins parts (before ++ u) after ↔ stop after)) :
    (∃ before after, line = before ++ after ∧
        Begins [concat (.boundary true :: (first ++ parts))] before after) ↔
      Occurs EndsOffWord piece stop line := by
  have hbegins (before after : List Char) :
      Begins [concat (.boundary true :: (first ++ parts))] before after ↔
        EndsOffWord before ∧ ∃ u, piece u ∧ ∃ rest, after = u ++ rest ∧ stop rest := by
    rw [begins_concat_iff, List.append_nil, begins_boundary_iff, ← begins_concat_iff,
      ← begins_boundary_iff, begins_boundary_of_accepts hpiece hword, begins_of_accepts hpiece]
    refine and_congr_right fun _ => exists_congr fun u => and_congr_right fun hu => ?_
    simp only [hstop before u _ hu]
  simp only [hbegins]
  simp only [↓exists_condition_iff, ↓exists_piece_iff]
  rfl

/-- A search for a piece alone. -/
theorem exists_begins_piece_iff (hpiece : p.Accepts piece) :
    (∃ before after, line = before ++ after ∧ Begins [p] before after) ↔
      Occurs Anything piece Anything line := by
  simp only [begins_of_accepts hpiece]
  simp only [↓exists_piece_iff, begins_nil, Occurs, true_and]

/-! ## Calls -/

/-- Some word characters, one at least. -/
abbrev wordRun : Pattern := .repeated (.set ⟨false, [.kind .word false]⟩) 1 none

/-- The text is a word. -/
def IsWordRun (u : List Char) : Prop := u ≠ [] ∧ ∀ x ∈ u, isWord x = true

/-- A run of word characters accepts every text of them that is not empty. -/
theorem accepts_wordRun : wordRun.Accepts IsWordRun := by
  have hset (x : Char) : (⟨false, [.kind .word false]⟩ : CharSet).contains x = isWord x := by
    simp [CharSet.contains, CharItem.contains_kind, CharKind.holds]
  intro c d
  simp [accepts_repeated_set c d, hset, IsWordRun, Nat.one_le_iff_ne_zero, and_comm]

/-- A name that starts a word, the bracket that opens its arguments, and what is asked of them. -/
def call (name parts : List Pattern) : Pattern :=
  concat (.boundary true :: ([name, [blankRun], [.char '(']].flatten ++ parts))

/-- The line has a call of such a name, and what follows the bracket meets the condition. -/
def OpensCall (name follows : List Char → Prop) : List Char → Prop :=
  Occurs EndsOffWord (Row [name, AllBlank, (· = ['('])]) follows

/-- A call is matched in a line that opens one of the calls by name, off words, with what has to
follow. -/
theorem exists_begins_call_iff {name : List Pattern} {follows : List Char → Prop}
    (hname : (concat name).Accepts test) (hword : ∀ w, test w → w.head?.any isWord = true)
    (hfollows : ∀ before after, Begins parts before after ↔ follows after) :
    (∃ before after, line = before ++ after ∧ Begins [call name parts] before after) ↔
      OpensCall test follows line := by
  refine exists_begins_boundary_iff (accepts_row ?_) ?_ fun before u after _ => hfollows _ _
  · exact .cons hname (.cons accepts_blankRun (.cons (accepts_char '(') .nil))
  · rintro _ ⟨w, hw, rest, -, rfl⟩
    exact any_head?_append (hword w hw) rest

/-- What opens a call is a name, blanks and a bracket. -/
theorem row_opening_iff : Row [test, AllBlank, (· = ['('])] u ↔
    ∃ w, test w ∧ ∃ blanks, AllBlank blanks ∧ u = w ++ blanks ++ ['('] := by
  constructor
  · rintro ⟨w, hw, _, ⟨blanks, hblanks, _, ⟨_, rfl, _, rfl, rfl⟩, rfl⟩, rfl⟩
    exact ⟨w, hw, blanks, hblanks, (List.append_assoc w blanks ['(']).symm⟩
  · rintro ⟨w, hw, blanks, hblanks, rfl⟩
    exact ⟨w, hw, _, ⟨blanks, hblanks, _, ⟨_, rfl, _, rfl, rfl⟩, rfl⟩, List.append_assoc w blanks _⟩

/-- In front of the bracket stands the name, up to blanks. -/
theorem opensCall_iff {name follows : List Char → Prop} :
    OpensCall name follows line ↔ ∃ front after, line = front ++ ['('] ++ after ∧
      Occurs EndsOffWord name AllBlank front ∧ follows after := by
  unfold OpensCall Occurs
  simp only [row_opening_iff]
  constructor
  · rintro ⟨before, hbefore, _, ⟨w, hw, blanks, hblanks, rfl⟩, after, rfl, hafter⟩
    refine ⟨before ++ w ++ blanks, after, ?_, ⟨before, hbefore, w, hw, blanks, rfl, hblanks⟩,
      hafter⟩
    simp only [List.append_assoc]
  · rintro ⟨_, after, rfl, ⟨before, hbefore, w, hw, blanks, rfl, hblanks⟩, hafter⟩
    refine ⟨before, hbefore, _, ⟨w, hw, blanks, hblanks, rfl⟩, after, ?_, hafter⟩
    simp only [List.append_assoc]

/-- With one bracket in the line, this is the bracket of the call. -/
theorem opensCall_single_iff {name follows : List Char → Prop} {front after : List Char}
    (hfront : '(' ∉ front) (hafter : '(' ∉ after) :
    OpensCall name follows (front ++ ['('] ++ after) ↔
      Occurs EndsOffWord name AllBlank front ∧ follows after := by
  rw [opensCall_iff]
  constructor
  · rintro ⟨u, v, hline, hname, hfollows⟩
    simp only [List.append_assoc, List.singleton_append] at hline
    obtain ⟨rfl, -, rfl⟩ := (List.append_cons_inj_of_notMem hfront hafter).1 hline
    exact ⟨hname, hfollows⟩
  · exact fun h => ⟨front, after, rfl, h⟩

/-- A keyword argument of a call, within some characters and before any bracket that closes. -/
def keyword (name value : List Char) : List Pattern :=
  [[gap [')'] 0 200], chars name, [blankRun], [.char '='], [blankRun], chars value].flatten

/-- Up to 200 characters without a closing bracket, and then the keyword argument. -/
def IsKeyword (name value : List Char) : List Char → Prop :=
  Row [IsGap [')'] 0 200, (· = name), AllBlank, (· = ['=']), AllBlank, (· = value)]

/-- A keyword argument is matched where what follows starts with one. -/
theorem begins_keyword_iff {name value : List Char} :
    Begins (keyword name value) before after ↔ Starts (IsKeyword name value) after :=
  begins_iff_starts <| accepts_row <| .cons accepts_gap <| .cons (accepts_chars name) <|
    .cons accepts_blankRun <| .cons (accepts_char '=') <| .cons accepts_blankRun <|
      .cons (accepts_chars value) .nil

/-! ## What a line is continued with -/

/-- The tail of a line makes no difference to a search for a piece that cannot reach into it. -/
theorem occurs_append_iff {lead : List Char → Prop} (hoff : Avoids x piece)
    (hneeds : ∀ u, piece u → ∃ y ∈ u, y ∉ x :: tail)
    (hstop : ∀ before u after, piece u → core = before ++ u ++ after →
      (stop (after ++ x :: tail) ↔ stop after)) :
    Occurs lead piece stop (core ++ x :: tail) ↔ Occurs lead piece stop core := by
  constructor
  · rintro ⟨before, hlead, u, hu, after, hline, hafter⟩
    obtain ⟨y, hy, hnone⟩ := hneeds u hu
    obtain ⟨rest, rfl, rfl⟩ := within_front_of_notMem (hoff u hu) hy hnone hline
    exact ⟨before, hlead, u, hu, rest, rfl, (hstop before u rest hu rfl).1 hafter⟩
  · rintro ⟨before, hlead, u, hu, after, rfl, hafter⟩
    refine ⟨before, hlead, u, hu, after ++ x :: tail, ?_, (hstop before u after hu rfl).2 hafter⟩
    rw [List.append_assoc]

/-- What follows a bracket that closes makes no difference to the condition. -/
def IsLocal (follows : List Char → Prop) : Prop :=
  ∀ u v, ')' ∈ u → (follows (u ++ v) ↔ follows u)

/-- What asks for nothing depends on nothing behind the bracket. -/
theorem isLocal_anything : IsLocal Anything := fun _ _ _ => Iff.rfl

/-- What a text starts with is local if it avoids the closing bracket. -/
theorem isLocal_starts (h : Avoids ')' piece) : IsLocal (Starts piece) := by
  intro u v hclose
  constructor
  · rintro ⟨w, hw, rest, hrest⟩
    obtain ⟨inner, after, rfl⟩ := List.append_of_mem hclose
    have hmark : inner ++ [')'] ++ (after ++ v) = w ++ rest := by
      rw [hrest, List.append_assoc, List.append_assoc]
      rfl
    exact ⟨w, hw, (prefix_of_notMem (h w hw) hmark).trans (List.prefix_append _ _)⟩
  · rintro ⟨w, hw, hpre⟩
    exact ⟨w, hw, hpre.trans (List.prefix_append u v)⟩

/-- What is forbidden is as local as what is asked for. -/
theorem IsLocal.not {follows : List Char → Prop} (h : IsLocal follows) :
    IsLocal fun after => ¬ follows after :=
  fun u v hclose => not_congr (h u v hclose)

/-- A keyword argument is local if neither its name nor its value has the closing bracket. -/
theorem isLocal_keyword {name value : List Char} (hname : ')' ∉ name) (hvalue : ')' ∉ value) :
    IsLocal (Starts (IsKeyword name value)) := by
  have hblank : Avoids ')' AllBlank := avoids_allBlank (by decide)
  exact isLocal_starts <| avoids_cons (avoids_gap (by decide)) <| avoids_cons (avoids_eq hname) <|
    avoids_cons hblank <| avoids_cons (avoids_eq (by decide)) <| avoids_cons hblank <|
      avoids_cons (avoids_eq hvalue) avoids_nil

/-- A call is seen in the line without its tail if all brackets of the line without the tail close,
and none opens in the tail. -/
theorem opensCall_append_iff {name follows : List Char → Prop} (hcore : Text.ClosesAll core)
    (htail : '(' ∉ tail) (hfollows : IsLocal follows) :
    OpensCall name follows (core ++ tail) ↔ OpensCall name follows core := by
  rw [opensCall_iff, opensCall_iff]
  constructor
  · rintro ⟨front, after, hline, hname, hafter⟩
    obtain ⟨rest, rfl⟩ := prefix_of_mark_notMem htail hline.symm
    rw [List.append_assoc, List.append_assoc, List.append_cancel_left_eq] at hline
    cases rest with
    | nil =>
      obtain rfl : tail = '(' :: after := hline
      exact absurd List.mem_cons_self htail
    | cons y rest =>
      obtain ⟨rfl, rfl⟩ := List.cons.inj hline
      have hline : front ++ '(' :: rest = front ++ ['('] ++ rest := List.append_cons ..
      -- The bracket of the call is closed in the line, and the condition does not look further.
      exact ⟨front, rest, hline, hname, (hfollows rest tail (hcore front rest hline)).1 hafter⟩
  · rintro ⟨front, after, rfl, hname, hafter⟩
    exact ⟨front, after ++ tail, List.append_assoc .., hname,
      (hfollows after tail (hcore front after rfl)).2 hafter⟩

end Pattern

end CodeScan
