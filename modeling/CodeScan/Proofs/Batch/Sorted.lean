import CodeScan.Proofs.Batch.Run

/-!
# A batch is sorted entry by entry

A batch that comes to its end has sorted its entries into results and errors, each of the two in the
order of the entries.  Where an entry goes is its own affair.  It goes through four checks, each of
which can be stated without the others, and the first that fails gives it its message; an entry that
passes them all is scanned.  `EndsAs` says this, and `decideEntry_eq_ok_iff` says that nothing else
happens to an entry that the batch survives.

Only the identifiers pass from one entry to the next: an entry that is scanned takes one, and no
other entry does.  So two batches run one after the other, the second with the identifiers that the
first has left over, yield what the joined batch yields (`yieldOf_append`).
-/

namespace CodeScan

namespace Batch

variable {files : FileSource} {settings : Settings}

/-! ## What an entry gives -/

/-- The path of an entry. -/
def pathOf (members : Json.Members) : Json := (members.get? "path").getD .null

/-- The name that comes with an entry. -/
def originalName (members : Json.Members) : Json := (members.get? "original_name").getD .null

/-- What an entry is shown as: the name that comes with it, or the last component of its path if
that name is missing or empty, or nothing if both are missing. -/
inductive ShownAs (path given : Json) : Json → Prop where
  | original (h : given.isGiven = true) : ShownAs path given given
  | component {t : Text} (h : given.isGiven = false) (hpath : path = .string t) :
    ShownAs path given (.string (FileName.ofPath t))
  | nameless (h : given.isGiven = false) (hpath : path.isGiven = false) :
    ShownAs path given (.string [])

/-- The name that is shown for an entry, by what the entry gives. -/
theorem shownName_eq_ok_iff {path given file : Json} :
    shownName path given = .ok file ↔ ShownAs path given file := by
  constructor
  · intro h
    rw [shownName] at h
    split_ifs at h with hgiven hpath
    · cases h
      exact .original hgiven
    · rw [Bool.not_eq_true] at hgiven
      cases path with
      | string t =>
        cases h
        exact .component hgiven rfl
      | _ => cases h
    · cases h
      exact .nameless (Bool.not_eq_true _ ▸ hgiven) (Bool.not_eq_true _ ▸ hpath)
  · intro h
    cases h with
    | original hgiven => rw [shownName, if_pos hgiven]
    | @component t hgiven hpath =>
      subst hpath
      rw [shownName, hgiven, if_neg Bool.false_ne_true]
      by_cases ht : t = []
      · subst ht
        rfl
      · rw [if_pos (by simpa [Json.isGiven] using ht)]
        rfl
    | nameless hgiven hpath =>
      rw [shownName, hgiven, hpath, if_neg Bool.false_ne_true, if_neg Bool.false_ne_true]

/-! ## The checks -/

/-- The checks that an entry goes through. -/
inductive Check where
  /-- There is a path. -/
  | path
  /-- The name is one of a file that is scanned. -/
  | name
  /-- The file can be read. -/
  | file
  /-- The text is not too long. -/
  | size

namespace Check

/-- The checks in their order. -/
def inOrder : List Check := [.path, .name, .file, .size]

/-- What a check has against an entry with the given path and name. -/
def objection? (files : FileSource) (settings : Settings) (path name : Json) : Check → Option Text
  | .path => if path.isGiven then none else some "Missing 'path'"
  | .name =>
    match name with
    | .string t => if FileName.isSupported t then none else some "Unsupported file type"
    | _ => none
  | .file =>
    match readPath files path with
    | .ok (.unreadable message) => some message
    | _ => none
  | .size =>
    match readPath files path with
    | .ok (.text code) =>
      if settings.maxCodeBytes < Utf8.size code then
        some ("File exceeds " ++ Text.ofInt settings.maxCodeBytes ++ " bytes")
      else none
    | _ => none

/-- The objection of the first check that fails. -/
def firstObjection? (files : FileSource) (settings : Settings) (path name : Json) : Option Text :=
  inOrder.findSome? (objection? files settings path name)

/-- The path is looked for first. -/
theorem firstObjection?_of_not_isGiven {path : Json} (h : path.isGiven = false) (name : Json) :
    firstObjection? files settings path name = some "Missing 'path'" := by
  simp [firstObjection?, inOrder, objection?, h]

end Check

/-- An entry ends as a fate: the first check that fails refuses it, or it is scanned. -/
inductive EndsAs (files : FileSource) (settings : Settings) : Json → Fate → Prop where
  | refused {members : Json.Members} {name : Json} {message : Text}
    (hname : ShownAs (pathOf members) (originalName members) name)
    (hstring : (pathOf members).isGiven = true → ∃ t, name = .string t)
    (h : Check.firstObjection? files settings (pathOf members) name = some message) :
    EndsAs files settings (.object members) (.error name message)
  | scanned {members : Json.Members} {name : Text} {code : List Char}
    (hname : ShownAs (pathOf members) (originalName members) (.string name))
    (h : Check.firstObjection? files settings (pathOf members) (.string name) = none)
    (hread : readPath files (pathOf members) = .ok (.text code)) :
    EndsAs files settings (.object members) (.result code name)

section Decide

variable {members : Json.Members}

/-- What is decided once it is known what an entry is shown as. -/
theorem decideEntry_of_shownAs {name : Json}
    (hname : ShownAs (pathOf members) (originalName members) name) :
    decideEntry files settings (.object members) =
      if !(pathOf members).isGiven then .ok (.error name "Missing 'path'")
      else do
        let t ← pathText name
        if !FileName.isSupported t then return .error name "Unsupported file type"
        match ← readPath files (pathOf members) with
        | .impossible fault => throw (.badPath fault)
        | .unreadable message => return .error name message
        | .text code =>
          if settings.maxCodeBytes < Utf8.size code then
            return .error name ("File exceeds " ++ Text.ofInt settings.maxCodeBytes ++ " bytes")
          else return .result code t := by
  have hshown := shownName_eq_ok_iff.2 hname
  unfold pathOf originalName at hshown
  unfold pathOf
  simp only [decideEntry, hshown, bind, Except.bind]
  rfl

/-- An entry without a path is reported under its own name. -/
theorem decideEntry_of_not_isGiven {name : Json}
    (hname : ShownAs (pathOf members) (originalName members) name)
    (hpath : (pathOf members).isGiven = false) :
    decideEntry files settings (.object members) = .ok (.error name "Missing 'path'") := by
  rw [decideEntry_of_shownAs hname, hpath]
  rfl

/-- The name of an entry that is decided and has a path is a string. -/
theorem exists_string_of_decideEntry {name : Json} {fate : Fate}
    (hname : ShownAs (pathOf members) (originalName members) name)
    (hpath : (pathOf members).isGiven = true)
    (h : decideEntry files settings (.object members) = .ok fate) : ∃ t, name = .string t := by
  rw [decideEntry_of_shownAs hname, hpath] at h
  cases name with
  | string t => exact ⟨t, rfl⟩
  | _ => cases h

/-- An entry with a path and a name is reported by the first objection, and otherwise scanned. -/
theorem decideEntry_of_string {name : Text}
    (hname : ShownAs (pathOf members) (originalName members) (.string name))
    (hpath : (pathOf members).isGiven = true) {fate : Fate} :
    let objection? := Check.firstObjection? files settings (pathOf members) (.string name)
    decideEntry files settings (.object members) = .ok fate ↔
      (∃ message, objection? = some message ∧ fate = .error (.string name) message) ∨
        objection? = none ∧ ∃ code, readPath files (pathOf members) = .ok (.text code) ∧
          fate = .result code name := by
  intro objection?
  rw [decideEntry_of_shownAs hname, hpath]
  simp only [objection?, Check.firstObjection?, Check.inOrder, Check.objection?, hpath, if_true,
    List.findSome?_cons, List.findSome?_nil, pathText]
  by_cases hsupported : FileName.isSupported name = true
  · cases hread : readPath files (pathOf members) with
    | error cause => simp [hsupported, bind, Except.bind]
    | ok read =>
      cases read with
      | impossible fault =>
        simp [hsupported, bind, Except.bind, throw, throwThe, MonadExceptOf.throw]
      | unreadable message => simp [hsupported, bind, Except.bind, pure, Except.pure, eq_comm]
      | text code =>
        by_cases hsize : settings.maxCodeBytes < Utf8.size code
        · simp [hsupported, hsize, bind, Except.bind, pure, Except.pure, eq_comm]
        · simp [hsupported, hsize, bind, Except.bind, pure, Except.pure, eq_comm]
  · simp [hsupported, bind, Except.bind, pure, Except.pure, eq_comm]

/-- A batch survives an entry exactly if the entry is an object that the first failing check refuses
or that is scanned. -/
theorem decideEntry_eq_ok_iff {entry : Json} {fate : Fate} :
    decideEntry files settings entry = .ok fate ↔ EndsAs files settings entry fate := by
  constructor
  · intro h
    cases entry with
    | object members =>
      obtain ⟨name, hname⟩ : ∃ name, ShownAs (pathOf members) (originalName members) name := by
        cases hshown : shownName (pathOf members) (originalName members) with
        | ok name => exact ⟨name, shownName_eq_ok_iff.1 hshown⟩
        | error cause =>
          unfold pathOf originalName at hshown
          simp [decideEntry, hshown, bind, Except.bind] at h
      -- Without a path anything may stand as the name; with one, it has to be a string.
      by_cases hpath : (pathOf members).isGiven = true
      · obtain ⟨t, rfl⟩ := exists_string_of_decideEntry hname hpath h
        rcases (decideEntry_of_string hname hpath).1 h with
          ⟨message, hfirst, rfl⟩ | ⟨hfirst, code, hread, rfl⟩
        · exact .refused hname (fun _ => ⟨t, rfl⟩) hfirst
        · exact .scanned hname hfirst hread
      · rw [decideEntry_of_not_isGiven hname (by simpa using hpath)] at h
        cases h
        exact .refused hname (fun h => absurd h hpath)
          (Check.firstObjection?_of_not_isGiven (by simpa using hpath) name)
    | _ => cases h
  · intro h
    cases h with
    | @refused members name message hname hstring hfirst =>
      by_cases hpath : (pathOf members).isGiven = true
      · obtain ⟨t, rfl⟩ := hstring hpath
        exact (decideEntry_of_string hname hpath).2 (.inl ⟨message, hfirst, rfl⟩)
      · rw [Bool.not_eq_true] at hpath
        rw [Check.firstObjection?_of_not_isGiven hpath] at hfirst
        cases hfirst
        exact decideEntry_of_not_isGiven hname hpath
    | @scanned members name code hname hfirst hread =>
      have hpath : (pathOf members).isGiven = true := by
        by_contra hpath
        rw [Bool.not_eq_true] at hpath
        rw [Check.firstObjection?_of_not_isGiven hpath] at hfirst
        cases hfirst
      exact (decideEntry_of_string hname hpath).2 (.inr ⟨hfirst, code, hread, rfl⟩)

-- The name is looked at before the file, so it does not matter that there is no such file.
example : decideEntry (fun _ => .error .notFound) .default (entryOf "a/b.txt" "") =
    .ok (.error (.string "b.txt") "Unsupported file type") := rfl

end Decide

/-! ## Batches one after the other -/

/-- What two batches yield together, the second run after the first. -/
def Yield.append (first second : Yield) : Yield where
  results := first.results ++ second.results
  errors := first.errors ++ second.errors
  logs := first.logs ++ second.logs
  serial := second.serial

/-- What becomes of two lists of entries is what becomes of the first and then of the second. -/
theorem yieldOf_append (session : Session) (serial : Nat) (first second : List Fate) :
    yieldOf session serial (first ++ second) =
      (yieldOf session serial first).append
        (yieldOf session (yieldOf session serial first).serial second) := by
  simp only [yieldOf, Yield.append, List.filterMap_append, List.zipIdx_append, List.map_append,
    List.flatMap_append, List.length_append, Nat.add_assoc]

/-- The fates of joined lists of entries are the fates of both. -/
theorem decides_append_iff {first second : List Json} {fates : List Fate} :
    Decides files settings (first ++ second) fates ↔
      ∃ before after, Decides files settings first before ∧
        Decides files settings second after ∧ fates = before ++ after := by
  constructor
  · intro h
    refine ⟨fates.take first.length, fates.drop first.length, ?_, ?_, ?_⟩
    · simpa using List.forall₂_take first.length h
    · simpa using List.forall₂_drop first.length h
    · exact (List.take_append_drop _ _).symm
  · rintro ⟨before, after, hbefore, hafter, rfl⟩
    exact List.rel_append hbefore hafter

/-- A joined batch comes to its end exactly if both batches do when they are run one after the
other, and it yields what they yield. -/
theorem run_append {session : Session} {serial : Nat} {first second : List Json} {yield : Yield} :
    run files settings session serial (first ++ second) = .ok yield ↔
      ∃ before after, run files settings session serial first = .ok before ∧
        run files settings session before.serial second = .ok after ∧
          yield = before.append after := by
  simp only [run, runFrom_eq_ok_iff, decides_append_iff]
  constructor
  · rintro ⟨_, ⟨before, after, hbefore, hafter, rfl⟩, rfl⟩
    exact ⟨_, _, ⟨before, hbefore, rfl⟩, ⟨after, hafter, rfl⟩, yieldOf_append _ _ _ _⟩
  · rintro ⟨_, _, ⟨before, hbefore, rfl⟩, ⟨after, hafter, rfl⟩, rfl⟩
    exact ⟨_, ⟨before, after, hbefore, hafter, rfl⟩, (yieldOf_append _ _ _ _).symm⟩

/-- Each entry is decided by itself, by the first check that it fails.  A batch comes to its end
exactly if every entry has such a fate; the fates, sorted into results and errors in the order of
the entries, are its yield, and none is lost.  Batches that are run one after the other yield what
the joined batch yields. -/
theorem run_sorts_entries (files : FileSource) (settings : Settings) (session : Session) :
    (∀ entry fate,
      decideEntry files settings entry = .ok fate ↔ EndsAs files settings entry fate) ∧
      (∀ serial entries yield, run files settings session serial entries = .ok yield ↔
        ∃ fates, List.Forall₂ (EndsAs files settings) entries fates ∧
          yield = yieldOf session serial fates ∧
            yield.results.length + yield.errors.length = entries.length) ∧
      ∀ serial first second yield,
        run files settings session serial (first ++ second) = .ok yield ↔
          ∃ before after, run files settings session serial first = .ok before ∧
            run files settings session before.serial second = .ok after ∧
              yield = before.append after := by
  refine ⟨fun entry fate => decideEntry_eq_ok_iff, ?_, fun _ _ _ _ => run_append⟩
  intro serial entries yield
  have hdecides (fates : List Fate) :
      Decides files settings entries fates ↔
        List.Forall₂ (EndsAs files settings) entries fates := by
    rw [Decides]
    simp only [decideEntry_eq_ok_iff]
  rw [run, runFrom_eq_ok_iff]
  constructor
  · rintro ⟨fates, hfates, rfl⟩
    refine ⟨fates, (hdecides fates).1 hfates, rfl, ?_⟩
    rw [length_yieldOf, hfates.length_eq]
  · rintro ⟨fates, hfates, rfl, -⟩
    exact ⟨fates, (hdecides fates).2 hfates, rfl⟩

end Batch

end CodeScan
