import CodeScan.Batch
import CodeScan.Proofs.File.Source
import CodeScan.Proofs.Record.Fields
import Mathlib.Data.List.Forall2

/-!
# What a batch yields

A batch decides entry by entry.  As long as every decision is a fate, the batch goes on to its end
and its yield is the fates sorted into results and errors: `runFrom_eq_ok_iff`.  The first entry
without a fate ends the batch, and what was yielded up to there is lost.

An entry that gives its path and its name as strings has a fate unless its file has to be read and
its path cannot be asked about.  So one such entry is enough to end a batch (`run_eq_ok_iff`), and
nothing else is.
-/

namespace CodeScan

namespace Batch

/-! ## Fates -/

namespace Fate

/-- The error item of an entry that ends as an error. -/
def errorItem? : Fate → Option Json
  | .result .. => none
  | .error file message => some (errorItem file message)

/-- The code and the name of an entry that is scanned. -/
def scanned? : Fate → Option (List Char × Text)
  | .result code name => some (code, name)
  | .error .. => none

end Fate

/-- What a batch yields whose entries have the given fates: the fates in their order, sorted into
results and errors.  Scans take identifiers in order. -/
def yieldOf (session : Session) (serial : Nat) (fates : List Fate) : Yield :=
  let scanned := fates.filterMap Fate.scanned?
  let scans := (scanned.zipIdx serial).map fun ((code, name), serial) =>
    scanPayload session serial code name
  { results := scans.map Prod.fst
    errors := fates.filterMap Fate.errorItem?
    logs := scans.flatMap Prod.snd
    serial := serial + scanned.length }

theorem yieldOf_cons_error (session : Session) (serial : Nat) (file : Json) (message : Text)
    (fates : List Fate) :
    let more := yieldOf session serial fates
    yieldOf session serial (.error file message :: fates) =
      ⟨more.results, errorItem file message :: more.errors, more.logs, more.serial⟩ := rfl

theorem yieldOf_cons_result (session : Session) (serial : Nat) (code : List Char) (name : Text)
    (fates : List Fate) :
    let scan := scanPayload session serial code name
    let more := yieldOf session (serial + 1) fates
    yieldOf session serial (.result code name :: fates) =
      ⟨scan.1 :: more.results, more.errors, scan.2 ++ more.logs, more.serial⟩ := by
  intro scan more
  simp only [scan, more, yieldOf, List.filterMap_cons, Fate.scanned?, Fate.errorItem?,
    List.zipIdx_cons, List.map_cons, List.flatMap_cons, List.length_cons]
  rw [Nat.add_right_comm, Nat.add_assoc serial]

/-- Every fate is either among the results or among the errors. -/
theorem length_yieldOf (session : Session) (serial : Nat) (fates : List Fate) :
    (yieldOf session serial fates).results.length + (yieldOf session serial fates).errors.length =
      fates.length := by
  induction fates generalizing serial with
  | nil => rfl
  | cons fate fates ih =>
    cases fate with
    | error file message =>
      have := ih serial
      simp only [yieldOf_cons_error, List.length_cons]
      omega
    | result code name =>
      have := ih (serial + 1)
      simp only [yieldOf_cons_result, List.length_cons]
      omega

/-! ## Runs -/

section Run

variable {files : FileSource} {settings : Settings} {session : Session}

/-- The fates of a list of entries. -/
abbrev Decides (files : FileSource) (settings : Settings) : List Json → List Fate → Prop :=
  List.Forall₂ fun entry fate => decideEntry files settings entry = .ok fate

/-- A batch whose entries have fates yields them. -/
theorem runFrom_of_decides {entries : List Json} {fates : List Fate}
    (h : Decides files settings entries fates) (serial : Nat) :
    runFrom files settings session serial entries = .ok (yieldOf session serial fates) := by
  induction h generalizing serial with
  | nil => rfl
  | @cons entry fate entries fates hentry _ ih =>
    rw [runFrom, hentry]
    cases fate with
    | error file message =>
      rw [yieldOf_cons_error]
      simp only [ih]
      rfl
    | result code name =>
      rw [yieldOf_cons_result]
      simp only [ih]

/-- A batch that comes to its end has a fate for each entry. -/
theorem exists_decides_of_runFrom {serial : Nat} {entries : List Json} {yield : Yield}
    (h : runFrom files settings session serial entries = .ok yield) :
    ∃ fates, Decides files settings entries fates := by
  induction entries generalizing serial yield with
  | nil => exact ⟨[], .nil⟩
  | cons entry entries ih =>
    rw [runFrom] at h
    cases hentry : decideEntry files settings entry with
    | error cause =>
      rw [hentry] at h
      cases h
    | ok fate =>
      -- Whatever the fate is, the rest of the batch has come to its end too.
      obtain ⟨rest, more, hmore⟩ : ∃ rest more,
          runFrom files settings session rest entries = .ok more := by
        cases fate with
        | error file message =>
          rw [hentry] at h
          cases hmore : runFrom files settings session serial entries with
          | error stopped => simp [hmore, bind, Except.bind] at h
          | ok more => exact ⟨serial, more, hmore⟩
        | result code name =>
          rw [hentry] at h
          cases hmore : runFrom files settings session (serial + 1) entries with
          | error stopped => simp [hmore] at h
          | ok more => exact ⟨serial + 1, more, hmore⟩
      obtain ⟨fates, hfates⟩ := ih hmore
      exact ⟨fate :: fates, .cons hentry hfates⟩

/-- A batch comes to its end exactly if every entry has a fate, and then it yields the fates. -/
theorem runFrom_eq_ok_iff {serial : Nat} {entries : List Json} {yield : Yield} :
    runFrom files settings session serial entries = .ok yield ↔
      ∃ fates, Decides files settings entries fates ∧ yield = yieldOf session serial fates := by
  constructor
  · intro h
    obtain ⟨fates, hfates⟩ := exists_decides_of_runFrom h
    rw [runFrom_of_decides hfates] at h
    exact ⟨fates, hfates, (Except.ok.inj h).symm⟩
  · rintro ⟨fates, hfates, rfl⟩
    exact runFrom_of_decides hfates serial

/-- Entries that each have a fate have a list of fates. -/
theorem exists_decides_iff {entries : List Json} :
    (∃ fates, Decides files settings entries fates) ↔
      ∀ entry ∈ entries, ∃ fate, decideEntry files settings entry = .ok fate := by
  induction entries with
  | nil => simp
  | cons entry entries ih =>
    rw [List.forall_mem_cons, ← ih]
    constructor
    · rintro ⟨_, hfates⟩
      obtain ⟨fate, fates, hentry, hrest, rfl⟩ := List.forall₂_cons_left_iff.1 hfates
      exact ⟨⟨fate, hentry⟩, fates, hrest⟩
    · rintro ⟨⟨fate, hentry⟩, fates, hrest⟩
      exact ⟨fate :: fates, .cons hentry hrest⟩

end Run

/-! ## Entries that give strings -/

/-- An entry that gives its path and its name as strings. -/
def Gives (entry : Json) (path name : Text) : Prop :=
  ∃ members : Json.Members, entry = .object members ∧
    members.get? "path" = some (.string path) ∧
      members.get? "original_name" = some (.string name)

/-- The name that such an entry is shown under: the given one, unless that is empty. -/
def nameShown (path name : Text) : Text := if name.isEmpty then FileName.ofPath path else name

/-- A given name is shown unless it is empty; then the name of the path is. -/
theorem shownName_string (path name : Text) :
    shownName (.string path) (.string name) = .ok (.string (nameShown path name)) := by
  cases name with
  | cons c name => rfl
  | nil =>
    cases path with
    | cons c path => rfl
    | nil => rfl

/-- What becomes of an entry that gives strings, by the first check that fails. -/
theorem decideEntry_of_gives {entry : Json} {path name : Text} (h : Gives entry path name)
    (files : FileSource) (settings : Settings) :
    let shown := nameShown path name
    decideEntry files settings entry =
      if path.isEmpty then .ok (.error (.string shown) "Missing 'path'")
      else if !FileName.isSupported shown then
        .ok (.error (.string shown) "Unsupported file type")
      else match files.read path with
        | .impossible fault => .error (.badPath fault)
        | .unreadable message => .ok (.error (.string shown) message)
        | .text code =>
          if settings.maxCodeBytes < Utf8.size code then
            .ok (.error (.string shown)
              ("File exceeds " ++ Text.ofInt settings.maxCodeBytes ++ " bytes"))
          else .ok (.result code shown) := by
  obtain ⟨members, rfl, hpath, hname⟩ := h
  intro shown
  simp only [decideEntry, hpath, hname, Option.getD_some, shownName_string, bind, Except.bind,
    Json.isGiven, Bool.not_not]
  rfl

/-- An entry that gives strings has a fate unless its file has to be read and its path cannot be
asked about. -/
theorem exists_fate_iff {files : FileSource} (hfiles : files.IsRegular) (settings : Settings)
    {entry : Json} {path name : Text} (h : Gives entry path name) :
    (∃ fate, decideEntry files settings entry = .ok fate) ↔
      (path ≠ [] → FileName.isSupported (nameShown path name) = true →
        PathText.IsAskable path) := by
  rw [decideEntry_of_gives h]
  by_cases hpath : path = []
  · simp [hpath]
  by_cases hsupported : FileName.isSupported (nameShown path name) = true
  · have hread := hfiles path
    rw [if_neg (by simpa using hpath), if_neg (by simp [hsupported])]
    simp only [ne_eq, hpath, not_false_eq_true, hsupported, forall_const]
    cases hresult : files.read path with
    | impossible fault => simpa [hresult] using hread
    | unreadable message => simpa [hresult] using hread
    | text code =>
      have haskable : PathText.IsAskable path := by simpa [hresult] using hread
      refine iff_of_true ?_ haskable
      dsimp only
      split <;> exact ⟨_, rfl⟩
  · rw [if_neg (by simpa using hpath), if_pos (by simpa using hsupported)]
    simp [hsupported]

/-- A batch of entries that give strings comes to its end exactly if every path that has to be read
can be asked about.  Then each entry is represented once, by its fate, among the results or among
the errors. -/
theorem run_eq_ok_iff {files : FileSource} (hfiles : files.IsRegular) (settings : Settings)
    (session : Session) (serial : Nat) {entries : List Json}
    (hentries : ∀ entry ∈ entries, ∃ path name, Gives entry path name) :
    ((∃ yield, run files settings session serial entries = .ok yield) ↔
      ∀ entry ∈ entries, ∀ path name, Gives entry path name → path ≠ [] →
        FileName.isSupported (nameShown path name) = true → PathText.IsAskable path) ∧
      ∀ yield, run files settings session serial entries = .ok yield →
        yield.results.length + yield.errors.length = entries.length ∧
          ∃ fates, Decides files settings entries fates ∧
            yield = yieldOf session serial fates := by
  have hrun {yield : Yield} : run files settings session serial entries = .ok yield ↔
      ∃ fates, Decides files settings entries fates ∧ yield = yieldOf session serial fates :=
    runFrom_eq_ok_iff
  constructor
  · -- The batch is decided if each entry is, and entries are decided one by one.
    calc
      _ ↔ ∃ fates, Decides files settings entries fates := by
        simp only [hrun]
        exact ⟨fun ⟨_, fates, hfates, _⟩ => ⟨fates, hfates⟩,
          fun ⟨fates, hfates⟩ => ⟨_, fates, hfates, rfl⟩⟩
      _ ↔ ∀ entry ∈ entries, ∃ fate, decideEntry files settings entry = .ok fate :=
        exists_decides_iff
      _ ↔ _ := by
        refine forall₂_congr fun entry hentry => ⟨fun hfate path name hgives => ?_, fun hall => ?_⟩
        · exact (exists_fate_iff hfiles settings hgives).1 hfate
        · obtain ⟨path, name, hgives⟩ := hentries entry hentry
          exact (exists_fate_iff hfiles settings hgives).2 (hall path name hgives)
  · intro yield hyield
    obtain ⟨fates, hfates, rfl⟩ := hrun.1 hyield
    exact ⟨by rw [length_yieldOf, hfates.length_eq], fates, hfates, rfl⟩

/-- A plain entry with a path and a name. -/
def entryOf (path name : Text) : Json :=
  .object [("path", .string path), ("original_name", .string name)]

/-- An entry gives the path and the name that it was made from. -/
theorem gives_entryOf_iff {path name path' name' : Text} :
    Gives (entryOf path name) path' name' ↔ path' = path ∧ name' = name := by
  simp [Gives, entryOf, eq_comm]

/-- A folder, a file that is missing, and a name with a lone surrogate end no batch. -/
theorem run_of_awkward_entries :
    let tree : FileTree := ⟨[([PathText.bytes "b.js"], Utf8.encode ['x'])], [], []⟩
    let session : Session := ⟨⟨2025, 1, 2, 3, 4, 5, 678901, some 0⟩, fun _ => []⟩
    let entries := [entryOf ".." "up.js", entryOf "c.js" "", entryOf "b.js" (.surrogate 0 :: ".js")]
    ∃ yield, run tree.source .default session 0 entries = .ok yield ∧
      yield.results.length + yield.errors.length = 3 := by
  intro tree session entries
  have hregular : tree.source.IsRegular := FileTree.isRegular_source (by simp [tree])
  have hgives : ∀ entry ∈ entries, ∃ path name, Gives entry path name := by
    simp [entries, gives_entryOf_iff]
  have haskable : ∀ entry ∈ entries, ∀ path name, Gives entry path name → path ≠ [] →
      FileName.isSupported (nameShown path name) = true → PathText.IsAskable path := by
    have hpaths : PathText.IsAskable ".." ∧ PathText.IsAskable "c.js" ∧
        PathText.IsAskable "b.js" := by decide
    simp only [entries, List.forall_mem_cons, gives_entryOf_iff, List.not_mem_nil, false_implies,
      implies_true, and_true]
    refine ⟨?_, ?_, ?_⟩ <;> rintro _ _ ⟨rfl, rfl⟩ _ _
    exacts [hpaths.1, hpaths.2.1, hpaths.2.2]
  have hrun := run_eq_ok_iff hregular .default session 0 hgives
  obtain ⟨yield, hyield⟩ := hrun.1.2 haskable
  exact ⟨yield, hyield, (hrun.2 yield hyield).1⟩

/-- One path with `NUL` in it ends a batch of strings, and the entry behind it is never reached. -/
theorem run_stops_at_nul :
    let tree : FileTree := ⟨[([PathText.bytes "b.js"], Utf8.encode ['x'])], [], []⟩
    let session : Session := ⟨⟨2025, 1, 2, 3, 4, 5, 678901, some 0⟩, fun _ => []⟩
    let entries := [entryOf "a\x00.js" "a.js", entryOf "b.js" "b.js"]
    (∀ entry ∈ entries, ∃ path name, Gives entry path name) ∧
      run tree.source .default session 0 entries = .error ⟨.badPath .nulCharacter, [], 0⟩ := by
  refine ⟨by simp [gives_entryOf_iff], ?_⟩
  rfl

end Batch

end CodeScan
