import CodeScan.Proofs.Number.Literal
import CodeScan.Proofs.Record.Issues
import CodeScan.Proofs.Record.RoundTrip
import CodeScan.Settings

/-!
# When settings load

Loading has two stages.  The variable of the size limit gives a size if it is unset, blank or the
literal of an integer with few enough digits (`GivesSize`).  If it gives none, that is the fault,
whatever the other variables hold.  Otherwise the size and the name of the log level are judged,
the size first: they are what can be out of range, since every text is a file name and every list of
texts is a list of origins (`readMembers_values`).

The limit on digits counts the leading zeros.  So a number may be written with zeros in front, but
not with any number of them.
-/

namespace CodeScan

namespace LogLevel

/-- A level is found by its name, and by nothing else. -/
theorem ofName?_eq_some_iff {t : Text} {level : LogLevel} :
    ofName? t = some level ↔ level.name = t := by
  constructor
  · intro h
    simpa using List.find?_some h
  · rintro rfl
    have hread := Settings.readLogLevel_name level
    simp only [Settings.readLogLevel] at hread
    split at hread
    · rename_i found hfound
      rw [hfound, Checked.ok.inj hread]
    · cases hread

/-- No level has a name that is not listed. -/
theorem ofName?_eq_none_iff {t : Text} : ofName? t = none ↔ t ∉ all.map name := by
  simp [ofName?]

/-- Different levels have different names. -/
theorem name_injective : Function.Injective name := by
  intro level other h
  rw [← Option.some_inj, ← ofName?_eq_some_iff.2 h, ofName?_eq_some_iff.2 rfl]

/-- The name of every level is listed. -/
theorem name_mem (level : LogLevel) : level.name ∈ all.map name :=
  List.mem_map_of_mem (by cases level <;> decide)

end LogLevel

namespace Settings

variable {env : Environment} {written : Option Text} {size : Int} {s : Settings}

/-! ## The size limit -/

/-- What the variable of the size limit stands for: the default limit if it is unset or blank, and
otherwise the integer that it writes with a limited number of digits. -/
inductive GivesSize : Option Text → Int → Prop where
  | unset : GivesSize none default.maxCodeBytes
  | blank {t : Text} (h : ∀ c ∈ t, c.isBlank = true) : GivesSize (some t) default.maxCodeBytes
  | literal {cs : List Char} {n : Int} (h : Literal.Writes cs n)
    (hcount : Literal.digitCount cs ≤ Literal.maxDigits) : GivesSize (some (Text.ofChars cs)) n

/-- A literal has a digit, so it is not blank. -/
theorem not_blank_of_writes {cs : List Char} {n : Int} (h : Literal.Writes cs n) :
    (Text.ofChars cs).all CodePoint.isBlank = false := by
  rw [Bool.eq_false_iff]
  intro hall
  obtain ⟨c, hc, hdigit⟩ := h.exists_digit
  obtain ⟨d, hd⟩ := Option.isSome_iff_exists.1 hdigit
  have hblank := List.all_eq_true.1 hall (.char c) (List.mem_map_of_mem hc)
  rw [CodePoint.isBlank, CodePoint.satisfies, Literal.isBlank_of_digitValue? hd] at hblank
  cases hblank

/-- A text with a literal is just its characters. -/
theorem setting?_of_text {t : Text} {n : Int} :
    t.chars?.bind Literal.setting? = some n ↔ ∃ cs, t = Text.ofChars cs ∧
      Literal.Writes cs n ∧ Literal.digitCount cs ≤ Literal.maxDigits := by
  rw [Option.bind_eq_some_iff]
  simp only [Text.chars?_eq_some_iff, Literal.setting?_eq_some_iff]

/-- The size is what the variable stands for. -/
theorem sizeOf_eq_ok_iff : sizeOf written = .ok size ↔ GivesSize written size := by
  constructor
  · intro h
    simp only [sizeOf] at h
    split at h
    · cases h
      exact .unset
    · split_ifs at h with hblank
      · cases h
        exact .blank (List.all_eq_true.1 hblank)
      · split at h
        · rename_i hn
          cases h
          obtain ⟨cs, rfl, hwrites, hcount⟩ := setting?_of_text.1 hn
          exact .literal hwrites hcount
        · cases h
  · intro h
    cases h with
    | unset => rfl
    | blank h => exact if_pos (List.all_eq_true.2 h)
    | literal h hcount =>
      simp only [sizeOf, not_blank_of_writes h, setting?_of_text.2 ⟨_, rfl, h, hcount⟩,
        Bool.false_eq_true, if_false]

/-- A text that stands for no size is told as it was written. -/
theorem eq_unreadableSize_of_sizeOf {t : Text} {e : LoadError}
    (h : sizeOf (some t) = .error e) : e = .unreadableSize t := by
  simp only [sizeOf] at h
  split_ifs at h
  split at h <;> cases h
  rfl

/-- Finding no size fails exactly for a text that stands for none. -/
theorem sizeOf_eq_error_iff {e : LoadError} : sizeOf written = .error e ↔
    ∃ t, written = some t ∧ (∀ n, ¬ GivesSize (some t) n) ∧ e = .unreadableSize t := by
  constructor
  · intro h
    have hnone : ∀ n, ¬ GivesSize written n := by
      intro n hn
      rw [sizeOf_eq_ok_iff.2 hn] at h
      cases h
    cases written with
    | none => cases h
    | some t => exact ⟨t, rfl, hnone, eq_unreadableSize_of_sizeOf h⟩
  · rintro ⟨t, rfl, hnone, rfl⟩
    cases hsize : sizeOf (some t) with
    | ok n => exact absurd (sizeOf_eq_ok_iff.1 hsize) (hnone n)
    | error e => rw [eq_unreadableSize_of_sizeOf hsize]

/-- A size has a limited number of digits. -/
theorem GivesSize.natAbs_lt (h : GivesSize written size) :
    size.natAbs < 10 ^ Literal.maxDigits := by
  have hdefault : default.maxCodeBytes.natAbs < 10 ^ Literal.maxDigits :=
    (by decide : default.maxCodeBytes.natAbs < 10 ^ 7).trans_le
      (Nat.pow_le_pow_right (by decide) (by decide))
  cases h with
  | unset => exact hdefault
  | blank => exact hdefault
  | literal h hcount => exact h.natAbs_lt.trans_le (Nat.pow_le_pow_right (by decide) hcount)

/-! ## The values -/

/-- The issue of a size limit, if it has one. -/
def sizeIssues (size : Int) : List Issue :=
  if 1 ≤ size then [] else [⟨.above 0, [.name "max_code_bytes"], .int size⟩]

/-- The issue of the name of a log level, if it has one. -/
def levelIssues (name : Text) : List Issue :=
  if (LogLevel.all.map LogLevel.name).contains name then []
  else [⟨.refused ("unknown log level " ++ name.quoted), [.name "log_level"], .string name⟩]

/-- A size is judged by its issues: none, or that it is too small. -/
theorem judges_size (size : Int) :
    Checked.Judges ((Reader.integerAbove 0 (.int size)).within (.name "max_code_bytes"))
      (sizeIssues size) := by
  rw [sizeIssues]
  split
  · rename_i h
    rw [Reader.integerAbove_int h]
    exact .ok size
  · rename_i h
    have hbad : Reader.integerAbove 0 (.int size) = .issue (.above 0) (.int size) :=
      if_neg (by simp only [decide_eq_true_eq]; omega)
    rw [hbad]
    exact .bad (List.cons_ne_nil _ _)

/-- A name is judged by its issues: none, or that no level has it. -/
theorem judges_level (name : Text) :
    Checked.Judges ((readLogLevel (.string name)).within (.name "log_level"))
      (levelIssues name) := by
  rw [levelIssues]
  cases hname : LogLevel.ofName? name with
  | some level =>
    obtain rfl := LogLevel.ofName?_eq_some_iff.1 hname
    rw [if_pos (List.contains_iff_mem.2 level.name_mem), readLogLevel_name]
    exact .ok level
  | none =>
    rw [if_neg (mt List.contains_iff_mem.1 (LogLevel.ofName?_eq_none_iff.1 hname))]
    simp only [readLogLevel, hname]
    exact .bad (List.cons_ne_nil _ _)

/-! ## Loading -/

/-- The settings of an environment that has this size limit and this log level. -/
def settingsOf (env : Environment) (size : Int) (level : LogLevel) : Settings where
  defaultFileName := env.defaultFileName.getD default.defaultFileName
  maxCodeBytes := size
  allowedOrigins := originsOf env.allowedOrigins
  logLevel := level

/-- The file name and the origins can always be read, so only the other two values are judged. -/
theorem readMembers_values (env : Environment) (size : Int) (name : Text) :
    readMembers
        [("default_file_name",
            .string (env.defaultFileName.getD default.defaultFileName)),
          ("max_code_bytes", .int size),
          ("allowed_origins", .array ((originsOf env.allowedOrigins).map .string)),
          ("log_level", .string name)] =
      settingsOf env <$>
        (Reader.integerAbove 0 (.int size)).within (.name "max_code_bytes") <*>
        (readLogLevel (.string name)).within (.name "log_level") := by
  have horigins : Reader.list .notTuple Reader.text
      (.array ((originsOf env.allowedOrigins).map .string)) = .ok (originsOf env.allowedOrigins) :=
    Reader.list_array fun _ _ => rfl
  simp only [readMembers, FieldName.withDefault, FieldName.find?, FieldName.same, horigins,
    Json.Members.get?_cons_ofString, if_true, String.reduceEq, if_false, Reader.text_string,
    Checked.within_ok, Checked.map_ok]
  cases (Reader.integerAbove 0 (.int size)).within (.name "max_code_bytes") <;> rfl

/-- The issues of a size limit and of the name of a log level, in this order. -/
def issuesOf (size : Int) (name : Text) : List Issue := sizeIssues size ++ levelIssues name

/-- There are no issues if the size is positive and the name is that of a level. -/
theorem issuesOf_eq_nil_iff {name : Text} :
    issuesOf size name = [] ↔ 1 ≤ size ∧ ∃ level : LogLevel, level.name = name := by
  have hsize : sizeIssues size = [] ↔ 1 ≤ size := by
    rw [sizeIssues]
    split
    · rename_i h
      exact iff_of_true rfl h
    · rename_i h
      exact iff_of_false (List.cons_ne_nil _ _) h
  have hlevel : levelIssues name = [] ↔ ∃ level : LogLevel, level.name = name := by
    rw [levelIssues]
    split
    · rename_i h
      obtain ⟨level, -, hlevel⟩ := List.mem_map.1 (List.contains_iff_mem.1 h)
      exact iff_of_true rfl ⟨level, hlevel⟩
    · rename_i h
      refine iff_of_false (List.cons_ne_nil _ _) ?_
      rintro ⟨level, rfl⟩
      exact h (List.contains_iff_mem.2 level.name_mem)
  rw [issuesOf, List.append_eq_nil_iff, hsize, hlevel]

/-- Without a size nothing else is looked at. -/
theorem load_of_sizeOf_error {e : LoadError} (h : sizeOf env.maxCodeBytes = .error e) :
    load env = .error e := by
  rw [load, h]
  rfl

/-- With a size, what is left to judge are the size and the name of the log level. -/
theorem load_of_sizeOf_ok (h : sizeOf env.maxCodeBytes = .ok size) :
    (∃ level : LogLevel, 1 ≤ size ∧ level.name = levelNameOf env.logLevel ∧
        load env = .ok (settingsOf env size level)) ∨
      (issuesOf size (levelNameOf env.logLevel) ≠ [] ∧
        load env = .error (.invalid ⟨"Settings", issuesOf size (levelNameOf env.logLevel)⟩)) := by
  have hjudges := ((judges_size size).map (settingsOf env)).seq
    (judges_level (levelNameOf env.logLevel))
  rw [← readMembers_values, ← issuesOf] at hjudges
  simp only [load, h, bind, Except.bind]
  split
  · rename_i s hs
    rw [hs] at hjudges
    obtain ⟨hsize, level, hlevel⟩ := issuesOf_eq_nil_iff.1 hjudges.eq_nil
    refine .inl ⟨level, hsize, hlevel, ?_⟩
    rw [readMembers_values, Reader.integerAbove_int hsize, ← hlevel, readLogLevel_name] at hs
    cases hs
    rfl
  · rename_i issues hissues
    rw [hissues] at hjudges
    obtain ⟨rfl, hne⟩ := hjudges.eq_of_bad
    exact .inr ⟨hne, rfl⟩

/-- A size limit of at least one and the name of a level are all that loading takes. -/
theorem load_of_valid {level : LogLevel} (h : GivesSize env.maxCodeBytes size) (hsize : 1 ≤ size)
    (hlevel : level.name = levelNameOf env.logLevel) :
    load env = .ok (settingsOf env size level) := by
  rcases load_of_sizeOf_ok (sizeOf_eq_ok_iff.2 h) with ⟨found, -, hfound, hload⟩ | ⟨hne, -⟩
  · rw [hload, LogLevel.name_injective (hfound.trans hlevel.symm)]
  · exact absurd (issuesOf_eq_nil_iff.2 ⟨hsize, level, hlevel⟩) hne

/-- If a size is given and there are issues, all of them are reported. -/
theorem load_of_issues (h : GivesSize env.maxCodeBytes size)
    (hne : issuesOf size (levelNameOf env.logLevel) ≠ []) :
    load env = .error (.invalid ⟨"Settings", issuesOf size (levelNameOf env.logLevel)⟩) := by
  rcases load_of_sizeOf_ok (sizeOf_eq_ok_iff.2 h) with ⟨level, hsize, hlevel, -⟩ | ⟨-, hload⟩
  · exact absurd (issuesOf_eq_nil_iff.2 ⟨hsize, level, hlevel⟩) hne
  · exact hload

/-- Loading gives settings, a text that is no size, or issues. -/
theorem load_cases (env : Environment) :
    (∃ size level, GivesSize env.maxCodeBytes size ∧ 1 ≤ size ∧
        level.name = levelNameOf env.logLevel ∧ load env = .ok (settingsOf env size level)) ∨
      (∃ t, env.maxCodeBytes = some t ∧ (∀ n, ¬ GivesSize (some t) n) ∧
        load env = .error (.unreadableSize t)) ∨
      ∃ size, GivesSize env.maxCodeBytes size ∧ issuesOf size (levelNameOf env.logLevel) ≠ [] ∧
        load env = .error (.invalid ⟨"Settings", issuesOf size (levelNameOf env.logLevel)⟩) := by
  cases hsize : sizeOf env.maxCodeBytes with
  | error e =>
    obtain ⟨t, ht, hnone, rfl⟩ := sizeOf_eq_error_iff.1 hsize
    exact .inr (.inl ⟨t, ht, hnone, load_of_sizeOf_error hsize⟩)
  | ok size =>
    have hgives := sizeOf_eq_ok_iff.1 hsize
    rcases load_of_sizeOf_ok hsize with ⟨level, hpos, hlevel, hload⟩ | ⟨hne, hload⟩
    · exact .inl ⟨size, level, hgives, hpos, hlevel, hload⟩
    · exact .inr (.inr ⟨size, hgives, hne, hload⟩)

/-- Settings are loaded exactly if a size is given, it is positive, and the level is known. -/
theorem load_eq_ok_iff : load env = .ok s ↔ ∃ size level, GivesSize env.maxCodeBytes size ∧
    1 ≤ size ∧ level.name = levelNameOf env.logLevel ∧ s = settingsOf env size level := by
  constructor
  · intro h
    rcases load_cases env with
      ⟨size, level, hsize, hpos, hlevel, hload⟩ | ⟨_, -, -, hload⟩ | ⟨_, -, -, hload⟩ <;>
      rw [hload] at h <;> cases h
    exact ⟨size, level, hsize, hpos, hlevel, rfl⟩
  · rintro ⟨size, level, hsize, hpos, hlevel, rfl⟩
    exact load_of_valid hsize hpos hlevel

/-- The limit of settings that were loaded has a limited number of digits. -/
theorem maxCodeBytes_lt_of_load (h : load env = .ok s) :
    s.maxCodeBytes.natAbs < 10 ^ Literal.maxDigits := by
  obtain ⟨size, level, hsize, -, -, rfl⟩ := load_eq_ok_iff.1 h
  exact hsize.natAbs_lt

/-- A size is called unreadable exactly if it is set to a text that gives none. -/
theorem load_eq_unreadableSize_iff {written : Text} :
    load env = .error (.unreadableSize written) ↔
      env.maxCodeBytes = some written ∧ ∀ n, ¬ GivesSize (some written) n := by
  constructor
  · intro h
    rcases load_cases env with
      ⟨_, _, -, -, -, hload⟩ | ⟨t, ht, hnone, hload⟩ | ⟨_, -, -, hload⟩ <;>
      rw [hload] at h <;> cases h
    exact ⟨ht, hnone⟩
  · rintro ⟨ht, hnone⟩
    exact load_of_sizeOf_error (sizeOf_eq_error_iff.2 ⟨written, ht, hnone, rfl⟩)

/-- Issues are reported exactly if a size is given and there are any. -/
theorem load_eq_invalid_iff {report : IssueReport} : load env = .error (.invalid report) ↔
    ∃ size, GivesSize env.maxCodeBytes size ∧ issuesOf size (levelNameOf env.logLevel) ≠ [] ∧
      report = ⟨"Settings", issuesOf size (levelNameOf env.logLevel)⟩ := by
  constructor
  · intro h
    rcases load_cases env with
      ⟨_, _, -, -, -, hload⟩ | ⟨_, -, -, hload⟩ | ⟨size, hsize, hne, hload⟩ <;>
      rw [hload] at h <;> cases h
    exact ⟨size, hsize, hne, rfl⟩
  · rintro ⟨size, hsize, hne, rfl⟩
    exact load_of_issues hsize hne

/-- Settings are loaded exactly if the size limit is at least one and the name of the log level is
known, once it is in upper case.  A text that gives no size is a fault that names its variable,
whatever the other variables hold.  Otherwise the fault is a report of everything that is out of
range, the size first.  A size may be written in any digits, with zeros and a plus sign in front,
underscores between and blanks around, as long as the digits are not too many. -/
theorem load_outcome (env : Environment) :
    let name := (env.logLevel.getD "INFO").upper
    (∀ s, load env = .ok s ↔ ∃ size level, GivesSize env.maxCodeBytes size ∧ 1 ≤ size ∧
        level.name = name ∧ s = settingsOf env size level) ∧
      (∀ written, load env = .error (.unreadableSize written) ↔
        env.maxCodeBytes = some written ∧ ∀ n, ¬ GivesSize (some written) n) ∧
      (∀ report, load env = .error (.invalid report) ↔ ∃ size,
        GivesSize env.maxCodeBytes size ∧ issuesOf size name ≠ [] ∧
          report = ⟨"Settings", issuesOf size name⟩) ∧
      (∀ written,
        ("GUARDIAN_MAX_CODE_BYTES" : Text) <+: (LoadError.unreadableSize written).message) ∧
      ∀ (n : Nat) (cs : List Char) (level : LogLevel), 1 ≤ n → Literal.Decorates n cs →
        Literal.digitCount cs ≤ Literal.maxDigits → level.name = name →
          load { env with maxCodeBytes := some (Text.ofChars cs) } =
            .ok (settingsOf env n level) := by
  refine ⟨fun s => load_eq_ok_iff, fun written => load_eq_unreadableSize_iff,
    fun report => load_eq_invalid_iff, fun written => ?_,
    fun n cs level hpos hdecorates hcount hlevel => ?_⟩
  · have hstart : ("GUARDIAN_MAX_CODE_BYTES" : Text) <+:
        Text.ofString "GUARDIAN_MAX_CODE_BYTES must be an integer, got " := by decide +kernel
    exact hstart.trans (List.prefix_append _ _)
  · have hgives : GivesSize (some (Text.ofChars cs)) n := .literal hdecorates.writes hcount
    exact load_of_valid hgives (by omega) hlevel

/-- The digits twelve in two scripts behind a zero, under a level with a dotless letter. -/
theorem load_outcome_scripts :
    let env : Environment := { maxCodeBytes := some "-1", logLevel := some "ınfo" }
    let written := "\u3000+٠1_۲\u00a0".toList
    1 ≤ 12 ∧ Literal.Decorates 12 written ∧ Literal.digitCount written ≤ Literal.maxDigits ∧
      LogLevel.info.name = (env.logLevel.getD "INFO").upper ∧
      load { env with maxCodeBytes := some (Text.ofChars written) } =
        .ok (settingsOf env 12 .info) := by
  intro env written
  have hdecorates : Literal.Decorates 12 written := by
    have hbody : Literal.Groups "٠1_۲".toList
        (List.replicate 1 0 ++ (Nat.digits 10 12).reverse) := by
      rw [show Nat.digits 10 12 = [2, 1] by simp]
      exact .digit (by decide) (.underscore (by decide) (.last (by decide)))
    have hfront : ∀ c ∈ ['\u3000'], Literal.isOuterBlank c = true :=
      List.forall_mem_singleton.2 (by decide)
    have hback : ∀ c ∈ ['\u00a0'], Literal.isOuterBlank c = true :=
      List.forall_mem_singleton.2 (by decide)
    exact .intro 1 hfront hback (.inr rfl) hbody
  have hcount : Literal.digitCount written ≤ Literal.maxDigits := by decide
  have hlevel : LogLevel.info.name = (env.logLevel.getD "INFO").upper := by
    decide
  exact ⟨by decide, hdecorates, hcount, hlevel,
    (load_outcome env).2.2.2.2 12 written .info (by decide) hdecorates hcount hlevel⟩

/-- The number one behind so many zeros is a literal, of a number that is a size, and yet it gives
none. -/
theorem load_one_behind_zeros :
    let written := List.replicate 4300 '0' ++ ['1']
    Literal.Writes written 1 ∧ Literal.Decorates 1 written ∧
      LogLevel.info.name = Text.upper "INFO" ∧
      load { maxCodeBytes := some (Text.ofChars written) } =
        .error (.unreadableSize (Text.ofChars written)) := by
  intro written
  have hbody : Literal.Groups written
      (List.replicate 4300 0 ++ (Nat.digits 10 1).reverse) := by
    have hone : (Nat.digits 10 1).reverse = [1] := by simp
    have hdigit : Literal.Groups ['1'] [1] := .last (by decide)
    rw [hone]
    exact hdigit.zeros 4300
  have hdecorates : Literal.Decorates 1 written := by
    have hnone : ∀ c ∈ [], Literal.isOuterBlank c = true := List.forall_mem_nil _
    have hplain := Literal.Decorates.intro 4300 hnone hnone (.inl rfl) hbody
    rwa [List.nil_append, List.nil_append, List.append_nil] at hplain
  have hwrites : Literal.Writes written 1 := hdecorates.writes
  have hcount : Literal.maxDigits < Literal.digitCount written := by
    rw [hbody.digitCount_eq, List.length_append, List.length_replicate]
    simp [Literal.maxDigits]
  have hnone : ∀ n, ¬ GivesSize (some (Text.ofChars written)) n := by
    intro n hn
    generalize ht : Text.ofChars written = t at hn
    cases hn with
    | blank h =>
      have hall := not_blank_of_writes hwrites
      rw [ht, List.all_eq_true.2 h] at hall
      cases hall
    | literal _ hfew =>
      rw [← Text.ofChars_inj.1 ht] at hfew
      omega
  have hsize : sizeOf (some (Text.ofChars written)) =
      .error (.unreadableSize (Text.ofChars written)) :=
    sizeOf_eq_error_iff.2 ⟨_, rfl, hnone, rfl⟩
  exact ⟨hwrites, hdecorates, by decide, load_of_sizeOf_error hsize⟩

end Settings

end CodeScan
