import CodeScan.Catalog.BuiltIn
import CodeScan.Proofs.Pattern.Context
import CodeScan.Proofs.Pattern.Keyword
import CodeScan.Proofs.Record.Fields

/-!
# The built-in catalog is complete

Building a catalog may fail, and a failure would leave the built-in catalog empty.  `builtIn_eq`
says that it does not: there is one rule for each definition, in order, and the rule is the
definition with its pattern read.

What is left to evaluate is evaluated here once: the identifiers of the definitions are pairwise
distinct, every written pattern can be read (`isSound_definitions`), and what was read passes three
checks.  It ignores padding, it bears more code on its line up to the conditions that are listed for
its rule (`bearsContext`), and it holds one of the words that are listed for its rule (`keywords`).
-/

namespace CodeScan

/-- Reading the label of a category gives the category back. -/
theorem Category.read_label (category : Category) :
    Category.read (.string category.label) = .ok category := by
  have hfind : ofLabel? category.label = some category := by
    cases category <;> simp [ofLabel?, all, label, Text.ofString_inj]
  simp only [read, hfind]

namespace Pattern

/-- What a text writes; the empty pattern if it writes none. -/
def ofText (source : Text) : Pattern :=
  match parse .standard source with
  | .ok p => p
  | .error _ => .empty

/-- A text that writes a pattern, and one that passes a check. -/
def writes (check : Pattern → Bool) (source : Text) : Bool :=
  match parse .standard source with
  | .ok p => check p
  | .error _ => false

variable {resources : Resources} {source : Text} {p : Pattern} {check : Pattern → Bool}

/-- A text that writes a pattern can be read, and what is read is what it writes. -/
theorem parse_of_writes (h : writes check source = true) :
    parse .standard source = .ok (ofText source) := by
  rw [writes] at h
  rw [ofText]
  split at h
  · rename_i p hp
    rw [hp]
  · exact Bool.noConfusion h

/-- The pattern that a text writes passes the check. -/
theorem check_ofText (h : writes check source = true) : check (ofText source) = true := by
  rwa [writes, parse_of_writes h] at h

/-- Compiling only changes how a fault is told. -/
theorem compile_eq_ok_iff : compile resources source = .ok p ↔ parse resources source = .ok p := by
  rw [compile]
  cases parse resources source <;> simp [Except.mapError]

/-- A pattern that could be read has look-behinds of fixed width. -/
theorem hasFixedLookBehind_of_parse (h : parse resources source = .ok p) :
    p.hasFixedLookBehind = true := by
  simp only [parse] at h
  split at h
  · cases h
  split at h
  · cases h
  split at h
  · rename_i hfixed
    cases h
    exact hfixed
  · cases h

end Pattern

namespace Definition

/-- The rule of a definition. -/
def rule (d : Definition) : Rule where
  id := d.id
  source := d.pattern
  pattern := .ofText d.pattern
  kind := d.kind
  category := d.category
  description := d.description
  explanation := d.explanation
  mitigation := d.mitigation
  safeCode := d.safeCode

/-- The fields of a definition are those of a rule. -/
theorem readRule_contents (d : Definition) (p : Pattern) :
    Catalog.readRule d.pattern p d.fields.contents = .ok { d.rule with pattern := p } := by
  simp [Catalog.readRule, FieldName.required_same, fields, Fields.contents, FieldValue.content,
    Reader.text, Category.read_label, Checked.within, rule]

variable {compile : Catalog.Compiler} {d : Definition} {taken : List Text}

/-- A definition goes by its identifier. -/
theorem definitionId_fields : Catalog.definitionId d.fields = d.id := by
  simp [Catalog.definitionId, Fields.get?, fields, FieldValue.asName, Json.asName]

/-- A definition builds its rule if its identifier is new and its pattern can be read. -/
theorem buildRule_fields (hid : d.id ≠ "") (hnew : Text.ofString d.id ∉ taken)
    (hcompile : compile d.pattern = .ok (.ofText d.pattern)) :
    Catalog.buildRule compile taken d.fields = .ok d.rule := by
  have hpattern : d.fields.get? "pattern" = some (.plain (.string d.pattern)) := by
    simp [Fields.get?, fields, Text.lookup_cons_ofString]
  have hmatcher : d.fields.get? "matcher" = none := by
    simp [Fields.get?, fields, Text.lookup_cons_ofString]
  have hgiven : (Text.ofString d.id).isEmpty = false := by
    rw [List.isEmpty_eq_false_iff, Ne, ← Text.ofString_empty, Text.ofString_inj]
    exact hid
  have hfree : taken.contains (Text.ofString d.id) = false := by simpa using hnew
  simp only [Catalog.buildRule, definitionId_fields, hgiven, hfree, hpattern, hmatcher,
    FieldValue.asName, Json.asName, hcompile, readRule_contents]
  rfl

end Definition

namespace Catalog

/-- Definitions with distinct identifiers build their rules. -/
theorem buildFrom_fields {compile : Compiler} {taken : List Text} {ds : List Definition}
    (hid : ∀ d ∈ ds, d.id ≠ "") (hnew : (ds.map Definition.id).Nodup)
    (hcompile : ∀ d ∈ ds, compile d.pattern = .ok (.ofText d.pattern))
    (htaken : ∀ d ∈ ds, Text.ofString d.id ∉ taken) :
    buildFrom compile taken (ds.map Definition.fields) = .ok (ds.map Definition.rule) := by
  induction ds generalizing taken with
  | nil => rfl
  | cons d ds ih =>
    rw [List.forall_mem_cons] at hid hcompile htaken
    rw [List.map_cons, List.nodup_cons] at hnew
    have hrest : ∀ e ∈ ds, Text.ofString e.id ∉ Text.ofString d.id :: taken := by
      intro e he hmem
      rcases List.mem_cons.1 hmem with hsame | hmem
      · exact hnew.1 (List.mem_map.2 ⟨e, he, Text.ofString_inj.1 hsame⟩)
      · exact htaken.2 e he hmem
    rw [List.map_cons, buildFrom, Definition.buildRule_fields hid.1 htaken.1 hcompile.1,
      Definition.definitionId_fields]
    simp only [bind, Except.bind, ih hid.2 hnew.2 hcompile.2 hrest, pure, Except.pure,
      List.map_cons]

/-! ## The definitions -/

open Pattern

/-- No safe loader is named in the arguments that follow. -/
def unsafeLoader : Pattern :=
  wordless (.repeated (.set ⟨true, [.single ')'.toNat]⟩) 0 (some 200)) "SafeLoader".toList

/-- The characters with which a written target starts: quotes, or the slash of a path. -/
def targetStarts : List Char := ['"', '\'', '\x60', '/']

/-- The characters with which a written target starts, and the blanks. -/
def fixedTarget : CharSet :=
  ⟨false, targetStarts.map (fun c => .single c.toNat) ++ [.kind .blank false]⟩

/-- The conditions of a rule on what follows its match. -/
def isTail (id : String) (p : Pattern) : Bool :=
  id = "insecure-deserialization" && p = unsafeLoader ||
    id = "unvalidated-redirect" && p = blanksThenNot fixedTarget

/-- The pattern of a rule keeps off what stands in front of a line, and off what stands behind it,
the conditions of the rule apart.  One rule is about the whole line. -/
def bearsContext (id : String) (p : Pattern) : Bool :=
  id = "debugger-statement" || p.keepsOff true && p.outlasts (isTail id)

/-- Words of which every match of a rule holds one, for each rule in catalog order.  They are chosen
so that no word of one rule starts a word of another. -/
def keywords : List (List String) :=
  [["eval", "exec", "Function", "Timeout", "Interval"],
   ["innerHTML", "outerHTML", "document", "dangerously", "insertAdjacent"],
   ["Math", "random."],
   ["passw", "pwd", "secret", "api", "access", "auth", "PASSW", "SECRET", "API_", "ACCESS_"],
   ["SELECT", "INSERT", "UPDATE", "DELETE", "DROP"],
   ["system", "popen", "subprocess", "child_process", "Sync", "shell_exec"],
   ["readFile", "createRead", "sendFile", "open", "path.join"],
   ["req.", "request.", "input"],
   ["redirect", "location"],
   ["chmod", "mktemp", "umask"],
   ["ickle", "marshal", "yaml", "unserialize"],
   ["==", "isA", "is_a"],
   ["jwt", "verify_signature", "algorithm"],
   ["hashlib", "createHash", ".new", "AES", "aes-", "des-", "rc4", "CryptoJS"],
   ["console", "print", "logger", "logging", "traceback", "res.", ".stack"],
   ["DEBUG", "app.", "debug"],
   ["requests", "httpx", "session", "client", "verify_mode", "_create_", "rejectUnauthorized",
    "NODE_TLS"],
   ["http://"],
   ["Access-Control", "allow_origins", "origin", "cors", "CORS"],
   ["except", "catch"],
   ["TODO", "FIXME", "HACK", "XXX"],
   ["bugger"]]

/-- The pattern of a definition passes all checks. -/
def isSound (d : Definition) (words : List String) : Bool :=
  writes (fun p => p.ignoresPadding && bearsContext d.id p && p.names (words.map String.toList))
    d.pattern

section Evaluation

set_option maxRecDepth 100000

/-- Every written pattern can be read and passes the checks. -/
theorem isSound_definitions :
    ∀ x ∈ definitions.zip keywords, isSound x.1 x.2 = true := by
  simp only [definitions, keywords, List.zip_cons_cons, List.zip_nil_left, List.forall_mem_cons,
    List.not_mem_nil, false_implies, implies_true, and_true, isSound, List.map_cons, List.map_nil,
    dynamicCodeExecution, crossSiteScripting, insecureRandomness, hardcodedCredentials,
    sqlInjection, commandInjection, pathTraversal, missingInputValidation, unvalidatedRedirect,
    insecureFileOperations, insecureDeserialization, authenticationBypass,
    insecureTokenVerification, weakCryptography, informationDisclosure, debugModeEnabled,
    tlsVerificationDisabled, insecureTransport, permissiveCors, emptyExceptionHandler,
    unresolvedCodeMarker, debuggerStatement, Text.ofString_append]
  -- The kernel is slow at decoding string literals, so they become lists of characters first.
  repeat rw [Text.ofString_ofList]
  simp only [Text.ofChars_cons, Text.ofChars_nil, List.cons_append, List.nil_append]
  decide +kernel

/-- No word of one rule starts a word of another. -/
theorem prefixFree_keywords :
    (keywords.map (List.map String.toList)).Pairwise PrefixFree := by
  decide +kernel

/-- No keyword is empty. -/
theorem ne_nil_keywords :
    ∀ words ∈ keywords.map (List.map String.toList), ∀ w ∈ words, w ≠ [] := by
  decide +kernel

/-- No identifier is given twice. -/
theorem nodup_id_definitions : (definitions.map Definition.id).Nodup := by
  decide +kernel

theorem id_ne_empty_definitions : ∀ d ∈ definitions, d.id ≠ "" := by
  decide +kernel

end Evaluation

/-- Each definition passes the checks with words of its own. -/
theorem exists_isSound {d : Definition} (hd : d ∈ definitions) :
    ∃ words ∈ keywords, isSound d words = true := by
  have hlength : definitions.length ≤ keywords.length := le_rfl
  rw [← List.map_fst_zip hlength, List.mem_map] at hd
  obtain ⟨⟨d, words⟩, hmem, rfl⟩ := hd
  exact ⟨words, (List.of_mem_zip hmem).2, isSound_definitions _ hmem⟩

/-- The built-in catalog has one rule for each definition. -/
theorem builtIn_eq : builtIn = definitions.map Definition.rule := by
  have hcompile : ∀ d ∈ definitions,
      Pattern.compile .standard d.pattern = .ok (.ofText d.pattern) :=
    fun d hd => compile_eq_ok_iff.2 (parse_of_writes (exists_isSound hd).choose_spec.2)
  have hbuild : build (Pattern.compile .standard) (definitions.map Definition.fields) =
      .ok (definitions.map Definition.rule) :=
    buildFrom_fields id_ne_empty_definitions nodup_id_definitions hcompile
      fun _ _ => List.not_mem_nil
  rw [builtIn, hbuild]
  rfl

theorem length_builtIn : builtIn.length = 22 := by
  rw [builtIn_eq, List.length_map]
  rfl

/-- No two built-in rules share their identifier. -/
theorem nodup_id_builtIn : (builtIn.map Rule.id).Nodup := by
  have hids : builtIn.map Rule.id = (definitions.map Definition.id).map Text.ofString := by
    rw [builtIn_eq, List.map_map, List.map_map]
    rfl
  rw [hids, List.Nodup, List.pairwise_map]
  exact nodup_id_definitions.imp fun hne h => hne (Text.ofString_inj.1 h)

variable {r : Rule} (hr : r ∈ builtIn)

include hr

/-- What was checked of the built-in patterns: what they look back at has a fixed width, and none
sees the blanks around a line. -/
theorem checked_of_mem_builtIn :
    r.pattern.hasFixedLookBehind = true ∧ r.pattern.ignoresPadding = true := by
  rw [builtIn_eq] at hr
  obtain ⟨d, hd, rfl⟩ := List.mem_map.1 hr
  obtain ⟨words, -, hsound⟩ := exists_isSound hd
  have hchecks := check_ofText hsound
  rw [Bool.and_eq_true, Bool.and_eq_true] at hchecks
  exact ⟨hasFixedLookBehind_of_parse (parse_of_writes hsound), hchecks.1.1⟩

/-- A built-in rule matches a line exactly if it matches the trimmed line. -/
theorem matchesLine_strip (line : List Char) :
    r.matchesLine line = r.matchesLine (Text.strip line) := by
  obtain ⟨fixed, hpadding⟩ := checked_of_mem_builtIn hr
  obtain ⟨front, back, hline, hfront, hback⟩ := Text.exists_eq_append_strip line
  calc
    r.matchesLine line = r.pattern.search (front ++ Text.strip line ++ back) := by
      rw [← hline, Rule.matchesLine]
    _ = r.matchesLine (Text.strip line) := Pattern.search_pad fixed hpadding hfront hback

/-- No built-in rule matches a line of blanks. -/
theorem matchesLine_of_isAllBlank {line : List Char} (hline : Text.isAllBlank line = true) :
    r.matchesLine line = false := by
  obtain ⟨fixed, hpadding⟩ := checked_of_mem_builtIn hr
  exact Pattern.search_of_allBlank fixed hpadding (List.all_eq_true.1 hline)

end Catalog

end CodeScan
