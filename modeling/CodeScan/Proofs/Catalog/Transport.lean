import CodeScan.Proofs.Catalog.Flags
import CodeScan.Proofs.Text.Digits
import CodeScan.Proofs.Text.Marks

/-!
# Plain HTTP and the local names

The rule on transport flags a plain HTTP address in quotes unless a local name follows.  Behind a
local name it asks for the end of a word and not for the end of the host, so it takes a host for a
local one if a local name, alone or with a point or a hyphen behind it, is only its beginning
(`BeginsLocal`).  `flags_insecureTransport_host` says of every host name on which side it falls.
-/

namespace CodeScan

namespace Catalog

open Pattern

/-- The names of the machine itself that the rule lets pass, beside the one in brackets. -/
def localNames : List (List Char) :=
  ["localhost", "127.0.0.1", "0.0.0.0"].map String.toList

/-- One of these names, up to the end of a word. -/
def localName : Pattern :=
  oneOf ((localNames.map fun name => concat (chars name ++ [.boundary true])) ++
    [word "[::1]".toList])

/-- A quote and a plain address in which no local name follows. -/
def plainAddress : Pattern :=
  concat (anyOf templateQuotes :: (chars "http://".toList ++ [.ahead false localName]))

section Evaluation

set_option maxRecDepth 100000

/-- The tree of the rule for plain addresses. -/
theorem ofText_insecureTransport : ofText insecureTransport.pattern = plainAddress := by
  apply ofText_eq_of_writes
  simp only [insecureTransport]
  rw [Text.ofString_ofList]
  decide +kernel

end Evaluation

/-! ## What the rule says -/

/-- A local name follows, as a word of its own, or the one in brackets. -/
def NamesLocal (after : List Char) : Prop :=
  (∃ name ∈ localNames, ∃ rest, after = name ++ rest ∧ BeginsOffWord rest) ∨
    ∃ rest, after = "[::1]".toList ++ rest

variable {before after line : List Char}

/-- The look-ahead of the rule is about the names of the local machine, up to a word boundary. -/
theorem begins_localName_iff : Begins [localName] before after ↔ NamesLocal after := by
  have hne : (localNames.map fun name => concat (chars name ++ [.boundary true])) ++
      [word "[::1]".toList] ≠ [] := List.append_ne_nil_of_right_ne_nil _ (List.cons_ne_nil _ _)
  unfold localName NamesLocal
  rw [begins_oneOf_iff hne]
  simp only [List.mem_append, List.mem_map, List.mem_singleton, or_and_right, exists_or,
    exists_exists_and_eq_and, exists_eq_left, begins_concat_iff, List.append_nil, begins_chars_iff,
    begins_boundary_iff, begins_word_iff, begins_nil, and_true]
  -- A local name ends with a word character, so that only what follows matters for the edge.
  have hstop : ∀ name ∈ localNames, name.getLast?.any isWord = true := by decide
  refine or_congr_left (exists_congr fun name => and_congr_right fun hname => ?_)
  simp only [wordEdge_append_left_iff (hstop name hname)]

/-- A line is flagged if a quote comes right before a plain address without such a name. -/
theorem flags_insecureTransport_iff :
    flags "insecure-transport" line = true ↔ ∃ before, ∃ first ∈ templateQuotes, ∃ after,
      line = before ++ [first] ++ "http://".toList ++ after ∧ ¬ NamesLocal after := by
  have hmem : insecureTransport ∈ definitions := by simp [definitions]
  have hflags := flags_eq_true_iff hmem ofText_insecureTransport line
  simp only [plainAddress, begins_concat_iff, List.append_nil, begins_anyOf_iff, begins_chars_iff,
    begins_not_ahead_iff, begins_localName_iff, begins_nil, and_true] at hflags
  simp only [↓exists_word_iff, ↓exists_piece_iff] at hflags
  exact hflags

/-! ## Host names -/

/-- The name of a host: letters, digits, points and hyphens. -/
structure IsHost (host : List Char) : Prop where
  ne_nil : host ≠ []
  chars : ∀ x ∈ host, x.isAlphanum = true ∨ x = '.' ∨ x = '-'

/-- The host is a local name, or a longer name that begins with a local name and a point or a
hyphen. -/
def BeginsLocal (host : List Char) : Prop :=
  ∃ name ∈ localNames, ∃ rest, host = name ++ rest ∧ ∀ x, rest.head? = some x → x = '.' ∨ x = '-'

/-- A letter or a digit is a word character. -/
theorem isWord_of_isAlphanum {x : Char} (hx : x.isAlphanum = true) : isWord x = true := by
  have hascii : x.toNat < 0x80 := (Text.toNat_of_isAlphanum hx).2.trans (by decide)
  rw [isWord, if_pos hascii, hx, Bool.true_or]

variable {host : List Char} {mark x : Char}

namespace IsHost

/-- The characters of a host at which a word ends are the point and the hyphen. -/
theorem isWord_eq_false_iff (hhost : IsHost host) (hx : x ∈ host) :
    isWord x = false ↔ x = '.' ∨ x = '-' := by
  constructor
  · intro hoff
    refine (hhost.chars x hx).resolve_left fun halnum => ?_
    exact Bool.false_ne_true (hoff.symm.trans (isWord_of_isAlphanum halnum))
  · rintro (rfl | rfl) <;> decide

/-- Behind the beginning of a host, a word ends where a point, a hyphen or the end of the host is.
-/
theorem beginsOffWord_iff {name rest : List Char} (hhost : IsHost (name ++ rest)) :
    BeginsOffWord rest ↔ ∀ x, rest.head? = some x → x = '.' ∨ x = '-' :=
  forall₂_congr fun _ hx =>
    hhost.isWord_eq_false_iff (List.mem_append_right name (List.mem_of_head? hx))

theorem quote_notMem (hhost : IsHost host) (hx : x ∈ templateQuotes) : x ∉ host := by
  intro hmem
  rcases (hhost.isWord_eq_false_iff hmem).1 (isWord_of_mem_templateQuotes x hx) with rfl | rfl
  · exact absurd hx (by decide)
  · exact absurd hx (by decide)

/-- With a quote behind the host, a local name follows exactly if the host begins with one. -/
theorem namesLocal_iff (hhost : IsHost host) (hmark : mark ∈ templateQuotes) (after : List Char) :
    NamesLocal (host ++ [mark] ++ after) ↔ BeginsLocal host := by
  have hoff : BeginsOffWord ([mark] ++ after) :=
    beginsOffWord_singleton_append (isWord_of_mem_templateQuotes mark hmark) after
  constructor
  · rintro (⟨name, hname, rest, hafter, hrest⟩ | ⟨rest, hafter⟩)
    · have hnames : ∀ name ∈ localNames,
          (templateQuotes.all fun x => decide (x ∉ name)) = true := by decide
      have hnone := List.all_iff_forall_prop.1 (hnames name hname) mark hmark
      obtain ⟨extra, rfl⟩ := prefix_of_notMem hnone hafter
      rw [List.append_assoc, List.append_assoc, List.append_cancel_left_eq] at hafter
      rw [← hafter, hoff.append_iff] at hrest
      exact ⟨name, hname, extra, rfl, hhost.beginsOffWord_iff.1 hrest⟩
    · -- The local name in brackets is no beginning of a host.
      obtain ⟨x, host, rfl⟩ := List.exists_cons_of_ne_nil hhost.ne_nil
      obtain ⟨rfl, -⟩ := List.cons.inj hafter
      exact absurd (hhost.chars '[' List.mem_cons_self) (by decide)
  · rintro ⟨name, hname, rest, rfl, hrest⟩
    refine .inl ⟨name, hname, rest ++ ([mark] ++ after), by simp only [List.append_assoc], ?_⟩
    exact hoff.append_iff.2 (hhost.beginsOffWord_iff.2 hrest)

end IsHost

/-- An address in quotes is flagged wherever it stands, unless its host begins like a local one. -/
theorem flags_of_not_beginsLocal (hhost : IsHost host) (hmark : mark ∈ templateQuotes)
    (hlocal : ¬ BeginsLocal host) (before after : List Char) :
    flags "insecure-transport"
      (before ++ [mark] ++ "http://".toList ++ host ++ [mark] ++ after) = true := by
  rw [flags_insecureTransport_iff]
  refine ⟨before, mark, hmark, host ++ [mark] ++ after, by simp only [List.append_assoc], ?_⟩
  rwa [hhost.namesLocal_iff hmark]

/-- A host that begins with such a name is let pass. -/
theorem flags_of_beginsLocal (hhost : IsHost host) (hmark : mark ∈ templateQuotes)
    (hlocal : BeginsLocal host) :
    flags "insecure-transport" ([mark] ++ "http://".toList ++ host ++ [mark]) = false := by
  rw [← Bool.not_eq_true, flags_insecureTransport_iff]
  rintro ⟨before, first, hfirst, after, hline, hnone⟩
  have hparts : [] ++ [mark] ++ ("http://".toList ++ host) ++ [mark] ++ [] =
      before ++ [first] ++ ("http://".toList ++ after) := by
    simpa only [List.append_assoc, List.nil_append, List.append_nil] using hline
  have hscheme : ∀ x ∈ templateQuotes, x ∉ "http://".toList :=
    List.all_iff_forall_prop.1 (by decide)
  have hclean : first ∉ "http://".toList ++ host :=
    List.not_mem_append (hscheme first hfirst) (hhost.quote_notMem hfirst)
  rcases mark_cases List.not_mem_nil hclean List.not_mem_nil hparts with
    ⟨-, -, hafter⟩ | ⟨-, -, hafter⟩
  · rw [List.append_assoc, List.append_assoc, List.append_cancel_left_eq,
      ← List.append_assoc] at hafter
    rw [hafter, hhost.namesLocal_iff hmark] at hnone
    exact hnone hlocal
  · exact List.cons_ne_nil _ _ hafter

/-- A plain address of a host is flagged wherever it stands, unless the host is a local name or
begins with a local name and a point or a hyphen; on a line of its own such an address is not
flagged. -/
theorem flags_insecureTransport_host (hhost : IsHost host) (hmark : mark ∈ templateQuotes) :
    (¬ BeginsLocal host → ∀ before after, flags "insecure-transport"
      (before ++ [mark] ++ "http://".toList ++ host ++ [mark] ++ after) = true) ∧
    (BeginsLocal host →
      flags "insecure-transport" ([mark] ++ "http://".toList ++ host ++ [mark]) = false) ∧
    (host ∈ localNames →
      flags "insecure-transport" ([mark] ++ "http://".toList ++ host ++ [mark]) = false) := by
  have hname (h : host ∈ localNames) : BeginsLocal host :=
    ⟨host, h, [], (List.append_nil host).symm, by simp⟩
  exact ⟨flags_of_not_beginsLocal hhost hmark, flags_of_beginsLocal hhost hmark,
    fun h => flags_of_beginsLocal hhost hmark (hname h)⟩

/-- An address of a remote host, and one of the machine itself. -/
theorem flags_insecureTransport_host_names :
    flags "insecure-transport" ("get(".toList ++ ['\''] ++ "http://".toList ++
      "local-mirror.org".toList ++ ['\''] ++ ")".toList) = true ∧
    flags "insecure-transport" (['"'] ++ "http://".toList ++ "127.0.0.1".toList ++ ['"']) =
      false := by
  have hremote : ¬ BeginsLocal "local-mirror.org".toList := by
    rintro ⟨name, hname, rest, hhost, -⟩
    have hnone : ∀ name ∈ localNames, ¬ name <+: "local-mirror.org".toList := by decide
    exact hnone name hname ⟨rest, hhost.symm⟩
  have hhost : IsHost "local-mirror.org".toList :=
    ⟨by decide, List.all_iff_forall_prop.1 (by decide)⟩
  have hown : IsHost "127.0.0.1".toList := ⟨by decide, List.all_iff_forall_prop.1 (by decide)⟩
  constructor
  · exact (flags_insecureTransport_host hhost (by decide)).1 hremote _ _
  · exact (flags_insecureTransport_host hown (by decide)).2.2 (by decide)

/-- A remote host can have a name that begins with a local one, and its address is not flagged. -/
theorem not_flags_insecureTransport_remote :
    IsHost "localhost.evil.com".toList ∧ "localhost.evil.com".toList ∉ localNames ∧
      '\'' ∈ templateQuotes ∧ flags "insecure-transport" ([] ++ ['\''] ++ "http://".toList ++
        "localhost.evil.com".toList ++ ['\''] ++ []) = false := by
  have hhost : IsHost "localhost.evil.com".toList :=
    ⟨by decide, List.all_iff_forall_prop.1 (by decide)⟩
  have hmark : '\'' ∈ templateQuotes := by decide
  have hlocal : BeginsLocal "localhost.evil.com".toList :=
    ⟨"localhost".toList, by decide, ".evil.com".toList, by decide,
      fun x hx => .inl (Option.some.inj hx).symm⟩
  refine ⟨hhost, by decide, hmark, ?_⟩
  rw [List.nil_append, List.append_nil]
  exact flags_of_beginsLocal hhost hmark hlocal

end Catalog

end CodeScan
