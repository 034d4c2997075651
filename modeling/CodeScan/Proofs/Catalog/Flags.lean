import CodeScan.Proofs.Catalog.Context
import CodeScan.Proofs.Pattern.Parts
import Mathlib.Data.Bool.AllAny
import Mathlib.Data.List.Nodup

/-!
# What a built-in rule asks of a line

A rule of the built-in catalog flags a line if it finds its pattern there.  To say what it asks of
the line, the written pattern is read once, as a tree of parts (`ofText_eq_of_writes`), and the
parts are then taken off the line one by one (`flags_eq_true_iff`).
-/

namespace CodeScan

namespace Pattern

/-- The tree that a text writes, found by reading it. -/
theorem ofText_eq_of_writes {source : Text} {p : Pattern}
    (h : writes (fun q => decide (q = p)) source = true) : ofText source = p :=
  of_decide_eq_true (check_ofText h)

end Pattern

namespace Catalog

open Pattern

/-- The built-in rule of this name finds its pattern in the line. -/
def flags (id : String) (line : List Char) : Bool :=
  builtIn.any fun rule => rule.id = Text.ofString id && rule.matchesLine line

/-- The quotes around a text. -/
def quotes : List Char := ['"', '\'']

/-- The quotes around a text that may have values spliced into it, or around any other text. -/
def templateQuotes : List Char := ['"', '\'', '\x60']

theorem mem_templateQuotes_of_mem_quotes {x : Char} (hx : x ∈ quotes) : x ∈ templateQuotes :=
  List.mem_append_left ['\x60'] hx

theorem isWord_of_mem_templateQuotes : ∀ x ∈ templateQuotes, isWord x = false :=
  List.all_iff_forall_prop.1 (by decide)

theorem isBlank_of_mem_templateQuotes : ∀ x ∈ templateQuotes, isBlank x = false :=
  List.all_iff_forall_prop.1 (by decide)

variable {d : Definition} (hd : d ∈ definitions)

include hd

/-- A built-in rule is known by its name. -/
theorem flags_eq_matchesLine (line : List Char) : flags d.id line = d.rule.matchesLine line := by
  unfold flags
  rw [builtIn_eq, List.any_map, Bool.eq_iff_iff, List.any_eq_true]
  constructor
  · rintro ⟨e, he, hfound⟩
    obtain ⟨hid, hline⟩ := Bool.and_eq_true_iff.1 hfound
    have hsame : e.id = d.id := Text.ofString_inj.1 (of_decide_eq_true hid)
    rwa [List.inj_on_of_nodup_map nodup_id_definitions he hd hsame] at hline
  · intro hline
    exact ⟨d, hd, Bool.and_eq_true_iff.2 ⟨decide_eq_true rfl, hline⟩⟩

/-- A built-in rule is a search for its pattern. -/
theorem flags_eq_search {p : Pattern} (hp : ofText d.pattern = p) (line : List Char) :
    flags d.id line = p.search line := by
  rw [flags_eq_matchesLine hd]
  unfold Rule.matchesLine
  rw [← hp]
  rfl

/-- A built-in rule flags a line if its pattern matches from some place on. -/
theorem flags_eq_true_iff {p : Pattern} (hp : ofText d.pattern = p) (line : List Char) :
    flags d.id line = true ↔ ∃ before after, line = before ++ after ∧ Begins [p] before after := by
  have hrule : d.rule ∈ builtIn := by
    rw [builtIn_eq]
    exact List.mem_map_of_mem hd
  rw [flags_eq_search hd hp, search_eq_true_iff_begins (hp ▸ (checked_of_mem_builtIn hrule).1)]

end Catalog

end CodeScan
