import CodeScan.Proofs.Tally
import CodeScan.Report.Basic

/-!
# Findings by category

The breakdown of findings is the tally of their labels, so what it says is what tallies say: which
categories occur, in the order in which they are first met, and how often each occurs.  A category
that does not occur is not listed with a zero, it is not listed at all.

Two lists of findings, one after the other, are broken down as each of them alone: the categories of
the first keep their places, and only those that are new come behind them.
-/

namespace CodeScan

namespace ScanReport

/-- A breakdown counts the labels of the findings. -/
theorem breakdown_counts_labels (findings : List Finding) :
    (breakdown findings).Counts (findings.map fun f => f.category.label) :=
  Tally.counts_ofList _

/-- The count of a category is the number of its findings. -/
theorem count_breakdown (findings : List Finding) (label : Text) :
    (breakdown findings).count label = findings.countP fun f => f.category.label = label :=
  Tally.count_ofList_map _ findings label

/-- The counts of a breakdown add up to the number of findings. -/
theorem total_breakdown (findings : List Finding) :
    (breakdown findings).total = findings.length := by
  rw [breakdown, Tally.total_ofList, List.length_map]

/-- Categories that are new in a second list of findings come last. -/
theorem keys_breakdown_append (findings more : List Finding) :
    (breakdown (findings ++ more)).keys = (breakdown findings).keys ++
      (breakdown more).keys.filter fun label => label ∉ (breakdown findings).keys := by
  simp only [breakdown, List.map_append]
  rw [Tally.keys_ofList_append]
  congr 1
  exact List.filter_congr fun label _ => decide_eq_decide.2 Iff.rfl

/-- The breakdown lists each category that occurs, once, in the order in which the categories are
first met, and with the number of its findings.  Findings behind the others bring their new
categories to the end, and the counts add up. -/
theorem breakdown_findings (findings more : List Finding) :
    let tally := breakdown findings
    tally.keys.Nodup ∧
      tally.Counts (findings.map fun f => f.category.label) ∧
      tally.entries = tally.keys.map (fun label =>
        (label, findings.countP fun f => f.category.label = label)) ∧
      0 ∉ tally.entries.map Prod.snd ∧
      tally.total = findings.length ∧
      (breakdown (findings ++ more)).keys =
        tally.keys ++ (breakdown more).keys.filter (fun label => label ∉ tally.keys) ∧
      ∀ label, (breakdown (findings ++ more)).count label =
        tally.count label + (breakdown more).count label := by
  intro tally
  have hcounts : tally.Counts (findings.map fun f => f.category.label) :=
    breakdown_counts_labels findings
  have hentries : tally.entries = tally.keys.map fun label =>
      (label, findings.countP fun f => f.category.label = label) := by
    rw [Tally.entries_eq_map_keys hcounts.nodup_keys]
    exact List.map_congr_left fun label _ => by rw [count_breakdown]
  -- A label is a key only because some finding has it, so its count is not zero.
  have hpositive : 0 ∉ tally.entries.map Prod.snd := by
    rw [hentries, List.map_map]
    intro hzero
    obtain ⟨label, hlabel, hcount⟩ := List.mem_map.1 hzero
    obtain ⟨f, hf, hcategory⟩ := List.mem_map.1 ((hcounts.mem_keys_iff label).1 hlabel)
    exact List.countP_eq_zero.1 hcount f hf (decide_eq_true hcategory)
  refine ⟨hcounts.nodup_keys, hcounts, hentries, hpositive, total_breakdown findings,
    keys_breakdown_append findings more, fun label => ?_⟩
  simp only [count_breakdown, List.countP_append, tally]

end ScanReport

end CodeScan
