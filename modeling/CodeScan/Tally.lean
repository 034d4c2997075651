/-!
# Tallies

A tally counts how often each key was seen, and keeps the keys in the order in which they were first
seen.  Adding to a key that is already there does not move it.
-/

namespace CodeScan

/-- Counts by key, in order of first sight. -/
structure Tally (α : Type) where
  entries : List (α × Nat)

namespace Tally

variable {α : Type} [DecidableEq α]

/-- Nothing has been seen. -/
def empty : Tally α := ⟨[]⟩

/-- How often a key was seen. -/
def count (tally : Tally α) (key : α) : Nat := (tally.entries.lookup key).getD 0

/-- The entries after one more sight of a key. -/
def addEntry (key : α) : List (α × Nat) → List (α × Nat)
  | [] => [(key, 1)]
  | (other, n) :: rest =>
    if other = key then (other, n + 1) :: rest else (other, n) :: addEntry key rest

/-- Counts one more sight of a key. -/
def add (tally : Tally α) (key : α) : Tally α := ⟨addEntry key tally.entries⟩

/-- The tally of a list of keys. -/
def ofList (keys : List α) : Tally α := keys.foldl add empty

end Tally

end CodeScan
