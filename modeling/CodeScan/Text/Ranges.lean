/-!
# Tables of code point ranges

A character property is given by the ascending list of ranges where it holds.  The longer properties
have some seven hundred ranges, so the list is cut into pages and each page is headed by the last
code point it covers: a look-up walks the heads until the number fits, then searches that one page.
-/

namespace CodeScan

/-- An ascending list of ranges `(first, last)`, cut into pages headed by their last code point. -/
abbrev RangeTable := List (Nat × List (Nat × Nat))

namespace RangeTable

/-- Whether one of the ranges on a page holds the number. -/
def pageContains (page : List (Nat × Nat)) (n : Nat) : Bool :=
  page.any fun range => range.1 ≤ n && n ≤ range.2

/-- Whether the table holds the number: it is looked up on the first page that reaches it. -/
def contains (table : RangeTable) (n : Nat) : Bool :=
  match table.find? fun page => n ≤ page.1 with
  | some page => pageContains page.2 n
  | none => false

end RangeTable

end CodeScan
