import CodeScan.Text.CodePoint

/-!
# Lines

Line numbers in findings and the line count in metrics both come from `splitLines`, so they cannot
disagree.  A line feed ends a line; a line feed at the very end starts no further line; and one
carriage return before the end of a line is dropped, so that both common line endings number alike.

Files are read through `unifyNewlines`, which also makes a lone carriage return end a line.
-/

namespace CodeScan

namespace Text

/-- Drops one carriage return from the end of a line. -/
def dropReturn (line : List Char) : List Char :=
  if line.getLast? = some '\r' then line.dropLast else line

/-- Drops the last piece if it is empty. -/
def dropFinalEmpty {α : Type} (pieces : List (List α)) : List (List α) :=
  match pieces.getLast? with
  | some [] => pieces.dropLast
  | _ => pieces

/-- The lines of a text.  Empty text has none. -/
def splitLines (code : List Char) : List (List Char) :=
  (dropFinalEmpty (splitOn '\n' code)).map dropReturn

/-- Every line ending becomes a single line feed. -/
def unifyNewlines : List Char → List Char
  | [] => []
  | '\r' :: '\n' :: rest => '\n' :: unifyNewlines rest
  | '\r' :: rest => '\n' :: unifyNewlines rest
  | c :: rest => c :: unifyNewlines rest

end Text

end CodeScan
