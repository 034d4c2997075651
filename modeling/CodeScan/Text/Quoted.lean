import CodeScan.Text.Hex
import CodeScan.Text.Printable

/-!
# Quoted text

A quoted text shows its value without ambiguity: between quotes, with the quote and the backslash
escaped, and every unprintable code point written by its number.  The single quote is used unless
the text holds one and holds no double quote, so most texts need no escaped quote at all.
-/

namespace CodeScan

namespace Text

/-- An unprintable code point by number, with the shortest of the three widths that holds it. -/
def numericEscape (c : CodePoint) : Text :=
  if c.value < 0x100 then "\\x" ++ hex 2 c.value
  else if c.value < 0x10000 then "\\u" ++ hex 4 c.value
  else "\\U" ++ hex 8 c.value

/-- How one code point is shown between the given quotes. -/
def quoteCodePoint (quote : Char) (c : CodePoint) : Text :=
  if c = .char quote ∨ c = .char '\\' then [.char '\\', c]
  else if c = .char '\n' then "\\n"
  else if c = .char '\r' then "\\r"
  else if c = .char '\t' then "\\t"
  else if c.isPrintable then [c]
  else numericEscape c

/-- The quote a text is shown with. -/
def quoteFor (t : Text) : Char :=
  if t.contains (.char '\'') && !t.contains (.char '"') then '"' else '\''

/-- The text between quotes, with everything that would be unclear escaped. -/
def quoted (t : Text) : Text :=
  let quote := quoteFor t
  .char quote :: t.flatMap (quoteCodePoint quote) ++ [.char quote]

end Text

end CodeScan
