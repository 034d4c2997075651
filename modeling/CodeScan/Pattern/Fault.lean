import CodeScan.Number.Literal
import CodeScan.Text.Quoted

/-!
# Faults of patterns

A text that is no pattern is refused with a fault, which says what is wrong and where.  Three faults
are not about the text as a pattern but about numbers in it and about the reader: a number that does
not fit, a count with too many digits, and groups that are nested too deeply.  And one is about this
library: syntax that can be written in a pattern but is outside what is modelled here has a fault of
its own, so that it is never mistaken for something else.
-/

namespace CodeScan

/-- What is named by a name in a pattern. -/
inductive PatternName where
  | group
  | character
  deriving DecidableEq

namespace PatternName

/-- The mark that closes a name. -/
def closing : PatternName → Char
  | .group => '>'
  | .character => '\x7d'

/-- What a missing name is called. -/
def label : PatternName → Text
  | .group => "group name"
  | .character => "character name"

end PatternName

/-- Syntax of patterns that is not modelled. -/
inductive Unsupported where
  /-- A group that is referred to, by number or by name, or asked whether it took part. -/
  | reference
  /-- A repeat or a group that gives nothing back. -/
  | possessive
  /-- A switch that changes how the pattern is read. -/
  | flags
  /-- A name that only the character database can judge. -/
  | database
  deriving DecidableEq

/-- Why a text is no pattern.  Positions count code points from the start. -/
inductive PatternError where
  | unterminatedGroup (position : Nat)
  | unbalancedBracket (position : Nat)
  | unterminatedSet (position : Nat)
  | unterminatedComment (position : Nat)
  | nothingToRepeat (position : Nat)
  | multipleRepeat (position : Nat)
  | repeatBounds (position : Nat)
  | unterminatedName (named : PatternName) (position : Nat)
  | missingName (named : PatternName) (position : Nat)
  | missingBrace (position : Nat)
  | badGroupName (name : Text) (position : Nat)
  /-- A name that an earlier group has. -/
  | repeatedGroupName (name : Text) (group earlier : Nat) (position : Nat)
  | undefinedCharacter (name : Text) (position : Nat)
  | endOfPattern (position : Nat)
  | badRange (first last : Text) (position : Nat)
  | unexpectedEnd (position : Nat)
  | unknownExtension (extension : Text) (position : Nat)
  | badEscape (escape : Text) (position : Nat)
  | incompleteEscape (escape : Text) (position : Nat)
  | octalEscape (escape : Text) (position : Nat)
  | lookBehindWidth
  /-- A repeat has a count past the bound. -/
  | repeatCount
  /-- A code point is given by a number past the integers of the machine. -/
  | codePointNumber
  /-- A repeat has a count with more digits than are converted. -/
  | overlongCount (digits : Nat)
  /-- The groups are nested deeper than the stack of the reader bears. -/
  | stackExhausted
  | unsupported (feature : Unsupported) (position : Nat)
  deriving DecidableEq

namespace PatternError

/-- What is wrong, without the place. -/
def summary : PatternError → Text
  | .unterminatedGroup _ => "missing ), unterminated subpattern"
  | .unbalancedBracket _ => "unbalanced parenthesis"
  | .unterminatedSet _ => "unterminated character set"
  | .unterminatedComment _ => "missing ), unterminated comment"
  | .nothingToRepeat _ => "nothing to repeat"
  | .multipleRepeat _ => "multiple repeat"
  | .repeatBounds _ => "min repeat greater than max repeat"
  | .unterminatedName named _ => "missing " ++ Text.ofChars [named.closing] ++ ", unterminated name"
  | .missingName named _ => "missing " ++ named.label
  | .missingBrace _ => "missing \x7b"
  | .badGroupName name _ => "bad character in group name " ++ name.quoted
  | .repeatedGroupName name group earlier _ =>
    "redefinition of group name " ++ name.quoted ++ " as group " ++ Text.ofNat group ++
      "; was group " ++ Text.ofNat earlier
  | .undefinedCharacter name _ => "undefined character name " ++ name.quoted
  | .endOfPattern _ => "bad escape (end of pattern)"
  | .badRange first last _ => "bad character range " ++ first ++ "-" ++ last
  | .unexpectedEnd _ => "unexpected end of pattern"
  | .unknownExtension extension _ => "unknown extension ?" ++ extension
  | .badEscape escape _ => "bad escape " ++ escape
  | .incompleteEscape escape _ => "incomplete escape " ++ escape
  | .octalEscape escape _ => "octal escape value " ++ escape ++ " outside of range 0-0o377"
  | .lookBehindWidth => "look-behind requires fixed-width pattern"
  | .repeatCount => "the repetition number is too large"
  | .codePointNumber => "Python int too large to convert to C int"
  | .overlongCount digits =>
    "Exceeds the limit (4300 digits) for integer string conversion: value has " ++
      Text.ofNat digits ++
      " digits; use sys.set_int_max_str_digits() to increase the limit"
  | .stackExhausted => "maximum recursion depth exceeded"
  | .unsupported _ _ => "unsupported syntax"

/-- Where the fault is; what is judged of the pattern as a whole, and what is no fault of the text
as a pattern, has no place. -/
def position? : PatternError → Option Nat
  | .unterminatedGroup p | .unbalancedBracket p | .unterminatedSet p | .unterminatedComment p
  | .nothingToRepeat p | .multipleRepeat p | .repeatBounds p | .unterminatedName _ p
  | .missingName _ p | .missingBrace p | .badGroupName _ p | .repeatedGroupName _ _ _ p
  | .undefinedCharacter _ p | .endOfPattern p | .badRange _ _ p | .unexpectedEnd p
  | .unknownExtension _ p | .badEscape _ p | .incompleteEscape _ p | .octalEscape _ p
  | .unsupported _ p => some p
  | .lookBehindWidth | .repeatCount | .codePointNumber | .overlongCount _ | .stackExhausted => none

/-- The wording of an error.  Line and column are added if the pattern spans several lines. -/
def message (source : Text) (e : PatternError) : Text :=
  match e.position? with
  | none => e.summary
  | some p =>
    let located := e.summary ++ " at position " ++ Text.ofNat p
    if source.contains (.char '\n') then
      let earlier := source.take p
      let line := earlier.count (.char '\n') + 1
      let column := (earlier.reverse.takeWhile (· ≠ .char '\n')).length + 1
      located ++ " (line " ++ Text.ofNat line ++ ", column " ++ Text.ofNat column ++ ")"
    else located

end PatternError

/-- What kind of error a text is refused with. -/
inductive RefusalKind where
  /-- The text is no pattern. -/
  | malformed
  /-- A number is past its bound. -/
  | overflow
  /-- A number has too many digits to be converted. -/
  | conversion
  /-- The stack of the reader is exhausted. -/
  | recursion
  /-- The syntax is not modelled. -/
  | unsupported
  deriving DecidableEq

/-- How a reader of patterns refuses a text: an error of some kind, with its wording. -/
structure Refusal where
  kind : RefusalKind
  message : Text
  deriving DecidableEq

/-- The kind of a fault. -/
def PatternError.kind : PatternError → RefusalKind
  | .repeatCount | .codePointNumber => .overflow
  | .overlongCount _ => .conversion
  | .stackExhausted => .recursion
  | .unsupported _ _ => .unsupported
  | _ => .malformed

/-- A fault as the reader tells it. -/
def PatternError.refusal (source : Text) (e : PatternError) : Refusal := ⟨e.kind, e.message source⟩

end CodeScan
