import CodeScan.Pattern.Basic
import CodeScan.Pattern.Fault
import CodeScan.Text.Hex

/-!
# The tokens of a pattern

* `pieces` pairs every backslash with the code point after it.  A backslash at the very end has no
  partner; it is remembered apart.
* `tokens` groups pieces into tokens: atoms, anchors, repeats, bars and brackets.  A character set,
  a bounded repeat, a comment and an escape with digits or a name are one token each.  A fault
  inside a token becomes a token itself, so that it is only reported if the reader gets that far.

A lone backslash at the end is met as soon as the piece before it is *taken*: a token that takes the
last piece is therefore replaced by that fault, even if the token is faulty in itself; only a bar or
a closing bracket is looked at before it is taken.

The names of characters, and identifiers beyond ASCII, are the character database's to judge.  It is
handed to the reader; without it such names are not supported.
-/

namespace CodeScan

/-- What patterns may ask of the character database. -/
structure CharacterDatabase where
  /-- The code point of a name. -/
  named : Text → Option CodePoint
  /-- Whether a text with characters beyond ASCII is an identifier. -/
  isIdentifier : Text → Bool

namespace Pattern

/-! ## Pieces -/

/-- A code point of the source, or a backslash with the code point after it. -/
inductive Sign where
  | plain (c : CodePoint)
  | escaped (c : CodePoint)
  deriving DecidableEq

/-- A sign as it stands in the source. -/
def Sign.text : Sign → Text
  | .plain c => [c]
  | .escaped c => [.char '\\', c]

/-- A sign and its position. -/
abbrev Piece := Nat × Sign

/-- The pieces of a source from a position on, and the place of a lone backslash at the end. -/
def pieces (position : Nat) : Text → List Piece × Option Nat
  | [] => ([], none)
  | .char '\\' :: [] => ([], some position)
  | .char '\\' :: c :: rest =>
    let (more, dangling) := pieces (position + 2) rest
    ((position, .escaped c) :: more, dangling)
  | c :: rest =>
    let (more, dangling) := pieces (position + 1) rest
    ((position, .plain c) :: more, dangling)

/-- Where the next piece stands, in a source of length `total`. -/
def nextPosition (total : Nat) : List Piece → Nat
  | [] => total
  | (position, _) :: _ => position

/-- The characters at the front that pass a test, at most `most` of them. -/
def spanChars (test : Char → Bool) : Nat → List Piece → List Char × List Piece
  | 0, rest => ([], rest)
  | _ + 1, [] => ([], [])
  | most + 1, (position, sign) :: rest =>
    match sign with
    | .plain (.char c) =>
      if test c then
        let (found, rest) := spanChars test most rest
        (c :: found, rest)
      else ([], (position, sign) :: rest)
    | _ => ([], (position, sign) :: rest)

/-- The number that digits write in a base; zero if there are none. -/
def digitsValue (base : Nat) (digits : List Char) : Nat :=
  digits.foldl (fun n c => n * base + (Text.hexValue? c).getD 0) 0

/-- Something that was read, or why it was not, with the pieces after it. -/
structure Reading (α : Type) where
  outcome : Except PatternError α
  rest : List Piece

/-- Changes what was read. -/
def Reading.map {α β : Type} (f : α → β) (reading : Reading α) : Reading β :=
  ⟨reading.outcome.map f, reading.rest⟩

/-- A name up to its closing mark.  `start` is where the name starts, and `name` what was read of it
so far. -/
def readName (total : Nat) (named : PatternName) (start : Nat) (name : Text) :
    List Piece → Reading Text
  | [] =>
    let fault : PatternError :=
      if name.isEmpty then .missingName named total else .unterminatedName named start
    ⟨.error fault, []⟩
  | (position, sign) :: rest =>
    if sign = .plain (.char named.closing) then
      ⟨if name.isEmpty then .error (.missingName named position) else .ok name, rest⟩
    else readName total named start (name ++ sign.text) rest

/-! ## Escapes -/

/-- The control characters that have a letter. -/
def controlEscape? : Char → Option Char
  | 'a' => some '\x07'
  | 'f' => some '\x0C'
  | 'n' => some '\n'
  | 'r' => some '\r'
  | 't' => some '\t'
  | 'v' => some '\x0B'
  | _ => none

/-- The character kinds that have a letter, in upper case for the opposite. -/
def kindEscape? : Char → Option CharItem
  | 'd' => some (.kind .digit false)
  | 'D' => some (.kind .digit true)
  | 's' => some (.kind .blank false)
  | 'S' => some (.kind .blank true)
  | 'w' => some (.kind .word false)
  | 'W' => some (.kind .word true)
  | _ => none

/-- The conditions that have a letter. -/
def anchorEscape? : Char → Option Pattern
  | 'A' => some .start
  | 'b' => some (.boundary true)
  | 'B' => some (.boundary false)
  | 'Z' => some .veryEnd
  | _ => none

/-- Whether a character is an octal digit. -/
def isOctalDigit (c : Char) : Bool := '0' ≤ c && c ≤ '7'

/-- Whether a character is a hexadecimal digit. -/
def isHexDigit (c : Char) : Bool := (Text.hexValue? c).isSome

/-- A code point by its number: the digits after an escaped letter, which have a fixed number. -/
def numberEscape (position : Nat) (letter : Char) (width : Nat) (rest : List Piece) :
    Reading CodePoint :=
  let (digits, rest) := spanChars isHexDigit width rest
  let escape : Text := Text.ofChars ('\\' :: letter :: digits)
  let value := digitsValue 16 digits
  let outcome :=
    if digits.length < width then .error (.incompleteEscape escape position)
    else if 0x80000000 ≤ value then .error .codePointNumber
    else if 0x110000 ≤ value then .error (.badEscape escape position)
    else .ok (CodePoint.ofValue value)
  ⟨outcome, rest⟩

/-- A code point by octal digits, of which there are at most three. -/
def octalCodePoint (position : Nat) (digits : List Char) : Except PatternError CodePoint :=
  let value := digitsValue 8 digits
  if 0o377 < value then .error (.octalEscape (Text.ofChars ('\\' :: digits)) position)
  else .ok (CodePoint.ofValue value)

/-- An escaped digit.  In a set it starts up to three octal digits.  Elsewhere it does so if it is
zero or if just three octal digits are there, and refers to a group otherwise. -/
def digitEscape (inSet : Bool) (position : Nat) (digit : Char) (rest : List Piece) :
    Reading CodePoint :=
  let (more, afterOctal) := spanChars isOctalDigit 2 rest
  if inSet then
    if isOctalDigit digit then ⟨octalCodePoint position (digit :: more), afterOctal⟩
    else ⟨.error (.badEscape (Text.ofChars ['\\', digit]) position), rest⟩
  else if digit = '0' ∨ isOctalDigit digit ∧ more.length = 2 then
    ⟨octalCodePoint position (digit :: more), afterOctal⟩
  else ⟨.error (.unsupported .reference position), (spanChars Char.isDigit 1 rest).2⟩

/-- A character by its name, in braces. -/
def nameEscape (database? : Option CharacterDatabase) (total position : Nat) :
    List Piece → Reading CodePoint
  | (brace, .plain (.char '\x7b')) :: rest =>
    let ⟨outcome, rest⟩ := readName total .character (brace + 1) [] rest
    let find (name : Text) : Except PatternError CodePoint :=
      if name.chars?.isNone then .error (.badEscape "\\N" (nextPosition total rest - 2))
      else match database? with
        | none => .error (.unsupported .database position)
        | some database =>
          match database.named name with
          | some c => .ok c
          | none => .error (.undefinedCharacter name position)
    ⟨outcome.bind find, rest⟩
  | rest => ⟨.error (.missingBrace (position + 2)), rest⟩

/-- The code point of an escape that is no kind of character.  A letter needs a meaning of its own;
everything else that is escaped stands for itself. -/
def codePointEscape (database? : Option CharacterDatabase) (total : Nat) (inSet : Bool)
    (position : Nat) (c : CodePoint) (rest : List Piece) : Reading CodePoint :=
  match c with
  | .surrogate _ => ⟨.ok c, rest⟩
  | .char 'x' => numberEscape position 'x' 2 rest
  | .char 'u' => numberEscape position 'u' 4 rest
  | .char 'U' => numberEscape position 'U' 8 rest
  | .char 'N' => nameEscape database? total position rest
  | .char letter =>
    match controlEscape? letter with
    | some x => ⟨.ok (.char x), rest⟩
    | none =>
      if letter.isDigit then digitEscape inSet position letter rest
      else if letter.isAlpha then ⟨.error (.badEscape (Sign.escaped c).text position), rest⟩
      else ⟨.ok c, rest⟩

/-! ## Tokens -/

/-- What a group does with its contents. -/
inductive GroupKind where
  /-- A group with a number, and perhaps a name, which is given with its place. -/
  | numbered (name? : Option (Text × Nat))
  | plain
  | ahead (wanted : Bool)
  | behind (wanted : Bool)
  deriving DecidableEq

/-- A token of a pattern. -/
inductive Token where
  /-- A pattern for one character. -/
  | atom (p : Pattern)
  /-- A condition on the place, which cannot be repeated. -/
  | anchor (p : Pattern)
  /-- A repeat, with the character that introduced it. -/
  | quantifier (mark : Char) (least : Nat) (most : Option Nat)
  | bar
  | opening (kind : GroupKind)
  | closing
  | comment
  | fault (e : PatternError)

/-- A token with the pieces after it. -/
structure Lexed where
  token : Token
  rest : List Piece
  /-- Whether the last piece was taken on the way. -/
  drained : Bool

/-- A token that took all pieces up to `rest`. -/
def lexed (token : Token) (rest : List Piece) : Lexed := ⟨token, rest, rest.isEmpty⟩

/-- The token of what was read. -/
def Reading.lexed {α : Type} (reading : Reading α) (token : α → Token) : Lexed :=
  match reading.outcome with
  | .ok value => Pattern.lexed (token value) reading.rest
  | .error e => Pattern.lexed (.fault e) reading.rest

/-- The pattern for one code point.  A lone surrogate is in no line. -/
def literal : CodePoint → Pattern
  | .char c => .char c
  | c => .set ⟨false, [.single c.value]⟩

/-- The token of an escape outside a set. -/
def escapeToken (database? : Option CharacterDatabase) (total position : Nat) (c : CodePoint)
    (rest : List Piece) : Lexed :=
  match c.char?.bind anchorEscape?, c.char?.bind kindEscape? with
  | some p, _ => lexed (.anchor p) rest
  | none, some item => lexed (.atom (.set ⟨false, [item]⟩)) rest
  | none, none =>
    (codePointEscape database? total false position c rest).lexed fun c => .atom (literal c)

/-- The entry of a set that a sign stands for.  A boundary makes no sense in a set; its letter
stands for the backspace there. -/
def setItem (database? : Option CharacterDatabase) (total position : Nat) (sign : Sign)
    (rest : List Piece) : Reading CharItem :=
  match sign with
  | .plain c => ⟨.ok (.single c.value), rest⟩
  | .escaped (.char 'b') => ⟨.ok (.single 0x08), rest⟩
  | .escaped c =>
    match c.char?.bind kindEscape? with
    | some item => ⟨.ok item, rest⟩
    | none =>
      (codePointEscape database? total true position c rest).map fun c => .single c.value

/-- The rest of a character set whose bracket stands at `start`, after the entries `items`.  A
closing bracket that comes first is an entry.  The first number bounds the entries to come. -/
def readSet (database? : Option CharacterDatabase) (total start : Nat) (negated : Bool) :
    Nat → List CharItem → List Piece → Lexed
  | 0, _, rest => lexed (.fault (.unterminatedSet start)) rest
  | _ + 1, _, [] => lexed (.fault (.unterminatedSet start)) []
  | budget + 1, items, (position, sign) :: rest =>
    if sign = .plain (.char ']') ∧ items ≠ [] then lexed (.atom (.set ⟨negated, items⟩)) rest
    else
      let ⟨outcome, rest⟩ := setItem database? total position sign rest
      match outcome, rest with
      | .error e, rest => lexed (.fault e) rest
      | .ok _, (_, .plain (.char '-')) :: [] => lexed (.fault (.unterminatedSet start)) []
      | .ok item, (_, .plain (.char '-')) :: (lastPosition, lastSign) :: rest =>
        if lastSign = .plain (.char ']') then
          lexed (.atom (.set ⟨negated, items ++ [item, .single '-'.toNat]⟩)) rest
        else
          let ⟨outcome, rest⟩ := setItem database? total lastPosition lastSign rest
          let width := sign.text.length + 1 + lastSign.text.length
          let bad : PatternError :=
            .badRange sign.text lastSign.text (nextPosition total rest - width)
          match outcome with
          | .error e => lexed (.fault e) rest
          | .ok lastItem =>
            match item, lastItem with
            | .single first, .single last =>
              if last < first then lexed (.fault bad) rest
              else readSet database? total start negated budget (items ++ [.range first last]) rest
            | _, _ => lexed (.fault bad) rest
      | .ok item, rest => readSet database? total start negated budget (items ++ [item]) rest

/-- A set, after its opening bracket. -/
def setToken (database? : Option CharacterDatabase) (total start : Nat) : List Piece → Lexed
  | (_, .plain (.char '^')) :: rest =>
    readSet database? total start true (rest.length + 1) [] rest
  | rest => readSet database? total start false (rest.length + 1) [] rest

/-- The number that digits write, if there are any. -/
def number? (digits : List Char) : Option Nat :=
  if digits.isEmpty then none else some (digitsValue 10 digits)

/-- What stands in the way of taking digits as the count of a repeat. -/
def countFault? (digits : List Char) : Option PatternError :=
  if Literal.maxDigits < digits.length then some (.overlongCount digits.length)
  else if (number? digits).any (countBound ≤ ·) then some .repeatCount
  else none

/-- A bounded repeat after its opening brace, which stands at `start`.  A brace that starts no such
repeat is a character. -/
def braceToken (start : Nat) (rest : List Piece) : Lexed :=
  let brace : Token := .atom (.char '\x7b')
  match rest with
  | (_, .plain (.char '\x7d')) :: _ => lexed brace rest
  | _ =>
    let (lower, afterLower) := spanChars Char.isDigit rest.length rest
    let (upper, afterUpper) := match afterLower with
      | (_, .plain (.char ',')) :: more => spanChars Char.isDigit more.length more
      | more => (lower, more)
    match afterUpper with
    | (_, .plain (.char '\x7d')) :: rest =>
      match (countFault? lower).or (countFault? upper) with
      | some e => lexed (.fault e) rest
      | none =>
        let least := (number? lower).getD 0
        let most := number? upper
        if most.any (· < least) then lexed (.fault (.repeatBounds (start + 1))) rest
        else lexed (.quantifier '\x7b' least most) rest
    | _ => ⟨brace, rest, afterUpper.isEmpty⟩

/-- Whether a name may be given to a group, as far as ASCII can tell. -/
def isAsciiIdentifier : List Char → Bool
  | [] => false
  | c :: rest => (c.isAlpha || c == '_') && rest.all fun x => x.isAlphanum || x == '_'

/-- What stands in the way of a name for a group. -/
def groupNameFault? (database? : Option CharacterDatabase) (name : Text) (position : Nat) :
    Option PatternError :=
  let judged (fits : Bool) : Option PatternError :=
    if fits then none else some (.badGroupName name position)
  match name.chars?, database? with
  | none, _ => judged false
  | some cs, database? =>
    if cs.all (·.toNat < 0x80) then judged (isAsciiIdentifier cs)
    else match database? with
      | none => some (.unsupported .database position)
      | some database => judged (database.isIdentifier name)

/-- A group with a name that starts at the given place. -/
def namedGroup (database? : Option CharacterDatabase) (total start : Nat) (rest : List Piece) :
    Lexed :=
  (readName total .group start [] rest).lexed fun name =>
    match groupNameFault? database? name start with
    | some e => .fault e
    | none => .opening (.numbered (some (name, start)))

/-- A comment up to its closing bracket. -/
def commentToken (start : Nat) : List Piece → Lexed
  | [] => lexed (.fault (.unterminatedComment start)) []
  | (_, .plain (.char ')')) :: rest => lexed .comment rest
  | _ :: rest => commentToken start rest

/-- The letters of the switches, and the sign that turns them off. -/
def switches : List Char := ['i', 'L', 'm', 's', 'x', 'a', 't', 'u', '-']

/-- A group whose opening bracket stands at `start`, after the bracket. -/
def groupToken (database? : Option CharacterDatabase) (total start : Nat) : List Piece → Lexed
  | (mark, .plain (.char '?')) :: rest =>
    let unknown (lead : Text) (sign : Sign) (rest : List Piece) : Lexed :=
      lexed (.fault (.unknownExtension (lead ++ sign.text) mark)) rest
    let unsupported (feature : Unsupported) (rest : List Piece) : Lexed :=
      lexed (.fault (.unsupported feature start)) rest
    match rest with
    | [] => lexed (.fault (.unexpectedEnd total)) []
    | (_, .plain (.char ':')) :: rest => lexed (.opening .plain) rest
    | (_, .plain (.char '=')) :: rest => lexed (.opening (.ahead true)) rest
    | (_, .plain (.char '!')) :: rest => lexed (.opening (.ahead false)) rest
    | (_, .plain (.char '#')) :: rest => commentToken start rest
    | (_, .plain (.char '>')) :: rest => unsupported .possessive rest
    | (_, .plain (.char '(')) :: rest => unsupported .reference rest
    | (_, .plain (.char '<')) :: rest =>
      match rest with
      | [] => lexed (.fault (.unexpectedEnd total)) []
      | (_, .plain (.char '=')) :: rest => lexed (.opening (.behind true)) rest
      | (_, .plain (.char '!')) :: rest => lexed (.opening (.behind false)) rest
      | (_, sign) :: rest => unknown "<" sign rest
    | (_, .plain (.char 'P')) :: rest =>
      match rest with
      | [] => lexed (.fault (.unexpectedEnd total)) []
      | (position, .plain (.char '<')) :: rest => namedGroup database? total (position + 1) rest
      | (_, .plain (.char '=')) :: rest => unsupported .reference rest
      | (_, sign) :: rest => unknown "P" sign rest
    | (_, .plain (.char c)) :: rest =>
      if switches.contains c then unsupported .flags rest
      else unknown [] (.plain (.char c)) rest
    | (_, sign) :: rest => unknown [] sign rest
  | rest => lexed (.opening (.numbered none)) rest

/-- The token that starts with the given piece. -/
def token (database? : Option CharacterDatabase) (total : Nat) (piece : Piece)
    (rest : List Piece) : Lexed :=
  match piece with
  | (position, .escaped c) => escapeToken database? total position c rest
  | (position, .plain c) =>
    match c with
    | .char '.' => lexed (.atom .any) rest
    | .char '^' => lexed (.anchor .start) rest
    | .char '$' => lexed (.anchor .finish) rest
    | .char '*' => lexed (.quantifier '*' 0 none) rest
    | .char '+' => lexed (.quantifier '+' 1 none) rest
    | .char '?' => lexed (.quantifier '?' 0 (some 1)) rest
    | .char '\x7b' => braceToken position rest
    | .char '[' => setToken database? total position rest
    | .char '(' => groupToken database? total position rest
    | .char ')' => lexed .closing rest
    | .char '|' => lexed .bar rest
    | c => lexed (.atom (literal c)) rest

/-- The tokens of a list of pieces, each with its position.  The number bounds them; `dangling` is
the place of a lone backslash after the last piece. -/
def tokensFrom (database? : Option CharacterDatabase) (total : Nat) (dangling : Option Nat) :
    Nat → List Piece → List (Nat × Token)
  | 0, _ => []
  | _ + 1, [] =>
    match dangling with
    | some position => [(position, .fault (.endOfPattern position))]
    | none => []
  | budget + 1, piece :: rest =>
    let next := token database? total piece rest
    match dangling, next.drained with
    | some position, true =>
      let stop := (position, Token.fault (.endOfPattern position))
      match next.token with
      | .bar | .closing => [(piece.1, next.token), stop]
      | _ => [stop]
    | _, _ => (piece.1, next.token) :: tokensFrom database? total dangling budget next.rest

/-- The tokens of a source, each with its position. -/
def tokens (database? : Option CharacterDatabase) (source : Text) : List (Nat × Token) :=
  let (pieces, dangling) := pieces 0 source
  tokensFrom database? source.length dangling (pieces.length + 1) pieces

end Pattern

end CodeScan
