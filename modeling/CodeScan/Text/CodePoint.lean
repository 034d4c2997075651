/-!
# Code points and text

Scanned code is made of characters, and `Char` is the right type for it.  Names, identifiers and
messages are a little wider: they arrive as JSON strings, and a JSON escape can write half of a
surrogate pair on its own.  Such a half is a code point but no `Char`, it has no UTF-8 form, and it
has to survive until it is either refused (in code) or written back (in a name).

`CodePoint` is therefore a character *or* a lone surrogate, and `Text` is a list of code points.
Everything that crosses the JSON boundary is a `Text`; everything the matcher looks at is a
`List Char`.  `Text.chars?` is the one place where the second is obtained from the first.
-/

namespace CodeScan

/-- A Unicode code point: a character, or a surrogate that stands without its partner. -/
inductive CodePoint where
  /-- A Unicode scalar value. -/
  | char (c : Char)
  /-- The lone surrogate `0xD800 + offset`. -/
  | surrogate (offset : Fin 0x800)
  deriving DecidableEq

namespace CodePoint

/-- The number of the code point, below `0x110000`. -/
def value : CodePoint → Nat
  | .char c => c.toNat
  | .surrogate offset => 0xD800 + offset.val

/-- The code point with the given number.  Surrogate numbers give lone surrogates; numbers past the
last plane do not occur and fall back to the character `NUL`. -/
def ofValue (n : Nat) : CodePoint :=
  if h : 0xD800 ≤ n ∧ n < 0xE000 then .surrogate ⟨n - 0xD800, by omega⟩ else .char (Char.ofNat n)

/-- The character itself, when the code point is one. -/
def char? : CodePoint → Option Char
  | .char c => some c
  | .surrogate _ => none

/-- Whether a test on characters holds; a lone surrogate passes none. -/
def satisfies (test : Char → Bool) : CodePoint → Bool
  | .char c => test c
  | .surrogate _ => false

end CodePoint

/-- Text as JSON can carry it: characters and lone surrogates. -/
abbrev Text := List CodePoint

namespace Text

/-- Every list of characters is a text. -/
def ofChars (cs : List Char) : Text := cs.map CodePoint.char

/-- Every string is a text. -/
def ofString (s : String) : Text := ofChars s.toList

instance : Coe String Text := ⟨ofString⟩

/-- The characters of a text, if no lone surrogate is among them. -/
def chars? (t : Text) : Option (List Char) := t.mapM CodePoint.char?

/-- The decimal digits of a natural number. -/
def ofNat (n : Nat) : Text := ofChars (Nat.toDigits 10 n)

/-- The decimal digits of an integer, with a minus sign where it is negative. -/
def ofInt : Int → Text
  | .ofNat n => ofNat n
  | .negSucc n => .char '-' :: ofNat (n + 1)

/-- Pads on the left with the digit zero up to a width. -/
def padZeros (width : Nat) (t : Text) : Text :=
  List.replicate (width - t.length) (.char '0') ++ t

/-- The pieces joined with a separator between neighbours. -/
def join (separator : Text) (pieces : List Text) : Text :=
  (pieces.intersperse separator).flatten

/-- ASCII lower case; every other code point stays. -/
def lowerAscii (t : Text) : Text :=
  t.map fun
    | .char c => .char c.toLower
    | .surrogate offset => .surrogate offset

/-- ASCII upper case; every other code point stays. -/
def upperAscii (t : Text) : Text :=
  t.map fun
    | .char c => .char c.toUpper
    | .surrogate offset => .surrogate offset

/-- Splits a list at every element equal to the separator.  There is always at least one piece, and
`n` separators give `n + 1` of them. -/
def splitOn {α : Type} [DecidableEq α] (separator : α) : List α → List (List α)
  | [] => [[]]
  | x :: rest =>
    if x = separator then [] :: splitOn separator rest
    else match splitOn separator rest with
      | [] => [[x]]
      | piece :: pieces => (x :: piece) :: pieces

@[simp] theorem ofChars_nil : ofChars [] = [] := rfl

@[simp] theorem ofChars_cons (c : Char) (cs : List Char) :
    ofChars (c :: cs) = .char c :: ofChars cs := rfl

/-- Characters survive the passage through text. -/
@[simp] theorem chars?_ofChars (cs : List Char) : (ofChars cs).chars? = some cs := by
  induction cs with
  | nil => rfl
  | cons c cs ih => simp_all [chars?, CodePoint.char?]

/-- The characters of a text are those that it is made of. -/
theorem chars?_eq_some_iff {t : Text} {cs : List Char} : t.chars? = some cs ↔ t = ofChars cs := by
  constructor
  · intro h
    induction t generalizing cs with
    | nil => simp_all [chars?]
    | cons c t ih =>
      cases c with
      | surrogate offset => simp [chars?, CodePoint.char?] at h
      | char c =>
        have hsplit : (chars? t).bind (fun rest => some (c :: rest)) = some cs := by
          simpa [chars?, CodePoint.char?] using h
        obtain ⟨rest, hrest, hcs⟩ := Option.bind_eq_some_iff.1 hsplit
        cases hcs
        rw [ofChars_cons, ih hrest]
  · rintro rfl
    exact chars?_ofChars cs

/-- Different lists of characters are different texts. -/
theorem ofChars_inj {cs ds : List Char} : ofChars cs = ofChars ds ↔ cs = ds := by
  rw [← chars?_eq_some_iff, chars?_ofChars, Option.some_inj]

end Text

end CodeScan
