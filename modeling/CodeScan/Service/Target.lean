import CodeScan.Text.Hex
import CodeScan.Text.Utf8

/-!
# Request targets

A target is a path, a query after a question mark, and perhaps a fragment that is never sent.  It is
resolved against the root of the service: an authority in front of the path is dropped, and single
and double points between slashes are followed.

Routes are chosen by the path alone, with its percent encoding undone; the query is only carried
along when a request is sent to another place.  A location has everything encoded that cannot stand
in a header.
-/

namespace CodeScan

namespace Service

/-- The bytes of a percent-encoded text.  A percent sign without two digits stands for itself. -/
def percentDecode : List Char → List UInt8
  | '%' :: a :: b :: rest =>
    match Text.hexValue? a, Text.hexValue? b with
    | some high, some low => UInt8.ofNat (high * 16 + low) :: percentDecode rest
    | _, _ => String.utf8EncodeChar '%' ++ percentDecode (a :: b :: rest)
  | c :: rest => String.utf8EncodeChar c ++ percentDecode rest
  | [] => []

/-- The characters that stand unencoded in a location: letters, digits and the marks of an
address. -/
def isLocationChar (c : Char) : Bool :=
  c.isAlphanum || "_.-~:/%#?=@[]!$&'()*+,;".toList.contains c

/-- One byte in percent encoding. -/
def percentByte (b : UInt8) : Text := .char '%' :: Text.upperAscii (Text.hex 2 b.toNat)

/-- A text with every character encoded that cannot stand in a location. -/
def percentEncode (t : Text) : Text :=
  t.flatMap fun
    | .char c =>
      if isLocationChar c then [.char c] else (String.utf8EncodeChar c).flatMap percentByte
    | .surrogate _ => []

/-- A path without the authority that two slashes at its start announce. -/
def withoutAuthority : List Char → List Char
  | '/' :: '/' :: rest => rest.dropWhile (· ≠ '/')
  | path => path

/-- Follows the points among the segments of a path.  The first argument holds the segments before
them, the last one first; the empty segment that stands before the first slash is never left. -/
def followPoints : List (List Char) → List (List Char) → List (List Char)
  | before, [] => before.reverse
  | before, segment :: rest =>
    if segment = ['.'] then followPoints before rest
    else if segment = ['.', '.'] then
      followPoints (if before = [[]] then before else before.drop 1) rest
    else followPoints (segment :: before) rest

/-- The path that a written path leads to from the root. -/
def resolvePath (written : List Char) : List Char :=
  let rooted := '/' :: (withoutAuthority written).dropWhile (· = '/')
  match ((followPoints [] (Text.splitOn '/' rooted)).intersperse ['/']).flatten with
  | [] => ['/']
  | path => path

/-- What a request asks for. -/
structure Target where
  /-- The path, decoded. -/
  path : Text
  /-- The query without its question mark; empty if there is none. -/
  query : Text

/-- Takes a target apart. -/
def Target.ofChars (written : List Char) : Target :=
  let sent := written.takeWhile (· ≠ '#')
  let path := resolvePath (sent.takeWhile (· ≠ '?'))
  { path := Text.ofChars (Utf8.decode (percentDecode path))
    query := Text.ofChars ((sent.dropWhile (· ≠ '?')).drop 1) }

/-- The location of a path on a host, with a query unless that is empty. -/
def location (host path query : Text) : Text :=
  let question : Text := if query.isEmpty then [] else .char '?' :: query
  percentEncode ("http://" ++ host ++ path ++ question)

end Service

end CodeScan
