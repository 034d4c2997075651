import CodeScan.File.Tree
import CodeScan.Text.Lines
import CodeScan.Text.Quoted
import CodeScan.Text.Utf8

/-!
# Reading files

A file is read as text: its bytes are decoded with replacements, and every line ending becomes a
line feed.  A file that cannot be opened gives a message.  Two faults of a path are more than that:
a path that no file system can be asked about ends the whole batch.
-/

namespace CodeScan

/-- The message that code points of a text have no UTF-8 form. -/
def unencodableMessage (first last : Nat) (sample : CodePoint) : Text :=
  if first = last then
    "'utf-8' codec can't encode character '" ++ Text.numericEscape sample ++ "' in position " ++
      Text.ofNat first ++ ": surrogates not allowed"
  else
    "'utf-8' codec can't encode characters in position " ++ Text.ofNat first ++ "-" ++
      Text.ofNat last ++ ": surrogates not allowed"

/-- A path that no file system can be asked about. -/
inductive PathFault where
  | nulCharacter
  | unencodable (first last : Nat) (sample : CodePoint)

/-- The wording of such a fault. -/
def PathFault.message : PathFault → Text
  | .nulCharacter => "embedded null byte"
  | .unencodable first last sample => unencodableMessage first last sample

/-- What came of reading a file. -/
inductive ReadResult where
  | text (code : List Char)
  /-- The file is left out of the batch, with a message. -/
  | unreadable (message : Text)
  /-- The path ends the batch. -/
  | impossible (fault : PathFault)

namespace ReadResult

/-- The message of a fault that has a number. -/
def numberedMessage (path : Text) (number : Nat) (reason : Text) : Text :=
  "Failed to read file: " ++ path ++ " ([Errno " ++ Text.ofNat number ++ "] " ++ reason ++ ": " ++
    path.quoted ++ ")"

/-- What a fault means for the reader. -/
def ofFault (path : Text) : OpenFault → ReadResult
  | .denied => .unreadable ("Permission denied: " ++ path)
  | .notFound => .unreadable ("File not found: " ++ path)
  | .notFolder => .unreadable (numberedMessage path 20 "Not a directory")
  | .isFolder => .unreadable (numberedMessage path 21 "Is a directory")
  | .nameTooLong => .unreadable (numberedMessage path 36 "File name too long")
  | .other number reason => .unreadable (numberedMessage path number reason)
  | .nulCharacter => .impossible .nulCharacter
  | .unencodable first last sample => .impossible (.unencodable first last sample)

end ReadResult

/-- The text of a file's bytes. -/
def fileText (bytes : List UInt8) : List Char := Text.unifyNewlines (Utf8.decode bytes)

/-- Reads the file at a path. -/
def FileSource.read (source : FileSource) (path : Text) : ReadResult :=
  match source path with
  | .ok bytes => .text (fileText bytes)
  | .error fault => .ofFault path fault

end CodeScan
