import CodeScan.Text.CodePoint

/-!
# File trees

Files are opened by path.  `FileSource` is all the batch needs to know about a file system: a path
gives bytes or a reason why it cannot be opened.  `FileTree` is a file system held in memory, with
the rules by which a path is walked from the working directory.

## Walking a path

Components are followed from left to right; empty ones and single points stay where they are, and
two points go up.  Names are compared by their bytes.  Every component but the last must be a
folder, and so must the last one if a slash follows it.  Nothing is known about the world outside
the working directory but that it has folders going up, so every name out there is absent.
-/

namespace CodeScan

/-- Why a path cannot be opened. -/
inductive OpenFault where
  | denied
  | notFound
  | notFolder
  | isFolder
  | nameTooLong
  /-- The path holds the character `NUL`. -/
  | nulCharacter
  /-- The code points from `first` to `last` have no byte form. -/
  | unencodable (first last : Nat) (sample : CodePoint)
  /-- Any other reason of the file system, with its number. -/
  | other (number : Nat) (reason : Text)
  deriving DecidableEq

/-- A file system: what is read under a path. -/
abbrev FileSource := Text → Except OpenFault (List UInt8)

namespace PathText

/-- A surrogate that stands for a raw byte. -/
def isRawByte (c : CodePoint) : Bool := 0xDC80 ≤ c.value && c.value ≤ 0xDCFF

/-- A lone surrogate. -/
def isSurrogate : CodePoint → Bool
  | .surrogate _ => true
  | .char _ => false

/-- The bytes of a path: a raw byte stands for itself, everything else is UTF-8. -/
def bytes (t : Text) : List UInt8 :=
  t.flatMap fun
    | .char c => String.utf8EncodeChar c
    | raw => [UInt8.ofNat (raw.value - 0xDC00)]

/-- The first code point without a byte form, with the lone surrogates right after it. -/
def unencodable? (t : Text) : Option OpenFault :=
  let bad (c : CodePoint) : Bool := isSurrogate c && !isRawByte c
  match t.findIdx? bad, t.find? bad with
  | some first, some sample =>
    let run := (t.drop first).takeWhile isSurrogate
    some (.unencodable first (first + run.length - 1) sample)
  | _, _ => none

/-- What is wrong with a path before any file system is asked. -/
def fault? (path : Text) : Option OpenFault :=
  match unencodable? path with
  | some fault => some fault
  | none => if path.contains (.char '\x00') then some .nulCharacter else none

end PathText

/-- The bytes of a file's or a folder's name. -/
abbrev NameBytes := List UInt8

/-- A file system in memory.  Paths are lists of names from the working directory down. -/
structure FileTree where
  files : List (List NameBytes × List UInt8)
  /-- Folders besides those that hold a file. -/
  folders : List (List NameBytes)
  /-- Paths that may not be opened, as they are written. -/
  denied : List Text

namespace FileTree

/-- A place in the walk: a folder of the tree, or one outside of it. -/
inductive Place where
  | inside (path : List NameBytes)
  | outside

/-- Whether the path leads to a folder. -/
def isFolder (tree : FileTree) (path : List NameBytes) : Bool :=
  path.isEmpty || tree.folders.any (path.isPrefixOf ·) ||
    tree.files.any fun file => path.length < file.1.length && path.isPrefixOf file.1

/-- The contents of the file at a path. -/
def file? (tree : FileTree) (path : List NameBytes) : Option (List UInt8) :=
  tree.files.lookup path

/-- The folder above a place. -/
def parent : Place → Place
  | .inside [] | .outside => .outside
  | .inside path => .inside path.dropLast

/-- The longest name in bytes. -/
def maxNameBytes : Nat := 255

/-- The longest path in bytes. -/
def maxPathBytes : Nat := 4095

/-- Walks the components of a path from a place. -/
def walk (tree : FileTree) : Place → List Text → Except OpenFault (List UInt8)
  | _, [] => .error .isFolder
  | place, component :: rest =>
    if component.isEmpty ∨ component = ([.char '.'] : Text) then walk tree place rest
    else if component = ([.char '.', .char '.'] : Text) then walk tree (parent place) rest
    else if maxNameBytes < (PathText.bytes component).length then .error .nameTooLong
    else match place with
      | .outside => .error .notFound
      | .inside path =>
        let path := path ++ [PathText.bytes component]
        match tree.file? path with
        | some bytes => if rest.isEmpty then .ok bytes else .error .notFolder
        | none =>
          if tree.isFolder path then walk tree (.inside path) rest else .error .notFound

/-- Opens a path of the tree. -/
def source (tree : FileTree) : FileSource := fun path =>
  if tree.denied.contains path then .error .denied
  else match PathText.fault? path with
    | some fault => .error fault
    | none =>
      if maxPathBytes < (PathText.bytes path).length then .error .nameTooLong
      else if path.isEmpty then .error .notFound
      else
        let start : Place := if path.head? = some (.char '/') then .outside else .inside []
        tree.walk start (Text.splitOn (.char '/') path)

end FileTree

end CodeScan
