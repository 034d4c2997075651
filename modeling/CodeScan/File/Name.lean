import CodeScan.Text.Case

/-!
# File names

A path is a list of components between slashes.  Empty components and single points mean nothing and
are dropped; the name of the file is the last component that is left.  The extension of a name
starts at its last point, unless that is its first or its last character.
-/

namespace CodeScan

namespace FileName

/-- The components of a path that mean something. -/
def components (path : Text) : List Text :=
  (Text.splitOn (.char '/') path).filter fun part => !part.isEmpty && part != ([.char '.'] : Text)

/-- The last component of a path; empty if there is none. -/
def ofPath (path : Text) : Text := (components path).getLast?.getD []

/-- The extension of a name, with its point; empty if it has none. -/
def extension (name : Text) : Text :=
  let tail := (name.reverse.takeWhile (· ≠ .char '.')).reverse
  -- The part before the last point is missing if there is no point at all.
  let stemLength := name.length - tail.length - 1
  if tail.length = name.length ∨ tail.isEmpty ∨ stemLength = 0 then []
  else .char '.' :: tail

/-- The extensions of source files that are scanned. -/
def supportedExtensions : List Text := [".js", ".py", ".ts", ".jsx", ".tsx"]

/-- Whether a file of the given name is scanned. -/
def isSupported (name : Text) : Bool :=
  supportedExtensions.contains (extension (ofPath name)).lower

end FileName

end CodeScan
