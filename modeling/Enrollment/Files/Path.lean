import Enrollment.Text.Pieces

/-!
# Paths

A path is a sequence of names, below the working directory or below the root. Its text has no
empty names and no `.`; `..` stays where it is. Two slashes in front, and not more, are kept.
-/

namespace Enrollment

/-- A path: the slashes in front and the names. -/
structure Path where
  root : String := ""
  names : List String
deriving DecidableEq, Repr, Inhabited

namespace Path

/-- Reads a path. -/
def ofText (text : String) : Path :=
  let slashes := (text.toList.takeWhile (· == '/')).length
  let root := if slashes = 0 then "" else if slashes = 2 then "//" else "/"
  let pieces := (Text.pieces '/' text.toList).map String.ofList
  let names := pieces.filter fun name => name != "" && name != "."
  ⟨root, names⟩

/-- The text of a path; a path without names below the working directory is `.`. -/
def text (p : Path) : String :=
  if p.names.isEmpty then (if p.root = "" then "." else p.root)
  else p.root ++ String.intercalate "/" p.names

/-- A path below another. One that starts from the root stands alone. -/
def append (p q : Path) : Path :=
  if q.root = "" then ⟨p.root, p.names ++ q.names⟩ else q

/-- The path of the directory that a path is in. -/
def parent (p : Path) : Path := ⟨p.root, p.names.dropLast⟩

/-- Whether the text of a path has a NUL, which no file system takes. -/
def hasNul (p : Path) : Bool := p.names.any fun name => name.toList.contains '\x00'

end Path

end Enrollment
