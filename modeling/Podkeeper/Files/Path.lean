/-
Paths.

A path is text with slashes between its parts. Joining keeps an absolute path as it is. The parts
of a path are read from left to right: a point stays, two points go up, and anything else is the
name of an entry.
-/

namespace Podkeeper.Path

/-- The path begins at the root. -/
def isAbsolute (path : String) : Bool := path.startsWith "/"

/-- A path behind another one; an absolute path stands for itself. -/
def join (base rest : String) : String :=
  if isAbsolute rest || base = "" then rest
  else if base.endsWith "/" then base ++ rest
  else base ++ "/" ++ rest

/-- Splits characters at slashes; `part` holds the part under way, last character first. -/
def splitFrom (part : List Char) : List Char → List (List Char)
  | [] => [part.reverse]
  | '/' :: rest => part.reverse :: splitFrom [] rest
  | c :: rest => splitFrom (c :: part) rest

/-- The parts of a path, empty ones left out. -/
def parts (path : String) : List String :=
  ((splitFrom [] path.toList).filter (!·.isEmpty)).map String.ofList

/-- The parts of the path above; points at the end do not count as parts. -/
def above (parts : List String) : List String :=
  ((parts.reverse.dropWhile (· = ".")).tail.dropWhile (· = ".")).reverse

/-- A name is a part of its own: not empty, not a point or two, without slashes, backslashes and
NUL. -/
def isPlainName (name : String) : Bool :=
  name ≠ "" && name ≠ "." && name ≠ ".." &&
    name.toList.all fun c => c ≠ '/' && c ≠ '\\' && c ≠ '\x00'

/-- Exactly two slashes begin the path, which may name something special and is kept. -/
def hasDoubleRoot : List Char → Bool
  | '/' :: '/' :: '/' :: _ => false
  | '/' :: '/' :: _ => true
  | _ => false

/-- The absolute form of a path, read from a working directory: empty parts and single points are
dropped, two points stay, and so does a slash at the end. The empty path has none. -/
def absolute? (workingDirectory path : String) : Option String :=
  if path = "" then none
  else
    let root :=
      if hasDoubleRoot path.toList then "//"
      else if isAbsolute path then "/"
      else workingDirectory
    let whole := ((parts path).filter (· ≠ ".")).foldl join root
    some (if path.endsWith "/" then join whole "" else whole)

end Podkeeper.Path
