import FitProfile.Text.CommaList
/-!
# FitProfile.CommandLine.Path -- paths and their texts

A path is the list of the names on the way from the root. The text of a path separates
names by slashes and begins at the working directory, or at the root if a slash leads it.
-/

namespace FitProfile.CommandLine

/-- The names on the way from the root. -/
abbrev Path := List String

namespace Path

/-- The names in the text of a path; empty ones do not count. -/
def names (s : String) : List String :=
  ((Text.splitAtChar '/' s.toList).filter fun piece => !piece.isEmpty).map String.ofList

/-- Whether the text of a path begins at the root. -/
def fromRoot (s : String) : Bool := s.toList.head? == some '/'

/-- Whether the text of a path ends with a slash. -/
def endsInSlash (s : String) : Bool := s.toList.getLast? == some '/'

/-- Goes on by a name: a dot stays, a double dot goes back. -/
def enter (path : Path) (name : String) : Path :=
  if name = "." then path else if name = ".." then path.dropLast else path ++ [name]

/-- The path as text, from where it begins. -/
def text (path : Path) : String := "/".intercalate path

/-- The text of a path below a directory. -/
def join (directory name : String) : String :=
  if endsInSlash directory then directory ++ name else directory ++ "/" ++ name

/-- Characters without the slashes at their end, unless there is nothing else. -/
def trimSlashes (cs : List Char) : List Char :=
  if cs.all (· == '/') then cs else (cs.reverse.dropWhile (· == '/')).reverse

/-- The text of a path up to its last name, and what stands behind the last slash. -/
def splitLast (cs : List Char) : List Char × List Char :=
  (trimSlashes (cs.reverse.dropWhile (· != '/')).reverse,
   (cs.reverse.takeWhile (· != '/')).reverse)

/-- The text of the directory that a directory lies in, and the last name; one slash at
the end of the text does not count. -/
def parent (cs : List Char) : List Char × List Char :=
  match splitLast cs with
  | (head, []) => splitLast head
  | parts => parts

end Path

end FitProfile.CommandLine
