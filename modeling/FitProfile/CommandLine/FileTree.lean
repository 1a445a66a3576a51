import FitProfile.CommandLine.Node
/-!
# FitProfile.CommandLine.FileTree -- files and directories

A file tree holds files and directories, and a working directory at which the texts of
paths begin.

The way along a text goes name by name (`Place.step`): each name must be taken in a
directory that is there, so a double dot leads back only from a place that exists. The
place behind the last name need not exist (`FileTree.locate`); `FileTree.find` asks that
it does.

There are no links here, neither symbolic nor hard ones: each path stands for one file,
and what is written at a path changes no other. Nor are there permissions, and a text that
is written is written whole.
-/

namespace FitProfile.CommandLine

/-- Why a file or directory cannot be used. -/
inductive FileFault where
  | notFound
  | alreadyExists
  | notADirectory
  | isADirectory
  | nameTooLong
  | nestedTooDeep
  | nullCharacter
  | notText
  deriving DecidableEq, Repr

namespace FileFault

/-- The wording of a fault, with the number that a fault of the file system has. -/
def text : FileFault → String
  | .notFound => "[Errno 2] No such file or directory"
  | .alreadyExists => "[Errno 17] File exists"
  | .notADirectory => "[Errno 20] Not a directory"
  | .isADirectory => "[Errno 21] Is a directory"
  | .nameTooLong => "[Errno 36] File name too long"
  | .nestedTooDeep => "too many directories to make"
  | .nullCharacter => "embedded null byte"
  | .notText => "not text"

end FileFault

/-- A place on the way through a file tree: the names that lead to it from the root, the
last one first, what stands there, and the directories passed, the last one first. -/
structure Place where
  names : List String
  node : Option Node
  above : List Node

namespace Place

/-- The greatest number of bytes in a name. -/
def longestName : Nat := 255

/-- The root of a tree. -/
def root (node : Node) : Place := ⟨[], some node, []⟩

/-- The path from the root. -/
def path (place : Place) : Path := place.names.reverse

/-- Goes back to the directory that a place lies in; the root lies in itself. -/
def leave (place : Place) : Place :=
  match place.names, place.above with
  | _ :: names, node :: above => ⟨names, some node, above⟩
  | _, _ => place

/-- Goes on by a name in a directory: a dot stays, a double dot goes back. -/
def enter (place : Place) (directory : Node) (name : String) : Place :=
  if name = "." then place
  else if name = ".." then place.leave
  else ⟨name :: place.names, directory.child? name, directory :: place.above⟩

/-- Takes a name, which needs a directory to take it in. -/
def step (place : Place) (name : String) : Except FileFault Place :=
  match place.node with
  | none => .error .notFound
  | some (.file _) => .error .notADirectory
  | some directory =>
    if longestName < name.utf8ByteSize then .error .nameTooLong
    else .ok (place.enter directory name)

end Place

/-- Files and directories, and the directory that path texts begin at. -/
structure FileTree where
  working : Path
  root : Node

namespace FileTree

/-- The greatest number of bytes in the text of a path. -/
def longestPath : Nat := 4095

/-- The greatest number of nested directories that are made at once. The program makes them
by recursion, with one call for each level, up to a limit on the depth of calls; how many
levels that leaves depends on the calls around it, so the number is an estimate. -/
def deepestNesting : Nat := 990

/-- What stands at a path. -/
def get? (tree : FileTree) (path : Path) : Option Entry :=
  (tree.root.get? path).map Node.entry

/-- Puts a file or a directory in place, with the directories that lead there. -/
def put (tree : FileTree) (path : Path) (entry : Entry) : FileTree :=
  { tree with root := Node.put entry path (some tree.root) }

/-- The tree of a working directory and of files and directories, put in place in order. -/
def ofEntries (working : Path) (entries : List (Path × Entry)) : FileTree :=
  entries.foldl (fun tree e => tree.put e.1 e.2) ⟨working, Node.put .directory working none⟩

/-- All files and directories by their paths. -/
def entries (tree : FileTree) : List (Path × Entry) := tree.root.entriesFrom []

/-- Where the text of a path begins. -/
def start (tree : FileTree) (s : String) : Except FileFault Place :=
  if Path.fromRoot s then .ok (Place.root tree.root)
  else tree.working.foldlM Place.step (Place.root tree.root)

/-- The place that a text leads to, name by name. -/
def locate (tree : FileTree) (s : String) : Except FileFault Place := do
  if s.toList.contains '\x00' then throw .nullCharacter
  if s.toList.isEmpty then throw .notFound
  if longestPath < s.utf8ByteSize then throw .nameTooLong
  (Path.names s).foldlM Place.step (← tree.start s)

/-- What stands where a text leads to; behind a slash only a directory can. -/
def find (tree : FileTree) (s : String) : Except FileFault Entry := do
  match (← tree.locate s).node with
  | none => throw .notFound
  | some (.directory _) => return .directory
  | some (.file content) =>
    if Path.endsInSlash s then throw .notADirectory else return .file content

/-- Whether a text leads to a file or a directory. -/
def contains (tree : FileTree) (s : String) : Bool := (tree.find s).toOption.isSome

/-- Whether a text leads to a directory. -/
def hasDirectory (tree : FileTree) (s : String) : Bool :=
  (tree.find s).toOption == some .directory

/-- Reads a file. -/
def read (tree : FileTree) (s : String) : Except FileFault Content := do
  match ← tree.find s with
  | .directory => throw .isADirectory
  | .file content => return content

/-- Makes a directory, unless there is one. -/
def makeDirectory (tree : FileTree) (s : String) : FileTree × Option FileFault :=
  match tree.locate s with
  | .error fault => (tree, some fault)
  | .ok place =>
    match place.node with
    | none => (tree.put place.path .directory, none)
    | some _ => (tree, if tree.hasDirectory s then none else some .alreadyExists)

/-- Makes a directory after the directory that it lies in, as far as that is missing, and
so on for a limited number of levels. What is made stays, also when a later one cannot be
made. -/
def makeNested (tree : FileTree) (cs : List Char) : Nat → FileTree × Option FileFault
  | 0 => (tree, some .nestedTooDeep)
  | levels + 1 =>
    let (above, last) := Path.parent cs
    if above.isEmpty || last.isEmpty || tree.contains (String.ofList above) then
      tree.makeDirectory (String.ofList cs)
    else
      match tree.makeNested above levels with
      | (tree, none) | (tree, some .alreadyExists) =>
        if last = ['.'] then (tree, none) else tree.makeDirectory (String.ofList cs)
      | failed => failed

/-- Makes a directory and those that lead to it, as far as they are missing. -/
def makeDirectories (tree : FileTree) (s : String) : FileTree × Option FileFault :=
  tree.makeNested s.toList deepestNesting

/-- Writes a file. -/
def write (tree : FileTree) (s text : String) : Except FileFault FileTree := do
  let place ← tree.locate s
  match place.node with
  | some (.directory _) => throw .isADirectory
  | _ => return tree.put place.path (.file (.text text))

/-- The files with text below the working directory that are not the same in an earlier
tree, by their paths from there. -/
def changesSince (tree earlier : FileTree) : List (Path × String) :=
  tree.entries.filterMap fun e =>
    match e.2 with
    | .file (.text s) =>
      if tree.working.isPrefixOf e.1 && earlier.get? e.1 != some e.2 then
        some (e.1.drop tree.working.length, s)
      else none
    | _ => none

/-- What is put in place is there. -/
theorem get?_put_self (tree : FileTree) (path : Path) (entry : Entry) :
    (tree.put path entry).get? path = some entry := by
  unfold get? put
  rw [Node.get?_put_self]
  cases entry <;> rfl

end FileTree

end FitProfile.CommandLine
