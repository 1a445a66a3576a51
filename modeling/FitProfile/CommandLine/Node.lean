import FitProfile.Workbook.Payload
import FitProfile.CommandLine.Path
/-!
# FitProfile.CommandLine.Node -- files and nested directories

A node is a file with its content, or a directory with nodes by their names. What stands
at a path below a node is found name by name (`Node.get?`), and what is put there is found
there again (`Node.get?_put_self`).
-/

namespace FitProfile.CommandLine

/-- What a file holds: text, or a payload given as such. -/
inductive Content where
  | text (s : String)
  | payload (p : Payload)
  deriving DecidableEq, Repr

namespace Content

/-- The content of bytes: text where they are text in UTF-8. -/
def ofBytes (data : ByteArray) : Content :=
  match String.fromUTF8? data with
  | some s => .text s
  | none => .payload (.bytes data.toList)

/-- The content as the payload of a workbook. -/
def asPayload : Content → Payload
  | .text s => .bytes s.toUTF8.toList
  | .payload p => p

end Content

/-- A file or a directory. -/
inductive Entry where
  | directory
  | file (content : Content)
  deriving DecidableEq, Repr

/-- A file, or a directory with what it holds. -/
inductive Node where
  | file (content : Content)
  | directory (children : List (String × Node))
  deriving Inhabited

namespace Node

/-- What a directory holds; a file holds nothing by name. -/
def children : Node → List (String × Node)
  | .file _ => []
  | .directory children => children

/-- What stands under a name. -/
def child? (node : Node) (name : String) : Option Node := node.children.lookup name

/-- Whether a node is a file or a directory, without what the directory holds. -/
def entry : Node → Entry
  | .file content => .file content
  | .directory _ => .directory

/-- What stands at a path below a node. -/
def get? (node : Node) : Path → Option Node
  | [] => some node
  | name :: rest => (node.child? name).bind fun child => child.get? rest

/-- Puts a node under a name, in place of the one there or at the end. -/
def putChild (name : String) (child : Node) : List (String × Node) → List (String × Node)
  | [] => [(name, child)]
  | c :: rest => if c.1 = name then (name, child) :: rest else c :: putChild name child rest

/-- A file or a directory in place of what is there; a directory that is there keeps what
it holds. -/
def renew : Entry → Option Node → Node
  | .file content, _ => .file content
  | .directory, old => .directory (old.elim [] children)

/-- Puts a file or a directory at a path below a node, with the directories that lead
there. -/
def put (entry : Entry) : Path → Option Node → Node
  | [], old => renew entry old
  | name :: rest, old =>
    let present := old.elim [] children
    .directory (putChild name (put entry rest (present.lookup name)) present)

mutual

/-- The files and directories of a node that stands at a path. -/
def entriesFrom (path : Path) : Node → List (Path × Entry)
  | .file content => [(path, .file content)]
  | .directory children => (path, .directory) :: entriesBelow path children

/-- The files and directories that a directory at a path holds. -/
def entriesBelow (path : Path) : List (String × Node) → List (Path × Entry)
  | [] => []
  | (name, node) :: rest => entriesFrom (path ++ [name]) node ++ entriesBelow path rest

end

/-- A node that is put under a name is found there. -/
theorem lookup_putChild_self (name : String) (child : Node) (children : List (String × Node)) :
    (putChild name child children).lookup name = some child := by
  induction children with
  | nil => simp [putChild]
  | cons c rest ih =>
    unfold putChild
    split
    · simp
    next hne =>
      have hne' : (name == c.1) = false := beq_eq_false_iff_ne.mpr fun h => hne h.symm
      rw [List.lookup_cons, hne']
      exact ih

/-- Putting a node under a name leaves those under all other names. -/
theorem lookup_putChild_of_ne {name other : String} (h : other ≠ name) (child : Node)
    (children : List (String × Node)) :
    (putChild name child children).lookup other = children.lookup other := by
  have h' : (other == name) = false := beq_eq_false_iff_ne.mpr h
  induction children with
  | nil => rw [putChild, List.lookup_cons, h']
  | cons c rest ih =>
    unfold putChild
    split
    next heq => rw [List.lookup_cons, List.lookup_cons, heq, h']
    next => rw [List.lookup_cons, List.lookup_cons, ih]

/-- What is put at a path is found there. -/
theorem get?_put_self (entry : Entry) (path : Path) (old : Option Node) :
    (put entry path old).get? path = some (renew entry (old.bind fun node => node.get? path)) := by
  induction path generalizing old with
  | nil => cases old <;> rfl
  | cons name rest ih =>
    simp only [put, get?, child?, children, lookup_putChild_self, Option.bind_some]
    rw [ih]
    cases old <;> rfl

end Node

end FitProfile.CommandLine
