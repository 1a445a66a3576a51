/-!
# FitProfile.Source.Layout -- lines and blocks of source text

Source text is a list of lines, each of which ends with a line feed. A block has a head
line, a body one level deeper, and a foot line; `keyword` is the line of a keyword
argument, with an optional remark. Blocks are built from their lines, so every block that
is opened is closed.

The writer does the same one call at a time: it keeps a level and the text so far.
-/

namespace FitProfile.Source

/-- The white space of one level. -/
def indentUnit : String := "    "

/-- The white space in front of a line at a level; there is none at a level below zero. -/
def indentation (level : Int) : String :=
  String.ofList (List.replicate level.toNat indentUnit.toList).flatten

/-- A line one level deeper; an empty line stays empty. -/
def deeper (line : String) : String := if line.toList.isEmpty then line else indentUnit ++ line

/-- A block: a head, a body one level deeper, and a foot. -/
def block (head : String) (body : List String) (foot : String) : List String :=
  head :: body.map deeper ++ [foot]

/-- A remark behind a line. -/
def remark (comment : String) : String :=
  if comment.toList.isEmpty then "" else "  # " ++ comment

/-- The line of a keyword argument. -/
def keyword (name value : String) (comment : String) : String :=
  name ++ "=" ++ value ++ "," ++ remark comment

/-- Lines as text. -/
def text (lines : List String) : String := String.join (lines.map fun line => line ++ "\n")

/-- A writer: the level of the next line, and the text so far. -/
structure Writer where
  level : Int
  text : String
  deriving DecidableEq, Repr

namespace Writer

/-- A writer at the outermost level that has written nothing. -/
def empty : Writer := ⟨0, ""⟩

/-- Writes text as it is. -/
def write (w : Writer) (s : String) : Writer := { w with text := w.text ++ s }

/-- Writes a line at the level of the writer; an empty line has no indentation. -/
def writeLine (w : Writer) (line : String) : Writer :=
  if line.toList.isEmpty then w.write "\n" else w.write (indentation w.level ++ line ++ "\n")

/-- Writes a line and goes one level deeper. -/
def openBlock (w : Writer) (head : String) : Writer :=
  let w := w.writeLine head
  { w with level := w.level + 1 }

/-- Goes one level back and writes a line. -/
def closeBlock (w : Writer) (foot : String) : Writer :=
  { w with level := w.level - 1 }.writeLine foot

/-- Writes the line of a keyword argument. -/
def writeKeyword (w : Writer) (name value comment : String) : Writer :=
  w.writeLine (keyword name value comment)

end Writer

end FitProfile.Source
