import FitProfile.Fault
/-!
# FitProfile.Reported -- results with the notes made on the way

A long computation notes warnings and its progress while it works. Notes that were made
before a fault stay.
-/

namespace FitProfile

/-- A value name that a type uses twice. -/
structure DuplicateName where
  name : String
  type : String
  earlier : Int
  later : Int
  deriving DecidableEq, Repr

namespace DuplicateName

/-- The wording of the warning. -/
def text (w : DuplicateName) : String :=
  "Duplicate value name " ++ Text.quoted w.name ++ " in type " ++ Text.quoted w.type ++
    " (values " ++ Number.decimal w.earlier ++ " and " ++ Number.decimal w.later ++ ")"

/-- Whether the wording can be written. -/
def isWritable (w : DuplicateName) : Bool :=
  Number.isWritable w.earlier && Number.isWritable w.later

end DuplicateName

/-- A step of the work that is done. `rules` describes the rule set in use. -/
inductive Progress where
  | started (version : Version) (rules : String)
  | opened (sheets : List String)
  | drafted (types messages : Nat) (rules : String)
  | linked (types messages unmatched : Nat)
  | rendered (version : Version) (bytes : Nat)
  deriving DecidableEq, Repr

/-- What is noted while working. -/
inductive Note where
  | warning (w : DuplicateName)
  | progress (p : Progress)
  deriving DecidableEq, Repr

/-- An outcome and the notes made until it was reached. -/
structure Reported (α : Type) where
  notes : List Note
  outcome : Except Fault α

namespace Reported

variable {α β : Type}

/-- A plain outcome. -/
def ofExcept (outcome : Except Fault α) : Reported α := ⟨[], outcome⟩

/-- A single note. -/
def note (n : Note) : Reported Unit := ⟨[n], .ok ()⟩

/-- Goes on with a value; the notes follow one another. -/
def andThen (x : Reported α) (f : α → Reported β) : Reported β :=
  match x.outcome with
  | .ok a => ⟨x.notes ++ (f a).notes, (f a).outcome⟩
  | .error fault => ⟨x.notes, .error fault⟩

instance : Monad Reported where
  pure a := ⟨[], .ok a⟩
  bind := andThen

/-- The warnings among the notes. -/
def warnings (x : Reported α) : List DuplicateName :=
  x.notes.filterMap fun
    | .warning w => some w
    | .progress _ => none

/-- The steps of progress among the notes. -/
def steps (x : Reported α) : List Progress :=
  x.notes.filterMap fun
    | .progress p => some p
    | .warning _ => none

@[simp] theorem pure_eq (a : α) : (pure a : Reported α) = ⟨[], .ok a⟩ := rfl

@[simp] theorem bind_ok (notes : List Note) (a : α) (f : α → Reported β) :
    (⟨notes, .ok a⟩ >>= f : Reported β) = ⟨notes ++ (f a).notes, (f a).outcome⟩ := rfl

@[simp] theorem bind_error (notes : List Note) (fault : Fault) (f : α → Reported β) :
    (⟨notes, .error fault⟩ >>= f : Reported β) = ⟨notes, .error fault⟩ := rfl

end Reported

end FitProfile
