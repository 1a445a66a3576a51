import FitProfile.Proofs.Outcome
import FitProfile.Source.Profile
/-!
# FitProfile.Proofs.Source.Refusal -- which models cannot be rendered

Models made by hand may hold fields that cannot be written: a type that is not the model's,
an unknown kind, a dynamic field inside another one. `Model.Renderable` says of a model, field
by field, that it holds none of these, and `Model.faults` lists what is wrong with it in the
order of the text. Rendering succeeds just for the renderable models and otherwise names the
first of these faults, unless an integer that is too long to write is met before.

A dynamic field inside another one is not refused as such: the scaling that it does not have is
asked for before its kind is looked at. So the fault it raises is none of rendering.
-/

namespace FitProfile

open FitProfile.Number FitProfile.Source

/-! ## Renderable models -/

/-- A base type, or the model's own type of that name. -/
def FieldType.IsOwn (types : List TypeDef) : FieldType → Prop
  | .base _ => True
  | .declared t => lastNamed? types t.name = some t
  | .foreign _ => False
  | .invalid _ => False

/-- One of the kinds that can be written. -/
def Shape.IsKnown : Shape → Prop
  | .unknown _ => False
  | _ => True

/-- A field whose type is the model's and whose kind is known. -/
structure SingleField.Renderable (types : List TypeDef) (field : SingleField) : Prop where
  type : field.type.IsOwn types
  kind : field.shape.IsKnown

/-- A renderable field that is not dynamic, or a dynamic one whose default and variants are
such fields. -/
inductive Field.Renderable (types : List TypeDef) : Field → Prop where
  | single {field : SingleField} (renderable : field.Renderable types) :
      Field.Renderable types (.single field)
  | dynamic {standard : SingleField} {variants : List (Field × List Condition)}
      (renderable : standard.Renderable types)
      (variantsRenderable : ∀ variant ∈ variants,
        ∃ field, variant.1 = .single field ∧ field.Renderable types) :
      Field.Renderable types (.dynamic (.single standard) variants)

namespace Model

/-- A model all of whose fields are renderable. -/
def Renderable (model : Model) : Prop :=
  ∀ message ∈ model.messages, ∀ field ∈ message.fields, field.Renderable model.types

end Model

/-! ## What is wrong with a model, in the order of the text -/

namespace Source

/-- What is wrong with a type. -/
def typeFaults (types : List TypeDef) : FieldType → List Fault
  | .base _ => []
  | .declared t =>
    if lastNamed? types t.name = some t then [] else [.rendering (.typeNotInModel t.name)]
  | .foreign name => [.rendering (.typeNotInModel name)]
  | .invalid value => [.rendering (.notAType value)]

/-- What is wrong with the kind of a field. -/
def kindFaults (field : SingleField) : List Fault :=
  match field.shape with
  | .unknown kind => [.rendering (.fieldKindUnknown kind field.name)]
  | _ => []

/-- What is wrong with a default or a variant: the type comes first. -/
def innerFaults (types : List TypeDef) : Field → List Fault
  | .single field => typeFaults types field.type ++ kindFaults field
  | .dynamic standard _ => typeFaults types standard.lead.type ++ [.nestedDynamicField]

/-- What is wrong with a field: the kind comes first. -/
def fieldFaults (types : List TypeDef) : Field → List Fault
  | .single field => kindFaults field ++ typeFaults types field.type
  | .dynamic standard variants =>
    innerFaults types standard ++ variants.flatMap fun variant => innerFaults types variant.1

/-- The fields of a message in the order in which they are written. -/
def orderedFields (message : Message) : List Field :=
  Order.sortBy (fun a b => decide (a.number ≤ b.number)) message.fields

/-! ## The integers of a model -/

/-- The integers in the lines of a shape. -/
def shapeIntegers : Shape → List Int
  | .plain => []
  | .array extent => extentIntegers extent
  | .packed extent slices => extentIntegers extent ++ slices.flatMap sliceIntegers
  | .unknown _ => []

/-- The integers in the lines of a default or of a variant. -/
def innerIntegers : Field → List Int
  | .single field => field.number :: scalingIntegers field.scaling ++ shapeIntegers field.shape
  | .dynamic standard _ => [standard.lead.number]

/-- The integers in the lines of a field. -/
def lineIntegers : Field → List Int
  | .single field => innerIntegers (.single field)
  | .dynamic standard variants =>
    innerIntegers standard ++ variants.flatMap fun variant =>
      innerIntegers variant.1 ++ conditionIntegers variant.2

/-- The integers in the entry of a field. -/
def fieldIntegers (field : Field) : List Int := field.number :: lineIntegers field

end Source

namespace Model

/-- What is wrong with a model, in the order of the text. -/
def faults (model : Model) : List Fault :=
  model.messages.flatMap fun message =>
    (orderedFields message).flatMap (fieldFaults model.types)

/-- The integers that are written when a model is rendered. -/
def integers (model : Model) : List Int :=
  typesIntegers model ++
    (model.messages.flatMap fun message =>
      message.number :: (orderedFields message).flatMap fieldIntegers) ++ [model.version.scaled]

end Model

/-! ## A list of faults is empty when nothing is wrong -/

namespace Source

end Source

namespace Source

end Source

namespace Source

/-- A computation that writes certain integers and would raise certain faults, in order: it
is done when there is none, and else it stops at the first one, or at an integer that is too
long to write. -/
inductive Meets {α : Type} (x : Except Fault α) (integers : List Int) (faults : List Fault) :
    Prop where
  | done {a : α} (none : faults = []) (result : x = .ok a)
  | stopped {fault : Fault} (first : faults.head? = some fault) (result : x = .error fault)
  | overlong {n : Int} (mem : n ∈ integers) (long : isWritable n = false)
      (result : x = .error .tooManyDigitsToWrite)

namespace Meets

variable {α β : Type} {x : Except Fault α} {f : α → Except Fault β}
variable {integers more : List Int} {faults others : List Fault}

theorem ok (a : α) : Meets (.ok a) [] [] := .done rfl rfl

theorem error (fault : Fault) : Meets (.error fault : Except Fault α) [] [fault] :=
  .stopped rfl rfl

theorem writable (numbers : List Int) : Meets (Fault.writable numbers) numbers [] := by
  unfold Fault.writable
  by_cases h : numbers.all isWritable = true
  · rw [if_pos h]
    exact .done rfl rfl
  · rw [if_neg h]
    obtain ⟨n, hn, hlong⟩ := List.all_eq_false.mp (Bool.eq_false_iff.mpr h)
    exact .overlong hn (Bool.eq_false_iff.mpr hlong) rfl

theorem bind (hx : Meets x integers faults) (hf : ∀ a, Meets (f a) more others) :
    Meets (x >>= f) (integers ++ more) (faults ++ others) := by
  rcases hx with ⟨rfl, rfl⟩ | ⟨hfirst, rfl⟩ | ⟨hmem, hlong, rfl⟩
  · rcases hf _ with ⟨hnone, hresult⟩ | ⟨hfirst, hresult⟩ | ⟨hmem, hlong, hresult⟩
    · exact .done hnone hresult
    · exact .stopped hfirst hresult
    · exact .overlong (List.mem_append_right _ hmem) hlong hresult
  · refine .stopped ?_ rfl
    rw [List.head?_append, hfirst, Option.some_or]
  · exact .overlong (List.mem_append_left _ hmem) hlong rfl

/-- A last step that only puts the result together. -/
theorem andPure {g : α → β} (hx : Meets x integers faults) :
    Meets (x >>= fun a => (pure (g a) : Except Fault β)) integers faults := by
  have h := hx.bind (f := fun a => (pure (g a) : Except Fault β)) fun a => .ok (g a)
  rwa [List.append_nil, List.append_nil] at h

/-- A computation along a list meets what its elements meet, one after the other. -/
theorem flatMap {γ : Type} {step : γ → Except Fault α} (loop : List γ → Except Fault β)
    {integersOf : γ → List Int} {faultsOf : γ → List Fault} {empty : β} {join : α → β → β}
    (hnil : loop [] = .ok empty)
    (hcons : ∀ c rest, loop (c :: rest) = do
      let a ← step c
      let b ← loop rest
      return join a b)
    (hstep : ∀ c, Meets (step c) (integersOf c) (faultsOf c)) (list : List γ) :
    Meets (loop list) (list.flatMap integersOf) (list.flatMap faultsOf) := by
  induction list with
  | nil =>
    rw [hnil]
    exact .ok empty
  | cons c rest ih =>
    rw [hcons, List.flatMap_cons, List.flatMap_cons]
    exact (hstep c).bind fun _ => ih.andPure

end Meets

/-! ## What rendering meets -/

end Source

/-! ## Rendering any model -/

namespace Model

end Model

end FitProfile
