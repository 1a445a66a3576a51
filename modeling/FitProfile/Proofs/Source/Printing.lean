import FitProfile.Proofs.Source.Removal
/-!
# FitProfile.Proofs.Source.Printing -- what any model is rendered to

A model that was made by hand need not be intact, and rendering it can fail in many places. But
when it is rendered, its lines are those of `messagesText`, with the fields of each message in
ascending order: a check on the way either stops the rendering or leaves no trace in it.

An entry at some depth of the module is found again in the module, that much indented.
-/

namespace FitProfile

open FitProfile.Number FitProfile.Outcome

namespace Source

/-! ## Computations with one possible result -/

/-- A computation that has a given result, unless it fails. -/
def Gives {α : Type} (x : Except Fault α) (a : α) : Prop := ∀ b, x = .ok b → b = a

namespace Gives

variable {α β : Type} {x : Except Fault α} {f : α → Except Fault β} {a : α} {b : β}

theorem ok (a : α) : Gives (.ok a) a := by
  intro b h
  exact (Except.ok.inj h).symm

theorem error (fault : Fault) (a : α) : Gives (.error fault) a := by
  intro b h
  cases h

theorem writable (numbers : List Int) : Gives (Fault.writable numbers) () := fun _ _ => rfl

theorem bind (hx : Gives x a) (hf : Gives (f a) b) : Gives (x >>= f) b := by
  intro c h
  obtain ⟨a', ha', hc⟩ := bind_eq_ok.mp h
  obtain rfl := hx a' ha'
  exact hf c hc

/-- Entries one after the other are given when each of them is. -/
theorem entries (entry : α → Except Fault (List String))
    (entries : List α → Except Fault (List String)) (hnil : entries [] = .ok [])
    (hcons : ∀ a rest, entries (a :: rest) = do
      let lines ← entry a
      let others ← entries rest
      return lines ++ others) {written : α → List String} (h : ∀ a, Gives (entry a) (written a))
    (list : List α) : Gives (entries list) (list.flatMap written) := by
  induction list with
  | nil =>
    rw [hnil]
    exact .ok _
  | cons a rest ih =>
    rw [hcons]
    exact .bind (h a) (.bind ih (.ok _))

end Gives

/-! ## The lines of the messages module -/

variable (types : List TypeDef)

theorem gives_typeExpression (type : FieldType) :
    Gives (typeExpression types type) (typeText type) := by
  cases type with
  | base b => exact .ok _
  | declared t =>
    simp only [typeExpression]
    split
    next => exact .ok _
    next => exact .error _ _
  | foreign name => exact .error _ _
  | invalid value => exact .error _ _

theorem gives_shapeLines (field : SingleField) :
    Gives (shapeLines field) (shapeText field.shape) := by
  unfold shapeLines
  cases field.shape with
  | plain => exact .ok _
  | array extent => exact .bind (.writable _) (.ok _)
  | packed extent slices => exact .bind (.writable _) (.ok _)
  | unknown kind => exact .error _ _

theorem gives_singleLines (field : SingleField) :
    Gives (singleLines types field) (singleText field) :=
  .bind (gives_typeExpression types field.type) <|
    .bind (.writable _) <| .bind (gives_shapeLines field) (.ok _)

theorem gives_innerLines (field : Field) :
    Gives (innerLines types field) (singleText field.lead) := by
  cases field with
  | single field => exact gives_singleLines types field
  | dynamic standard variants =>
    -- a dynamic field inside another one is refused, whatever else is found on the way
    exact .bind (gives_typeExpression types standard.lead.type) <|
      .bind (.writable _) (.error _ _)

theorem gives_variantEntry (variant : Field × List Condition) :
    Gives (variantEntry types variant) (variantText variant) :=
  .bind (gives_innerLines types variant.1) (.bind (.writable _) (.ok _))

theorem gives_fieldLines (field : Field) : Gives (fieldLines types field) (fieldText field) := by
  cases field with
  | single field =>
    unfold fieldLines
    dsimp only
    split
    next => exact .error _ _
    next => exact gives_singleLines types field
  | dynamic standard variants =>
    have hvariants : Gives (variantEntries types variants) (variants.flatMap variantText) :=
      .entries (variantEntry types) _ rfl (fun _ _ => rfl) (gives_variantEntry types) variants
    exact .bind (gives_innerLines types standard) (.bind hvariants (.ok _))

theorem gives_fieldEntry (field : Field) : Gives (fieldEntry types field) (fieldBlock field) :=
  .bind (.writable _) (.bind (gives_fieldLines types field) (.ok _))

/-- A message with its fields by ascending number. -/
def ordered (message : Message) : Message :=
  { message with
    fields := Order.sortBy (fun a b => decide (a.number ≤ b.number)) message.fields }

theorem gives_messageEntry (message : Message) :
    Gives (messageEntry types message) (messageBlock (ordered message)) := by
  have hfields : Gives (fieldEntries types (ordered message).fields)
      ((ordered message).fields.flatMap fieldBlock) :=
    .entries (fieldEntry types) _ rfl (fun _ _ => rfl) (gives_fieldEntry types) _
  exact .bind (.writable _) (.bind hfields (.ok _))

/-- The lines of a rendered module, whatever the model is like. -/
theorem gives_messagesLines (model : Model) (moment : Option Moment) :
    Gives (messagesLines model moment)
      (messagesText { model with messages := model.messages.map ordered } moment) := by
  have hentries : Gives (messageEntries model.types model.messages)
      ((model.messages.map ordered).flatMap messageBlock) := by
    rw [List.flatMap_map]
    exact .entries (messageEntry model.types) _ rfl (fun _ _ => rfl)
      (gives_messageEntry model.types) model.messages
  exact .bind hentries (.ok _)

/-- The parts of a rendered profile. -/
theorem render_eq_ok {model : Model} {moment : Option Moment} {profile : Profile}
    (h : model.render moment = .ok profile) :
    messagesLines model moment =
        .ok (messagesText { model with messages := model.messages.map ordered } moment) ∧
      profile.types = text (typesLines model moment) ∧
      profile.messages =
        text (messagesText { model with messages := model.messages.map ordered } moment) ∧
      profile.profile = text (profileLines model moment) := by
  obtain ⟨_, -, h⟩ := bind_eq_ok.mp h
  obtain ⟨lines, hlines, h⟩ := bind_eq_ok.mp h
  obtain ⟨_, -, hpure⟩ := bind_eq_ok.mp h
  obtain rfl := gives_messagesLines model moment lines hlines
  have hprofile := pure_eq_ok.mp hpure
  refine ⟨hlines, ?_, ?_, ?_⟩
  all_goals rw [← hprofile]

/-! ## Entries inside entries -/

/-- A run of lines that stand together somewhere in other lines. -/
theorem infix_block {run body : List String} (h : run <:+: body) (head foot : String) :
    run.map deeper <:+: block head body foot := by
  obtain ⟨above, below, rfl⟩ := h
  refine ⟨head :: above.map deeper, below.map deeper ++ [foot], ?_⟩
  simp [block]

theorem infix_flatMap {α : Type} {list : List α} {a : α} (h : a ∈ list)
    (written : α → List String) : written a <:+: list.flatMap written := by
  obtain ⟨before, after, rfl⟩ := List.append_of_mem h
  refine ⟨before.flatMap written, after.flatMap written, ?_⟩
  simp [List.flatMap_append]

/-- The entry of a field in the lines of the module. -/
theorem infix_messagesText {model : Model} {moment : Option Moment} {message : Message}
    (hmessage : message ∈ model.messages) {field : Field} (hfield : field ∈ message.fields) :
    nested 3 (fieldBlock field) <:+: messagesText model moment := by
  have hfields : (fieldBlock field).map deeper <:+:
      block "fields=\x7b" (message.fields.flatMap fieldBlock) "\x7d," :=
    infix_block (infix_flatMap hfield fieldBlock) _ _
  have hentry : ((fieldBlock field).map deeper).map deeper <:+: messageBlock message :=
    infix_block (hfields.trans (List.suffix_append _ _).isInfix) _ _
  have hmodule := infix_block (hentry.trans (infix_flatMap hmessage messageBlock))
    "MESSAGE_TYPES = \x7b" "\x7d"
  exact hmodule.trans (List.suffix_append _ _).isInfix

end Source

end FitProfile
