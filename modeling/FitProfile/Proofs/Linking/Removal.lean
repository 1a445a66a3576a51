import FitProfile.Proofs.Linking.Reordering
/-!
# FitProfile.Proofs.Linking.Removal -- linking without a message or a subfield

A message is linked by itself: of the other messages it only counts that they have other names and
numbers. A subfield is linked by itself as well: main fields alone are looked up by name, and of
the other subfields it only counts that they select by other values. So a draft without one of its
messages, or without one of its subfields, links to the model without it.

A place for subfields is told by what stands around it, `Draft.Site` in a draft and `Model.Site` in
a model. Linking takes the one to the other, whatever subfields stand there.
-/

namespace FitProfile

open FitProfile.Draft FitProfile.Outcome

/-! ## Places of subfields -/

/-- A main field in the messages of a draft, with what stands around it. -/
structure Draft.Site where
  messagesAbove : List MessageBlock
  name : String
  declaredNumber : Option Int
  row : Int
  fieldsAbove : List FieldBlock
  main : FieldRow
  fieldsBelow : List FieldBlock
  messagesBelow : List MessageBlock

namespace Draft.Site

/-- The fields of the message, with the given subfields below the main field. -/
def fields (s : Site) (subs : List FieldRow) : List FieldBlock :=
  s.fieldsAbove ++ ⟨s.main, subs⟩ :: s.fieldsBelow

/-- The message, with the given subfields below the main field. -/
def message (s : Site) (subs : List FieldRow) : MessageBlock :=
  ⟨s.name, s.declaredNumber, s.row, s.fields subs⟩

/-- All messages, with the given subfields below the main field. -/
def messages (s : Site) (subs : List FieldRow) : List MessageBlock :=
  s.messagesAbove ++ s.message subs :: s.messagesBelow

theorem map_main_fields (s : Site) (subs subs' : List FieldRow) :
    (s.fields subs).map FieldBlock.main = (s.fields subs').map FieldBlock.main := by
  simp [fields]

end Draft.Site

/-- A field with variants, which is single where there are none. -/
def Field.ofVariants (standard : SingleField) (variants : List (Field × List Condition)) : Field :=
  if variants.isEmpty then .single standard else .dynamic (.single standard) variants

/-- A field in the messages of a model, with what stands around it. -/
structure Model.Site where
  messagesAbove : List Message
  name : String
  number : Int
  row : Int
  fieldsAbove : List Field
  standard : SingleField
  fieldsBelow : List Field
  messagesBelow : List Message

namespace Model.Site

/-- The message, with the given variants of the field. -/
def message (s : Site) (variants : List (Field × List Condition)) : Message :=
  ⟨s.name, s.number, s.fieldsAbove ++ .ofVariants s.standard variants :: s.fieldsBelow, s.row⟩

/-- All messages, with the given variants of the field. -/
def messages (s : Site) (variants : List (Field × List Condition)) : List Message :=
  s.messagesAbove ++ s.message variants :: s.messagesBelow

end Model.Site

/-! ## The fields of a message -/

namespace LinkContext

variable {sheet : Option String} {types : List TypeDef} {s : Draft.Site}

/-- Names lead to the same main fields whatever subfields stand at a place. -/
theorem agrees_site (s : Draft.Site) (subs subs' : List FieldRow) :
    Agrees ⟨sheet, types, s.message subs⟩ ⟨sheet, types, s.message subs'⟩ where
  types := rfl
  mains name := by
    have hmain : ∀ message : MessageBlock, main? ⟨sheet, types, message⟩ name =
        (message.fields.map FieldBlock.main).find? fun main => main.name == name := by
      intro message
      rw [main?, List.find?_map]
      rfl
    rw [hmain, hmain]
    show Option.Rel FieldRow.Same (((s.fields subs).map FieldBlock.main).find? _)
      (((s.fields subs').map FieldBlock.main).find? _)
    rw [s.map_main_fields subs' subs]
    cases ((s.fields subs).map FieldBlock.main).find? fun main => main.name == name with
    | none => exact .none
    | some row => exact .some rfl

/-- The main fields pass their check whatever subfields stand at a place. -/
theorem checkBlocks_site (subs subs' : List FieldRow)
    (h : checkBlocks ⟨sheet, types, s.message subs⟩ [] (s.fields subs) = .ok ()) :
    checkBlocks ⟨sheet, types, s.message subs'⟩ [] (s.fields subs') = .ok () := by
  rw [checkBlocks_eq_ok (by simp) (by simp)] at h ⊢
  rw [s.map_main_fields subs' subs]
  exact h

/-- What is linked in one context is linked in another that agrees with it. -/
theorem Agrees.linkBlocks_eq_ok {c c' : LinkContext} (hc : c.Agrees c') {blocks : List FieldBlock}
    {fields : List Field} (h : c.linkBlocks blocks = .ok fields) :
    c'.linkBlocks blocks = .ok fields := by
  have hsame : List.Forall₂ FieldBlock.Same blocks blocks :=
    List.forall₂_same.mpr fun block _ => FieldBlock.same_of_content rfl
  exact (hc.linkBlocks hsame).eq_ok.mp h

/-- A block links to the field with a variant for each of its subfields. -/
theorem linkBlock_eq_ofVariants {c : LinkContext} {block : FieldBlock} {field : Field} :
    c.linkBlock block = .ok field ↔
      block.main.refNames = [] ∧ ∃ standard, c.linkSingle block.main = .ok standard ∧
        ∃ variants, c.linkSubfields block.subfields = .ok variants ∧
          c.checkClaims [] (variants.flatMap Variant.claims) = .ok () ∧
          field = .ofVariants standard (variants.map fun v => (.single v.field, v.conditions)) := by
  have hempty : ∀ {variants : List Variant}, c.linkSubfields block.subfields = .ok variants →
      block.subfields ≠ [] →
        ¬ (variants.map fun v => (Field.single v.field, v.conditions)).isEmpty = true := by
    intro variants hvariants hseveral hnil
    have hlength := (linkSubfields_eq_ok.mp hvariants).length_eq
    rw [List.isEmpty_map, List.isEmpty_iff_length_eq_zero, ← hlength] at hnil
    exact hseveral (List.eq_nil_of_length_eq_zero hnil)
  rw [linkBlock_eq_ok]
  refine and_congr_right fun _ => exists_congr fun standard => and_congr_right fun _ => ?_
  constructor
  · rintro (⟨halone, rfl⟩ | ⟨hseveral, variants, hvariants, hclaims, rfl⟩)
    · rw [halone]
      exact ⟨[], rfl, rfl, rfl⟩
    · exact ⟨variants, hvariants, hclaims, (if_neg (hempty hvariants hseveral)).symm⟩
  · rintro ⟨variants, hvariants, hclaims, rfl⟩
    by_cases halone : block.subfields = []
    · rw [halone] at hvariants
      cases hvariants
      exact .inl ⟨halone, rfl⟩
    · exact .inr ⟨halone, variants, hvariants, hclaims, if_neg (hempty hvariants halone)⟩

/-- Without one of its subfields a block links to the field without the variant of it. -/
theorem linkBlock_withoutSubfield {c : LinkContext} {main sub : FieldRow}
    {subs subs' : List FieldRow} {field : Field}
    (h : c.linkBlock ⟨main, subs ++ sub :: subs'⟩ = .ok field) :
    ∃ standard vs v vs', field = .ofVariants standard (vs ++ v :: vs') ∧
      c.linkBlock ⟨main, subs ++ subs'⟩ = .ok (.ofVariants standard (vs ++ vs')) ∧
      standard.name = main.name ∧ v.1.name = sub.name ∧ vs.length = subs.length := by
  obtain ⟨hrefs, standard, hstandard, variants, hvariants, hclaims, rfl⟩ :=
    linkBlock_eq_ofVariants.mp h
  obtain ⟨vs, v, vs', rfl, habove, hvariant, hbelow⟩ :=
    forall₂_split (linkSubfields_eq_ok.mp hvariants)
  have hclaims' : c.checkClaims [] ((vs ++ vs').flatMap Variant.claims) = .ok () := by
    rw [checkClaims_eq_ok] at hclaims ⊢
    refine ⟨hclaims.1.sublist ?_, by simp⟩
    rw [List.flatMap_append, List.flatMap_append, List.flatMap_cons]
    exact ((List.Sublist.refl _).append (List.sublist_append_right _ _)).map _
  refine ⟨standard, vs.map fun v => (.single v.field, v.conditions),
    (.single v.field, v.conditions), vs'.map fun v => (.single v.field, v.conditions), ?_, ?_,
    (linkSingle_links hstandard).name, (linkSubfield_eq_ok hvariant).field.name, ?_⟩
  · rw [List.map_append, List.map_cons]
  · rw [← List.map_append]
    exact linkBlock_eq_ofVariants.mpr ⟨hrefs, standard, hstandard, vs ++ vs',
      linkSubfields_eq_ok.mpr (List.rel_append habove hbelow), hclaims', rfl⟩
  · rw [List.length_map, habove.length_eq]

/-- Without one of its subfields a message links to the fields without the variant of it. -/
theorem linkFields_withoutSubfield {sub : FieldRow} {subs subs' : List FieldRow}
    {fields : List Field}
    (hchecked : checkBlocks ⟨sheet, types, s.message (subs ++ sub :: subs')⟩ []
      (s.fields (subs ++ sub :: subs')) = .ok ())
    (h : linkFields ⟨sheet, types, s.message (subs ++ sub :: subs')⟩ = .ok fields) :
    ∃ above standard vs v vs' below,
      fields = above ++ .ofVariants standard (vs ++ v :: vs') :: below ∧
      linkFields ⟨sheet, types, s.message (subs ++ subs')⟩ =
        .ok (above ++ .ofVariants standard (vs ++ vs') :: below) ∧
      standard.name = s.main.name ∧ v.1.name = sub.name ∧ vs.length = subs.length := by
  obtain ⟨hnumbers, -⟩ := (checkBlocks_eq_ok (by simp) (by simp)).mp hchecked
  rw [List.nil_append, List.map_map] at hnumbers
  obtain ⟨before, after, -, -, hordered⟩ :=
    Order.exists_sortBy_key_append (fun block : FieldBlock => block.main.number) hnumbers
  have hblocks : ∀ subs, orderedBlocks ⟨sheet, types, s.message subs⟩ =
      before ++ ⟨s.main, subs⟩ :: after := fun subs => hordered ⟨s.main, subs⟩ rfl
  rw [linkFields, hblocks] at h
  obtain ⟨above, field, below, rfl, habove, hfield, hbelow⟩ := forall₂_split (linkBlocks_eq_ok.mp h)
  obtain ⟨standard, vs, v, vs', rfl, hfield', hnames⟩ := linkBlock_withoutSubfield hfield
  refine ⟨above, standard, vs, v, vs', below, rfl, ?_, hnames⟩
  rw [linkFields, hblocks]
  exact (agrees_site s _ _).linkBlocks_eq_ok
    (linkBlocks_eq_ok.mpr (forall₂_join habove hfield' hbelow))

end LinkContext

/-! ## Messages and the numbers that no message bears -/

namespace Model

variable {rules : RuleSet} {version : Version} {draft : Draft} {model : Model}

/-- Messages that link one by one make up a model when no two share a name or a number. -/
theorem ofDraft_of_links (draft : Draft) {types : List TypeDef} {numbers : TypeDef}
    {linked : List Message}
    (htypes : TypeTable.ofDraft rules draft.types = .ok types)
    (hnumbers : messageNumberType rules types = .ok numbers)
    (hlinked : List.Forall₂ (fun block message =>
      MessageLinks ⟨rules.messagesSheet, types, block⟩ numbers message) draft.messages linked)
    (hnames : (linked.map Message.name).Nodup) (hnodup : (linked.map Message.number).Nodup)
    {messages : List Message}
    (hmessages : Order.sortBy (fun a b => decide (a.number ≤ b.number)) linked = messages) :
    ofDraft rules version draft =
      .ok ⟨version, types, messages, unmatchedNames numbers messages⟩ := by
  have hlink : linkMessages rules.messagesSheet types numbers [] draft.messages = .ok linked :=
    (linkMessages_eq_ok (by simp) (by simp)).mpr ⟨linked, rfl, hlinked, hnames, hnodup⟩
  subst hmessages
  exact bind_eq_ok.mpr ⟨types, htypes, bind_eq_ok.mpr ⟨numbers, hnumbers,
    bind_eq_ok.mpr ⟨linked, hlink, rfl⟩⟩⟩

theorem mem_unmatchedNames {numbers : TypeDef} {messages : List Message} {name : String} :
    name ∈ unmatchedNames numbers messages ↔
      name ∈ numbers.values.map TypeValue.name ∧ name ∉ messages.map Message.name := by
  simp [unmatchedNames, Order.mem_sortBy]

/-- A name that has a value is the name of a value. -/
theorem name_mem_of_valueOf? {type : TypeDef} {name : String} {value : Int}
    (h : type.valueOf? name = some value) : name ∈ type.values.map TypeValue.name := by
  obtain ⟨v, hv, -⟩ := Option.map_eq_some_iff.mp h
  have hname : v.name = name := by simpa using List.find?_some hv
  exact hname ▸ List.mem_map_of_mem (List.mem_of_find?_eq_some hv)

/-- Without a message of its own a name takes its place among the names without a message. -/
theorem unmatchedNames_withoutMessage {numbers : TypeDef} {before after : List Message}
    {message : Message} {number : Int} (hnumber : numbers.valueOf? message.name = some number)
    (hnames : ((before ++ message :: after).map Message.name).Nodup) :
    ∃ above below, unmatchedNames numbers (before ++ message :: after) = above ++ below ∧
      unmatchedNames numbers (before ++ after) = above ++ message.name :: below := by
  have hvalue := name_mem_of_valueOf? hnumber
  have hfree : message.name ∉ (before ++ after).map Message.name := by
    have hcons := (List.perm_middle.map Message.name).nodup_iff.mp hnames
    exact (List.nodup_cons.mp hcons).1
  -- the free names are the same but for that of the message
  have hperm : (((numbers.values.map TypeValue.name).filter fun name =>
        !((before ++ after).map Message.name).contains name).eraseDups).Perm
      (message.name :: ((numbers.values.map TypeValue.name).filter fun name =>
        !((before ++ message :: after).map Message.name).contains name).eraseDups) := by
    rw [List.perm_ext_iff_of_nodup (nodup_eraseDups _)
      (List.nodup_cons.mpr ⟨by simp, nodup_eraseDups _⟩)]
    intro name
    by_cases heq : name = message.name
    · simp only [heq, List.mem_eraseDups, List.mem_filter, List.mem_cons, true_or, iff_true]
      exact ⟨hvalue, by simpa using hfree⟩
    · simp [heq]
  obtain ⟨above, below, hwith, hwithout⟩ := Order.exists_sortBy_of_perm_cons Order.text_total
    Order.text_trans (fun b _ c _ hbc hcb => Order.text_antisymm hbc hcb) hperm
  exact ⟨above, below, hwithout, hwith⟩

/-- Without one of its messages a draft links to the model without it, where its name is free. -/
theorem ofDraft_withoutMessage {above below : List MessageBlock} {block : MessageBlock}
    (hdraft : draft.messages = above ++ block :: below)
    (h : ofDraft rules version draft = .ok model) :
    ∃ before message after namesAbove namesBelow,
      model.messages = before ++ message :: after ∧ message.name = block.name ∧
      model.unmatched = namesAbove ++ namesBelow ∧ message.name ∉ model.unmatched ∧
      ofDraft rules version { draft with messages := above ++ below } =
        .ok { model with messages := before ++ after
                         unmatched := namesAbove ++ message.name :: namesBelow } := by
  obtain ⟨htypes, hversion, numbers, linked, hnumbers, hlinked, hnames, hnodup, hmessages,
    hunmatched⟩ := ofDraft_eq_ok h
  rw [hdraft] at hlinked
  obtain ⟨linkedAbove, message, linkedBelow, rfl, habove, hmessage, hbelow⟩ := forall₂_split hlinked
  obtain ⟨before, after, -, hwithout, hwith⟩ :=
    Order.exists_sortBy_key_append Message.number hnodup
  rw [hwith message rfl] at hmessages
  have hperm : model.messages.Perm (linkedAbove ++ message :: linkedBelow) := by
    rw [hmessages, ← hwith message rfl]
    exact Order.sortBy_perm _ _
  have hsub : (linkedAbove ++ linkedBelow).Sublist (linkedAbove ++ message :: linkedBelow) :=
    (List.Sublist.refl _).append (List.sublist_cons_self ..)
  have hmodelNames : ((before ++ message :: after).map Message.name).Nodup := by
    rw [← hmessages]
    exact (hperm.map Message.name).nodup_iff.mpr hnames
  obtain ⟨namesAbove, namesBelow, hnamesWith, hnamesWithout⟩ :=
    unmatchedNames_withoutMessage (hmessage.name ▸ hmessage.number) hmodelNames
  refine ⟨before, message, after, namesAbove, namesBelow, hmessages, hmessage.name, ?_, ?_, ?_⟩
  · rw [hunmatched, hmessages, hnamesWith]
  · rw [hunmatched, mem_unmatchedNames, hmessages]
    simp
  · rw [← hversion, ← hnamesWithout]
    exact ofDraft_of_links { draft with messages := above ++ below } htypes hnumbers
      (List.rel_append habove hbelow) (hnames.sublist (hsub.map _)) (hnodup.sublist (hsub.map _))
      hwithout

/-- Without one of its subfields a message links to the message without the variant of it. -/
theorem MessageLinks.withoutSubfield {sheet : Option String} {types : List TypeDef}
    {numbers : TypeDef} {s : Draft.Site} {sub : FieldRow} {subs subs' : List FieldRow}
    {message : Message}
    (h : MessageLinks ⟨sheet, types, s.message (subs ++ sub :: subs')⟩ numbers message) :
    ∃ above standard vs v vs' below,
      message.fields = above ++ .ofVariants standard (vs ++ v :: vs') :: below ∧
      MessageLinks ⟨sheet, types, s.message (subs ++ subs')⟩ numbers
        { message with fields := above ++ .ofVariants standard (vs ++ vs') :: below } ∧
      standard.name = s.main.name ∧ v.1.name = sub.name ∧ vs.length = subs.length := by
  obtain ⟨above, standard, vs, v, vs', below, hfields, hfields', hnames⟩ :=
    LinkContext.linkFields_withoutSubfield h.checked h.fields
  exact ⟨above, standard, vs, v, vs', below, hfields,
    ⟨h.name, h.row, h.number, h.declared, LinkContext.checkBlocks_site _ _ h.checked, hfields'⟩,
    hnames⟩

/-- Without one of its subfields a draft links to the model without the variant of it. -/
theorem ofDraft_withoutSubfield {s : Draft.Site} {sub : FieldRow} {subs subs' : List FieldRow}
    (hdraft : draft.messages = s.messages (subs ++ sub :: subs'))
    (h : ofDraft rules version draft = .ok model) :
    ∃ (t : Site) (vs : List (Field × List Condition)) (v : Field × List Condition)
      (vs' : List (Field × List Condition)), model.messages = t.messages (vs ++ v :: vs') ∧
      ofDraft rules version { draft with messages := s.messages (subs ++ subs') } =
        .ok { model with messages := t.messages (vs ++ vs') } ∧
      t.name = s.name ∧ t.standard.name = s.main.name ∧ v.1.name = sub.name ∧
      vs.length = subs.length := by
  obtain ⟨htypes, hversion, numbers, linked, hnumbers, hlinked, hnames, hnodup, hmessages,
    hunmatched⟩ := ofDraft_eq_ok h
  rw [hdraft, Draft.Site.messages] at hlinked
  obtain ⟨linkedAbove, message, linkedBelow, rfl, habove, hmessage, hbelow⟩ := forall₂_split hlinked
  obtain ⟨above, standard, vs, v, vs', below, hfields, hmessage', hstandard, hvariant, hlength⟩ :=
    hmessage.withoutSubfield
  obtain ⟨before, after, -, -, hsorted⟩ := Order.exists_sortBy_key_append Message.number hnodup
  let t : Site := ⟨before, message.name, message.number, message.row, above, standard, below, after⟩
  have hwith : message = t.message (vs ++ v :: vs') := by
    show message = ⟨message.name, message.number, _, message.row⟩
    rw [← hfields]
  have hsplit : model.messages = t.messages (vs ++ v :: vs') := by
    rw [hmessages, hsorted message rfl]
    show before ++ message :: after = before ++ t.message (vs ++ v :: vs') :: after
    rw [← hwith]
  -- names and numbers are those of before, so they stay apart and the same names are free
  have hunmatched' : model.unmatched = unmatchedNames numbers (t.messages (vs ++ vs')) := by
    rw [hunmatched, hsplit]
    simp only [unmatchedNames, Site.messages, List.map_append, List.map_cons]
    rfl
  refine ⟨t, vs, v, vs', hsplit, ?_, hmessage.name, hstandard, hvariant, hlength⟩
  rw [← hversion, hunmatched']
  refine ofDraft_of_links { draft with messages := s.messages (subs ++ subs') } htypes hnumbers
    (forall₂_join habove hmessage' hbelow) ?_ ?_ (hsorted _ rfl)
  · simpa using hnames
  · simpa using hnodup

end Model

end FitProfile
