import FitProfile.Proofs.Linking.Fields
/-!
# FitProfile.Proofs.Linking.Messages -- linked messages and the blocks they come from

First a main field with its subfields, then the fields of a message, then a message with
its number, then all messages. Each step says what it can do in one lemma, and from that
lemma when it succeeds and which faults it raises.
-/

namespace FitProfile

open FitProfile.Draft FitProfile.Outcome

/-- The single fields that a field is made of: itself, or its default and its variants. -/
def Field.parts : Field → List SingleField
  | .single field => [field]
  | .dynamic standard variants => standard.lead :: variants.map fun variant => variant.1.lead

namespace LinkContext

variable {c : LinkContext}

/-! ## A main field with its subfields -/

/-- A field and the block of rows it comes from: without subfields it is single, else it
has a variant for each of them. -/
inductive BlockLinks (c : LinkContext) (block : FieldBlock) : Field → Prop where
  | single {field : SingleField} (alone : block.subfields = []) (links : c.Links block.main field) :
      BlockLinks c block (.single field)
  | dynamic {standard : SingleField} {variants : List Variant} (several : block.subfields ≠ [])
      (links : c.Links block.main standard)
      (variantLinks : List.Forall₂ c.VariantLinks block.subfields variants) :
      BlockLinks c block
        (.dynamic (.single standard) (variants.map fun v => (.single v.field, v.conditions)))

/-- All that linking a block can do when it succeeds. -/
theorem linkBlock_eq_ok {block : FieldBlock} {field : Field} :
    c.linkBlock block = .ok field ↔
      block.main.refNames = [] ∧ ∃ standard, c.linkSingle block.main = .ok standard ∧
        ((block.subfields = [] ∧ field = .single standard) ∨
          (block.subfields ≠ [] ∧ ∃ variants, c.linkSubfields block.subfields = .ok variants ∧
            c.checkClaims [] (variants.flatMap Variant.claims) = .ok () ∧
            field = .dynamic (.single standard)
              (variants.map fun v => (.single v.field, v.conditions)))) := by
  unfold linkBlock FieldSpec.hasReference
  cases hrefs : block.main.refNames with
  | cons name rest =>
    simp only [List.isEmpty_cons, Bool.not_false, if_true, bind_eq_ok, throw_ne_ok, reduceCtorEq,
      false_and, exists_false]
  | nil =>
    simp only [List.isEmpty_nil, Bool.not_true, Bool.false_eq_true, if_false, bind_eq_ok,
      true_and]
    apply exists_congr
    intro standard
    apply and_congr_right
    intro _
    cases block.subfields with
    | nil =>
      simp only [List.isEmpty_nil, if_true, pure_eq_ok, true_and, ne_eq, not_true_eq_false,
        false_and, or_false]
      exact eq_comm
    | cons sub rest =>
      simp only [List.isEmpty_cons, Bool.false_eq_true, if_false, bind_eq_ok, pure_eq_ok,
        reduceCtorEq, false_and, false_or, ne_eq, not_false_eq_true, true_and]
      constructor
      · rintro ⟨variants, hvariants, _, hclaims, rfl⟩
        exact ⟨variants, hvariants, hclaims, rfl⟩
      · rintro ⟨variants, hvariants, hclaims, rfl⟩
        exact ⟨variants, hvariants, (), hclaims, rfl⟩

theorem linkBlock_links {block : FieldBlock} {field : Field} (h : c.linkBlock block = .ok field) :
    c.BlockLinks block field := by
  obtain ⟨-, standard, hstandard, ⟨halone, rfl⟩ | ⟨hseveral, variants, hvariants, -, rfl⟩⟩ :=
    linkBlock_eq_ok.mp h
  · exact .single halone (linkSingle_links hstandard)
  · exact .dynamic hseveral (linkSingle_links hstandard)
      ((linkSubfields_eq_ok.mp hvariants).imp fun _ _ => linkSubfield_eq_ok)

/-- The parts of a linked field are linked to the rows of its block, one for one. -/
theorem BlockLinks.parts {block : FieldBlock} {field : Field} (h : c.BlockLinks block field) :
    List.Forall₂ c.Links (block.main :: block.subfields) field.parts := by
  cases h with
  | single alone links =>
    rw [alone]
    exact .cons links .nil
  | dynamic _ links variantLinks =>
    refine .cons links ?_
    rw [List.map_map, List.forall₂_map_right_iff]
    exact variantLinks.imp fun _ _ hlinks => hlinks.field

/-- Claims of linked subfields are distinct when the references of the rows are. -/
theorem checkClaims_of_links {subs : List FieldRow} {variants : List Variant}
    (h : List.Forall₂ c.VariantLinks subs variants) :
    c.checkClaims [] (variants.flatMap Variant.claims) = .ok () ↔
      (subs.flatMap fun sub => sub.references.map (c.message.selector? c.meaning?)).Nodup := by
  rw [checkClaims_eq_ok, ← (claims_perm h).nodup_iff]
  have hsome : ((variants.flatMap Variant.claims).map fun claim => some claim.selector) =
      ((variants.flatMap Variant.claims).map Claim.selector).map some := by
    rw [List.map_map]
    rfl
  rw [hsome, List.nodup_map_iff fun _ _ => Option.some.inj]
  simp

/-- A block links when its main field names no references, its rows link, and the
references of its subfields all select, no two of them by the same value. -/
theorem exists_linkBlock {block : FieldBlock} :
    (∃ field, c.linkBlock block = .ok field) ↔
      block.main.refNames = [] ∧
        (∀ row ∈ block.main :: block.subfields, ∃ field, c.linkSingle row = .ok field) ∧
        (∀ sub ∈ block.subfields, c.message.Selects c.meaning? sub) ∧
        (block.subfields.flatMap fun sub =>
          sub.references.map (c.message.selector? c.meaning?)).Nodup := by
  constructor
  · rintro ⟨field, hfield⟩
    obtain ⟨hrefs, standard, hstandard, ⟨halone, -⟩ | ⟨-, variants, hvariants, hclaims, -⟩⟩ :=
      linkBlock_eq_ok.mp hfield
    · refine ⟨hrefs, ?_, ?_, ?_⟩
      · rw [halone]
        intro row hrow
        obtain rfl := List.mem_singleton.mp hrow
        exact ⟨standard, hstandard⟩
      · simp [halone]
      · simp [halone]
    · have hall := linkSubfields_eq_ok.mp hvariants
      have hlinks := hall.imp fun _ _ => linkSubfield_eq_ok
      refine ⟨hrefs, ?_, ?_, (checkClaims_of_links hlinks).mp hclaims⟩
      · intro row hrow
        rcases List.mem_cons.mp hrow with rfl | hsub
        · exact ⟨standard, hstandard⟩
        · obtain ⟨variant, -, hvariant⟩ := forall₂_exists_of_mem hall hsub
          exact linkSingle_of_linkSubfield hvariant
      · intro sub hsub
        obtain ⟨variant, -, hvariant⟩ := forall₂_exists_of_mem hlinks hsub
        exact hvariant.selects.1
  · rintro ⟨hrefs, hrows, hselects, hexclusive⟩
    obtain ⟨standard, hstandard⟩ := hrows block.main (by simp)
    by_cases halone : block.subfields = []
    · exact ⟨_, linkBlock_eq_ok.mpr ⟨hrefs, standard, hstandard, .inl ⟨halone, rfl⟩⟩⟩
    · have hsubs : ∀ sub ∈ block.subfields, ∃ variant, c.linkSubfield sub = .ok variant := by
        intro sub hsub
        refine exists_linkSubfield (hrows sub (by simp [hsub])) (hselects sub hsub) ?_
        exact (List.nodup_flatMap.mp hexclusive).1 sub hsub
      obtain ⟨variants, hall⟩ := exists_forall₂.mpr hsubs
      have hlinks := hall.imp fun _ _ => linkSubfield_eq_ok
      exact ⟨_, linkBlock_eq_ok.mpr ⟨hrefs, standard, hstandard, .inr ⟨halone, variants,
        linkSubfields_eq_ok.mpr hall, (checkClaims_of_links hlinks).mpr hexclusive, rfl⟩⟩⟩

theorem linkBlock_refused {block : FieldBlock} {fault : Fault}
    (h : c.linkBlock block = .error fault) : c.Blames (block.main :: block.subfields) fault := by
  unfold linkBlock at h
  by_cases hrefs : block.main.hasReference = true
  · rw [if_pos hrefs] at h
    exact (BlamesField.of_error h).blames.mono (by simp)
  · rw [if_neg hrefs] at h
    rcases bind_eq_error.mp h with hmain | ⟨standard, -, h⟩
    · exact (linkSingle_refused hmain).mono (by simp)
    · split at h
      next => exact absurd h pure_ne_error
      next =>
        rcases bind_eq_error.mp h with hsubs | ⟨variants, hvariants, h⟩
        · exact (linkSubfields_refused hsubs).mono fun row hrow => by simp [hrow]
        · rcases bind_eq_error.mp h with hclaims | ⟨_, -, hpure⟩
          · obtain ⟨claim, hmem, hclaim⟩ := checkClaims_refused hclaims
            have hlinks := (linkSubfields_eq_ok.mp hvariants).imp fun _ _ => linkSubfield_eq_ok
            have hrow := row_mem_of_claims hlinks claim hmem
            exact ⟨claim.row, List.mem_cons_of_mem _ hrow, .inl hclaim⟩
          · exact absurd hpure pure_ne_error

/-! ## The fields of a message -/

theorem linkBlocks_eq_mapM (blocks : List FieldBlock) :
    c.linkBlocks blocks = blocks.mapM c.linkBlock := by
  induction blocks with
  | nil => rfl
  | cons block rest ih => rw [linkBlocks, List.mapM_cons, ih]

theorem linkBlocks_eq_ok {blocks : List FieldBlock} {fields : List Field} :
    c.linkBlocks blocks = .ok fields ↔
      List.Forall₂ (fun block field => c.linkBlock block = .ok field) blocks fields := by
  rw [linkBlocks_eq_mapM, mapM_eq_ok]

theorem linkBlocks_refused {blocks : List FieldBlock} {fault : Fault}
    (h : c.linkBlocks blocks = .error fault) :
    c.Blames (blocks.flatMap fun block => block.main :: block.subfields) fault := by
  rw [linkBlocks_eq_mapM] at h
  obtain ⟨block, hmem, hblock⟩ := exists_of_mapM_eq_error h
  refine (linkBlock_refused hblock).mono ?_
  intro row hrow
  exact List.mem_flatMap.mpr ⟨block, hmem, hrow⟩

theorem mem_orderedBlocks {block : FieldBlock} :
    block ∈ c.orderedBlocks ↔ block ∈ c.message.fields := Order.mem_sortBy

/-- The fields of a message link when all its blocks do, in whatever order they stand. -/
theorem exists_linkFields :
    (∃ fields, c.linkFields = .ok fields) ↔
      ∀ block ∈ c.message.fields, ∃ field, c.linkBlock block = .ok field := by
  simp only [linkFields, linkBlocks_eq_ok, exists_forall₂, mem_orderedBlocks]

theorem linkFields_refused {fault : Fault} (h : c.linkFields = .error fault) :
    c.Blames c.message.rows fault := by
  apply (linkBlocks_refused h).mono
  intro row hrow
  obtain ⟨block, hblock, hmem⟩ := List.mem_flatMap.mp hrow
  exact List.mem_flatMap.mpr ⟨block, mem_orderedBlocks.mp hblock, hmem⟩

/-- The check of main fields passes when no two share a number or a name. -/
theorem checkBlocks_eq_ok {known : List FieldRow} {blocks : List FieldBlock}
    (hnumbers : (known.map FieldRow.number).Nodup)
    (hnames : (known.map fun row => row.name).Nodup) :
    c.checkBlocks known blocks = .ok () ↔
      ((known ++ blocks.map FieldBlock.main).map FieldRow.number).Nodup ∧
        ((known ++ blocks.map FieldBlock.main).map fun row => row.name).Nodup := by
  induction blocks generalizing known with
  | nil => simp [checkBlocks, hnumbers, hnames]
  | cons block rest ih =>
    have hsplit : known ++ (block :: rest).map FieldBlock.main =
        known ++ [block.main] ++ rest.map FieldBlock.main := by simp
    rw [hsplit]
    -- the first main field is new when it adds neither a number nor a name twice
    have hfresh : ∀ {α : Type} {key : FieldRow → α},
        ((known ++ [block.main] ++ rest.map FieldBlock.main).map key).Nodup →
          key block.main ∉ known.map key :=
      fun h => (nodup_map_concat.mp (nodup_map_left h)).2
    unfold checkBlocks
    cases hfind : known.find? fun f => f.number == block.main.number with
    | some owner =>
      have hsame : owner.number = block.main.number := by simpa using List.find?_some hfind
      simp only [reduceCtorEq, false_iff, not_and]
      intro hnodup
      exact absurd (List.mem_map_of_mem (List.mem_of_find?_eq_some hfind)) (hsame ▸ hfresh hnodup)
    | none =>
      have hnumber : block.main.number ∉ known.map FieldRow.number := by
        intro hmem
        obtain ⟨f, hf, heq⟩ := List.mem_map.mp hmem
        simpa [heq] using List.find?_eq_none.mp hfind f hf
      have hname : (known.any fun f => f.name == block.main.name) = true ↔
          block.main.name ∈ known.map fun row => row.name := by
        simp only [List.any_eq_true, beq_iff_eq, List.mem_map]
      by_cases htaken : block.main.name ∈ known.map fun row => row.name
      · simp only [if_pos (hname.mpr htaken), reduceCtorEq, false_iff, not_and]
        intro _ hnodup
        exact hfresh hnodup htaken
      · simp only [if_neg (mt hname.mp htaken)]
        exact ih (nodup_map_concat.mpr ⟨hnumbers, hnumber⟩) (nodup_map_concat.mpr ⟨hnames, htaken⟩)

theorem checkBlocks_refused {known : List FieldRow} {blocks : List FieldBlock} {fault : Fault}
    (h : c.checkBlocks known blocks = .error fault) :
    c.Blames (blocks.map FieldBlock.main) fault := by
  induction blocks generalizing known with
  | nil => cases h
  | cons block rest ih =>
    unfold checkBlocks at h
    split at h
    next => exact (BlamesField.of_error h).blames.mono (by simp)
    next =>
      split at h
      next => exact (BlamesField.of_error h).blames.mono (by simp)
      next => exact (ih h).mono fun row hrow => List.mem_cons_of_mem _ hrow

/-- What is asked of a message is what its two steps, the check of its main fields and
the links of all, need. -/
theorem consistent_iff (c : LinkContext) :
    c.message.Consistent c.meaning? ↔
      c.checkBlocks [] c.message.fields = .ok () ∧ ∃ fields, c.linkFields = .ok fields := by
  rw [checkBlocks_eq_ok (by simp) (by simp), exists_linkFields]
  simp only [List.nil_append, List.map_map, exists_linkBlock, exists_linkSingle]
  constructor
  · intro h
    refine ⟨⟨h.numbers, h.names⟩, ?_⟩
    intro block hblock
    refine ⟨h.unconditional block hblock, ?_, h.selected block hblock, h.exclusive block hblock⟩
    intro row hrow
    have hmem : row ∈ c.message.rows := List.mem_flatMap.mpr ⟨block, hblock, hrow⟩
    exact ⟨h.typed row hmem, h.packed row hmem⟩
  · rintro ⟨⟨hnumbers, hnames⟩, hblocks⟩
    have hrows : ∀ row ∈ c.message.rows, (c.meaning? row.typeName).isSome ∧
        (row.components ≠ [] → c.message.Packs c.meaning? row) := by
      intro row hrow
      obtain ⟨block, hblock, hmem⟩ := List.mem_flatMap.mp hrow
      exact (hblocks block hblock).2.1 row hmem
    exact { numbers := hnumbers
            names := hnames
            unconditional := fun block hblock => (hblocks block hblock).1
            typed := fun row hrow => (hrows row hrow).1
            packed := fun row hrow => (hrows row hrow).2
            selected := fun block hblock => (hblocks block hblock).2.2.1
            exclusive := fun block hblock => (hblocks block hblock).2.2.2 }

end LinkContext

namespace Model

/-! ## A message with its number -/

/-- A message and the block it comes from, apart from what the other messages are. -/
structure MessageLinks (c : LinkContext) (numbers : TypeDef) (message : Message) : Prop where
  name : message.name = c.message.name
  row : message.row = c.message.row
  number : numbers.valueOf? c.message.name = some message.number
  declared : ∀ declared, c.message.declaredNumber = some declared → declared = message.number
  checked : c.checkBlocks [] c.message.fields = .ok ()
  fields : c.linkFields = .ok message.fields

theorem messageNumber_eq_ok {c : LinkContext} {numbers : TypeDef} {known : List Message}
    {number : Int} :
    messageNumber c numbers known = .ok number ↔
      c.message.name ∉ known.map Message.name ∧
        numbers.valueOf? c.message.name = some number ∧
        (∀ declared, c.message.declaredNumber = some declared → declared = number) ∧
        number ∉ known.map Message.number := by
  have hname : (known.any fun m => m.name == c.message.name) = true ↔
      c.message.name ∈ known.map Message.name := by
    simp only [List.any_eq_true, beq_iff_eq, List.mem_map]
  unfold messageNumber
  -- the cases follow the checks: name, value, declared number, number
  by_cases htaken : c.message.name ∈ known.map Message.name
  · simp only [if_pos (hname.mpr htaken), reduceCtorEq, htaken, not_true_eq_false, false_and]
  · simp only [if_neg (mt hname.mp htaken), htaken, not_false_eq_true, true_and]
    cases numbers.valueOf? c.message.name with
    | none => simp
    | some n =>
      have hdeclared : (∃ d, c.message.declaredNumber.filter (fun d => d != n) = some d) ↔
          ¬ ∀ declared, c.message.declaredNumber = some declared → declared = n := by
        cases c.message.declaredNumber with
        | none => simp
        | some d => by_cases hd : d = n <;> simp [hd, Option.filter]
      have hfree : (known.find? fun m => m.number == n) = none ↔
          n ∉ known.map Message.number := by
        simp [List.find?_eq_none]
      simp only [Option.some.injEq]
      cases hfilter : c.message.declaredNumber.filter (fun d => d != n) with
      | some d =>
        simp only [reduceCtorEq, false_iff]
        rintro ⟨rfl, hall, -⟩
        exact hdeclared.mp ⟨d, hfilter⟩ hall
      | none =>
        have hall : ∀ declared, c.message.declaredNumber = some declared → declared = n := by
          by_contra hnot
          obtain ⟨d, hd⟩ := hdeclared.mpr hnot
          rw [hfilter] at hd
          cases hd
        cases hfind : known.find? fun m => m.number == n with
        | some owner =>
          simp only [reduceCtorEq, false_iff]
          rintro ⟨rfl, -, hnot⟩
          rw [hfree.mpr hnot] at hfind
          cases hfind
        | none =>
          simp only [Except.ok.injEq]
          constructor
          · rintro rfl
            exact ⟨rfl, hall, hfree.mp hfind⟩
          · exact fun h => h.1

theorem messageNumber_refused {c : LinkContext} {numbers : TypeDef} {known : List Message}
    {fault : Fault} (h : messageNumber c numbers known = .error fault) :
    ∃ cause, fault = c.messageFault cause := by
  unfold messageNumber at h
  dsimp only at h
  split at h
  next => exact ⟨_, (Except.error.inj h).symm⟩
  next =>
    split at h
    next => exact ⟨_, (Except.error.inj h).symm⟩
    next =>
      split at h
      next => exact ⟨_, (Except.error.inj h).symm⟩
      next =>
        split at h
        next => exact ⟨_, (Except.error.inj h).symm⟩
        next => cases h

/-- A message links below others when it links by itself and shares neither its name nor
its number with them. -/
theorem linkMessage_eq_ok {c : LinkContext} {numbers : TypeDef} {known : List Message}
    {message : Message} :
    linkMessage c numbers known = .ok message ↔
      MessageLinks c numbers message ∧ message.name ∉ known.map Message.name ∧
        message.number ∉ known.map Message.number := by
  constructor
  · intro h
    obtain ⟨_, hchecked, h⟩ := bind_eq_ok.mp h
    obtain ⟨number, hnumber, h⟩ := bind_eq_ok.mp h
    obtain ⟨fields, hfields, hpure⟩ := bind_eq_ok.mp h
    cases hpure
    obtain ⟨hname, hvalue, hdeclared, hfree⟩ := messageNumber_eq_ok.mp hnumber
    exact ⟨⟨rfl, rfl, hvalue, hdeclared, hchecked, hfields⟩, hname, hfree⟩
  · obtain ⟨name, number, fields, row⟩ := message
    rintro ⟨⟨rfl, rfl, hvalue, hdeclared, hchecked, hfields⟩, hname, hfree⟩
    exact bind_eq_ok.mpr ⟨(), hchecked, bind_eq_ok.mpr ⟨number,
      messageNumber_eq_ok.mpr ⟨hname, hvalue, hdeclared, hfree⟩,
      bind_eq_ok.mpr ⟨fields, hfields, rfl⟩⟩⟩

/-- A message is refused for a contradiction in itself, or over one of its rows. -/
theorem linkMessage_refused {c : LinkContext} {numbers : TypeDef} {known : List Message}
    {fault : Fault} (h : linkMessage c numbers known = .error fault) :
    (∃ cause, fault = c.messageFault cause) ∨ c.Blames c.message.rows fault := by
  have hmains : ∀ row ∈ c.message.fields.map FieldBlock.main, row ∈ c.message.rows := by
    intro row hrow
    obtain ⟨block, hblock, rfl⟩ := List.mem_map.mp hrow
    exact List.mem_flatMap.mpr ⟨block, hblock, List.mem_cons_self ..⟩
  rcases bind_eq_error.mp h with hchecked | ⟨_, -, h⟩
  · exact .inr ((LinkContext.checkBlocks_refused hchecked).mono hmains)
  · rcases bind_eq_error.mp h with hnumber | ⟨number, -, h⟩
    · exact .inl (messageNumber_refused hnumber)
    · rcases bind_eq_error.mp h with hfields | ⟨_, -, hpure⟩
      · exact .inr (LinkContext.linkFields_refused hfields)
      · cases hpure

/-! ## All messages -/

variable {sheet : Option String} {types : List TypeDef} {numbers : TypeDef}

/-- Messages link when each links by itself and no two share a name or a number. -/
theorem linkMessages_eq_ok {known out : List Message} {blocks : List MessageBlock}
    (hnames : (known.map Message.name).Nodup) (hnumbers : (known.map Message.number).Nodup) :
    linkMessages sheet types numbers known blocks = .ok out ↔
      ∃ added, out = known ++ added ∧
        List.Forall₂ (fun block message => MessageLinks ⟨sheet, types, block⟩ numbers message)
          blocks added ∧
        ((known ++ added).map Message.name).Nodup ∧
        ((known ++ added).map Message.number).Nodup := by
  induction blocks generalizing known with
  | nil =>
    simp only [List.forall₂_nil_left_iff, linkMessages, Except.ok.injEq]
    constructor
    · rintro rfl
      exact ⟨[], by simp, rfl, by simpa using hnames, by simpa using hnumbers⟩
    · rintro ⟨_, rfl, rfl, -⟩
      simp
  | cons block rest ih =>
    constructor
    · intro h
      obtain ⟨message, hmessage, hrest⟩ := bind_eq_ok.mp h
      obtain ⟨hlinks, hname, hnumber⟩ := linkMessage_eq_ok.mp hmessage
      obtain ⟨added, rfl, hall, hdistinct⟩ := (ih (nodup_map_concat.mpr ⟨hnames, hname⟩)
        (nodup_map_concat.mpr ⟨hnumbers, hnumber⟩)).mp hrest
      refine ⟨message :: added, by simp, .cons hlinks hall, ?_⟩
      simpa using hdistinct
    · rintro ⟨_, rfl, _ | ⟨hlinks, hall⟩, hdistinctNames, hdistinctNumbers⟩
      next message added =>
      -- `known` grows at its end, where its names and numbers stay distinct
      have hsplit : known ++ message :: added = known ++ [message] ++ added := by simp
      rw [hsplit] at hdistinctNames hdistinctNumbers
      have hname := nodup_map_left hdistinctNames
      have hnumber := nodup_map_left hdistinctNumbers
      have hmessage : linkMessage ⟨sheet, types, block⟩ numbers known = .ok message :=
        linkMessage_eq_ok.mpr
          ⟨hlinks, (nodup_map_concat.mp hname).2, (nodup_map_concat.mp hnumber).2⟩
      exact bind_eq_ok.mpr ⟨message, hmessage,
        (ih hname hnumber).mpr ⟨added, hsplit, hall, hdistinctNames, hdistinctNumbers⟩⟩

/-- Messages are refused over one of them. -/
theorem linkMessages_refused {known : List Message} {blocks : List MessageBlock} {fault : Fault}
    (h : linkMessages sheet types numbers known blocks = .error fault) :
    ∃ block ∈ blocks, (∃ cause, fault = LinkContext.messageFault ⟨sheet, types, block⟩ cause) ∨
      LinkContext.Blames ⟨sheet, types, block⟩ block.rows fault := by
  induction blocks generalizing known with
  | nil => cases h
  | cons block rest ih =>
    rcases bind_eq_error.mp h with hmessage | ⟨message, -, hrest⟩
    · exact ⟨block, by simp, linkMessage_refused hmessage⟩
    · obtain ⟨other, hmem, hother⟩ := ih hrest
      exact ⟨other, List.mem_cons_of_mem block hmem, hother⟩

end Model

end FitProfile
