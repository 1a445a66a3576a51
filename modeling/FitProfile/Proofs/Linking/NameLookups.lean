import FitProfile.Proofs.Linking.Unmatched
import FitProfile.Proofs.Linking.Values
/-!
# FitProfile.Proofs.Linking.NameLookups -- from names to integers and back

A type is asked for the integer of a name and for the name of an integer, and each time the first
value that fits is the answer. No integer repeats within a type, so a name always comes back from
the integer it leads to. A name may repeat: then its later values lead to it, but it leads to the
first one only. Each repetition is warned of while the Types sheet is read and nothing else is, so
the two lookups are inverse for the types without a warning, and for no other
(`lookups_of_linkedFrom`).
-/

namespace FitProfile

open FitProfile.Draft FitProfile.Outcome

/-! ## Values and their names -/

namespace TypeDef

variable {type : TypeDef}

/-- The name of a value leads to it where no earlier value has that name. -/
theorem valueOf?_of_nodup (h : (type.values.map TypeValue.name).Nodup) {v : TypeValue}
    (hmem : v ∈ type.values) : type.valueOf? v.name = some v.value := by
  rw [valueOf?, find?_of_nodup_map h hmem, Option.map_some]

theorem nameOf?_of_nodup (h : (type.values.map TypeValue.value).Nodup) {v : TypeValue}
    (hmem : v ∈ type.values) : type.nameOf? v.value = some v.name := by
  rw [nameOf?, find?_of_nodup_map h hmem, Option.map_some]

/-- A name leads to a value of that name. -/
theorem exists_valueOf? {name : String} (h : name ∈ type.values.map TypeValue.name) :
    ∃ v ∈ type.values, v.name = name ∧ type.valueOf? name = some v.value := by
  have hsome : (type.values.find? fun v => v.name == name).isSome = true := by
    rw [List.find?_isSome]
    obtain ⟨v, hv, rfl⟩ := List.mem_map.mp h
    exact ⟨v, hv, beq_self_eq_true _⟩
  obtain ⟨v, hfind⟩ := Option.isSome_iff_exists.mp hsome
  refine ⟨v, List.mem_of_find?_eq_some hfind, ?_, ?_⟩
  · simpa using List.find?_some hfind
  · rw [valueOf?, hfind, Option.map_some]

/-- Where the integers are distinct, the name of a value leads back to its integer for all values
just when the names are distinct too. -/
theorem nodup_names_iff (h : (type.values.map TypeValue.value).Nodup) :
    (type.values.map TypeValue.name).Nodup ↔
      ∀ v ∈ type.values, type.valueOf? v.name = some v.value := by
  constructor
  · intro hnames v hmem
    exact valueOf?_of_nodup hnames hmem
  · intro hback
    have hvalues : type.values.Pairwise fun v w => v.value ≠ w.value := List.pairwise_map.mp h
    refine List.pairwise_map.mpr (hvalues.imp_of_mem ?_)
    intro v w hv hw hne hname
    have hsame : some v.value = some w.value := by
      rw [← hback v hv, ← hback w hw, hname]
    exact hne (Option.some.inj hsame)

end TypeDef

namespace Draft.TypesSheet

variable {r : SheetReader}

/-- A value that is compared with others without a fault is warned of once for each of them that
has its name. -/
theorem warnings_compareWith {type : String} {value : ValueRow} {known : List ValueRow}
    (h : (compareWith r type value known).outcome = .ok ()) :
    (compareWith r type value known).warnings =
      (known.filter fun earlier => earlier.name == value.name).map fun earlier =>
        ⟨value.name, type, earlier.value, value.value⟩ := by
  induction known with
  | nil => rfl
  | cons first rest ih =>
    unfold compareWith at h ⊢
    split at h
    next => cases h
    next hne =>
      rw [if_neg hne]
      split at h
      next hname =>
        dsimp only at h ⊢
        split at h
        next hwritable =>
          obtain ⟨_, hnote, hrest⟩ := Reported.outcome_bind_eq_ok.mp h
          rw [if_pos hname, if_pos hwritable, Reported.warnings_bind hnote, ih hrest]
          simp [hname, Reported.note, Reported.warnings]
        next => cases h
      next hname =>
        rw [if_neg hname, ih h]
        simp [hname]

/-- Reading on keeps the names of a type distinct just when nothing is warned of, and all warnings
are about the type. -/
theorem warnings_readValues {type : String} {known values : List ValueRow} {rows : List Row}
    (h : (readValues r type known rows).outcome = .ok values) :
    (∀ w ∈ (readValues r type known rows).warnings, w.type = type) ∧
      ((values.map ValueRow.name).Nodup ↔
        (known.map ValueRow.name).Nodup ∧ (readValues r type known rows).warnings = []) := by
  induction rows generalizing known with
  | nil =>
    cases h
    simp [readValues, Reported.warnings]
  | cons row rest ih =>
    unfold readValues at h ⊢
    split at h
    next hrow =>
      obtain ⟨value, hvalue, h⟩ := Reported.outcome_bind_eq_ok.mp h
      obtain ⟨_, hcompare, h⟩ := Reported.outcome_bind_eq_ok.mp h
      obtain ⟨htype, hnames⟩ := ih h
      have hquiet : (Reported.ofExcept (readValue r row)).warnings = [] := rfl
      have hnone : (compareWith r type value known).warnings = [] ↔
          value.name ∉ known.map ValueRow.name := by
        rw [warnings_compareWith hcompare]
        simp
      rw [if_pos hrow, Reported.warnings_bind hvalue, Reported.warnings_bind hcompare, hquiet,
        List.nil_append]
      constructor
      · refine List.forall_mem_append.mpr ⟨?_, htype⟩
        rw [warnings_compareWith hcompare]
        exact List.forall_mem_map.mpr fun _ _ => rfl
      · rw [hnames, nodup_map_concat, List.append_eq_nil_iff, hnone, and_assoc]
    next hrow =>
      rw [if_neg hrow]
      exact ih h

theorem warnings_readType {block : Row × List Row} {type : TypeBlock}
    (h : (readType r block).outcome = .ok type) :
    (∀ w ∈ (readType r block).warnings, w.type = type.name) ∧
      ((type.values.map ValueRow.name).Nodup ↔ (readType r block).warnings = []) := by
  obtain ⟨head, rows⟩ := block
  obtain ⟨hknown, values, hvalues, rfl⟩ := readType_eq_ok.mp h
  have hwarnings : (readType r (head, rows)).warnings =
      (readValues r (r.get head TypesColumn.typeName.key) [] rows).warnings := by
    simp only [readType]
    rw [if_neg (by simpa [Option.isSome_iff_ne_none] using hknown), Reported.warnings_bind hvalues]
    exact List.append_nil _
  obtain ⟨htype, hnames⟩ := warnings_readValues hvalues
  rw [hwarnings]
  exact ⟨htype, by simpa using hnames⟩

/-- Warnings about types: each is about one of them, and a type whose names are distinct is one
that none is about. -/
structure WarnsOf (types : List TypeBlock) (warnings : List DuplicateName) : Prop where
  named : ∀ w ∈ warnings, ∃ type ∈ types, w.type = type.name
  nodup_iff : ∀ type ∈ types, (type.values.map ValueRow.name).Nodup ↔
    ∀ w ∈ warnings, w.type ≠ type.name

/-- One type more, with a name of its own. -/
theorem WarnsOf.cons {type : TypeBlock} {types : List TypeBlock} {own others : List DuplicateName}
    (hown : ∀ w ∈ own, w.type = type.name)
    (hnames : (type.values.map ValueRow.name).Nodup ↔ own = [])
    (h : WarnsOf types others) (hfresh : type.name ∉ types.map TypeBlock.name) :
    WarnsOf (type :: types) (own ++ others) where
  named := by
    refine List.forall_mem_append.mpr ⟨?_, ?_⟩
    · exact fun w hw => ⟨type, List.mem_cons_self, hown w hw⟩
    · intro w hw
      obtain ⟨other, hother, hname⟩ := h.named w hw
      exact ⟨other, List.mem_cons_of_mem _ hother, hname⟩
  nodup_iff := by
    have hothers : ∀ w ∈ others, w.type ≠ type.name := by
      intro w hw hname
      obtain ⟨other, hother, hsame⟩ := h.named w hw
      exact hfresh (List.mem_map.mpr ⟨other, hother, hsame.symm.trans hname⟩)
    refine List.forall_mem_cons.mpr ⟨?_, ?_⟩
    · rw [hnames, List.forall_mem_append, List.eq_nil_iff_forall_not_mem]
      constructor
      · exact fun hnone => ⟨fun w hw => absurd hw (hnone w), hothers⟩
      · exact fun hall w hw => hall.1 w hw (hown w hw)
    · intro other hother
      rw [h.nodup_iff other hother, List.forall_mem_append]
      refine ⟨fun hall => ⟨?_, hall⟩, And.right⟩
      intro w hw hname
      exact hfresh (List.mem_map.mpr ⟨other, hother, hname.symm.trans (hown w hw)⟩)

theorem warnsOf_readTypes {blocks : List (Row × List Row)} {types : List TypeBlock}
    (h : (readTypes r blocks).outcome = .ok types) (hnames : (types.map TypeBlock.name).Nodup) :
    WarnsOf types (readTypes r blocks).warnings := by
  induction blocks generalizing types with
  | nil =>
    cases h
    exact ⟨nofun, nofun⟩
  | cons block rest ih =>
    obtain ⟨type, htype, h⟩ := Reported.outcome_bind_eq_ok.mp h
    obtain ⟨others, hothers, hpure⟩ := Reported.outcome_bind_eq_ok.mp h
    cases hpure
    obtain ⟨hfresh, hrest⟩ := List.nodup_cons.mp hnames
    obtain ⟨hown, hiff⟩ := warnings_readType htype
    rw [readTypes, Reported.warnings_bind htype, Reported.warnings_bind hothers]
    show WarnsOf (type :: others) (_ ++ (_ ++ []))
    rw [List.append_nil]
    exact .cons hown hiff (ih hothers hrest) hfresh

theorem warnsOf_read {rules : RuleSet} {sheet : Sheet} {types : List TypeBlock}
    (h : (read rules sheet).outcome = .ok types) (hnames : (types.map TypeBlock.name).Nodup) :
    WarnsOf types (read rules sheet).warnings := by
  obtain ⟨r, hreader, h⟩ := Reported.outcome_bind_eq_ok.mp h
  have hrows : (read rules sheet).warnings = (readRows r (sheet.rowsBelow r.header)).warnings := by
    rw [read, Reported.warnings_bind hreader]
    rfl
  rw [hrows]
  unfold readRows at h ⊢
  dsimp only at h ⊢
  split at h
  next => cases h
  next => exact warnsOf_readTypes h hnames

end Draft.TypesSheet

namespace Model

variable {model : Model} {rules : RuleSet} {version : Version} {book : Workbook}

/-- The names of a type of a linked model are distinct just when no warning is about it. -/
theorem LinkedFrom.nodup_names_iff (h : model.LinkedFrom rules version book) {type : TypeDef}
    (hmem : type ∈ model.types) : (type.values.map TypeValue.name).Nodup ↔
      ∀ w ∈ (Draft.ofWorkbook rules version book).warnings, w.type ≠ type.name := by
  obtain ⟨draft, hdraft, hmodel⟩ := h
  obtain ⟨sheet, htypes, hwarnings⟩ := Draft.warnings_ofWorkbook hdraft
  have htable := (ofDraft_eq_ok hmodel).1
  have hwarns := TypesSheet.warnsOf_read htypes (TypeTable.ofDraft_eq_ok htable).1
  rw [hwarnings]
  rcases TypeTable.mem_of_ofDraft htable hmem with ⟨block, hblock, htype⟩ | ⟨hnone, hfresh⟩
  · obtain ⟨hname, -, hvalues⟩ := TypeTable.ofBlock_eq_ok htype
    have hnames := congrArg (List.map Prod.fst) hvalues
    simp only [List.map_map] at hnames
    rw [hname, ← hwarns.nodup_iff block hblock]
    exact iff_of_eq (congrArg List.Nodup hnames)
  · rw [hnone]
    refine iff_of_true List.nodup_nil ?_
    intro w hw hname
    obtain ⟨block, hblock, hsame⟩ := hwarns.named w hw
    exact hfresh (List.mem_map.mpr ⟨block, hblock, hsame.symm.trans hname⟩)

/-- In each type of a linked model every declared name leads to a value whose name it is. The other
way round, every declared value has a name that leads back to it if and only if the names of the
type are distinct, and that is so just when reading the workbook warns of no name of the type. -/
theorem lookups_of_linkedFrom (rules : RuleSet) (version : Version) (book : Workbook)
    (model : Model) (type : TypeDef) (hmodel : model.LinkedFrom rules version book)
    (hmem : type ∈ model.types) :
    (∀ name ∈ type.values.map TypeValue.name,
        (type.valueOf? name).bind type.nameOf? = some name) ∧
      ((∀ value ∈ type.values.map TypeValue.value,
          (type.nameOf? value).bind type.valueOf? = some value) ↔
        (type.values.map TypeValue.name).Nodup) ∧
      ((type.values.map TypeValue.name).Nodup ↔
        ∀ w ∈ (Draft.ofWorkbook rules version book).warnings, w.type ≠ type.name) := by
  have hvalues := hmodel.nodup_values type hmem
  refine ⟨?_, ?_, hmodel.nodup_names_iff hmem⟩
  · intro name hname
    obtain ⟨v, hv, rfl, hvalue⟩ := TypeDef.exists_valueOf? hname
    rw [hvalue, Option.bind_some, TypeDef.nameOf?_of_nodup hvalues hv]
  · rw [TypeDef.nodup_names_iff hvalues, List.forall_mem_map]
    refine forall₂_congr fun v hv => ?_
    rw [TypeDef.nameOf?_of_nodup hvalues hv, Option.bind_some]

/-- Of the two values by the name of lap, only the first one is led back to. -/
theorem spelledBook_lookups : ∃ (model : Model) (type : TypeDef),
    model.LinkedFrom .sdk20 ⟨21, 0⟩ spelledBook ∧ type ∈ model.types ∧
      type.name = "mesg_num" ∧
      (Draft.ofWorkbook .sdk20 ⟨21, 0⟩ spelledBook).warnings = [⟨"lap", "mesg_num", 19, 17⟩] ∧
      type.nameOf? 17 = some "lap" ∧ type.valueOf? "lap" = some 19 ∧
      (type.valueOf? "lap").bind type.nameOf? = some "lap" ∧
      ((∀ value ∈ type.values.map TypeValue.value,
          (type.nameOf? value).bind type.valueOf? = some value) ↔
        (type.values.map TypeValue.name).Nodup) ∧
      ¬ (type.values.map TypeValue.name).Nodup := by
  have hlinked : ∃ (draft : Draft) (model : Model) (type : TypeDef),
      (Draft.ofWorkbook .sdk20 ⟨21, 0⟩ spelledBook).outcome = .ok draft ∧
        ofDraft .sdk20 ⟨21, 0⟩ draft = .ok model ∧ model.types.head? = some type ∧
        type.name = "mesg_num" ∧
        type.values.map TypeValue.name = ["lap", "Lap", "lap", "event"] ∧
        type.nameOf? 17 = some "lap" ∧ type.valueOf? "lap" = some 19 :=
    ⟨_, _, _, rfl, rfl, rfl, rfl, rfl, rfl, rfl⟩
  obtain ⟨draft, model, type, hdraft, hmodel, htype, hname, hnames, hlast, hfirst⟩ := hlinked
  have hmem : type ∈ model.types := List.mem_of_mem_head? htype
  have hwarnings : (Draft.ofWorkbook .sdk20 ⟨21, 0⟩ spelledBook).warnings =
      [⟨"lap", "mesg_num", 19, 17⟩] := by rfl
  obtain ⟨hforth, hback, hquiet⟩ := lookups_of_linkedFrom .sdk20 ⟨21, 0⟩ spelledBook model type
    ⟨draft, hdraft, hmodel⟩ hmem
  refine ⟨model, type, ⟨draft, hdraft, hmodel⟩, hmem, hname, hwarnings, hlast, hfirst,
    hforth "lap" (by rw [hnames]; decide), hback, ?_⟩
  rw [hquiet, hwarnings]
  intro hall
  exact hall _ List.mem_cons_self hname.symm

end Model

end FitProfile
