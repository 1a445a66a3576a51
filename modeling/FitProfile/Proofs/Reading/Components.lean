import FitProfile.Proofs.Drafting
import FitProfile.RuleSet.Registry
/-!
# FitProfile.Proofs.Reading.Components -- component cells line up

A row with components has a list of their names and five more cells for what they are like, each of
them a list with an entry for every component, with a single entry for all of them, or empty.
`entryFor` says which entry belongs to the component at a place, and `Spreads` which cells have one
for each. The reader spreads the five cells, lines the lists up and reads on component by
component; `readComponents_eq_ok` and `readComponents_of_misfit` say what comes out, and
`spread_writtenOut` that a single entry may as well be written once for each component. For rows as
a whole this is `components_line_up`.
-/

namespace FitProfile

open FitProfile.Draft FitProfile.Outcome

namespace Draft.MessagesSheet

variable {r : SheetReader} {row : Row}

/-! ## One cell for all components -/

/-- The entry of a list cell for the component at a place: none stands for an empty one, a single
one counts for all. -/
def entryFor (text : String) (i : Nat) : String :=
  match Text.commaList text with
  | [] => ""
  | [entry] => entry
  | entries => entries.getD i ""

/-- Cells that have an entry for each of `count` components. -/
def Spreads (count : Nat) (text : String) : Prop :=
  (Text.commaList text).length ∈ [0, 1, count]

instance (count : Nat) (text : String) : Decidable (Spreads count text) :=
  inferInstanceAs (Decidable (_ ∈ _))

/-- A list with two entries or more has one for each place. -/
theorem entryFor_of_two_le {text : String} (h : 2 ≤ (Text.commaList text).length) (i : Nat) :
    entryFor text i = (Text.commaList text).getD i "" := by
  unfold entryFor
  split
  next hnone =>
    rw [hnone] at h
    exact absurd h (by decide)
  next hsingle =>
    rw [hsingle] at h
    exact absurd h (Nat.not_succ_le_self 1)
  next => rfl

theorem map_entryFor_range {text : String} (h : 2 ≤ (Text.commaList text).length) :
    (List.range (Text.commaList text).length).map (entryFor text) = Text.commaList text := by
  refine List.ext_getElem (by simp) ?_
  intro i _ hi
  rw [List.getElem_map, List.getElem_range, entryFor_of_two_le h, List.getD_eq_getElem?_getD,
    List.getElem?_eq_getElem hi, Option.getD_some]

/-- Unless it is empty, the entry for a place is one of the cell. -/
theorem entryFor_mem (text : String) (i : Nat) :
    entryFor text i = "" ∨ entryFor text i ∈ Text.commaList text := by
  unfold entryFor
  split
  next => exact .inl rfl
  next hsingle => exact .inr (by simp [hsingle])
  next =>
    rw [List.getD_eq_getElem?_getD]
    cases hentry : (Text.commaList text)[i]? with
    | none => exact .inl rfl
    | some entry => exact .inr (List.mem_of_getElem? hentry)

theorem spread_of_spreads {key text : String} {count : Nat} (h : Spreads count text) :
    spread r row key count text = .ok ((List.range count).map (entryFor text)) := by
  unfold spread
  split
  next hnone =>
    have hentry : entryFor text = fun _ => "" := by
      funext i
      rw [entryFor, hnone]
    rw [hentry, List.map_const', List.length_range, Int.toNat_natCast]
  next entry hsingle =>
    have hentry : entryFor text = fun _ => entry := by
      funext i
      rw [entryFor, hsingle]
    rw [hentry, List.map_const', List.length_range, Int.toNat_natCast]
  next hnone hsingle =>
    have hmany : 2 ≤ (Text.commaList text).length := by
      rcases hlist : Text.commaList text with _ | ⟨entry, _ | ⟨next, rest⟩⟩
      · exact (hnone hlist).elim
      · exact (hsingle entry hlist).elim
      · simp
    have hcount : (Text.commaList text).length = count := by
      simp only [Spreads, List.mem_cons, List.not_mem_nil, or_false] at h
      omega
    rw [if_pos (by rw [hcount]), ← hcount, map_entryFor_range hmany]

theorem spread_of_not_spreads {key text : String} {count : Nat} (h : ¬ Spreads count text) :
    spread r row key count text =
      .error (r.fault row key (.entryCountDiffers count (Text.commaList text).length)) := by
  unfold spread
  split
  next hnone => exact absurd (by simp [Spreads, hnone]) h
  next hsingle => exact absurd (by simp [Spreads, hsingle]) h
  next =>
    rw [if_neg]
    intro hcount
    exact h (by simp [Spreads, Int.ofNat_inj.mp hcount])

/-! ## Six lists in step -/

/-- The columns that hold one entry for each component, in the order in which they are split. -/
def componentColumns : List MessagesColumn := [.scale, .offset, .units, .bits, .accumulate]

/-- The texts that state the component at a place. -/
def componentTexts (r : SheetReader) (row : Row) (i : Nat) (name : String) : ComponentTexts where
  name := name
  scale := entryFor (r.get row MessagesColumn.scale.key) i
  offset := entryFor (r.get row MessagesColumn.offset.key) i
  units := entryFor (r.get row MessagesColumn.units.key) i
  bits := entryFor (r.get row MessagesColumn.bits.key) i
  accumulate := entryFor (r.get row MessagesColumn.accumulate.key) i

/-- Lists as long as that of the names are lined up to the last name. -/
theorem lineUp_range (names : List String) (scale offset units bits accumulate : Nat → String) :
    lineUp names ((List.range names.length).map scale) ((List.range names.length).map offset)
        ((List.range names.length).map units) ((List.range names.length).map bits)
        ((List.range names.length).map accumulate) =
      names.mapIdx fun i name => ⟨name, scale i, offset i, units i, bits i, accumulate i⟩ := by
  induction names generalizing scale offset units bits accumulate with
  | nil => rfl
  | cons name rest ih =>
    rw [List.length_cons, List.range_succ_eq_map]
    simp only [List.map_cons, List.map_map, lineUp, List.mapIdx_cons]
    rw [← ih]
    rfl

/-- The entries of one column. -/
def spreadColumn (r : SheetReader) (row : Row) (count : Nat) (column : MessagesColumn) :
    Except Fault (List String) :=
  spread r row column.key count (r.get row column.key)

theorem spreadColumn_eq_ok {count : Nat} {column : MessagesColumn} :
    (∃ entries, spreadColumn r row count column = .ok entries) ↔
      Spreads count (r.get row column.key) := by
  constructor
  · rintro ⟨entries, hentries⟩
    by_contra hmisfit
    rw [spreadColumn, spread_of_not_spreads hmisfit] at hentries
    cases hentries
  · intro h
    exact ⟨_, spread_of_spreads h⟩

theorem readEach_eq_mapM (texts : List ComponentTexts) :
    readEach r row texts = texts.mapM (readComponent r row) := by
  induction texts with
  | nil => rfl
  | cons first rest ih => rw [readEach, List.mapM_cons, ih]

/-- The columns are split one after the other, and what they hold is then read in step. -/
theorem readComponents_eq (names : List String) : readComponents r row names =
    (componentColumns.mapM (spreadColumn r row names.length) >>= fun columns =>
      match columns with
      | [scales, offsets, units, bits, accumulates] =>
        (lineUp names scales offsets units bits accumulates).mapM (readComponent r row)
      | _ => .ok []) := by
  simp only [componentColumns, List.mapM_cons, List.mapM_nil, bind_assoc, pure_bind,
    ← readEach_eq_mapM]
  rfl

theorem readComponents_of_spreads {names : List String}
    (h : ∀ column ∈ componentColumns, Spreads names.length (r.get row column.key)) :
    readComponents r row names =
      (names.mapIdx (componentTexts r row)).mapM (readComponent r row) := by
  have hcolumns : componentColumns.mapM (spreadColumn r row names.length) =
      .ok (componentColumns.map fun column =>
        (List.range names.length).map (entryFor (r.get row column.key))) := by
    rw [mapM_eq_ok, List.forall₂_map_right_iff, List.forall₂_same]
    exact fun column hcolumn => spread_of_spreads (h column hcolumn)
  rw [readComponents_eq, hcolumns]
  show (lineUp names _ _ _ _ _).mapM (readComponent r row) = _
  rw [lineUp_range]
  rfl

/-- The first column with another number of entries ends the work. -/
theorem readComponents_of_misfit {names : List String} {before after : List MessagesColumn}
    {column : MessagesColumn} (hcolumns : componentColumns = before ++ column :: after)
    (hbefore : ∀ earlier ∈ before, Spreads names.length (r.get row earlier.key))
    (hmisfit : ¬ Spreads names.length (r.get row column.key)) :
    readComponents r row names = .error (r.fault row column.key
      (.entryCountDiffers names.length (Text.commaList (r.get row column.key)).length)) := by
  have hpassed : ∀ earlier ∈ before, ∃ entries,
      spreadColumn r row names.length earlier = .ok entries :=
    fun earlier hearlier => spreadColumn_eq_ok.mpr (hbefore earlier hearlier)
  have hfails : spreadColumn r row names.length column = .error (r.fault row column.key
      (.entryCountDiffers names.length (Text.commaList (r.get row column.key)).length)) :=
    spread_of_not_spreads hmisfit
  rw [readComponents_eq, hcolumns, mapM_eq_error_of_first hpassed hfails]
  rfl

/-! ## One component -/

/-- A component that is read from texts: each part of it is what its column makes of its text. -/
structure ReadsComponent (r : SheetReader) (row : Row) (texts : ComponentTexts)
    (component : ComponentEntry) : Prop where
  name : component.name = texts.name
  scale : ∃ q, r.readNumber row MessagesColumn.scale.key texts.scale = .ok q ∧
    component.scale = SheetReader.asScale q
  offset : ∃ q, r.readNumber row MessagesColumn.offset.key texts.offset = .ok q ∧
    component.offset = SheetReader.asOffset q
  units : component.units = SheetReader.nonEmpty? texts.units
  given : texts.bits ≠ ""
  bits : r.readInteger row MessagesColumn.bits.key texts.bits = .ok component.bits
  accumulate :
    r.readFlag row MessagesColumn.accumulate.key texts.accumulate = .ok component.accumulate

theorem readComponent_eq_ok {texts : ComponentTexts} {component : ComponentEntry} :
    readComponent r row texts = .ok component ↔ ReadsComponent r row texts component := by
  constructor
  · intro h
    simp only [readComponent] at h
    split at h
    next => exact absurd h throw_ne_ok
    next hgiven =>
      obtain ⟨scale, hscale, h⟩ := bind_eq_ok.mp h
      obtain ⟨offset, hoffset, h⟩ := bind_eq_ok.mp h
      obtain ⟨bits, hbits, h⟩ := bind_eq_ok.mp h
      obtain ⟨accumulate, haccumulate, hpure⟩ := bind_eq_ok.mp h
      cases hpure
      exact ⟨rfl, ⟨scale, hscale, rfl⟩, ⟨offset, hoffset, rfl⟩, rfl, by simpa using hgiven, hbits,
        haccumulate⟩
  · rintro ⟨hname, ⟨scale, hscale, hasScale⟩, ⟨offset, hoffset, hasOffset⟩, hunits, hgiven, hbits,
      haccumulate⟩
    obtain ⟨name, _, _, units, bits, accumulate⟩ := component
    dsimp only at hname hasScale hasOffset hunits hbits haccumulate
    subst hname hasScale hasOffset hunits
    simp only [readComponent]
    rw [if_neg (by simpa using hgiven), hscale, hoffset, hbits, haccumulate]
    rfl

theorem readComponents_eq_ok {names : List String} {components : List ComponentEntry} :
    readComponents r row names = .ok components ↔
      (∀ column ∈ componentColumns, Spreads names.length (r.get row column.key)) ∧
        List.Forall₂ (ReadsComponent r row) (names.mapIdx (componentTexts r row)) components := by
  have hread : List.Forall₂ (ReadsComponent r row) (names.mapIdx (componentTexts r row))
      components ↔ (names.mapIdx (componentTexts r row)).mapM (readComponent r row) =
        .ok components := by
    simp only [mapM_eq_ok, readComponent_eq_ok]
  rw [hread]
  constructor
  · intro h
    have hspreads : ∀ column ∈ componentColumns, Spreads names.length (r.get row column.key) := by
      intro column hcolumn
      have hcolumns := h
      rw [readComponents_eq] at hcolumns
      obtain ⟨columns, hcolumns, -⟩ := bind_eq_ok.mp hcolumns
      obtain ⟨entries, -, hentries⟩ := forall₂_exists_of_mem (mapM_eq_ok.mp hcolumns) hcolumn
      exact spreadColumn_eq_ok.mp ⟨entries, hentries⟩
    exact ⟨hspreads, readComponents_of_spreads hspreads ▸ h⟩
  · rintro ⟨hspreads, h⟩
    rw [readComponents_of_spreads hspreads, h]

/-! ## Entries written out -/

/-- An entry as many times as there are components. -/
def writtenOut (count : Nat) (text : String) : String :=
  ",".intercalate (List.replicate count text)

theorem writtenOut_one (text : String) : writtenOut 1 text = text := by
  rw [writtenOut, ← String.toList_inj, String.toList_intercalate]
  simp

section SingleEntry

variable {text : String} {count : Nat} (h : ',' ∉ text.toList)
include h

theorem entryFor_of_notMem (i : Nat) : entryFor text i = Text.strip text := by
  rw [entryFor, Text.commaList_of_notMem h]
  by_cases hempty : text = ""
  · rw [if_pos hempty, hempty]
    rfl
  · rw [if_neg hempty]

theorem spreads_of_notMem (count : Nat) : Spreads count text := by
  rw [Spreads, Text.commaList_of_notMem h]
  split
  next => simp
  next => simp

theorem commaList_writtenOut (hcount : 2 ≤ count) :
    Text.commaList (writtenOut count text) = List.replicate count (Text.strip text) := by
  have hchars : (writtenOut count text).toList =
      [','].intercalate (List.replicate count text.toList) := by
    rw [writtenOut, String.toList_intercalate, List.map_replicate]
    rfl
  have hgiven : (writtenOut count text).toList.isEmpty = false := by
    obtain ⟨more, rfl⟩ := Nat.exists_eq_add_of_le' hcount
    rw [hchars, List.replicate_succ, List.replicate_succ, List.intercalate_cons_cons]
    simp
  have hne : List.replicate count text.toList ≠ [] := by
    rw [Ne, List.replicate_eq_nil_iff]
    omega
  rw [Text.commaList, if_neg (Bool.eq_false_iff.mp hgiven), hchars,
    Text.splitAtChar_intercalate hne fun piece hpiece => (List.mem_replicate.mp hpiece).2 ▸ h,
    List.map_replicate]
  rfl

theorem entryFor_writtenOut (hcount : 2 ≤ count) {i : Nat} (hi : i < count) :
    entryFor (writtenOut count text) i = Text.strip text := by
  have hlist := commaList_writtenOut h hcount
  have hmany : 2 ≤ (Text.commaList (writtenOut count text)).length := by
    rw [hlist, List.length_replicate]
    exact hcount
  rw [entryFor_of_two_le hmany, hlist, List.getD_eq_getElem?_getD, List.getElem?_replicate,
    if_pos hi, Option.getD_some]

/-- Writing an entry out for all components changes nothing. -/
theorem spread_writtenOut (hcount : 0 < count) (key : String) :
    spread r row key count (writtenOut count text) = spread r row key count text := by
  by_cases hone : count = 1
  · rw [hone, writtenOut_one]
  · have hmany : 2 ≤ count := by omega
    have hwritten : Spreads count (writtenOut count text) := by
      rw [Spreads, commaList_writtenOut h hmany]
      simp
    rw [spread_of_spreads hwritten, spread_of_spreads (spreads_of_notMem h count)]
    refine congrArg Except.ok (List.map_congr_left ?_)
    intro i hi
    rw [entryFor_writtenOut h hmany (List.mem_range.mp hi), entryFor_of_notMem h]

end SingleEntry

/-- The second row says what the first one says, but in the columns of the components single
entries may be written out. -/
structure WritesOut (r : SheetReader) (count : Nat) (row row' : Row) : Prop where
  place : row'.index = row.index
  cell : ∀ column : MessagesColumn, r.get row' column.key = r.get row column.key ∨
    (column ∈ componentColumns ∧ ',' ∉ (r.get row column.key).toList ∧
      r.get row' column.key = writtenOut count (r.get row column.key))

variable {count : Nat} {row' : Row}

theorem fault_of_place (h : row'.index = row.index) : r.fault row' = r.fault row := by
  funext key cause
  rw [SheetReader.fault, SheetReader.fault, h]

theorem spread_of_place (h : row'.index = row.index) (key : String) (count : Int) (text : String) :
    spread r row' key count text = spread r row key count text := by
  simp only [spread, fault_of_place h]

theorem readComponent_of_place (h : row'.index = row.index) :
    readComponent r row' = readComponent r row := by
  funext texts
  simp only [readComponent, SheetReader.readNumber, SheetReader.readInteger, SheetReader.readFlag,
    fault_of_place h]

theorem WritesOut.get_eq (h : WritesOut r count row row') (column : MessagesColumn)
    (hcolumn : column ∉ componentColumns) : r.get row' column.key = r.get row column.key :=
  (h.cell column).resolve_right fun hwritten => hcolumn hwritten.1

theorem WritesOut.spreadColumn_eq (h : WritesOut r count row row') (hcount : 0 < count) :
    spreadColumn r row' count = spreadColumn r row count := by
  funext column
  rw [spreadColumn, spreadColumn, spread_of_place h.place]
  rcases h.cell column with hsame | ⟨-, hsingle, hwritten⟩
  · rw [hsame]
  · rw [hwritten, spread_writtenOut hsingle hcount]

theorem WritesOut.readComponents_eq {names : List String}
    (h : WritesOut r names.length row row') (hne : names ≠ []) :
    readComponents r row' names = readComponents r row names := by
  rw [MessagesSheet.readComponents_eq, MessagesSheet.readComponents_eq,
    h.spreadColumn_eq (List.length_pos_iff.mpr hne), readComponent_of_place h.place]

/-! ## The row -/

/-- The names in the component cell of a row. -/
def componentNames (r : SheetReader) (row : Row) : List String :=
  Text.commaList (r.get row MessagesColumn.components.key)

theorem readContents_of_names (hne : componentNames r row ≠ []) : readContents r row =
    (readComponents r row (componentNames r row) >>= fun components =>
      pure (components, ⟨none, none, none, false⟩)) := by
  unfold readContents
  split
  next hnone => exact absurd hnone hne
  next => rfl

theorem readComponents_of_readField {message : String} {number : Option Int} {spec : FieldSpec}
    (hne : componentNames r row ≠ []) (h : readField r message row = .ok (number, spec)) :
    readComponents r row (componentNames r row) = .ok spec.components := by
  have hcontents := readContents_of_readField h
  rw [readContents_of_names hne] at hcontents
  obtain ⟨components, hcomponents, hpure⟩ := bind_eq_ok.mp hcontents
  injection hpure with hpure
  rw [hcomponents, (Prod.mk.inj hpure).1]

theorem readField_of_misfit {message : String} (hne : componentNames r row ≠ [])
    {before after : List MessagesColumn} {column : MessagesColumn}
    (hcolumns : componentColumns = before ++ column :: after) (hhead : PassesHead r row)
    (hbefore : ∀ earlier ∈ before,
      Spreads (componentNames r row).length (r.get row earlier.key))
    (hmisfit : ¬ Spreads (componentNames r row).length (r.get row column.key)) :
    readField r message row = .error (r.fault row column.key
      (.entryCountDiffers (componentNames r row).length
        (Text.commaList (r.get row column.key)).length)) := by
  rw [readField_of_passesHead hhead, readContents_of_names hne,
    readComponents_of_misfit hcolumns hbefore hmisfit]
  rfl

/-- Whatever else is wrong, a row with a misfit is refused as an input. -/
theorem readField_refused {message : String} (hne : componentNames r row ≠ [])
    {column : MessagesColumn} (hcolumn : column ∈ componentColumns)
    (hmisfit : ¬ Spreads (componentNames r row).length (r.get row column.key)) :
    ∃ cause location, readField r message row = .error (.input cause location) := by
  by_cases hhead : PassesHead r row
  · -- the first column that does not fit is the one that is named
    have hsome : ∃ other ∈ componentColumns,
        ¬ Spreads (componentNames r row).length (r.get row other.key) :=
      ⟨column, hcolumn, hmisfit⟩
    obtain ⟨before, first, after, hcolumns, hbefore, hfirst⟩ := exists_first hsome
    have hfits : ∀ earlier ∈ before,
        Spreads (componentNames r row).length (r.get row earlier.key) :=
      fun earlier hearlier => Decidable.not_not.mp (hbefore earlier hearlier)
    exact ⟨_, _, readField_of_misfit hne hcolumns hhead hfits hfirst⟩
  · exact readField_of_not_passesHead hhead

theorem WritesOut.readField_eq (h : WritesOut r (componentNames r row).length row row')
    (hne : componentNames r row ≠ []) (message : String) :
    readField r message row' = readField r message row := by
  have hnames : componentNames r row' = componentNames r row := by
    rw [componentNames, h.get_eq .components (by decide), componentNames]
  have hcontents : readContents r row' = readContents r row := by
    rw [readContents_of_names (hnames ▸ hne), readContents_of_names hne, hnames,
      h.readComponents_eq hne]
  have hnumber : readNumber r row' = readNumber r row := by
    simp only [readNumber, SheetReader.readInteger, fault_of_place h.place,
      h.get_eq .fieldNumber (by decide)]
  have hextent : readExtent r row' = readExtent r row := by
    funext text
    simp only [readExtent, fault_of_place h.place]
  simp only [readField, SheetReader.messageFault, SheetReader.fieldFault, h.place, hcontents,
    hnumber, hextent, h.get_eq .fieldName (by decide),
    h.get_eq .fieldType (by decide), h.get_eq .refFieldName (by decide),
    h.get_eq .refFieldValue (by decide), h.get_eq .array (by decide),
    h.get_eq .comment (by decide)]

/-- Component cells broadcast and line up. An accepted row with names has a component for each of
them, in their order, read from the entries for its place. A single entry may as well be written
out once for each name. A cell with entries of another number is refused, and it is the one that
is named if the checks in front of it are passed. -/
theorem components_line_up (r : SheetReader) (message : String) (row : Row)
    (hne : componentNames r row ≠ []) :
    (∀ number spec, readField r message row = .ok (number, spec) →
      spec.components.length = (componentNames r row).length ∧
      (∀ column ∈ componentColumns,
        Spreads (componentNames r row).length (r.get row column.key)) ∧
      ∀ (i : Nat) (name : String), (componentNames r row)[i]? = some name →
        ∃ component, spec.components[i]? = some component ∧ component.name = name ∧
          ReadsComponent r row (componentTexts r row i name) component) ∧
    (∀ row', WritesOut r (componentNames r row).length row row' →
      readField r message row' = readField r message row) ∧
    ∀ before column after, componentColumns = before ++ column :: after →
      ¬ Spreads (componentNames r row).length (r.get row column.key) →
      (∃ cause location, readField r message row = .error (.input cause location)) ∧
      (PassesHead r row →
        (∀ earlier ∈ before, Spreads (componentNames r row).length (r.get row earlier.key)) →
        readField r message row = .error (r.fault row column.key
          (.entryCountDiffers (componentNames r row).length
            (Text.commaList (r.get row column.key)).length))) := by
  refine ⟨?_, ?_, ?_⟩
  · intro number spec hread
    obtain ⟨hspreads, hcomponents⟩ :=
      readComponents_eq_ok.mp (readComponents_of_readField hne hread)
    refine ⟨?_, hspreads, ?_⟩
    · rw [← hcomponents.length_eq, List.length_mapIdx]
    · intro i name hname
      have htexts : ((componentNames r row).mapIdx (componentTexts r row))[i]? =
          some (componentTexts r row i name) := by
        rw [List.getElem?_mapIdx, hname, Option.map_some]
      obtain ⟨component, hcomponent, hreads⟩ := forall₂_getElem? hcomponents htexts
      exact ⟨component, hcomponent, hreads.name, hreads⟩
  · intro row' hwrites
    exact hwrites.readField_eq hne message
  · intro before column after hcolumns hmisfit
    have hcolumn : column ∈ componentColumns := by
      rw [hcolumns]
      exact List.mem_append_right _ List.mem_cons_self
    exact ⟨readField_refused hne hcolumn hmisfit, fun hhead hbefore =>
      readField_of_misfit hne hcolumns hhead hbefore hmisfit⟩

/-- A Messages sheet with no more than its header. -/
def headerSheet : Sheet :=
  .ofCells "Messages"
    [["Message Name", "Field Def #", "Field Name", "Field Type", "Array", "Components", "Scale",
      "Offset", "Units", "Bits", "Accumulate", "Ref Field Name", "Ref Field Value", "Comment"]]

/-- A field with two components, with given cells for their offsets and bits. -/
def pairRow (offsets bits : String) : Row :=
  ⟨1, ["", "5", "pair", "uint16", "", "left,right", "", offsets, "m,s", bits]⟩

/-- Eight bits for both components, in a single entry or in two of them, but not in three. -/
theorem pairRow_line_up : ∃ (r : SheetReader) (number : Option Int) (spec : FieldSpec),
    reader .sdk20 headerSheet = .ok r ∧ componentNames r (pairRow "" "8") ≠ [] ∧
      readField r "event" (pairRow "" "8") = .ok (number, spec) ∧ spec.components.length = 2 ∧
      (∃ component, spec.components[1]? = some component ∧ component.name = "right" ∧
        ReadsComponent r (pairRow "" "8") ⟨"right", "", "", "s", "8", ""⟩ component) ∧
      WritesOut r 2 (pairRow "" "8") (pairRow "," "8,8") ∧
      readField r "event" (pairRow "," "8,8") = .ok (number, spec) ∧
      ¬ Spreads 2 "8,8,8" ∧
      readField r "event" (pairRow "" "8,8,8") =
        .error (r.fault (pairRow "" "8,8,8") "bits" (.entryCountDiffers 2 3)) := by
  have hopened : ∃ (r : SheetReader) (number : Option Int) (spec : FieldSpec),
      reader .sdk20 headerSheet = .ok r ∧ componentNames r (pairRow "" "8") = ["left", "right"] ∧
        componentNames r (pairRow "" "8,8,8") = ["left", "right"] ∧
        readField r "event" (pairRow "" "8") = .ok (number, spec) ∧
        componentTexts r (pairRow "" "8") 1 "right" = ⟨"right", "", "", "s", "8", ""⟩ ∧
        WritesOut r 2 (pairRow "" "8") (pairRow "," "8,8") ∧
        r.get (pairRow "" "8,8,8") MessagesColumn.bits.key = "8,8,8" ∧
        PassesHead r (pairRow "" "8,8,8") ∧
        ∀ earlier ∈ [MessagesColumn.scale, .offset, .units],
          Spreads 2 (r.get (pairRow "" "8,8,8") earlier.key) := by
    refine ⟨_, _, _, rfl, rfl, rfl, rfl, rfl, ⟨rfl, ?_⟩, rfl, ⟨by decide, by decide, rfl⟩, by decide⟩
    intro column
    cases column <;> first | exact .inl rfl | exact .inr ⟨by decide, by decide, rfl⟩
  obtain ⟨r, number, spec, hreader, hnames, hothers, hread, htexts, hwrites, hbits, hhead, hbefore⟩ :=
    hopened
  have hne : componentNames r (pairRow "" "8") ≠ [] := by
    rw [hnames]
    exact List.cons_ne_nil _ _
  obtain ⟨haccepted, hwritten, -⟩ := components_line_up r "event" (pairRow "" "8") hne
  obtain ⟨hlength, -, hcomponents⟩ := haccepted number spec hread
  have hright := hcomponents 1 "right" (by rw [hnames]; rfl)
  rw [htexts] at hright
  have hmisfit : ¬ Spreads 2 "8,8,8" := by decide
  obtain ⟨-, -, hrefused⟩ := components_line_up r "event" (pairRow "" "8,8,8")
    (by rw [hothers]; exact List.cons_ne_nil _ _)
  rw [hnames] at hlength hwritten
  rw [hothers] at hrefused
  obtain ⟨-, hfault⟩ := hrefused [.scale, .offset, .units] .bits [.accumulate] rfl
    (by rw [hbits]; exact hmisfit)
  refine ⟨r, number, spec, hreader, hne, hread, hlength, hright, hwrites,
    (hwritten _ hwrites).trans hread, hmisfit, ?_⟩
  rw [hfault hhead hbefore, hbits]
  rfl

end Draft.MessagesSheet

end FitProfile
