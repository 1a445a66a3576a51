import FitProfile.Proofs.Reading.Layout
import Mathlib.Logic.Equiv.Basic
/-!
# FitProfile.Proofs.Reading.Relayout -- laying out a sheet in another way

What is read from a sheet hangs on the labels in its header row, not on the places of the
columns, and not on columns or rows that no label asks for. `Relaid` lists the ways to lay
out a sheet anew: its columns change places, columns without a label that is read come, go
or are rewritten, and rows without an entry are put in or taken out below the header.
`read_relaid` proves that both sheets are read alike from the old and from the new layout:
the result or the fault is the same, up to the numbers of the rows that have moved.
-/

namespace FitProfile

open FitProfile.Draft FitProfile.Outcome

/-! ## Sheets that are laid out anew -/

namespace Layout

/-- The layout without one of the columns. -/
def withoutColumn (l : Layout) (k : Nat) : Layout :=
  { l with header := l.header.eraseIdx k, below := l.below.map fun row => row.eraseIdx k }

end Layout

/-- A row whose cells have changed places. Empty cells may be missing at the end. -/
def Permuted (e : Equiv.Perm Nat) (row row' : List String) : Prop :=
  ∀ i, row'.getD (e i) "" = row.getD i ""

/-- Rows from the place `n` on move down by one. -/
def movedDown (n : Nat) (i : Int) : Int := if i < n then i else i + 1

/-- Rows from the place `n` on move up by one. -/
def movedUp (n : Nat) (i : Int) : Int := if i < n then i else i - 1

/-- Ways to lay out a sheet anew. Of `keys` a row needs at least one to have an entry; the
function says where the rows move. -/
inductive Relaid (labels : List (String × String)) (keys : List String) :
    (Int → Int) → Layout → Layout → Prop where
  /-- The columns change places. -/
  | permute (e : Equiv.Perm Nat) {l l' : Layout}
    (habove : List.Forall₂ (Permuted e) l.above l'.above)
    (hheader : Permuted e l.header l'.header)
    (hbelow : List.Forall₂ (Permuted e) l.below l'.below) : Relaid labels keys id l l'
  /-- Columns that are not read are rewritten. -/
  | rewrite {l : Layout} {header : List String} {below : List (List String)}
    (hheader : ∀ i, IsMapped labels (l.header.getD i "") ∨ IsMapped labels (header.getD i "") →
      header.getD i "" = l.header.getD i "")
    (hbelow : List.Forall₂ (fun row row' => ∀ i, IsMapped labels (l.header.getD i "") →
      row'.getD i "" = row.getD i "") l.below below) :
    Relaid labels keys id l { l with header := header, below := below }
  /-- A column that is not read is added. -/
  | addColumn {l : Layout} (k : Nat) (hk : ¬ IsMapped labels (l.header.getD k "")) :
    Relaid labels keys id (l.withoutColumn k) l
  /-- A column that is not read is removed. -/
  | removeColumn {l : Layout} (k : Nat) (hk : ¬ IsMapped labels (l.header.getD k "")) :
    Relaid labels keys id l (l.withoutColumn k)
  /-- A row without an entry is put in below the header. -/
  | insertRow {l : Layout} {before after : List (List String)} (row : List String)
    (hbelow : l.below = before ++ after) (hrow : ∀ key ∈ keys, l.under labels row key = "") :
    Relaid labels keys (movedDown (l.above.length + 1 + before.length)) l
      { l with below := before ++ row :: after }
  /-- A row without an entry is taken out below the header. -/
  | deleteRow {l : Layout} {before after : List (List String)} (row : List String)
    (hbelow : l.below = before ++ row :: after)
    (hrow : ∀ key ∈ keys, l.under labels row key = "") :
    Relaid labels keys (movedUp (l.above.length + 1 + before.length)) l
      { l with below := before ++ after }
  /-- One change after the other. -/
  | trans {σ τ : Int → Int} {l l' l'' : Layout} (first : Relaid labels keys σ l l')
    (next : Relaid labels keys τ l' l'') : Relaid labels keys (τ ∘ σ) l l''

/-! ## Layouts that say the same -/

namespace Layout

variable {labels : List (String × String)} {keys : List String} {σ τ : Int → Int}
variable {l l' l'' : Layout}

/-- The rows below the header with an entry, each in its place. -/
def entries (l : Layout) (labels : List (String × String)) (keys : List String) : List Row :=
  (numbered (l.above.length + 1) l.below).filter (l.hasEntry labels keys)

/-- Layouts whose headers have the same labels, in the same row, with the same entries below. -/
structure SaysSame (labels : List (String × String)) (keys : List String) (σ : Int → Int)
    (l l' : Layout) : Prop where
  length : l'.above.length = l.above.length
  fixed : σ l.above.length = l.above.length
  places : ∀ entry ∈ labels, (Columns.place? l'.headerRow entry.2).isSome =
    (Columns.place? l.headerRow entry.2).isSome
  rows : List.Forall₂ (SameRow labels σ l l') (l.entries labels keys) (l'.entries labels keys)

theorem SameRow.trans {row row' row'' : Row} (first : SameRow labels σ l l' row row')
    (next : SameRow labels τ l' l'' row' row'') : SameRow labels (τ ∘ σ) l l'' row row'' where
  index := by rw [next.index, first.index, Function.comp_apply]
  cells key := (next.cells key).trans (first.cells key)

theorem SaysSame.trans (first : SaysSame labels keys σ l l')
    (next : SaysSame labels keys τ l' l'') : SaysSame labels keys (τ ∘ σ) l l'' where
  length := next.length.trans first.length
  fixed := by rw [Function.comp_apply, first.fixed, ← first.length, next.fixed]
  places entry hentry := (next.places entry hentry).trans (first.places entry hentry)
  rows := forall₂_trans (fun _ _ _ hrow hnext => hrow.trans hnext) first.rows next.rows

/-! ### Columns that move -/

/-- Cells in columns that are read move with `e`, and no other column comes to be read. -/
structure Carries (labels : List (String × String)) (e : Nat → Nat) (l l' : Layout) : Prop where
  length : l'.above.length = l.above.length
  above : (∀ row ∈ l.above, ∀ cell ∈ row, cell = "") → ∀ row ∈ l'.above, ∀ cell ∈ row, cell = ""
  header : ∀ i, IsMapped labels (l.header.getD i "") →
    l'.header.getD (e i) "" = l.header.getD i ""
  onto : ∀ j, IsMapped labels (l'.header.getD j "") →
    ∃ i, IsMapped labels (l.header.getD i "") ∧ e i = j
  below : List.Forall₂ (fun row row' => ∀ i, IsMapped labels (l.header.getD i "") →
    row'.getD (e i) "" = row.getD i "") l.below l'.below

/-- No label that is read is borne twice just when it has one place. -/
theorem pairwise_of_place_unique (h : ∀ i j, IsMapped labels (l.header.getD i "") →
    IsMapped labels (l.header.getD j "") →
      headerKey (l.header.getD i "") = headerKey (l.header.getD j "") → i = j) :
    l.header.Pairwise fun cell other =>
      IsMapped labels cell → IsMapped labels other → headerKey cell ≠ headerKey other := by
  rw [List.pairwise_iff_getElem]
  intro i j hi hj hij
  rw [← List.getD_eq_getElem _ "" hi, ← List.getD_eq_getElem _ "" hj]
  intro hmapped hother heq
  exact Nat.ne_of_lt hij (h i j hmapped hother heq)

theorem Carries.fits {e : Nat → Nat} (h : Carries labels e l l') (hfits : l.Fits labels) :
    l'.Fits labels where
  above := h.above hfits.above
  mapped := by
    obtain ⟨cell, hmem, hmapped⟩ := hfits.mapped
    obtain ⟨i, hi, rfl⟩ := List.getElem_of_mem hmem
    rw [← List.getD_eq_getElem _ "" hi] at hmapped
    have hcell := h.header i hmapped
    rw [← hcell] at hmapped
    obtain ⟨hlt, heq⟩ := getD_mem_of_ne hmapped.1
    exact ⟨_, heq ▸ List.getElem_mem hlt, hmapped⟩
  unique := by
    apply pairwise_of_place_unique
    intro j j' hj hj' heq
    obtain ⟨i, hi, rfl⟩ := h.onto j hj
    obtain ⟨i', hi', rfl⟩ := h.onto j' hj'
    rw [h.header i hi, h.header i' hi'] at heq
    rw [hfits.place_unique hi hi' heq]

/-- The place of a label moves with its column. -/
theorem Carries.place? {e : Nat → Nat} (h : Carries labels e l l') (hfits : l.Fits labels)
    {entry : String × String} (hentry : entry ∈ labels) :
    Columns.place? l'.headerRow entry.2 = (Columns.place? l.headerRow entry.2).map e := by
  obtain ⟨key, label⟩ := entry
  have hfits' := h.fits hfits
  cases hplace : Columns.place? l.headerRow label with
  | some i =>
    obtain ⟨hne, hkey⟩ := (hfits.place?_eq_some hentry).mp hplace
    have hcell := h.header i ⟨hne, _, hentry, hkey⟩
    rw [← hcell] at hne hkey
    exact (hfits'.place?_eq_some hentry).mpr ⟨hne, hkey⟩
  | none =>
    cases hplace' : Columns.place? l'.headerRow label with
    | none => rfl
    | some j =>
      -- the new place would be that of a column which bore the label before
      obtain ⟨hne, hkey⟩ := (hfits'.place?_eq_some hentry).mp hplace'
      obtain ⟨i, hi, rfl⟩ := h.onto j ⟨hne, _, hentry, hkey⟩
      rw [h.header i hi] at hne hkey
      have hsome := (hfits.place?_eq_some hentry).mpr ⟨hne, hkey⟩
      rw [hplace] at hsome
      cases hsome

/-- A row that moves its cells with the columns has the same cells under all keys. -/
theorem Carries.under {e : Nat → Nat} (h : Carries labels e l l') (hfits : l.Fits labels)
    {row row' : List String} (hrow : ∀ i, IsMapped labels (l.header.getD i "") →
      row'.getD (e i) "" = row.getD i "") (key : String) :
    l'.under labels row' key = l.under labels row key := by
  unfold Layout.under
  cases hlabel : labels.lookup key with
  | none => rfl
  | some label =>
    have hentry : (key, label) ∈ labels := by
      obtain ⟨before, after, heq, -⟩ := List.lookup_eq_some_iff.mp hlabel
      simp [heq]
    simp only [Option.bind_some, h.place? hfits hentry]
    cases hplace : Columns.place? l.headerRow label with
    | none => rfl
    | some i =>
      obtain ⟨hne, hkey⟩ := (hfits.place?_eq_some hentry).mp hplace
      exact hrow i ⟨hne, _, hentry, hkey⟩

theorem Carries.saysSame {e : Nat → Nat} (h : Carries labels e l l') (hfits : l.Fits labels) :
    SaysSame labels keys id l l' where
  length := h.length
  fixed := rfl
  places entry hentry := by rw [h.place? hfits hentry, Option.isSome_map]
  rows := by
    have hrows : List.Forall₂ (SameRow labels id l l') (numbered (l.above.length + 1) l.below)
        (numbered (l'.above.length + 1) l'.below) := by
      rw [h.length]
      refine (forall₂_numbered h.below _).imp fun row row' hrow => ?_
      exact ⟨congrArg Nat.cast hrow.1, h.under hfits hrow.2⟩
    exact List.rel_filter (fun _ _ hrow => by simp only [hasEntry, hrow.cells]) hrows

/-! ### Rows that come and go -/

/-- Rows that are numbered from elsewhere still say the same. -/
theorem forall₂_sameRow (other below : List (List String)) {n m : Nat}
    (hσ : ∀ i : Nat, n ≤ i → i < n + below.length → σ i = i + m - n) :
    List.Forall₂ (SameRow labels σ l { l with below := other }) (numbered n below)
      (numbered m below) := by
  induction below generalizing n m with
  | nil => exact .nil
  | cons row rest ih =>
    refine .cons ⟨?_, fun _ => rfl⟩ (ih fun i hni hi => ?_)
    · have := hσ n (Nat.le_refl n) (by simp)
      simp only
      omega
    · have := hσ i (by omega) (by rw [List.length_cons]; omega)
      omega

theorem saysSame_insertRow {before after : List (List String)} {row : List String}
    (hbelow : l.below = before ++ after) (hrow : ∀ key ∈ keys, l.under labels row key = "") :
    SaysSame labels keys (movedDown (l.above.length + 1 + before.length)) l
      { l with below := before ++ row :: after } where
  length := rfl
  fixed := by
    unfold movedDown
    split <;> omega
  places _ _ := rfl
  rows := by
    have hnone : Layout.hasEntry { l with below := before ++ row :: after } labels keys
        ⟨l.above.length + 1 + before.length, row⟩ = false := hasEntry_eq_false hrow
    simp only [entries, hbelow, numbered_append, numbered, List.filter_append]
    refine List.rel_append (forall₂_filter_hasEntry ?_) ?_
    · refine forall₂_sameRow _ _ fun i hni hi => ?_
      unfold movedDown
      split <;> omega
    · rw [List.filter_cons_of_neg (Bool.eq_false_iff.mp hnone)]
      refine forall₂_filter_hasEntry (forall₂_sameRow _ _ fun i hni hi => ?_)
      unfold movedDown
      split <;> omega

theorem saysSame_deleteRow {before after : List (List String)} {row : List String}
    (hbelow : l.below = before ++ row :: after)
    (hrow : ∀ key ∈ keys, l.under labels row key = "") :
    SaysSame labels keys (movedUp (l.above.length + 1 + before.length)) l
      { l with below := before ++ after } where
  length := rfl
  fixed := by
    unfold movedUp
    split <;> omega
  places _ _ := rfl
  rows := by
    have hnone : l.hasEntry labels keys ⟨l.above.length + 1 + before.length, row⟩ = false :=
      hasEntry_eq_false hrow
    simp only [entries, hbelow, numbered_append, numbered, List.filter_append]
    refine List.rel_append (forall₂_filter_hasEntry ?_) ?_
    · refine forall₂_sameRow _ _ fun i hni hi => ?_
      unfold movedUp
      split <;> omega
    · rw [List.filter_cons_of_neg (Bool.eq_false_iff.mp hnone)]
      refine forall₂_filter_hasEntry (forall₂_sameRow _ _ fun i hni hi => ?_)
      unfold movedUp
      split <;> omega

/-! ### Every way to lay out a sheet anew -/

/-- The place of a column after one was added at `k`. -/
def skip (k i : Nat) : Nat := if i < k then i else i + 1

/-- The place of a column after the one at `k` was removed. -/
def unskip (k i : Nat) : Nat := if i < k then i else i - 1

theorem getD_eraseIdx (row : List String) (k i : Nat) :
    (row.eraseIdx k).getD i "" = row.getD (skip k i) "" := by
  simp only [List.getD_eq_getElem?_getD, List.getElem?_eraseIdx, skip]
  split <;> rfl

theorem unskip_skip (k i : Nat) : unskip k (skip k i) = i := by
  unfold skip
  split <;> unfold unskip <;> split <;> omega

theorem skip_unskip {k i : Nat} (h : i ≠ k) : skip k (unskip k i) = i := by
  unfold unskip
  split <;> unfold skip <;> split <;> omega

theorem carries_permute (labels : List (String × String)) {e : Equiv.Perm Nat}
    (habove : List.Forall₂ (Permuted e) l.above l'.above) (hheader : Permuted e l.header l'.header)
    (hbelow : List.Forall₂ (Permuted e) l.below l'.below) : Carries labels e l l' where
  length := habove.length_eq.symm
  above hblank row' hrow' cell hcell := by
    obtain ⟨row, hrow, hpermuted⟩ := forall₂_exists_of_mem_right habove hrow'
    obtain ⟨j, hj, rfl⟩ := List.getElem_of_mem hcell
    rw [← List.getD_eq_getElem _ "" hj, ← e.apply_symm_apply j, hpermuted]
    exact getD_eq_empty (hblank row hrow) _
  header i _ := hheader i
  onto j hj := by
    refine ⟨e.symm j, ?_, e.apply_symm_apply j⟩
    rwa [← hheader, e.apply_symm_apply]
  below := hbelow.imp fun _ _ hrow i _ => hrow i

theorem carries_rewrite {header : List String} {below : List (List String)}
    (hheader : ∀ i, IsMapped labels (l.header.getD i "") ∨ IsMapped labels (header.getD i "") →
      header.getD i "" = l.header.getD i "")
    (hbelow : List.Forall₂ (fun row row' => ∀ i, IsMapped labels (l.header.getD i "") →
      row'.getD i "" = row.getD i "") l.below below) :
    Carries labels id l { l with header := header, below := below } where
  length := rfl
  above hblank := hblank
  header i hi := hheader i (.inl hi)
  onto j hj := ⟨j, hheader j (.inr hj) ▸ hj, rfl⟩
  below := hbelow

theorem carries_addColumn {k : Nat} (hk : ¬ IsMapped labels (l.header.getD k "")) :
    Carries labels (skip k) (l.withoutColumn k) l where
  length := rfl
  above hblank := hblank
  header i _ := (getD_eraseIdx l.header k i).symm
  onto j hj := by
    have hne : j ≠ k := fun heq => hk (heq ▸ hj)
    refine ⟨unskip k j, ?_, skip_unskip hne⟩
    rwa [withoutColumn, getD_eraseIdx, skip_unskip hne]
  below :=
    List.forall₂_map_left_iff.mpr (List.forall₂_same.mpr fun row _ i _ =>
      (getD_eraseIdx row k i).symm)

theorem carries_removeColumn {k : Nat} (hk : ¬ IsMapped labels (l.header.getD k "")) :
    Carries labels (unskip k) l (l.withoutColumn k) where
  length := rfl
  above hblank := hblank
  header i hi := by
    have hne : i ≠ k := fun heq => hk (heq ▸ hi)
    rw [withoutColumn, getD_eraseIdx, skip_unskip hne]
  onto j hj := by
    rw [withoutColumn, getD_eraseIdx] at hj
    exact ⟨skip k j, hj, unskip_skip k j⟩
  below := by
    refine List.forall₂_map_right_iff.mpr (List.forall₂_same.mpr fun row _ i hi => ?_)
    have hne : i ≠ k := fun heq => hk (heq ▸ hi)
    rw [getD_eraseIdx, skip_unskip hne]

end Layout

/-- A sheet that is laid out anew still has its labels where they can be found, and says the
same. -/
theorem Relaid.saysSame {labels : List (String × String)} {keys : List String} {σ : Int → Int}
    {l l' : Layout} (h : Relaid labels keys σ l l') (hfits : l.Fits labels) :
    l'.Fits labels ∧ l.SaysSame labels keys σ l' := by
  induction h with
  | permute e habove hheader hbelow =>
    have hcarries := Layout.carries_permute labels habove hheader hbelow
    exact ⟨hcarries.fits hfits, hcarries.saysSame hfits⟩
  | rewrite hheader hbelow =>
    have hcarries := Layout.carries_rewrite hheader hbelow
    exact ⟨hcarries.fits hfits, hcarries.saysSame hfits⟩
  | addColumn k hk =>
    have hcarries := Layout.carries_addColumn hk
    exact ⟨hcarries.fits hfits, hcarries.saysSame hfits⟩
  | removeColumn k hk =>
    have hcarries := Layout.carries_removeColumn hk
    exact ⟨hcarries.fits hfits, hcarries.saysSame hfits⟩
  | insertRow row hbelow hrow =>
    exact ⟨⟨hfits.above, hfits.mapped, hfits.unique⟩, Layout.saysSame_insertRow hbelow hrow⟩
  | deleteRow row hbelow hrow =>
    exact ⟨⟨hfits.above, hfits.mapped, hfits.unique⟩, Layout.saysSame_deleteRow hbelow hrow⟩
  | trans _ _ ihfirst ihnext =>
    obtain ⟨hmiddle, hfirst⟩ := ihfirst hfits
    obtain ⟨hlast, hnext⟩ := ihnext hmiddle
    exact ⟨hlast, hfirst.trans hnext⟩

namespace Layout

variable {labels : List (String × String)} {keys : List String} {σ : Int → Int}
variable {l l' : Layout}

/-- Layouts that say the same are opened alike: both lack a label, or each has its reader. -/
theorem SaysSame.ofSheet_ofCells (h : SaysSame labels keys σ l l') (hfits : l.Fits labels)
    (hfits' : l'.Fits labels) (name : String) (required : List String) (hexValues : Bool) :
    (∃ fault fault', fault.Moved σ fault' ∧
      SheetReader.ofSheet (.ofCells name l.rows) labels required hexValues = .error fault ∧
      SheetReader.ofSheet (.ofCells name l'.rows) labels required hexValues = .error fault') ∨
    SheetReader.ofSheet (.ofCells name l.rows) labels required hexValues =
        .ok (l.reader labels name hexValues) ∧
      SheetReader.ofSheet (.ofCells name l'.rows) labels required hexValues =
        .ok (l'.reader labels name hexValues) := by
  have hmissing : Columns.missing? l'.headerRow required labels =
      Columns.missing? l.headerRow required labels := by
    refine List.find?_congr fun entry hentry => ?_
    rw [← Option.not_isSome, ← Option.not_isSome, h.places entry hentry]
  rw [hfits.leads.ofSheet_ofCells, hfits'.leads.ofSheet_ofCells, hmissing, h.length]
  cases Columns.missing? l.headerRow required labels with
  | none => exact .inr ⟨rfl, rfl⟩
  | some entry =>
    have hmoved : Fault.Moved σ _ _ := .input (.columnMissing entry.2)
      { sheet := some name, row := some l.above.length, column := some entry.2 }
    simp only [Location.moved, Option.map_some, h.fixed] at hmoved
    exact .inl ⟨_, _, hmoved, rfl, rfl⟩

/-- The rows below two headers, as far as they have an entry. -/
theorem SaysSame.rowsBelow_ofCells (h : SaysSame labels keys σ l l') (name : String)
    (hexValues : Bool) :
    List.Forall₂ (SheetReader.SaysSame σ (l.reader labels name hexValues)
        (l'.reader labels name hexValues))
      (((Sheet.ofCells name l.rows).rowsBelow l.headerRow).filter (l.hasEntry labels keys))
      (((Sheet.ofCells name l'.rows).rowsBelow l'.headerRow).filter (l'.hasEntry labels keys)) := by
  rw [Layout.rowsBelow_ofCells, Layout.rowsBelow_ofCells, filter_hasEntry_not_blank,
    filter_hasEntry_not_blank]
  refine h.rows.imp fun row row' hrow => ⟨hrow.index, fun key => ?_⟩
  rw [get_reader, get_reader, hrow.cells]

end Layout

/-! ## Reading a sheet that is laid out anew -/

namespace Draft

variable {rules : RuleSet} {name : String} {σ : Int → Int} {l l' : Layout}

theorem TypesSheet.corresponds_read (hfits : l.Fits rules.typesColumns)
    (h : Relaid rules.typesColumns TypesSheet.entryKeys σ l l') :
    Reported.Corresponds σ (List.map (TypeBlock.moved σ))
      (TypesSheet.read rules (.ofCells name l.rows))
      (TypesSheet.read rules (.ofCells name l'.rows)) := by
  obtain ⟨hfits', hsame⟩ := h.saysSame hfits
  have hrows : Reported.Corresponds σ (List.map (TypeBlock.moved σ))
      (readRows (l.reader rules.typesColumns name rules.hexValues)
        ((Sheet.ofCells name l.rows).rowsBelow l.headerRow))
      (readRows (l'.reader rules.typesColumns name rules.hexValues)
        ((Sheet.ofCells name l'.rows).rowsBelow l'.headerRow)) := by
    apply corresponds_readRows (Layout.agrees_reader ..)
    rw [isSignificant_reader, isSignificant_reader]
    exact hsame.rowsBelow_ofCells name rules.hexValues
  unfold TypesSheet.read TypesSheet.reader
  rcases hsame.ofSheet_ofCells hfits hfits' name rules.requiredTypesColumns rules.hexValues with
    ⟨fault, fault', hmoved, hopen, hopen'⟩ | ⟨hopen, hopen'⟩
  · rw [hopen, hopen']
    exact ⟨rfl, .error hmoved⟩
  · rw [hopen, hopen']
    exact hrows

theorem MessagesSheet.corresponds_read (hfits : l.Fits rules.messagesColumns)
    (h : Relaid rules.messagesColumns MessagesSheet.entryKeys σ l l') :
    Corresponds σ (List.map (MessageBlock.moved σ))
      (MessagesSheet.read rules (.ofCells name l.rows))
      (MessagesSheet.read rules (.ofCells name l'.rows)) := by
  obtain ⟨hfits', hsame⟩ := h.saysSame hfits
  have hrows : Corresponds σ (List.map (MessageBlock.moved σ))
      (readRows (l.reader rules.messagesColumns name rules.hexValues)
        ((Sheet.ofCells name l.rows).rowsBelow l.headerRow))
      (readRows (l'.reader rules.messagesColumns name rules.hexValues)
        ((Sheet.ofCells name l'.rows).rowsBelow l'.headerRow)) := by
    apply corresponds_readRows (Layout.agrees_reader ..)
    rw [isSignificant_reader, isSignificant_reader]
    exact hsame.rowsBelow_ofCells name rules.hexValues
  unfold MessagesSheet.read MessagesSheet.reader
  rcases hsame.ofSheet_ofCells hfits hfits' name rules.requiredMessagesColumns rules.hexValues with
    ⟨fault, fault', hmoved, hopen, hopen'⟩ | ⟨hopen, hopen'⟩
  · rw [hopen, hopen']
    exact .error hmoved
  · rw [hopen, hopen']
    exact hrows

/-- Both sheets are read alike from every layout: the result is the same but for the rows that
have moved, and so is the fault, with the same notes made on the way. -/
theorem read_relaid (rules : RuleSet) (name : String) (σ : Int → Int) (l l' : Layout) :
    (l.Fits rules.typesColumns → Relaid rules.typesColumns TypesSheet.entryKeys σ l l' →
      Reported.Corresponds σ (List.map (TypeBlock.moved σ))
        (TypesSheet.read rules (.ofCells name l.rows))
        (TypesSheet.read rules (.ofCells name l'.rows))) ∧
    (l.Fits rules.messagesColumns → Relaid rules.messagesColumns MessagesSheet.entryKeys σ l l' →
      Corresponds σ (List.map (MessageBlock.moved σ))
        (MessagesSheet.read rules (.ofCells name l.rows))
        (MessagesSheet.read rules (.ofCells name l'.rows))) :=
  ⟨TypesSheet.corresponds_read, MessagesSheet.corresponds_read⟩

/-- A Types sheet, its first row blank and its last column not read. -/
def plainTypes : Layout where
  above := [[]]
  header := ["Type Name", "Base Type", "Value Name", "Value", "Note"]
  below := [["event", "enum"], ["", "", "timer", "0", "since 1.0"]]

/-- The same sheet with its first two columns exchanged. -/
def swappedTypes : Layout where
  above := [[]]
  header := ["Base Type", "Type Name", "Value Name", "Value", "Note"]
  below := [["enum", "event"], ["", "", "timer", "0", "since 1.0"]]

/-- The sheet with exchanged columns and one more row, which holds a note only. -/
def continuedTypes : Layout :=
  { swappedTypes with
    below := [["enum", "event"], ["", "", "", "", "continued"],
      ["", "", "timer", "0", "since 1.0"]] }

/-- A Messages sheet, its last column not read. -/
def notedMessages : Layout where
  above := []
  header := ["Message Name", "Field Def #", "Field Name", "Field Type", "Array", "Components",
    "Scale", "Offset", "Units", "Bits", "Accumulate", "Ref Field Name", "Ref Field Value", "Note"]
  below := [["event"], ["", "3", "data", "uint32"]]

theorem permuted_swap (a b : String) (rest : List String) :
    Permuted (Equiv.swap 0 1) (a :: b :: rest) (b :: a :: rest) := by
  rintro (_ | _ | i)
  · simp
  · simp
  · rw [Equiv.swap_apply_of_ne_of_ne (by simp) (by simp)]
    rfl

theorem relaid_continuedTypes : Relaid RuleSet.sdk20.typesColumns TypesSheet.entryKeys
    (movedDown 3 ∘ id) plainTypes continuedTypes := by
  have hswap : Relaid RuleSet.sdk20.typesColumns TypesSheet.entryKeys id plainTypes swappedTypes :=
    .permute (Equiv.swap 0 1) (.cons (fun _ => rfl) .nil) (permuted_swap _ _ _)
      (.cons (permuted_swap _ _ _) (.cons (permuted_swap _ _ _) .nil))
  have hbelow : swappedTypes.below =
      [["enum", "event"]] ++ [["", "", "timer", "0", "since 1.0"]] := rfl
  have hrow : ∀ key ∈ TypesSheet.entryKeys, swappedTypes.under RuleSet.sdk20.typesColumns
      ["", "", "", "", "continued"] key = "" := by decide +kernel
  have hinsert := Relaid.insertRow _ hbelow hrow
  exact hswap.trans hinsert

theorem read_continuedTypes :
    plainTypes.Fits RuleSet.sdk20.typesColumns ∧
    Relaid RuleSet.sdk20.typesColumns TypesSheet.entryKeys (movedDown 3 ∘ id) plainTypes
      continuedTypes ∧
    Reported.Corresponds (movedDown 3 ∘ id) (List.map (TypeBlock.moved (movedDown 3 ∘ id)))
      (TypesSheet.read .sdk20 (.ofCells "Types" plainTypes.rows))
      (TypesSheet.read .sdk20 (.ofCells "Types" continuedTypes.rows)) ∧
    notedMessages.Fits RuleSet.sdk20.messagesColumns ∧
    Relaid RuleSet.sdk20.messagesColumns MessagesSheet.entryKeys id notedMessages
      (notedMessages.withoutColumn 13) ∧
    Corresponds id (List.map (MessageBlock.moved id))
      (MessagesSheet.read .sdk20 (.ofCells "Messages" notedMessages.rows))
      (MessagesSheet.read .sdk20 (.ofCells "Messages" (notedMessages.withoutColumn 13).rows)) := by
  have htypes : plainTypes.Fits RuleSet.sdk20.typesColumns := by decide +kernel
  have hmessages : notedMessages.Fits RuleSet.sdk20.messagesColumns := by decide +kernel
  have hremoved : Relaid RuleSet.sdk20.messagesColumns MessagesSheet.entryKeys id notedMessages
      (notedMessages.withoutColumn 13) := .removeColumn 13 (by decide +kernel)
  exact ⟨htypes, relaid_continuedTypes,
    (read_relaid .sdk20 "Types" _ plainTypes continuedTypes).1 htypes relaid_continuedTypes,
    hmessages, hremoved,
    (read_relaid .sdk20 "Messages" _ notedMessages _).2 hmessages hremoved⟩

end Draft

end FitProfile
