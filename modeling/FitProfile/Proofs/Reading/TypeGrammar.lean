import FitProfile.Proofs.Reading.Places
import FitProfile.Proofs.Reading.Refusal
import Mathlib.Data.List.DropRight
/-!
# FitProfile.Proofs.Reading.TypeGrammar -- the rules of the Types sheet

What a Types sheet may state is a grammar of its rows. A type row has a known base type. A value
row stands under a type row and states an integer, and no two value rows of one type state the
same. `Grammatical` says so of the rows as a whole, and `statedTypes` and `warnings` are what
they are read to and warned of.

The reader goes row by row, so the rules are also put as what one row must fulfil given the rows
above it. `fits_or_breaks` proves that a row fits or breaks a rule, `check_of_fits` and
`check_of_breaks` what the reader does then, and `grammatical_concat` that the rules hold of rows
just when each of them fits those above it.

A value is compared with the earlier ones of its type in their order. It may get warnings about
some of them before another one ends the work, so `Breaks` also lists the warnings up to there.
-/

namespace FitProfile

open FitProfile.Draft FitProfile.Outcome

/-! ## Chains of steps -/

instance : LawfulMonad Reported :=
  LawfulMonad.mk' Reported
    (fun x => by
      obtain ⟨notes, outcome⟩ := x
      cases outcome <;> simp [Functor.map, Reported.andThen])
    (fun _ _ => rfl)
    (fun x f g => by
      obtain ⟨notes, outcome⟩ := x
      cases outcome with
      | error fault => rfl
      | ok a =>
        rw [Reported.bind_ok, Reported.bind_ok]
        cases h : (f a).outcome <;> simp [h, bind, Reported.andThen])

namespace Draft

namespace TypesSheet

variable {r : SheetReader}

/-! ## What rows state -/

/-- Rows that hold a value. -/
def holdsValue (r : SheetReader) (row : Row) : Bool := !isTypeRow r row && isValueRow r row

/-- The integer that a value row states. -/
def statedInteger? (r : SheetReader) (row : Row) : Option Int :=
  SheetReader.integerIn? r.hexValues (r.get row TypesColumn.value.key)

/-- The value that a row states. -/
def statedValue (r : SheetReader) (row : Row) : ValueRow where
  name := r.get row TypesColumn.valueName.key
  value := (statedInteger? r row).getD 0
  comment := r.get row TypesColumn.comment.key
  row := row.index

/-- The type that a row opens, with the values in the rows below. -/
def statedType (r : SheetReader) (head : Row) (below : List Row) : TypeBlock where
  name := r.get head TypesColumn.typeName.key
  baseType := r.get head TypesColumn.baseType.key
  comment := r.get head TypesColumn.comment.key
  row := head.index
  values := (below.filter (isValueRow r)).map (statedValue r)

/-- A type for each type row, with the value rows up to the next one. -/
def statedTypes (r : SheetReader) : List Row → List TypeBlock
  | [] => []
  | row :: below =>
    if isTypeRow r row then
      statedType r row (below.takeWhile fun other => !isTypeRow r other) :: statedTypes r below
    else statedTypes r below

/-- The type row that the next row stands under: the last one above. -/
def openType? (r : SheetReader) (above : List Row) : Option Row :=
  (above.filter (isTypeRow r)).getLast?

/-- The value rows between that type row and the next row. -/
def openValues (r : SheetReader) (above : List Row) : List Row :=
  (above.rtakeWhile fun row => !isTypeRow r row).filter (isValueRow r)

/-- The warnings about the value in a row whose name values in earlier rows of the type have
too. -/
def namesakes (r : SheetReader) (head row : Row) (earlier : List Row) : List DuplicateName :=
  (earlier.filter fun other =>
    r.get other TypesColumn.valueName.key == r.get row TypesColumn.valueName.key).map fun other =>
      ⟨r.get row TypesColumn.valueName.key, r.get head TypesColumn.typeName.key,
        (statedValue r other).value, (statedValue r row).value⟩

/-- The warnings about a row given the rows above it. -/
def rowWarnings (r : SheetReader) (above : List Row) (row : Row) : List DuplicateName :=
  match openType? r above with
  | some head => if holdsValue r row then namesakes r head row (openValues r above) else []
  | none => []

/-- The warnings about rows below others, row by row. -/
def warningsBelow (r : SheetReader) (above : List Row) : List Row → List DuplicateName
  | [] => []
  | row :: below => rowWarnings r above row ++ warningsBelow r (above ++ [row]) below

/-- The warnings about the rows of a sheet: for each value one for each earlier value of its type
with the same name. -/
def warnings (r : SheetReader) (rows : List Row) : List DuplicateName := warningsBelow r [] rows

/-! ## The grammar -/

/-- The rules of the sheet. The values of a type are those between its row and the next type row, so
they must differ in every stretch of rows below a type row that holds no other one. -/
structure Grammatical (r : SheetReader) (rows : List Row) : Prop where
  known : ∀ row ∈ rows, isTypeRow r row = true →
    (BaseType.ofName? (r.get row TypesColumn.baseType.key)).isSome
  under : ∀ above row below, rows = above ++ row :: below → holdsValue r row = true →
    ∃ head ∈ above, isTypeRow r head = true
  stated : ∀ row ∈ rows, holdsValue r row = true →
    r.get row TypesColumn.value.key ≠ "" ∧ (statedInteger? r row).isSome
  distinct : ∀ above head inner below, rows = above ++ head :: (inner ++ below) →
    isTypeRow r head = true → (∀ row ∈ inner, isTypeRow r row = false) →
    (inner.filter (isValueRow r)).Pairwise fun a b => statedInteger? r a ≠ statedInteger? r b

/-- A row that adds the value `n` to the type it stands under. -/
structure Adds (r : SheetReader) (above : List Row) (row head : Row) (n : Int) : Prop where
  value : holdsValue r row = true
  under : openType? r above = some head
  given : r.get row TypesColumn.value.key ≠ ""
  stated : statedInteger? r row = some n

/-- The ways in which a row breaks a rule given the rows above it, with the warnings about the row
that are issued before. -/
inductive Breaks (r : SheetReader) (above : List Row) (row : Row) :
    List DuplicateName → Fault → Prop where
  | baseType (htype : isTypeRow r row = true)
      (hunknown : BaseType.ofName? (r.get row TypesColumn.baseType.key) = none) :
    Breaks r above row [] (r.fault row TypesColumn.baseType.key
      (.baseTypeUnknown (r.get row TypesColumn.baseType.key) (r.get row TypesColumn.typeName.key)))
  | outside (hvalue : holdsValue r row = true) (hunder : openType? r above = none) :
    Breaks r above row [] (r.fault row TypesColumn.valueName.key
      (.valueOutsideType (r.get row TypesColumn.valueName.key)))
  | missing {head : Row} (hvalue : holdsValue r row = true) (hunder : openType? r above = some head)
      (hempty : r.get row TypesColumn.value.key = "") :
    Breaks r above row [] (r.fault row TypesColumn.value.key
      (.valueMissing (r.get row TypesColumn.valueName.key)))
  | invalid {head : Row} (hvalue : holdsValue r row = true) (hunder : openType? r above = some head)
      (hgiven : r.get row TypesColumn.value.key ≠ "") (hinvalid : statedInteger? r row = none) :
    Breaks r above row [] (r.fault row TypesColumn.value.key
      (.invalidInteger (r.get row TypesColumn.value.key)))
  -- the earlier values in front of the one that ends the work are other values, and passed over
  | repeated {head earlier : Row} {before after : List Row} {n : Int}
      (hadds : Adds r above row head n) (hknown : openValues r above = before ++ earlier :: after)
      (hbefore : ∀ other ∈ before, statedInteger? r other ≠ some n)
      (hearlier : statedInteger? r earlier = some n)
      (hwritable : ∀ w ∈ namesakes r head row before, w.isWritable = true) :
    Breaks r above row (namesakes r head row before)
      (.ofIntegrity (.duplicateValue n (r.get head TypesColumn.typeName.key)
        (r.get earlier TypesColumn.valueName.key)) { sheet := some r.sheet, row := some row.index })
  | unwritable {head earlier : Row} {before after : List Row} {n : Int}
      (hadds : Adds r above row head n) (hknown : openValues r above = before ++ earlier :: after)
      (hbefore : ∀ other ∈ before, statedInteger? r other ≠ some n)
      (hearlier : statedInteger? r earlier ≠ some n)
      (hwritable : ∀ w ∈ namesakes r head row before, w.isWritable = true)
      (hlong : ∃ w ∈ namesakes r head row [earlier], w.isWritable = false) :
    Breaks r above row (namesakes r head row before) .tooManyDigitsToWrite

/-- The check of a row given the rows above it. -/
def check (r : SheetReader) (above : List Row) (row : Row) : Reported Unit :=
  if isTypeRow r row then
    if (BaseType.ofName? (r.get row TypesColumn.baseType.key)).isNone then
      .ofExcept (.error (r.fault row TypesColumn.baseType.key
        (.baseTypeUnknown (r.get row TypesColumn.baseType.key)
          (r.get row TypesColumn.typeName.key))))
    else pure ()
  else if isValueRow r row then
    match openType? r above with
    | none =>
      .ofExcept (.error (r.fault row TypesColumn.valueName.key
        (.valueOutsideType (r.get row TypesColumn.valueName.key))))
    | some head => do
      let value ← Reported.ofExcept (readValue r row)
      compareWith r (r.get head TypesColumn.typeName.key) value
        ((openValues r above).map (statedValue r))
  else pure ()

/-! ## One row more -/

section Concat

variable {above : List Row} {row : Row}

theorem openType?_concat (above : List Row) (row : Row) : openType? r (above ++ [row]) =
    if isTypeRow r row then some row else openType? r above := by
  unfold openType?
  by_cases hrow : isTypeRow r row = true <;> simp [hrow]

theorem openValues_concat (above : List Row) (row : Row) : openValues r (above ++ [row]) =
    if isTypeRow r row then []
    else if isValueRow r row then openValues r above ++ [row] else openValues r above := by
  unfold openValues
  rw [List.rtakeWhile_concat]
  by_cases hrow : isTypeRow r row = true <;> by_cases hvalue : isValueRow r row = true <;>
    simp [hrow, hvalue]

theorem warningsBelow_append (above rows below : List Row) :
    warningsBelow r above (rows ++ below) =
      warningsBelow r above rows ++ warningsBelow r (above ++ rows) below := by
  induction rows generalizing above with
  | nil => simp [warningsBelow]
  | cons row rest ih => simp [warningsBelow, ih]

theorem warnings_concat (above : List Row) (row : Row) :
    warnings r (above ++ [row]) = warnings r above ++ rowWarnings r above row := by
  simp [warnings, warningsBelow_append, warningsBelow]

theorem namesakes_append (head row : Row) (before after : List Row) :
    namesakes r head row (before ++ after) =
      namesakes r head row before ++ namesakes r head row after := by
  simp [namesakes]

/-- Rows stand under a type when there is a type row above. -/
theorem openType?_isSome :
    (openType? r above).isSome = true ↔ ∃ head ∈ above, isTypeRow r head = true := by
  simp [openType?]

/-- The values of the last type stand below its row. -/
theorem openValues_of_split {outer inner : List Row} {head : Row}
    (hhead : isTypeRow r head = true) (hinner : ∀ other ∈ inner, isTypeRow r other = false) :
    openValues r (outer ++ head :: inner) = inner.filter (isValueRow r) := by
  have hlast : (outer ++ head :: inner).rtakeWhile (fun row => !isTypeRow r row) = inner := by
    rw [List.rtakeWhile, List.reverse_append, List.reverse_cons, List.append_assoc,
      List.takeWhile_append_of_pos (by simpa using hinner)]
    simp [hhead]
  rw [openValues, hlast]

end Concat

/-! ## The check of a row -/

theorem value_statedValue {row : Row} {n : Int} (h : statedInteger? r row = some n) :
    (statedValue r row).value = n := by
  rw [statedValue, h, Option.getD_some]

theorem readValue_of_stated {row : Row} {n : Int} (hgiven : r.get row TypesColumn.value.key ≠ "")
    (hn : statedInteger? r row = some n) : readValue r row = .ok (statedValue r row) := by
  have hread : r.readInteger row TypesColumn.value.key (r.get row TypesColumn.value.key) = .ok n :=
    SheetReader.readInteger_eq_ok.mpr hn
  simp only [readValue]
  rw [if_neg (by simpa using hgiven), hread, statedValue, hn]
  rfl

theorem readValue_of_empty {row : Row} (hempty : r.get row TypesColumn.value.key = "") :
    readValue r row = .error (r.fault row TypesColumn.value.key
      (.valueMissing (r.get row TypesColumn.valueName.key))) := by
  simp only [readValue, hempty]
  rfl

theorem readValue_of_invalid {row : Row} (hgiven : r.get row TypesColumn.value.key ≠ "")
    (hnone : statedInteger? r row = none) :
    readValue r row = .error (r.fault row TypesColumn.value.key
      (.invalidInteger (r.get row TypesColumn.value.key))) := by
  have hread : r.readInteger row TypesColumn.value.key (r.get row TypesColumn.value.key) =
      .error (r.fault row TypesColumn.value.key
        (.invalidInteger (r.get row TypesColumn.value.key))) := by
    unfold statedInteger? at hnone
    simp only [SheetReader.readInteger, hnone]
  simp only [readValue]
  rw [if_neg (by simpa using hgiven), hread]
  rfl

theorem eq_statedValue_of_readValue {row : Row} {value : ValueRow}
    (h : readValue r row = .ok value) : value = statedValue r row := by
  simp only [readValue] at h
  split at h
  next => exact absurd h throw_ne_ok
  next =>
    obtain ⟨n, hn, hpure⟩ := bind_eq_ok.mp h
    cases hpure
    rw [statedValue, statedInteger?, SheetReader.readInteger_eq_ok.mp hn, Option.getD_some]

/-- Earlier values are passed over, with a warning for each one of the same name, as long as they
are other values and the warnings can be written. -/
theorem compareWith_append {head row : Row} {before : List Row} (after : List Row) {n : Int}
    (hn : statedInteger? r row = some n)
    (hstated : ∀ other ∈ before, (statedInteger? r other).isSome)
    (hbefore : ∀ other ∈ before, statedInteger? r other ≠ some n)
    (hwritable : ∀ w ∈ namesakes r head row before, w.isWritable = true) :
    compareWith r (r.get head TypesColumn.typeName.key) (statedValue r row)
        ((before ++ after).map (statedValue r)) =
      ((⟨(namesakes r head row before).map .warning, .ok ()⟩ : Reported Unit) >>= fun _ =>
        compareWith r (r.get head TypesColumn.typeName.key) (statedValue r row)
          (after.map (statedValue r))) := by
  induction before with
  | nil => rfl
  | cons earlier rest ih =>
    obtain ⟨hfirst, hstated⟩ := List.forall_mem_cons.mp hstated
    obtain ⟨hother, hbefore⟩ := List.forall_mem_cons.mp hbefore
    have hdiffers : (statedValue r earlier).value ≠ (statedValue r row).value := by
      obtain ⟨m, hm⟩ := Option.isSome_iff_exists.mp hfirst
      rw [value_statedValue hm, value_statedValue hn]
      exact fun heq => hother (hm.trans (congrArg some heq))
    rw [List.cons_append, List.map_cons, compareWith, if_neg hdiffers]
    by_cases hname : r.get earlier TypesColumn.valueName.key = r.get row TypesColumn.valueName.key
    · have hsame : (statedValue r earlier).name = (statedValue r row).name := hname
      have hcons : namesakes r head row (earlier :: rest) =
          ⟨r.get row TypesColumn.valueName.key, r.get head TypesColumn.typeName.key,
            (statedValue r earlier).value, (statedValue r row).value⟩ ::
            namesakes r head row rest := by
        simp [namesakes, hname]
      rw [hcons] at hwritable ⊢
      obtain ⟨hwarning, hwritable⟩ := List.forall_mem_cons.mp hwritable
      rw [if_pos hsame]
      refine (if_pos hwarning).trans ?_
      rw [ih hstated hbefore hwritable]
      rfl
    · have hsame : (statedValue r earlier).name ≠ (statedValue r row).name := hname
      have hskip : namesakes r head row (earlier :: rest) = namesakes r head row rest := by
        simp [namesakes, hname]
      rw [hskip] at hwritable ⊢
      rw [if_neg hsame]
      exact ih hstated hbefore hwritable

/-- A row that breaks no rule given the rows above it. -/
structure Fits (r : SheetReader) (above : List Row) (row : Row) : Prop where
  known : isTypeRow r row = true →
    (BaseType.ofName? (r.get row TypesColumn.baseType.key)).isSome
  adds : holdsValue r row = true → ∃ head n, Adds r above row head n ∧
    ∀ earlier ∈ openValues r above, statedInteger? r earlier ≠ some n

section Check

variable {above : List Row} {row head : Row} {n : Int}

theorem holdsValue_eq_true : holdsValue r row = true ↔
    isTypeRow r row = false ∧ isValueRow r row = true := by
  simp [holdsValue]

theorem check_of_value (htype : isTypeRow r row = false) (hvalue : isValueRow r row = true)
    (hunder : openType? r above = some head) : check r above row =
      (Reported.ofExcept (readValue r row) >>= fun value =>
        compareWith r (r.get head TypesColumn.typeName.key) value
          ((openValues r above).map (statedValue r))) := by
  simp only [check, htype, hvalue, hunder, if_true, Bool.false_eq_true, if_false]

theorem check_of_adds (h : Adds r above row head n) : check r above row =
    compareWith r (r.get head TypesColumn.typeName.key) (statedValue r row)
      ((openValues r above).map (statedValue r)) := by
  obtain ⟨htype, hvalue⟩ := holdsValue_eq_true.mp h.value
  rw [check_of_value htype hvalue h.under, readValue_of_stated h.given h.stated]
  rfl

theorem rowWarnings_of_adds (h : Adds r above row head n) :
    rowWarnings r above row = namesakes r head row (openValues r above) := by
  simp only [rowWarnings, h.under, h.value, if_true]

theorem rowWarnings_of_not_holdsValue (h : ¬ holdsValue r row = true) :
    rowWarnings r above row = [] := by
  unfold rowWarnings
  split <;> simp [h]

/-- A row that fits is passed with its warnings. -/
theorem check_of_fits (hstated : ∀ other ∈ openValues r above, (statedInteger? r other).isSome)
    (h : Fits r above row) (hwritable : ∀ w ∈ rowWarnings r above row, w.isWritable = true) :
    check r above row = ⟨(rowWarnings r above row).map .warning, .ok ()⟩ := by
  by_cases hvalue : holdsValue r row = true
  · obtain ⟨head, n, hadds, hdistinct⟩ := h.adds hvalue
    rw [rowWarnings_of_adds hadds] at hwritable ⊢
    have hpassed := compareWith_append [] hadds.stated hstated hdistinct hwritable
    rw [List.append_nil] at hpassed
    rw [check_of_adds hadds, hpassed]
    simp [compareWith]
  · rw [rowWarnings_of_not_holdsValue hvalue]
    unfold check
    split
    next htype =>
      obtain ⟨base, hbase⟩ := Option.isSome_iff_exists.mp (h.known htype)
      simp [hbase]
    next htype =>
      split
      next hrow => exact absurd (holdsValue_eq_true.mpr ⟨by simpa using htype, hrow⟩) hvalue
      next => rfl

/-- A row that breaks a rule is refused, with the warnings in front of that. -/
theorem check_of_breaks (hstated : ∀ other ∈ openValues r above, (statedInteger? r other).isSome)
    {cut : List DuplicateName} {fault : Fault} (h : Breaks r above row cut fault) :
    check r above row = ⟨cut.map .warning, .error fault⟩ := by
  cases h with
  | baseType htype hunknown => simp [check, htype, hunknown, Reported.ofExcept]
  | outside hvalue hunder =>
    obtain ⟨htype, hvalue⟩ := holdsValue_eq_true.mp hvalue
    simp [check, htype, hvalue, hunder, Reported.ofExcept]
  | missing hvalue hunder hempty =>
    obtain ⟨htype, hvalue⟩ := holdsValue_eq_true.mp hvalue
    simp [check, htype, hvalue, hunder, readValue_of_empty hempty, Reported.ofExcept]
  | invalid hvalue hunder hgiven hinvalid =>
    obtain ⟨htype, hvalue⟩ := holdsValue_eq_true.mp hvalue
    simp [check, htype, hvalue, hunder, readValue_of_invalid hgiven hinvalid, Reported.ofExcept]
  | @repeated head earlier before after n hadds hknown hbefore hearlier hwritable =>
    rw [hknown] at hstated
    rw [check_of_adds hadds, hknown, compareWith_append _ hadds.stated
      (fun other hother => hstated other (List.mem_append_left _ hother)) hbefore hwritable]
    have hsame : (statedValue r earlier).value = (statedValue r row).value := by
      rw [value_statedValue hearlier, value_statedValue hadds.stated]
    rw [List.map_cons, compareWith, if_pos hsame, value_statedValue hadds.stated]
    simp [Reported.ofExcept, statedValue]
  | @unwritable head earlier before after n hadds hknown hbefore hearlier hwritable hlong =>
    rw [hknown] at hstated
    rw [check_of_adds hadds, hknown, compareWith_append _ hadds.stated
      (fun other hother => hstated other (List.mem_append_left _ hother)) hbefore hwritable]
    obtain ⟨m, hm⟩ := Option.isSome_iff_exists.mp (hstated earlier (by simp))
    have hdiffers : (statedValue r earlier).value ≠ (statedValue r row).value := by
      rw [value_statedValue hm, value_statedValue hadds.stated]
      exact fun heq => hearlier (hm.trans (congrArg some heq))
    obtain ⟨w, hw, hlong⟩ := hlong
    obtain ⟨other, hother, rfl⟩ := List.mem_map.mp hw
    obtain ⟨hmem, hname⟩ := List.mem_filter.mp hother
    obtain rfl := List.mem_singleton.mp hmem
    have hsame : (statedValue r other).name = (statedValue r row).name := eq_of_beq hname
    rw [List.map_cons, compareWith, if_neg hdiffers, if_pos hsame]
    have hrefused : ¬ (DuplicateName.mk (statedValue r row).name
        (r.get head TypesColumn.typeName.key) (statedValue r other).value
        (statedValue r row).value).isWritable = true := by
      exact Bool.eq_false_iff.mp hlong
    dsimp only
    rw [if_neg hrefused]
    simp [Reported.ofExcept]

/-- What a value meets among earlier values: nothing that stops it, or a first one that does. -/
theorem exists_stop (head row : Row) (n : Int) (known : List Row) :
    ((∀ other ∈ known, statedInteger? r other ≠ some n) ∧
      ∀ w ∈ namesakes r head row known, w.isWritable = true) ∨
    ∃ before earlier after, known = before ++ earlier :: after ∧
      (∀ other ∈ before, statedInteger? r other ≠ some n) ∧
      (∀ w ∈ namesakes r head row before, w.isWritable = true) ∧
      (statedInteger? r earlier = some n ∨ statedInteger? r earlier ≠ some n ∧
        ∃ w ∈ namesakes r head row [earlier], w.isWritable = false) := by
  induction known with
  | nil => exact .inl ⟨by simp, by simp [namesakes]⟩
  | cons first rest ih =>
    by_cases hfirst : statedInteger? r first = some n
    · exact .inr ⟨[], first, rest, rfl, by simp, by simp [namesakes], .inl hfirst⟩
    by_cases hlong : ∃ w ∈ namesakes r head row [first], w.isWritable = false
    · exact .inr ⟨[], first, rest, rfl, by simp, by simp [namesakes], .inr ⟨hfirst, hlong⟩⟩
    -- the first value is passed over
    have hshort : ∀ w ∈ namesakes r head row [first], w.isWritable = true := by
      simpa using hlong
    have hcons : ∀ others, namesakes r head row (first :: others) =
        namesakes r head row [first] ++ namesakes r head row others :=
      namesakes_append head row [first]
    rcases ih with ⟨hrest, hwritable⟩ | ⟨before, earlier, after, rfl, hbefore, hwritable, hstop⟩
    · refine .inl ⟨List.forall_mem_cons.mpr ⟨hfirst, hrest⟩, ?_⟩
      rw [hcons]
      exact List.forall_mem_append.mpr ⟨hshort, hwritable⟩
    · refine .inr ⟨first :: before, earlier, after, rfl,
        List.forall_mem_cons.mpr ⟨hfirst, hbefore⟩, ?_, hstop⟩
      rw [hcons]
      exact List.forall_mem_append.mpr ⟨hshort, hwritable⟩

/-- A row fits and its warnings can be written, or it breaks a rule. -/
theorem fits_or_breaks (r : SheetReader) (above : List Row) (row : Row) :
    (Fits r above row ∧ ∀ w ∈ rowWarnings r above row, w.isWritable = true) ∨
      ∃ cut fault, Breaks r above row cut fault := by
  by_cases hvalue : holdsValue r row = true
  · obtain ⟨htype, -⟩ := holdsValue_eq_true.mp hvalue
    cases hunder : openType? r above with
    | none => exact .inr ⟨_, _, .outside hvalue hunder⟩
    | some head =>
      by_cases hgiven : r.get row TypesColumn.value.key = ""
      · exact .inr ⟨_, _, .missing hvalue hunder hgiven⟩
      cases hn : statedInteger? r row with
      | none => exact .inr ⟨_, _, .invalid hvalue hunder hgiven hn⟩
      | some n =>
        have hadds : Adds r above row head n := ⟨hvalue, hunder, hgiven, hn⟩
        rcases exists_stop head row n (openValues r above) with
          ⟨hdistinct, hwritable⟩ |
          ⟨before, earlier, after, hknown, hbefore, hwritable, hsame | ⟨hother, hlong⟩⟩
        · refine .inl ⟨⟨by simp [htype], fun _ => ⟨head, n, hadds, hdistinct⟩⟩, ?_⟩
          rwa [rowWarnings_of_adds hadds]
        · exact .inr ⟨_, _, .repeated hadds hknown hbefore hsame hwritable⟩
        · exact .inr ⟨_, _, .unwritable hadds hknown hbefore hother hwritable hlong⟩
  · have hnone : ∀ w ∈ rowWarnings r above row, w.isWritable = true := by
      simp [rowWarnings_of_not_holdsValue hvalue]
    by_cases htype : isTypeRow r row = true
    · cases hbase : BaseType.ofName? (r.get row TypesColumn.baseType.key) with
      | none => exact .inr ⟨_, _, .baseType htype hbase⟩
      | some base =>
        exact .inl ⟨⟨by simp [hbase], fun h => absurd h hvalue⟩, hnone⟩
    · exact .inl ⟨⟨fun h => absurd h htype, fun h => absurd h hvalue⟩, hnone⟩

end Check

/-! ## The grammar row by row -/

section Grammar

variable {above : List Row} {row : Row}

/-- A place among rows and one more is the last place or one among the rows. -/
theorem split_concat {α : Type} {above before after : List α} {a b : α}
    (h : above ++ [a] = before ++ b :: after) :
    (after = [] ∧ above = before ∧ a = b) ∨
      ∃ rest, after = rest ++ [a] ∧ above = before ++ b :: rest := by
  rcases List.eq_nil_or_concat after with rfl | ⟨rest, last, rfl⟩
  · obtain ⟨rfl, hlast⟩ := List.append_inj' h rfl
    exact .inl ⟨rfl, rfl, List.singleton_inj.mp hlast⟩
  · rw [List.concat_eq_append, ← List.cons_append, ← List.append_assoc] at h
    obtain ⟨rfl, hlast⟩ := List.append_inj' h rfl
    exact .inr ⟨rest, by rw [List.concat_eq_append, hlast], rfl⟩

/-- Where the rules hold, each row fits the rows above it. -/
theorem Grammatical.fits (h : Grammatical r (above ++ [row])) : Fits r above row where
  known := h.known row (by simp)
  adds := by
    intro hvalue
    obtain ⟨hgiven, hstated⟩ := h.stated row (by simp) hvalue
    obtain ⟨n, hn⟩ := Option.isSome_iff_exists.mp hstated
    have habove := h.under above row [] rfl hvalue
    obtain ⟨head, hunder⟩ := Option.isSome_iff_exists.mp (openType?_isSome.mpr habove)
    refine ⟨head, n, ⟨hvalue, hunder, hgiven, hn⟩, ?_⟩
    obtain ⟨outer, head, inner, rfl, hhead, hinner⟩ := exists_last_head habove
    obtain ⟨htype, hvalue⟩ := holdsValue_eq_true.mp hvalue
    -- the row stands behind the other values of its type
    have hdistinct := h.distinct outer head (inner ++ [row]) [] (by simp) hhead
      (List.forall_mem_append.mpr ⟨hinner, by simpa using htype⟩)
    rw [List.filter_append, List.filter_cons_of_pos hvalue, List.pairwise_append] at hdistinct
    rw [openValues_of_split hhead hinner]
    intro earlier hearlier
    rw [← hn]
    exact hdistinct.2.2 earlier hearlier row List.mem_cons_self

theorem Grammatical.of_concat (h : Grammatical r (above ++ [row])) : Grammatical r above where
  known := fun other hother => h.known other (List.mem_append_left _ hother)
  under := by
    rintro outer other below rfl
    exact h.under outer other (below ++ [row]) (by simp)
  stated := fun other hother => h.stated other (List.mem_append_left _ hother)
  distinct := by
    rintro outer head inner below rfl
    exact h.distinct outer head inner (below ++ [row]) (by simp)

/-- A row that fits the rows above it keeps the rules. -/
theorem Grammatical.concat (h : Grammatical r above) (hrow : Fits r above row) :
    Grammatical r (above ++ [row]) where
  known := List.forall_mem_append.mpr ⟨h.known, by simpa using hrow.known⟩
  under := by
    intro outer other below hsplit hvalue
    rcases split_concat hsplit with ⟨-, rfl, rfl⟩ | ⟨rest, -, habove⟩
    · obtain ⟨head, n, hadds, -⟩ := hrow.adds hvalue
      exact openType?_isSome.mp (by rw [hadds.under, Option.isSome_some])
    · exact h.under outer other rest habove hvalue
  stated := by
    refine List.forall_mem_append.mpr ⟨h.stated, ?_⟩
    intro other hother hvalue
    obtain rfl := List.mem_singleton.mp hother
    obtain ⟨head, n, hadds, -⟩ := hrow.adds hvalue
    exact ⟨hadds.given, by rw [hadds.stated, Option.isSome_some]⟩
  distinct := by
    intro outer head inner below hsplit hhead hinner
    rcases split_concat hsplit with ⟨hnil, -, -⟩ | ⟨rest, hrest, habove⟩
    · rw [(List.append_eq_nil_iff.mp hnil).1]
      exact .nil
    rcases List.eq_nil_or_concat below with rfl | ⟨lower, last, rfl⟩
    · -- the row is the last one of the type
      obtain rfl : inner = rest ++ [row] := by simpa using hrest
      obtain ⟨hrestTypes, hrowType⟩ := List.forall_mem_append.mp hinner
      have hdistinct := h.distinct outer head rest [] (by simpa using habove) hhead hrestTypes
      rw [List.filter_append, List.pairwise_append]
      refine ⟨hdistinct, List.Pairwise.filter _ (List.pairwise_singleton _ _), ?_⟩
      intro earlier hearlier other hother
      obtain ⟨hmem, hvalue⟩ := List.mem_filter.mp hother
      obtain rfl := List.mem_singleton.mp hmem
      obtain ⟨_, n, hadds, hother⟩ :=
        hrow.adds (holdsValue_eq_true.mpr ⟨hrowType other hmem, hvalue⟩)
      rw [habove, openValues_of_split hhead hrestTypes] at hother
      rw [hadds.stated]
      exact hother earlier hearlier
    · rw [List.concat_eq_append, ← List.append_assoc] at hrest
      obtain ⟨rfl, -⟩ := List.append_inj' hrest rfl
      exact h.distinct outer head inner lower habove hhead hinner

theorem grammatical_concat :
    Grammatical r (above ++ [row]) ↔ Grammatical r above ∧ Fits r above row :=
  ⟨fun h => ⟨h.of_concat, h.fits⟩, fun h => h.1.concat h.2⟩

theorem grammatical_nil : Grammatical r [] where
  known := by simp
  under := by simp
  stated := by simp
  distinct := by simp

end Grammar

end TypesSheet

end Draft

end FitProfile
