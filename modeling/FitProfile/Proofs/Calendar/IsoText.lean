import FitProfile.Proofs.Text.Numerals
import FitProfile.Workbook.Listing
import Mathlib.Algebra.Group.Nat.Defs
/-!
# FitProfile.Proofs.Calendar.IsoText -- dates and times read back from their text

The text of a date, of a time of day or of a moment is made of numbers with a fixed number of
digits, and a reader takes off so many digits at a time (`Fits.takeDigits?`). So every date reads
back from its text, and so does every time of day and every moment, with one exception: an offset
of less than a second is written, but not read (`IsReadable`). The text that a cell reads as hence
gives back the date, time or moment in it, and a listing can hand over all of them
(`Listing.readCell?_asText`).
-/

namespace FitProfile

open FitProfile.Number

namespace Calendar

/-! ## Numbers of a fixed width -/

variable {width n : Nat}

/-- A number that a field of a fixed width has room for. -/
structure Fits (width n : Nat) : Prop where
  nonempty : 0 < width
  bounded : n < 10 ^ width

theorem toList_padded (width n : Nat) : (padded width n).toList =
    List.replicate (width - (Nat.toDigits 10 n).length) '0' ++ Nat.toDigits 10 n := by
  rw [padded, String.toList_append, String.toList_ofList, Nat.toList_repr]

theorem isDigit_of_mem_padded {c : Char} (hc : c ∈ (padded width n).toList) : c.isDigit = true := by
  rw [toList_padded] at hc
  rcases List.mem_append.mp hc with hzero | hdigit
  · rw [List.eq_of_mem_replicate hzero]
    decide
  · exact Nat.isDigit_of_mem_toDigits (by decide) (by decide) hdigit

theorem isAsciiDigit_of_isDigit {c : Char} (h : c.isDigit = true) : isAsciiDigit c = true := by
  obtain ⟨hlow, hhigh⟩ := Char.isDigit_iff_toNat.mp h
  have hzero : '0'.toNat = 0x30 := rfl
  have hnine : '9'.toNat = 0x39 := rfl
  simp only [isAsciiDigit, Bool.and_eq_true, decide_eq_true_eq]
  omega

theorem Fits.length_padded (h : Fits width n) : (padded width n).toList.length = width := by
  have hdigits : (Nat.toDigits 10 n).length ≤ width :=
    (Nat.length_toDigits_le_iff (by decide) h.nonempty).mpr h.bounded
  rw [toList_padded, List.length_append, List.length_replicate]
  omega

/-- The zeros in front do not count. -/
theorem ofDigits_padded (width n : Nat) : ofDigits 10 (digitRun (padded width n).toList) = n := by
  have hfold : ∀ cs : List Char, ofDigits 10 (digitRun cs) = Nat.ofDigitChars 10 cs 0 := by
    intro cs
    rw [ofDigits, digitRun, List.foldl_map, Nat.ofDigitChars_eq_foldl]
    simp only [Nat.mul_comm 10]
    rfl
  rw [hfold, toList_padded, Nat.ofDigitChars_append, Nat.ofDigitChars_replicate_zero, Nat.mul_zero,
    Nat.ofDigitChars_ten_toDigits]

/-- A number of a fixed width is taken off whatever follows it. -/
theorem Fits.takeDigits? (h : Fits width n) (rest : List Char) :
    takeDigits? width ((padded width n).toList ++ rest) = some (n, rest) := by
  have hlength := h.length_padded
  have hall : (padded width n).toList.all isAsciiDigit = true :=
    List.all_eq_true.mpr fun c hc => isAsciiDigit_of_isDigit (isDigit_of_mem_padded hc)
  rw [Calendar.takeDigits?, List.take_left' hlength, List.drop_left' hlength]
  rw [if_pos ⟨hlength, hall⟩, ofDigits_padded]

theorem Fits.takeDigits?_end (h : Fits width n) :
    Calendar.takeDigits? width (padded width n).toList = some (n, []) := by
  have htake := h.takeDigits? []
  rwa [List.append_nil] at htake

/-- A number of a fixed width begins with a digit. -/
theorem Fits.exists_cons (h : Fits width n) :
    ∃ c cs, (padded width n).toList = c :: cs ∧ c.isDigit = true := by
  have hlength := h.length_padded
  cases hcs : (padded width n).toList with
  | nil =>
    rw [hcs] at hlength
    exact absurd hlength (Nat.ne_of_lt h.nonempty)
  | cons c cs => exact ⟨c, cs, rfl, isDigit_of_mem_padded (hcs ▸ List.mem_cons_self)⟩

end Calendar

open Calendar

/-! ## Dates -/

namespace Date

variable {d : Date}

/-- A day of the calendar that there is. -/
structure IsProper (d : Date) : Prop where
  year : 1 ≤ d.year ∧ d.year ≤ lastYear
  month : 1 ≤ d.month ∧ d.month ≤ 12
  day : 1 ≤ d.day ∧ d.day ≤ daysInMonth d.year d.month

theorem daysInMonth_le (year month : Nat) : daysInMonth year month ≤ 31 := by
  unfold daysInMonth
  split
  · split <;> decide
  all_goals decide

theorem checkDate_of_isProper (h : d.IsProper) : checkDate (d.year, d.month, d.day) = .ok d := by
  obtain ⟨⟨hyear, hlast⟩, ⟨hmonth, hdecember⟩, hday, hend⟩ := h
  dsimp only [checkDate]
  rw [if_neg (by omega), if_neg (by omega), if_neg (by omega)]

/-- The parts of a date have room in four and two places. -/
theorem IsProper.fits (h : d.IsProper) : Fits 4 d.year ∧ Fits 2 d.month ∧ Fits 2 d.day := by
  obtain ⟨⟨-, hyear⟩, ⟨-, hmonth⟩, -, hday⟩ := h
  have hdays := daysInMonth_le d.year d.month
  have hlast : lastYear = 9999 := rfl
  exact ⟨⟨by decide, by omega⟩, ⟨by decide, by omega⟩, by decide, by omega⟩

theorem toList_text (d : Date) : d.text.toList = (padded 4 d.year).toList ++
    '-' :: ((padded 2 d.month).toList ++ '-' :: (padded 2 d.day).toList) := by
  have hdash : "-".toList = ['-'] := by decide
  simp only [text, String.toList_append, hdash, List.append_assoc, List.cons_append,
    List.nil_append]

theorem dateFields?_text (h : d.IsProper) :
    dateFields? d.text.toList = some (d.year, d.month, d.day) := by
  obtain ⟨hyear, hmonth, hday⟩ := h.fits
  obtain ⟨c, cs, hcs, hc⟩ := hmonth.exists_cons
  have hdash : (some '-' == some '-') = true := by decide
  simp only [dateFields?, toList_text, hyear.takeDigits?, Option.bind_eq_bind, Option.bind_some,
    List.head?_cons, hdash, if_true, List.drop_succ_cons, List.drop_zero]
  split
  next heq =>
    -- a month begins with a digit, and not with the mark of a week
    rw [hcs] at heq
    obtain rfl : c = 'W' := (List.cons.inj heq).1
    exact absurd hc (by decide)
  next =>
    simp only [hmonth.takeDigits?, Option.bind_some, dropDash?, hday.takeDigits?_end]
    rfl

theorem length_toList_text (h : d.IsProper) : d.text.toList.length = 10 := by
  obtain ⟨hyear, hmonth, hday⟩ := h.fits
  simp only [toList_text, List.length_append, List.length_cons, hyear.length_padded,
    hmonth.length_padded, hday.length_padded]

theorem utf8Size_of_isDigit {c : Char} (h : c.isDigit = true) : c.utf8Size = 1 := by
  obtain ⟨-, hhigh⟩ := Char.isDigit_iff_toNat.mp h
  have hnine : '9'.toNat = 0x39 := rfl
  rw [Char.utf8Size_eq_one_iff, UInt32.le_iff_toNat_le]
  show c.toNat ≤ 127
  omega

/-- A text of ASCII characters has as many bytes as characters. -/
theorem utf8ByteSize_of_ascii {cs : List Char} (h : ∀ c ∈ cs, c.utf8Size = 1) :
    (String.ofList cs).utf8ByteSize = cs.length := by
  induction cs with
  | nil => rfl
  | cons c cs ih =>
    rw [List.forall_mem_cons] at h
    have hcons : String.ofList (c :: cs) = String.singleton c ++ String.ofList cs := by
      rw [← String.toList_inj]
      simp
    rw [hcons, String.utf8ByteSize_append, String.utf8ByteSize_singleton, h.1, ih h.2,
      List.length_cons, Nat.add_comm]

theorem utf8ByteSize_text (h : d.IsProper) : d.text.utf8ByteSize = 10 := by
  have hascii : ∀ c ∈ d.text.toList, c.utf8Size = 1 := by
    intro c hc
    simp only [toList_text, List.mem_append, List.mem_cons] at hc
    rcases hc with hc | rfl | hc | rfl | hc
    · exact utf8Size_of_isDigit (isDigit_of_mem_padded hc)
    · decide
    · exact utf8Size_of_isDigit (isDigit_of_mem_padded hc)
    · decide
    · exact utf8Size_of_isDigit (isDigit_of_mem_padded hc)
  rw [← String.ofList_toList (s := d.text), utf8ByteSize_of_ascii hascii, length_toList_text h]

/-- A date reads back from its text. -/
theorem ofIso_text (h : d.IsProper) : ofIso d.text = .ok d := by
  unfold ofIso
  rw [utf8ByteSize_text h, if_pos (by decide), dateFields?_text h]
  exact checkDate_of_isProper h

end Date

/-! ## Times of day -/

namespace Calendar

variable {hour minute second microsecond : Nat}

/-- Seconds with their fraction, as far as it is there. -/
def secondsText (second microsecond : Nat) : String :=
  padded 2 second ++ if microsecond = 0 then "" else "." ++ padded 6 microsecond

theorem toList_secondsText (second microsecond : Nat) :
    (secondsText second microsecond).toList = (padded 2 second).toList ++
      if microsecond = 0 then [] else '.' :: (padded 6 microsecond).toList := by
  have hpoint : ".".toList = ['.'] := by decide
  rw [secondsText, String.toList_append]
  split
  · rfl
  · rw [String.toList_append, hpoint]
    rfl

/-- A field in front of a colon. -/
theorem readFields?_colon {n : Nat} (h : Fits 2 n) (followed : Bool) {colons : Option Bool}
    (hcolons : colons.getD true = true) (fields : Nat) {rest : List Char} (hrest : rest ≠ []) :
    readFields? followed colons (fields + 1) ((padded 2 n).toList ++ ':' :: rest) =
      (readFields? followed (some true) fields rest).map
        fun r => { r with fields := n :: r.fields } := by
  have hcolon : (':' == ':') = true := by decide
  obtain ⟨c, cs, rfl⟩ := List.exists_cons_of_ne_nil hrest
  rw [readFields?, h.takeDigits?]
  simp only [Option.bind_eq_bind, Option.bind_some, hcolon, hcolons, Bool.and_self, if_true]

/-- The last field. -/
theorem readFields?_end {n : Nat} (h : Fits 2 n) (followed : Bool) (colons : Option Bool)
    (fields : Nat) : readFields? followed colons (fields + 1) (padded 2 n).toList =
      some ⟨[n], 0, followed⟩ := by
  rw [readFields?, h.takeDigits?_end]
  rfl

theorem readFraction?_padded (h : Fits 6 microsecond) (followed : Bool) :
    readFraction? followed (padded 6 microsecond).toList = some ⟨[], microsecond, followed⟩ := by
  simp only [readFraction?, h.length_padded, Nat.min_self, h.takeDigits?_end, Option.bind_eq_bind,
    Option.bind_some, List.dropWhile_nil, Nat.sub_self, Nat.pow_eq, Nat.pow_zero, Nat.mul_one]
  rfl

/-- The last field with its fraction. -/
theorem readFields?_seconds (hsecond : Fits 2 second) (hmicrosecond : Fits 6 microsecond)
    (followed : Bool) (fields : Nat) :
    readFields? followed (some true) (fields + 1) (secondsText second microsecond).toList =
      some ⟨[second], microsecond, followed⟩ := by
  rw [toList_secondsText]
  split
  next hzero => rw [List.append_nil, readFields?_end hsecond, hzero]
  next =>
    obtain ⟨c, cs, hcs, -⟩ := hmicrosecond.exists_cons
    have hfraction := readFraction?_padded hmicrosecond followed
    rw [readFields?, hsecond.takeDigits?]
    rw [hcs] at hfraction ⊢
    simp only [Option.bind_eq_bind, Option.bind_some, Option.getD_some, hfraction]
    rfl

theorem padded_append_ne_nil {n : Nat} (h : Fits 2 n) (rest : List Char) :
    (padded 2 n).toList ++ rest ≠ [] := by
  obtain ⟨c, cs, hcs, -⟩ := h.exists_cons
  rw [hcs]
  exact nofun

/-- Hours, minutes and seconds with their fraction. -/
theorem readFields?_clock (hhour : Fits 2 hour) (hminute : Fits 2 minute) (hsecond : Fits 2 second)
    (hmicrosecond : Fits 6 microsecond) (followed : Bool) :
    readFields? followed none 3 ((padded 2 hour).toList ++
        ':' :: ((padded 2 minute).toList ++ ':' :: (secondsText second microsecond).toList)) =
      some ⟨[hour, minute, second], microsecond, followed⟩ := by
  have hseconds : (secondsText second microsecond).toList ≠ [] := by
    rw [toList_secondsText]
    exact padded_append_ne_nil hsecond _
  rw [readFields?_colon hhour followed rfl 2 (padded_append_ne_nil hminute _),
    readFields?_colon hminute followed rfl 1 hseconds,
    readFields?_seconds hsecond hmicrosecond followed 0]
  rfl

/-- Hours and minutes. -/
theorem readFields?_minutes (hhour : Fits 2 hour) (hminute : Fits 2 minute) (followed : Bool) :
    readFields? followed none 3 ((padded 2 hour).toList ++ ':' :: (padded 2 minute).toList) =
      some ⟨[hour, minute], 0, followed⟩ := by
  have hminutes := padded_append_ne_nil hminute []
  rw [List.append_nil] at hminutes
  rw [readFields?_colon hhour followed rfl 2 hminutes, readFields?_end hminute followed]
  rfl

/-- An offset that is read as it is written: it is shorter than a day, and there is none of less
than a second. -/
def IsReadableOffset (offset : Int) : Prop :=
  offset.natAbs < secondsPerDay * microsecondsPerSecond ∧
    (offset = 0 ∨ microsecondsPerSecond ≤ offset.natAbs)

/-- The clock of an offset behind its sign: hours and minutes, and the seconds as far as they are
there. -/
def offsetClock (seconds places : Nat) : List Char :=
  (padded 2 (seconds / 3600)).toList ++ ':' ::
    if seconds % 60 = 0 ∧ places = 0 then (padded 2 (seconds / 60 % 60)).toList
    else (padded 2 (seconds / 60 % 60)).toList ++ ':' :: (secondsText (seconds % 60) places).toList

theorem toList_offsetText (offset : Int) : (offsetText offset).toList =
    (if offset < 0 then '-' else '+') :: offsetClock (offset.natAbs / microsecondsPerSecond)
      (offset.natAbs % microsecondsPerSecond) := by
  have hcolon : ":".toList = [':'] := by decide
  have hpoint : ".".toList = ['.'] := by decide
  have hsign : (if offset < 0 then "-" else "+").toList = [if offset < 0 then '-' else '+'] := by
    split <;> decide
  unfold offsetText offsetClock
  dsimp only
  generalize offset.natAbs % microsecondsPerSecond = places
  generalize offset.natAbs / microsecondsPerSecond = seconds
  simp only [String.toList_append, hsign, hcolon, List.append_assoc, List.cons_append,
    List.nil_append]
  by_cases hplaces : places = 0
  · by_cases hseconds : seconds % 60 = 0
    · simp only [hplaces, hseconds, and_self, if_true, String.toList_empty, List.append_nil]
    · simp only [hplaces, hseconds, false_and, if_false, if_true, toList_secondsText,
        String.toList_append, hcolon, String.toList_empty, List.append_nil, List.cons_append,
        List.nil_append]
  · simp only [hplaces, and_false, if_false, toList_secondsText, String.toList_append, hcolon,
      hpoint, List.cons_append, List.nil_append]

/-- The clock of an offset is read with all its parts. -/
theorem exists_offsetClock {seconds places : Nat} (hday : seconds < secondsPerDay)
    (hplaces : places < microsecondsPerSecond) :
    ∃ clock, readFields? false none 3 (offsetClock seconds places) = some clock ∧
      clock.leftOver = false ∧ clock.microsecond = places ∧
      clock.fields.getD 0 0 * 3600 + clock.fields.getD 1 0 * 60 + clock.fields.getD 2 0 =
        seconds := by
  have hseconds : secondsPerDay = 86400 := rfl
  have hhour : Fits 2 (seconds / 3600) := ⟨by decide, by omega⟩
  have hminute : Fits 2 (seconds / 60 % 60) := ⟨by decide, by omega⟩
  have hsecond : Fits 2 (seconds % 60) := ⟨by decide, by omega⟩
  unfold offsetClock
  split
  next hwhole =>
    refine ⟨_, readFields?_minutes hhour hminute false, rfl, hwhole.2.symm, ?_⟩
    simp only [List.getD_cons_zero, List.getD_cons_succ, List.getD_nil]
    omega
  next =>
    refine ⟨_, readFields?_clock hhour hminute hsecond ⟨by decide, hplaces⟩ false, rfl, rfl, ?_⟩
    simp only [List.getD_cons_zero, List.getD_cons_succ]
    omega

theorem readOffset?_offsetText {offset : Int} (h : IsReadableOffset offset) :
    readOffset? (offsetText offset).toList = some offset := by
  obtain ⟨hday, hsecond⟩ := h
  have hpositive : 0 < microsecondsPerSecond := by decide
  obtain ⟨clock, hclock, hleft, hmicrosecond, hsum⟩ := exists_offsetClock
    (Nat.div_lt_of_lt_mul (Nat.mul_comm _ _ ▸ hday)) (Nat.mod_lt offset.natAbs hpositive)
  have hread : ∀ sign : Char, sign ≠ 'Z' → readOffset? (sign :: offsetClock
      (offset.natAbs / microsecondsPerSecond) (offset.natAbs % microsecondsPerSecond)) =
        some (if offset.natAbs / microsecondsPerSecond = 0 then 0
          else withSign (sign == '-') offset.natAbs) := by
    intro sign hsign
    rw [readOffset?.eq_def]
    split
    next heq => exact absurd (List.cons.inj heq).1 hsign
    next heq =>
      obtain ⟨rfl, rfl⟩ := List.cons.inj heq
      simp only [hclock, Option.bind_eq_bind, Option.bind_some, hleft, hsum, hmicrosecond,
        Bool.false_eq_true, if_false, Nat.div_add_mod']
      rfl
    next heq => cases heq
  rw [toList_offsetText, hread _ (by split <;> decide)]
  rcases hsecond with rfl | hlong
  · rfl
  · have hsome : offset.natAbs / microsecondsPerSecond ≠ 0 :=
      Nat.ne_of_gt (Nat.div_pos hlong hpositive)
    rw [if_neg hsome]
    by_cases hnegative : offset < 0
    · rw [if_pos hnegative]
      have hvalue : -(offset.natAbs : Int) = offset := by omega
      exact congrArg some hvalue
    · rw [if_neg hnegative]
      have hvalue : (offset.natAbs : Int) = offset := by omega
      exact congrArg some hvalue

end Calendar

namespace TimeOfDay

variable {t : TimeOfDay}

/-- A time of day that there is, with an offset that is read as it is written. -/
structure IsReadable (t : TimeOfDay) : Prop where
  hour : t.hour ≤ 23
  minute : t.minute ≤ 59
  second : t.second ≤ 59
  microsecond : t.microsecond < microsecondsPerSecond
  offset : ∀ offset ∈ t.offset, IsReadableOffset offset

/-- The clock of a time of day with its fraction of a second. -/
def clockChars (t : TimeOfDay) : List Char :=
  (padded 2 t.hour).toList ++
    ':' :: ((padded 2 t.minute).toList ++ ':' :: (secondsText t.second t.microsecond).toList)

theorem toList_text (t : TimeOfDay) :
    t.text.toList = t.clockChars ++ (t.offset.elim "" offsetText).toList := by
  have hcolon : ":".toList = [':'] := by decide
  have hpoint : ".".toList = ['.'] := by decide
  simp only [text, clockText, clockChars, String.toList_append, hcolon, toList_secondsText,
    List.append_assoc, List.cons_append, List.nil_append]
  split
  · rfl
  · rw [String.toList_append, hpoint]
    rfl

theorem not_isOffsetMark_of_mem {c : Char} (hc : c ∈ t.clockChars) : isOffsetMark c = false := by
  have hdigit : ∀ {c : Char}, c.isDigit = true → isOffsetMark c = false := by
    intro c hc
    have hne : ∀ d : Char, d.isDigit = false → (c == d) = false := by
      intro d hd
      rw [beq_eq_false_iff_ne]
      rintro rfl
      rw [hc] at hd
      cases hd
    rw [isOffsetMark, hne '+' (by decide), hne '-' (by decide), hne 'Z' (by decide)]
    rfl
  simp only [clockChars, toList_secondsText, List.mem_append, List.mem_cons] at hc
  rcases hc with hc | rfl | hc | rfl | hc | hc
  · exact hdigit (isDigit_of_mem_padded hc)
  · decide
  · exact hdigit (isDigit_of_mem_padded hc)
  · decide
  · exact hdigit (isDigit_of_mem_padded hc)
  · split at hc
    · cases hc
    · rcases List.mem_cons.mp hc with rfl | hc
      · decide
      · exact hdigit (isDigit_of_mem_padded hc)

/-- The clock of a time of day is read up to the mark of its offset. -/
theorem readFields?_clockChars (h : t.IsReadable) (followed : Bool) :
    readFields? followed none 3 t.clockChars =
      some ⟨[t.hour, t.minute, t.second], t.microsecond, followed⟩ := by
  obtain ⟨hhour, hminute, hsecond, hmicrosecond, -⟩ := h
  exact readFields?_clock ⟨by decide, by omega⟩ ⟨by decide, by omega⟩ ⟨by decide, by omega⟩
    ⟨by decide, hmicrosecond⟩ followed

theorem readTime?_text (h : t.IsReadable) : readTime? t.text.toList = some t := by
  have hclock : ∀ c ∈ t.clockChars, (!isOffsetMark c) = true := by
    intro c hc
    rw [not_isOffsetMark_of_mem hc]
    rfl
  rw [toList_text]
  cases hoffset : t.offset with
  | none =>
    have hend : ∀ c ∈ ([] : List Char).head?, (!isOffsetMark c) = false := nofun
    obtain ⟨htake, hdrop⟩ := Text.takeWhile_dropWhile_append hclock hend
    rw [List.append_nil] at htake hdrop
    simp only [readTime?, Option.elim_none, String.toList_empty, List.append_nil, htake, hdrop,
      readFields?_clockChars h, Option.bind_eq_bind, Option.bind_some]
    show some (⟨t.hour, t.minute, t.second, t.microsecond, none⟩ : TimeOfDay) = some t
    rw [← hoffset]
  | some offset =>
    have hread := readOffset?_offsetText (h.offset offset hoffset)
    have hmark : ∀ c ∈ (offsetText offset).toList.head?, (!isOffsetMark c) = false := by
      rw [toList_offsetText]
      rintro _ ⟨⟩
      split <;> decide
    have hsome : (offsetText offset).toList.isEmpty = false := by
      rw [toList_offsetText]
      rfl
    obtain ⟨htake, hdrop⟩ := Text.takeWhile_dropWhile_append hclock hmark
    simp only [readTime?, Option.elim_some, htake, hdrop, readFields?_clockChars h,
      Option.bind_eq_bind, Option.bind_some, hread, hsome, Bool.false_eq_true, if_false]
    show some (⟨t.hour, t.minute, t.second, t.microsecond, some offset⟩ : TimeOfDay) = some t
    rw [← hoffset]

theorem checkOffset_of_isReadable (h : t.IsReadable) : checkOffset t = .ok () := by
  unfold checkOffset
  split
  next offset hoffset => exact if_pos (h.offset offset hoffset).1
  next => rfl

theorem checkClock_of_isReadable (h : t.IsReadable) : checkClock t = .ok () := by
  obtain ⟨hhour, hminute, hsecond, -, -⟩ := h
  unfold checkClock
  rw [if_neg (by omega), if_neg (by omega), if_neg (by omega)]

/-- A time of day reads back from its text. -/
theorem ofIso_text (h : t.IsReadable) : ofIso t.text = .ok t := by
  have hhour : Fits 2 t.hour := ⟨by decide, Nat.lt_of_le_of_lt h.hour (by decide)⟩
  obtain ⟨c, cs, hcs, hc⟩ := hhour.exists_cons
  have hhead : t.text.toList.head? ≠ some 'T' := by
    rw [toList_text, clockChars, hcs]
    rintro ⟨⟩
    exact absurd hc (by decide)
  unfold ofIso
  dsimp only
  rw [if_neg hhead, readTime?_text h]
  simp only [checkOffset_of_isReadable h, checkClock_of_isReadable h]
  rfl

end TimeOfDay

/-! ## Moments -/

namespace Moment

variable {m : Moment}

/-- A moment that there is, with an offset that is read as it is written. -/
structure IsReadable (m : Moment) : Prop where
  date : m.date.IsProper
  time : m.time.IsReadable

theorem toList_text (m : Moment) :
    m.text.toList = m.date.text.toList ++ 'T' :: m.time.text.toList := by
  have hmark : "T".toList = ['T'] := by decide
  rw [text, String.toList_append, String.toList_append, hmark, List.append_assoc,
    List.singleton_append]

/-- The date of a moment is told from the time by the two dashes in it. -/
theorem dateLength_text (h : m.IsReadable) : dateLength m.text.toList = 10 := by
  have hlength : m.text.toList.length ≠ 7 := by
    rw [toList_text, List.length_append, Date.length_toList_text h.date]
    omega
  obtain ⟨hyear, hmonth, -⟩ := h.date.fits
  have hplaces := hyear.length_padded
  obtain ⟨c, cs, hcs, hc⟩ := hmonth.exists_cons
  have hchars : m.text.toList = (padded 4 m.date.year).toList ++
      '-' :: c :: (cs ++ '-' :: (padded 2 m.date.day).toList ++ 'T' :: m.time.text.toList) := by
    rw [toList_text, Date.toList_text, hcs, List.append_assoc]
    rfl
  have hdash : m.text.toList[4]? = some '-' := by
    rw [hchars, List.getElem?_append_right (Nat.le_of_eq hplaces), hplaces]
    rfl
  have hweek : m.text.toList[5]? ≠ some 'W' := by
    rw [hchars, List.getElem?_append_right (by omega), hplaces]
    rintro ⟨⟩
    exact absurd hc (by decide)
  unfold dateLength
  rw [if_neg hlength, if_pos hdash, if_pos hweek]

/-- A moment reads back from its text. -/
theorem ofIso_text (h : m.IsReadable) : ofIso m.text = .ok m := by
  have hlength := Date.length_toList_text h.date
  have hfields : fields? m.text.toList =
      some ((m.date.year, m.date.month, m.date.day), m.time) := by
    simp only [fields?, dateLength_text h]
    rw [toList_text, List.take_left' hlength, List.drop_left' hlength, Date.dateFields?_text h.date]
    simp only [Option.bind_eq_bind, Option.bind_some, TimeOfDay.readTime?_text h.time]
    rfl
  unfold ofIso
  rw [hfields]
  simp only [TimeOfDay.checkOffset_of_isReadable h.time, Date.checkDate_of_isProper h.date,
    TimeOfDay.checkClock_of_isReadable h.time]
  rfl

end Moment

/-! ## Cells of a listing -/

namespace Listing

theorem readCell?_of_kind {kind value : String} (h : ' ' ∉ kind.toList) :
    readCell? ("=" ++ kind ++ " " ++ value) = readValue? kind value := by
  have hmark : "=".toList = ['='] := by decide
  have hspace : " ".toList = [' '] := by decide
  have hchars : ("=" ++ kind ++ " " ++ value).toList =
      '=' :: (kind.toList ++ ' ' :: value.toList) := by
    simp only [String.toList_append, hmark, hspace, List.append_assoc, List.cons_append,
      List.nil_append]
  have hkind : ∀ c ∈ kind.toList, (c != ' ') = true := by
    intro c hc
    rw [bne_iff_ne]
    rintro rfl
    exact h hc
  have hstop : ∀ c ∈ (' ' :: value.toList).head?, (c != ' ') = false := by
    rintro _ ⟨⟩
    decide
  obtain ⟨htake, hdrop⟩ := Text.takeWhile_dropWhile_append hkind hstop
  rw [readCell?, hchars]
  simp only [htake, hdrop, List.drop_succ_cons, List.drop_zero, String.ofList_toList]

/-- What a cell with a date, a time or a moment reads as gives the cell back, with its kind. -/
theorem readCell?_asText :
    (∀ d : Date, d.IsProper → readCell? ("=" ++ "date" ++ " " ++ (Cell.date d).asText) =
      some (.date d)) ∧
    (∀ t : TimeOfDay, t.IsReadable → readCell? ("=" ++ "time" ++ " " ++ (Cell.time t).asText) =
      some (.time t)) ∧
    ∀ m : Moment, m.IsReadable → readCell? ("=" ++ "moment" ++ " " ++ (Cell.moment m).asText) =
      some (.moment m) := by
  refine ⟨fun d hd => ?_, fun t ht => ?_, fun m hm => ?_⟩
  · rw [readCell?_of_kind (by decide)]
    show (Date.ofIso d.text).toOption.map Cell.date = _
    rw [Date.ofIso_text hd]
    rfl
  · rw [readCell?_of_kind (by decide)]
    show (TimeOfDay.ofIso t.text).toOption.map Cell.time = _
    rw [TimeOfDay.ofIso_text ht]
    rfl
  · rw [readCell?_of_kind (by decide)]
    show (Moment.ofIso m.text).toOption.map Cell.moment = _
    rw [Moment.ofIso_text hm]
    rfl

end Listing

end FitProfile
