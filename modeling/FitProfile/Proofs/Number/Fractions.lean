import FitProfile.Proofs.Number.Literals
import FitProfile.Proofs.Number.RealText
/-!
# FitProfile.Proofs.Number.Fractions -- which texts are read as finite numbers

The texts of numbers are the words for infinity and for no number, and the decimal fractions.
`WrittenFraction` is the grammar of the latter, with the digits and the power of ten that they
stand for. A text that is read as a number is read as a finite one unless it is such a word or a
fraction beyond the greatest number (`Quantity.isFinite_iff`).
-/

namespace FitProfile.Number

open FitProfile.Text

/-! ## Decimal fractions -/

/-- A sign or none. -/
inductive WrittenSign : List Char → Bool → Prop where
  | absent : WrittenSign [] false
  | plus : WrittenSign ['+'] false
  | minus : WrittenSign ['-'] true

/-- An exponent or none. -/
inductive WrittenExponent : List Char → Int → Prop where
  | absent : WrittenExponent [] 0
  | present {mark : Char} {sign : List Char} {negative : Bool} {digits : List Nat}
    (letter : mark = 'e' ∨ mark = 'E') (signed : WrittenSign sign negative) (some : digits ≠ [])
    (bounded : ∀ d ∈ digits, d < 10) :
    WrittenExponent (mark :: (sign ++ digitMarks digits))
      (withSign negative (ofDigits 10 digits))

/-- Digits, around a point or without one, and an exponent or none: the text of the integer of the
digits times a power of ten. -/
inductive WrittenFraction : List Char → List Nat → Int → Prop where
  | whole {digits : List Nat} {power : List Char} {exponent : Int} (some : digits ≠ [])
    (bounded : ∀ d ∈ digits, d < 10) (scaled : WrittenExponent power exponent) :
    WrittenFraction (digitMarks digits ++ power) digits exponent
  | point {whole part : List Nat} {power : List Char} {exponent : Int} (some : whole ++ part ≠ [])
    (bounded : ∀ d ∈ whole ++ part, d < 10) (scaled : WrittenExponent power exponent) :
    WrittenFraction (digitMarks whole ++ '.' :: (digitMarks part ++ power)) (whole ++ part)
      (exponent - part.length)

theorem WrittenFraction.bounded {cs : List Char} {digits : List Nat} {exponent : Int}
    (h : WrittenFraction cs digits exponent) : ∀ d ∈ digits, d < 10 := by
  cases h with
  | whole _ bounded _ => exact bounded
  | point _ bounded _ => exact bounded

/-! ## Runs of digits -/

/-- Digits are the marks of their values. -/
theorem eq_digitMarks {cs : List Char} (h : ∀ c ∈ cs, isAsciiDigit c = true) :
    cs = digitMarks (digitRun cs) ∧ ∀ d ∈ digitRun cs, d < 10 := by
  have hvalue : ∀ c ∈ cs, 0x30 ≤ c.toNat ∧ c.toNat ≤ 0x39 := by
    intro c hmem
    simpa [isAsciiDigit] using h c hmem
  constructor
  · rw [digitMarks, digitRun, List.map_map]
    conv_lhs => rw [← List.map_id cs]
    apply List.map_congr_left
    intro c hmem
    have hsum : 0x30 + (c.toNat - 0x30) = c.toNat := by
      have := hvalue c hmem
      omega
    show c = Char.ofNat (0x30 + (c.toNat - 0x30))
    rw [hsum, Char.ofNat_toNat]
  · intro d hmem
    obtain ⟨c, hc, rfl⟩ := List.mem_map.mp hmem
    have := hvalue c hc
    omega

/-- A run of digits ends where none follows. -/
theorem span_digitMarks {digits : List Nat} (h : ∀ d ∈ digits, d < 10) {rest : List Char}
    (hrest : ∀ c ∈ rest.head?, isAsciiDigit c = false) :
    (digitMarks digits ++ rest).takeWhile isAsciiDigit = digitMarks digits ∧
      (digitMarks digits ++ rest).dropWhile isAsciiDigit = rest := by
  obtain ⟨htake, hdrop⟩ := takeWhile_digitMarks h
  have hall := List.takeWhile_eq_self_iff.mp htake
  have hstop : rest.takeWhile isAsciiDigit = [] ∧ rest.dropWhile isAsciiDigit = rest := by
    cases rest with
    | nil => exact ⟨rfl, rfl⟩
    | cons c rest =>
      have hc := hrest c rfl
      rw [List.takeWhile_cons, List.dropWhile_cons, hc]
      exact ⟨rfl, rfl⟩
  rw [List.takeWhile_append_of_pos hall, List.dropWhile_append_of_pos hall, hstop.1, hstop.2,
    List.append_nil]
  exact ⟨rfl, rfl⟩

theorem WrittenExponent.head {cs : List Char} {exponent : Int} (h : WrittenExponent cs exponent) :
    ∀ c ∈ cs.head?, c = 'e' ∨ c = 'E' := by
  cases h with
  | absent => nofun
  | present letter =>
    rintro _ ⟨⟩
    exact letter

/-- No exponent starts with a digit or a point. -/
theorem WrittenExponent.not_digit {cs : List Char} {exponent : Int}
    (h : WrittenExponent cs exponent) :
    (∀ c ∈ cs.head?, isAsciiDigit c = false) ∧ ∀ rest, cs ≠ '.' :: rest := by
  constructor
  · intro c hc
    rcases h.head c hc with rfl | rfl <;> decide
  · rintro rest rfl
    rcases h.head '.' rfl with h | h <;> exact absurd h (by decide)

/-! ## Reading is what the grammar says -/

theorem takeSign_of_writtenSign {sign : List Char} {negative : Bool} (h : WrittenSign sign negative)
    {digits : List Nat} (hdigits : ∀ d ∈ digits, d < 10) :
    takeSign (sign ++ digitMarks digits) = (negative, digitMarks digits) := by
  cases h with
  | absent => exact takeSign_digitMarks hdigits
  | plus => rfl
  | minus => rfl

theorem writtenSign_of_takeSign {cs rest : List Char} {negative : Bool}
    (h : takeSign cs = (negative, rest)) : ∃ sign, cs = sign ++ rest ∧ WrittenSign sign negative := by
  rcases takeSign_cases cs with ⟨rest', rfl, heq⟩ | ⟨rest', rfl, heq⟩ | heq
  · cases heq.symm.trans h
    exact ⟨['-'], rfl, .minus⟩
  · cases heq.symm.trans h
    exact ⟨['+'], rfl, .plus⟩
  · cases heq.symm.trans h
    exact ⟨[], rfl, .absent⟩

theorem exponentPart?_eq_some {cs : List Char} {exponent : Int} :
    exponentPart? cs = some exponent ↔ WrittenExponent cs exponent := by
  constructor
  · intro h
    cases cs with
    | nil =>
      cases h
      exact .absent
    | cons mark rest =>
      rcases hsign : takeSign rest with ⟨negative, digits⟩
      simp only [exponentPart?, hsign] at h
      split at h
      next hread =>
        cases h
        obtain ⟨hmark, hsome, hall⟩ := hread
        obtain ⟨sign, rfl, hwritten⟩ := writtenSign_of_takeSign hsign
        obtain ⟨hmarks, hbounded⟩ := eq_digitMarks (List.all_eq_true.mp hall)
        have hne : digitRun digits ≠ [] := by
          intro hnil
          rw [hnil] at hmarks
          rw [hmarks] at hsome
          cases hsome
        conv => arg 1; rw [hmarks]
        exact .present hmark hwritten hne hbounded
      next => cases h
  · intro h
    cases h with
    | absent => rfl
    | @present mark sign negative digits letter signed hsome bounded =>
      have hfull : (digitMarks digits).isEmpty = false := by simpa [digitMarks] using hsome
      have hall : (digitMarks digits).all isAsciiDigit = true :=
        List.all_eq_true.mpr (List.takeWhile_eq_self_iff.mp (takeWhile_digitMarks bounded).1)
      unfold exponentPart?
      dsimp only
      rw [takeSign_of_writtenSign signed bounded, digitRun_digitMarks bounded]
      exact if_pos ⟨letter, by rw [hfull]; rfl, hall⟩

theorem isEmpty_digitMarks (digits : List Nat) : (digitMarks digits).isEmpty = digits.isEmpty := by
  cases digits <;> rfl

theorem fraction?_whole (negative : Bool) {digits : List Nat} (bounded : ∀ d ∈ digits, d < 10)
    {rest : List Char} (hdigit : ∀ c ∈ rest.head?, isAsciiDigit c = false)
    (hpoint : ∀ more, rest ≠ '.' :: more) :
    fraction? negative (digitMarks digits ++ rest) =
      if digits.isEmpty then none
      else (exponentPart? rest).map fun exponent => .ofDecimal negative digits exponent := by
  obtain ⟨htake, hdrop⟩ := span_digitMarks bounded hdigit
  unfold fraction?
  dsimp only
  rw [htake, hdrop]
  split
  next more => exact absurd rfl (hpoint more)
  next =>
    dsimp only
    rw [List.append_nil, isEmpty_digitMarks, digitRun_digitMarks bounded]
    simp

theorem fraction?_point (negative : Bool) {whole part : List Nat}
    (bounded : ∀ d ∈ whole ++ part, d < 10) {rest : List Char}
    (hdigit : ∀ c ∈ rest.head?, isAsciiDigit c = false) :
    fraction? negative (digitMarks whole ++ '.' :: (digitMarks part ++ rest)) =
      if (whole ++ part).isEmpty then none
      else (exponentPart? rest).map fun exponent =>
        .ofDecimal negative (whole ++ part) (exponent - part.length) := by
  obtain ⟨hwhole, hpart⟩ := List.forall_mem_append.mp bounded
  have hmark : ∀ c ∈ ('.' :: (digitMarks part ++ rest)).head?, isAsciiDigit c = false := by
    rintro _ ⟨⟩
    decide
  obtain ⟨htake, hdrop⟩ := span_digitMarks hwhole hmark
  obtain ⟨htakePart, hdropPart⟩ := span_digitMarks hpart hdigit
  have hrun : digitMarks whole ++ digitMarks part = digitMarks (whole ++ part) :=
    List.map_append.symm
  have hlength : (digitMarks part).length = part.length := List.length_map _
  have hempty : (whole ++ part).isEmpty = (whole.isEmpty && part.isEmpty) := by
    cases whole <;> rfl
  simp only [fraction?, htake, hdrop, htakePart, hdropPart, isEmpty_digitMarks, hrun, hlength,
    digitRun_digitMarks bounded, hempty]

/-- Every text is digits in front of something else, with or without a point and more digits. -/
theorem exists_digitMarks (cs : List Char) : ∃ digits rest, (∀ d ∈ digits, d < 10) ∧
    (∀ c ∈ rest.head?, isAsciiDigit c = false) ∧ cs = digitMarks digits ++ rest := by
  obtain ⟨hmarks, hbounded⟩ := eq_digitMarks fun c (hc : c ∈ cs.takeWhile isAsciiDigit) =>
    List.mem_takeWhile_imp hc
  refine ⟨digitRun (cs.takeWhile isAsciiDigit), cs.dropWhile isAsciiDigit, hbounded, ?_, ?_⟩
  · intro c hc
    have hstop := List.head?_dropWhile_not isAsciiDigit cs
    rw [Option.mem_def.mp hc] at hstop
    simpa using hstop
  · rw [← hmarks, List.takeWhile_append_dropWhile]

/-- Reading takes the digits in front of the point and behind it together. -/
theorem fraction?_eq_some {negative : Bool} {cs : List Char} {x : Binary64} :
    fraction? negative cs = some x ↔ ∃ digits exponent, WrittenFraction cs digits exponent ∧
      x = .ofDecimal negative digits exponent := by
  constructor
  · intro h
    obtain ⟨whole, rest, hwhole, hdigit, rfl⟩ := exists_digitMarks cs
    by_cases hpoint : ∃ more, rest = '.' :: more
    · obtain ⟨more, rfl⟩ := hpoint
      obtain ⟨part, power, hpart, hpower, rfl⟩ := exists_digitMarks more
      have hbounded := List.forall_mem_append.mpr ⟨hwhole, hpart⟩
      rw [fraction?_point negative hbounded hpower] at h
      split at h
      next => cases h
      next hsome =>
        obtain ⟨exponent, hexponent, rfl⟩ := Option.map_eq_some_iff.mp h
        exact ⟨_, _, .point (by simpa using hsome) hbounded (exponentPart?_eq_some.mp hexponent), rfl⟩
    · rw [fraction?_whole negative hwhole hdigit (not_exists.mp hpoint)] at h
      split at h
      next => cases h
      next hsome =>
        obtain ⟨exponent, hexponent, rfl⟩ := Option.map_eq_some_iff.mp h
        exact ⟨_, _, .whole (by simpa using hsome) hwhole (exponentPart?_eq_some.mp hexponent), rfl⟩
  · rintro ⟨digits, exponent, hwritten, rfl⟩
    cases hwritten with
    | whole some bounded scaled =>
      rw [fraction?_whole negative bounded scaled.not_digit.1 scaled.not_digit.2,
        if_neg (by simpa using some), exponentPart?_eq_some.mpr scaled]
      rfl
    | point some bounded scaled =>
      rw [fraction?_point negative bounded scaled.not_digit.1, if_neg (by simpa using some),
        exponentPart?_eq_some.mpr scaled]
      rfl

/-! ## Texts of numbers -/

/-- The words that numbers other than the finite ones are written with. -/
def numberWords : List String := ["inf", "infinity", "nan"]

/-- Texts without sign that stand for no finite number: the words, in any letter case, and fractions
from half a unit above the greatest number on. -/
def Unbounded (cs : List Char) : Prop :=
  cs.map Char.toLower ∈ numberWords.map String.toList ∨ ∃ digits exponent,
    WrittenFraction cs digits exponent ∧
      Binary64.overflowBound ≤ ofDigits 10 digits * 10 ^ exponent

/-- A fraction is no word, for it starts with a digit or with its point. -/
theorem WrittenFraction.not_word {cs : List Char} {digits : List Nat} {exponent : Int}
    (h : WrittenFraction cs digits exponent) :
    cs.map Char.toLower ∉ numberWords.map String.toList := by
  have hletters : ∀ word ∈ numberWords.map String.toList,
      word.head? ∈ [some 'i', some 'n'] := by decide
  have hmarks : ∀ d < 10, some (digitMark d).toLower ∉ [some 'i', some 'n'] := by decide
  have hdigit : ∀ {ds : List Nat} {rest : List Char}, ds ≠ [] → (∀ d ∈ ds, d < 10) →
      ∃ d < 10, (digitMarks ds ++ rest).head? = some (digitMark d) := by
    intro ds rest hne hbounded
    obtain ⟨d, more, rfl⟩ := List.exists_cons_of_ne_nil hne
    exact ⟨d, hbounded d List.mem_cons_self, rfl⟩
  have hhead : cs.head? = some '.' ∨ ∃ d < 10, cs.head? = some (digitMark d) := by
    cases h with
    | whole some bounded _ => exact .inr (hdigit some bounded)
    | @point whole part power exponent some bounded _ =>
      cases whole with
      | nil => exact .inl rfl
      | cons d whole =>
        exact .inr ⟨d, bounded d List.mem_cons_self, rfl⟩
  intro hword
  have hletter := hletters _ hword
  rw [List.head?_map] at hletter
  rcases hhead with hpoint | ⟨d, hd, hmark⟩
  · rw [hpoint] at hletter
    exact absurd hletter (by decide)
  · rw [hmark] at hletter
    exact hmarks d hd hletter

/-- What is read from a text is finite unless the text is unbounded. -/
theorem isFinite_of_unsigned? {negative : Bool} {cs : List Char} {x : Binary64}
    (h : unsigned? negative cs = some x) : x.IsFinite ↔ ¬ Unbounded cs := by
  unfold unsigned? at h
  dsimp only at h
  split at h
  next hword =>
    cases h
    refine iff_of_false id (not_not_intro (.inl ?_))
    rcases hword with hword | hword
    · rw [hword]
      decide
    · rw [hword]
      decide
  next hinfinite =>
    split at h
    next hword =>
      cases h
      refine iff_of_false id (not_not_intro (.inl ?_))
      rw [hword]
      decide
    next hnan =>
      -- the value is that of any way to read the text as a fraction
      have hvalue : ∀ {digits : List Nat} {exponent : Int}, WrittenFraction cs digits exponent →
          Binary64.RoundsTo (ofDigits 10 digits * 10 ^ exponent) negative x := by
        intro digits exponent hwritten
        have hread : fraction? negative cs = some (.ofDecimal negative digits exponent) :=
          fraction?_eq_some.mpr ⟨digits, exponent, hwritten, rfl⟩
        rw [Option.some.inj (h.symm.trans hread)]
        exact Binary64.ofDecimal_roundsTo negative hwritten.bounded exponent
      obtain ⟨digits, exponent, hwritten, -⟩ := fraction?_eq_some.mp h
      constructor
      · rintro hfinite (hword | ⟨other, power, hother, habove⟩)
        · exact hwritten.not_word hword
        · cases hvalue hother with
          | overflow => cases hfinite
          | nearest below => exact absurd habove (not_le.mpr below)
      · intro hbounded
        cases hvalue hwritten with
        | overflow above => exact absurd (.inr ⟨digits, exponent, hwritten, above⟩) hbounded
        | nearest => exact trivial

/-- A text is taken apart before it is read: white space around it and underscores are dropped, its
digits brought to ASCII, and its sign split off. -/
def numeral? (s : String) : Option (Bool × List Char) :=
  (dropUnderscores none ((trimNumeral s.toList).map asciiDigit)).map takeSign

theorem real?_eq_some {s : String} {x : Binary64} : real? s = some x ↔
    ∃ negative cs, numeral? s = some (negative, cs) ∧ unsigned? negative cs = some x := by
  unfold real? numeral?
  constructor
  · intro h
    obtain ⟨body, hbody, hread⟩ := Option.bind_eq_some_iff.mp h
    exact ⟨_, _, by rw [hbody]; rfl, hread⟩
  · rintro ⟨negative, cs, hsplit, hread⟩
    obtain ⟨body, hbody, hsign⟩ := Option.map_eq_some_iff.mp hsplit
    refine Option.bind_eq_some_iff.mpr ⟨body, hbody, ?_⟩
    rwa [hsign]

/-- Texts that stand for no finite number, whatever their sign. -/
def NamesUnbounded (s : String) : Prop :=
  ∃ negative cs, numeral? s = some (negative, cs) ∧ Unbounded cs

theorem Quantity.isFinite_ofReal (x : Binary64) : (Quantity.ofReal x).IsFinite ↔ x.IsFinite := by
  unfold Quantity.ofReal
  cases x with
  | notANumber => exact Iff.rfl
  | infinite negative => exact Iff.rfl
  | finite negative mantissa exponent =>
    refine iff_of_true ?_ trivial
    split
    · exact trivial
    · exact trivial

/-- The texts that are read as finite quantities are those that do not stand for what is not
finite. -/
theorem Quantity.isFinite_iff {s : String} {q : Quantity} (h : Quantity.ofText? s = some q) :
    q.IsFinite ↔ ¬ NamesUnbounded s := by
  obtain ⟨x, hx, rfl⟩ := Option.map_eq_some_iff.mp h
  obtain ⟨negative, cs, hsplit, hread⟩ := real?_eq_some.mp hx
  rw [isFinite_ofReal, isFinite_of_unsigned? hread]
  constructor
  · rintro hbounded ⟨negative', cs', hsplit', hunbounded⟩
    cases hsplit.symm.trans hsplit'
    exact hbounded hunbounded
  · intro hbounded hunbounded
    exact hbounded ⟨negative, cs, hsplit, hunbounded⟩

end FitProfile.Number
