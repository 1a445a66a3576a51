import FitProfile.Proofs.Text.Numerals
import Mathlib.Data.List.TakeWhile
/-!
# FitProfile.Proofs.Number.Literals -- the texts of finite numbers are literals

`SignedLiteral` is the grammar of numbers in source text: digits, with a point or an exponent or
both, and a minus sign in front where there is one. The text of a quantity follows it when the
quantity is finite (`signedLiteral_text`). The texts of what is not finite are words, and no word
is a literal (`text_of_not_isFinite`, `not_signedLiteral_of_word`).
-/

namespace FitProfile.Number

/-! ## The grammar -/

/-- Digits, at least one of them. -/
def DigitPart (cs : List Char) : Prop := cs ≠ [] ∧ ∀ c ∈ cs, c.isDigit = true

/-- Digits around a point, at least one of them. -/
def PointPart (cs : List Char) : Prop :=
  ∃ whole part, cs = whole ++ '.' :: part ∧ DigitPart (whole ++ part)

/-- An exponent: its mark, a sign or none, and digits. -/
def ExponentPart (cs : List Char) : Prop :=
  ∃ mark ∈ ['e', 'E'], ∃ sign ∈ [[], ['+'], ['-']], ∃ digits,
    cs = mark :: (sign ++ digits) ∧ DigitPart digits

/-- A number without sign. Where there is neither a point nor an exponent, a zero leads only if
all digits are zeros. -/
inductive NumberLiteral : List Char → Prop where
  | integer {cs : List Char} (digits : DigitPart cs)
    (leading : cs.head? = some '0' → ∀ c ∈ cs, c = '0') : NumberLiteral cs
  | fraction {cs : List Char} (point : PointPart cs) : NumberLiteral cs
  | exponent {cs es : List Char} (mantissa : DigitPart cs ∨ PointPart cs)
    (power : ExponentPart es) : NumberLiteral (cs ++ es)

/-- A number, or a minus sign and a number. -/
def SignedLiteral (cs : List Char) : Prop :=
  NumberLiteral cs ∨ ∃ rest, cs = '-' :: rest ∧ NumberLiteral rest

/-! ## What is no literal -/

theorem DigitPart.head {cs : List Char} (h : DigitPart cs) :
    ∃ c ∈ cs.head?, c.isDigit = true := by
  obtain ⟨c, rest, rfl⟩ := List.exists_cons_of_ne_nil h.1
  exact ⟨c, rfl, h.2 c List.mem_cons_self⟩

theorem PointPart.head {cs : List Char} (h : PointPart cs) :
    ∃ c ∈ cs.head?, c.isDigit = true ∨ c = '.' := by
  obtain ⟨whole, part, rfl, hdigits⟩ := h
  cases whole with
  | nil => exact ⟨'.', rfl, .inr rfl⟩
  | cons c whole => exact ⟨c, rfl, .inl (hdigits.2 c List.mem_cons_self)⟩

/-- A number starts with a digit or with its point. -/
theorem NumberLiteral.head {cs : List Char} (h : NumberLiteral cs) :
    ∃ c ∈ cs.head?, c.isDigit = true ∨ c = '.' := by
  have hdigits : ∀ {ds : List Char}, DigitPart ds → ∃ c ∈ ds.head?, c.isDigit = true ∨ c = '.' :=
    fun h => h.head.imp fun _ hc => ⟨hc.1, .inl hc.2⟩
  cases h with
  | integer digits _ => exact hdigits digits
  | fraction point => exact point.head
  | @exponent ds es mantissa _ =>
    obtain ⟨c, hc, hstart⟩ := mantissa.elim hdigits PointPart.head
    refine ⟨c, ?_, hstart⟩
    rw [List.head?_append, Option.mem_def.mp hc]
    rfl

theorem not_numberLiteral_cons {c : Char} {cs : List Char} (hdigit : c.isDigit = false)
    (hpoint : c ≠ '.') : ¬ NumberLiteral (c :: cs) := by
  intro hnumber
  obtain ⟨d, hd, hstart⟩ := hnumber.head
  obtain rfl : c = d := Option.some.inj hd
  rcases hstart with hstart | hstart
  · rw [hdigit] at hstart
    cases hstart
  · exact hpoint hstart

theorem not_signedLiteral_cons {c : Char} {cs : List Char} (hdigit : c.isDigit = false)
    (hpoint : c ≠ '.') (hminus : c ≠ '-') : ¬ SignedLiteral (c :: cs) := by
  rintro (hnumber | ⟨rest, hrest, -⟩)
  · exact not_numberLiteral_cons hdigit hpoint hnumber
  · exact hminus (List.cons.inj hrest).1

theorem not_signedLiteral_of_word {word : String} (h : word ∈ ["inf", "-inf", "nan"]) :
    ¬ SignedLiteral word.toList := by
  simp only [List.mem_cons, List.not_mem_nil, or_false] at h
  rcases h with rfl | rfl | rfl
  · show ¬ SignedLiteral ['i', 'n', 'f']
    exact not_signedLiteral_cons rfl (by decide) (by decide)
  · show ¬ SignedLiteral ['-', 'i', 'n', 'f']
    rintro (hnumber | ⟨rest, hrest, hnumber⟩)
    · exact not_numberLiteral_cons rfl (by decide) hnumber
    · obtain rfl : ['i', 'n', 'f'] = rest := (List.cons.inj hrest).2
      exact not_numberLiteral_cons rfl (by decide) hnumber
  · show ¬ SignedLiteral ['n', 'a', 'n']
    exact not_signedLiteral_cons rfl (by decide) (by decide)

/-! ## Digits -/

theorem digitPart_toDigits (n : Nat) : DigitPart (Nat.toDigits 10 n) :=
  ⟨Nat.toDigits_ne_nil, fun _ hmem => Nat.isDigit_of_mem_toDigits (by omega) (by omega) hmem⟩

/-- Only zero has a zero in front. -/
theorem eq_zero_of_head_toDigits {n : Nat} (h : (Nat.toDigits 10 n).head? = some '0') : n = 0 := by
  induction n using Nat.strongRecOn with
  | ind n ih =>
    by_cases hsmall : n < 10
    · have hall : ∀ d < 10, [Nat.digitChar d].head? = some '0' → d = 0 := by decide
      rw [Nat.toDigits_of_lt_base hsmall] at h
      exact hall n hsmall h
    · -- the digit in front is that of the quotient, which is not zero
      have hquotient : (Nat.toDigits 10 (n / 10)).head? = some '0' := by
        rw [Nat.toDigits_of_base_le (by omega) (by omega)] at h
        obtain ⟨c, rest, hcons⟩ :=
          List.exists_cons_of_ne_nil (Nat.toDigits_ne_nil (n := n / 10) (b := 10))
        rw [hcons] at h ⊢
        exact h
      have := ih (n / 10) (by omega) hquotient
      omega

theorem numberLiteral_toDigits (n : Nat) : NumberLiteral (Nat.toDigits 10 n) := by
  refine .integer (digitPart_toDigits n) ?_
  intro hlead
  rw [eq_zero_of_head_toDigits hlead, Nat.toDigits_zero]
  simp

theorem signedLiteral_decimal (n : Int) : SignedLiteral (decimal n).toList := by
  unfold decimal
  split
  · refine .inr ⟨Nat.toDigits 10 n.natAbs, ?_, numberLiteral_toDigits _⟩
    rw [String.toList_append, Nat.toList_repr]
    rfl
  · refine .inl ?_
    rw [Nat.toList_repr]
    exact numberLiteral_toDigits _

/-- A number above zero keeps a digit when the zeros at its end are taken off. -/
theorem digitPart_significantDigits {n : Nat} (h : 0 < n) : DigitPart (significantDigits n) := by
  constructor
  · intro hnil
    have hzeros : ∀ c ∈ (Nat.toDigits 10 n).reverse, (c == '0') = true :=
      List.dropWhile_eq_nil_iff.mp (List.reverse_eq_nil_iff.mp hnil)
    have hlead : (Nat.toDigits 10 n).head? = some '0' := by
      obtain ⟨c, rest, hcons⟩ := List.exists_cons_of_ne_nil (Nat.toDigits_ne_nil (n := n) (b := 10))
      rw [hcons] at hzeros ⊢
      have hc : (c == '0') = true := hzeros c (by simp)
      rw [List.head?_cons, beq_iff_eq.mp hc]
    have := eq_zero_of_head_toDigits hlead
    omega
  · intro c hmem
    have hdigits := (List.dropWhile_sublist _).mem (List.mem_reverse.mp hmem)
    exact (digitPart_toDigits n).2 c (List.mem_reverse.mp hdigits)

/-! ## The shortest decimal -/

namespace RoundingInterval

variable {r : RoundingInterval}

/-- An interval of numbers above zero does not hold zero. -/
theorem pos_of_holds (hlow : 0 < r.low) (hnum : 0 < r.num) {digits : Nat} {exponent : Int}
    (h : r.holds digits exponent = true) : 0 < digits := by
  have hend : 0 < r.low * r.num * Nat.pow 10 (-exponent).toNat :=
    Nat.mul_pos (Nat.mul_pos hlow hnum) (Nat.pow_pos (by omega))
  have hpoint : 0 < digits * r.den * Nat.pow 10 exponent.toNat := by
    unfold holds at h
    dsimp only at h
    split at h
    · simp only [Bool.and_eq_true, decide_eq_true_eq] at h
      omega
    · simp only [Bool.and_eq_true, decide_eq_true_eq] at h
      omega
  exact Nat.pos_of_mul_pos_right (Nat.pos_of_mul_pos_right hpoint)

/-- What is found on a grid lies in the interval. -/
theorem holds_of_onGrid? {exponent : Int} {digits : Nat} (h : r.onGrid? exponent = some digits) :
    r.holds digits exponent = true := by
  unfold onGrid? at h
  dsimp only at h
  split at h
  next hfloor hnext =>
    have hboth : ∀ {p : Prop} [Decidable p] {a b : Nat}, r.holds a exponent = true →
        r.holds b exponent = true → r.holds (if p then a else b) exponent = true := by
      intro p _ a b ha hb
      split
      · exact ha
      · exact hb
    split at h
    · cases h
      exact hfloor
    · split at h
      · cases h
        exact hnext
      · cases h
        exact hboth hfloor hnext
  next hfloor _ =>
    cases h
    exact hfloor
  next _ hnext =>
    cases h
    exact hnext
  next => cases h

/-- The shortest decimal of a number above zero is above zero. -/
theorem shortest_pos (hvalue : 0 < r.value) (hlow : 0 < r.low) (hnum : 0 < r.num) :
    0 < r.shortest.1 := by
  unfold shortest
  dsimp only
  generalize hfound : List.findSome? _ (List.range 17) = found
  cases found with
  | none => exact Nat.mul_pos hvalue hnum
  | some decimal =>
    obtain ⟨n, -, hn⟩ := List.exists_of_findSome?_eq_some hfound
    obtain ⟨digits, hdigits, rfl⟩ := Option.map_eq_some_iff.mp hn
    exact pos_of_holds hlow hnum (holds_of_onGrid? hdigits)

theorem shortest_ofFinite_pos {mantissa : Nat} (h : mantissa ≠ 0) (exponent : Int) :
    0 < (ofFinite mantissa exponent).shortest.1 := by
  refine shortest_pos ?_ ?_ (Nat.two_pow_pos _)
  · show 0 < 4 * mantissa
    omega
  · show 0 < 4 * mantissa - if _ then 1 else 2
    split <;> omega

end RoundingInterval

/-! ## Texts of numbers -/

theorem exponentPart_exponentText (exponent : Int) : ExponentPart ('e' :: exponentText exponent) := by
  have hdigits : DigitPart (List.replicate (2 - (Nat.toDigits 10 exponent.natAbs).length) '0' ++
      Nat.toDigits 10 exponent.natAbs) := by
    obtain ⟨hne, hall⟩ := digitPart_toDigits exponent.natAbs
    refine ⟨List.append_ne_nil_of_right_ne_nil _ hne, List.forall_mem_append.mpr ⟨?_, hall⟩⟩
    intro c hmem
    rw [(List.mem_replicate.mp hmem).2]
    decide
  refine ⟨'e', by simp, [if exponent < 0 then '-' else '+'], ?_, _, rfl, hdigits⟩
  split <;> simp

/-- Digits are a number wherever the point is placed among them. -/
theorem numberLiteral_placedText {digits : List Char} (h : DigitPart digits) (point : Int) :
    NumberLiteral (placedText digits point) := by
  obtain ⟨hne, hall⟩ := h
  have hzeros : ∀ n, ∀ c ∈ List.replicate n '0', c.isDigit = true := by
    intro n c hmem
    rw [(List.mem_replicate.mp hmem).2]
    decide
  unfold placedText
  dsimp only
  split
  · refine .exponent ?_ (exponentPart_exponentText _)
    split
    next => exact absurd rfl hne
    next => exact .inl ⟨hne, hall⟩
    next d rest _ => exact .inr ⟨[d], rest, rfl, hne, hall⟩
  · refine .fraction ?_
    split
    · refine ⟨['0'], _, rfl, List.cons_ne_nil _ _, ?_⟩
      exact List.forall_mem_append.mpr
        ⟨hzeros 1, List.forall_mem_append.mpr ⟨hzeros _, hall⟩⟩
    next hpoint =>
      split
      · refine ⟨digits ++ List.replicate (point.toNat - digits.length) '0', ['0'], rfl,
          List.append_ne_nil_of_right_ne_nil _ (List.cons_ne_nil _ _), ?_⟩
        exact List.forall_mem_append.mpr
          ⟨List.forall_mem_append.mpr ⟨hall, hzeros _⟩, hzeros 1⟩
      · refine ⟨digits.take point.toNat, digits.drop point.toNat, rfl, ?_, ?_⟩
        · rwa [List.take_append_drop]
        · rwa [List.take_append_drop]

namespace Binary64

/-- Numbers that are neither infinite nor no number. -/
def IsFinite : Binary64 → Prop
  | .finite _ _ _ => True
  | _ => False

theorem numberLiteral_magnitudeText (mantissa : Nat) (exponent : Int) :
    NumberLiteral (magnitudeText mantissa exponent) := by
  unfold magnitudeText
  split
  · exact .fraction ⟨['0'], ['0'], rfl, by simp, by simp⟩
  next hne =>
    exact numberLiteral_placedText
      (digitPart_significantDigits (RoundingInterval.shortest_ofFinite_pos hne exponent)) _

end Binary64

namespace Quantity

/-- Quantities that are neither infinite nor no number. -/
def IsFinite : Quantity → Prop
  | .whole _ => True
  | .real x => x.IsFinite

/-- The text of a finite quantity is a literal. -/
theorem signedLiteral_text {q : Quantity} (h : q.IsFinite) : SignedLiteral q.text.toList := by
  cases q with
  | whole n => exact signedLiteral_decimal n
  | real x =>
    cases x with
    | notANumber => cases h
    | infinite negative => cases h
    | finite negative mantissa exponent =>
      have hmagnitude := Binary64.numberLiteral_magnitudeText mantissa exponent
      show SignedLiteral (String.ofList _).toList
      rw [String.toList_ofList]
      cases negative with
      | false => exact .inl hmagnitude
      | true => exact .inr ⟨_, rfl, hmagnitude⟩

/-- The text of any other quantity is a word. -/
theorem text_of_not_isFinite {q : Quantity} (h : ¬ q.IsFinite) :
    q.text ∈ ["inf", "-inf", "nan"] := by
  cases q with
  | whole n => exact absurd trivial h
  | real x =>
    cases x with
    | notANumber => decide
    | infinite negative => cases negative <;> decide
    | finite negative mantissa exponent => exact absurd trivial h

end Quantity

end FitProfile.Number
