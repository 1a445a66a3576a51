import FitProfile.Proofs.Text.Words
import FitProfile.Text.LetterCase
import Mathlib.Data.List.DropRight
/-!
# FitProfile.Proofs.Text.LetterCase -- lower case once and for all, and word by word

What is in lower case already stays as it is (`lowerChars_lowerChars`): no small letter of the
table is a capital of the table, which is settled run by run. Neither white space nor a colon
comes from a letter, and neither of them has a letter case or lets a sigma look past the white
space next to it. So lower case is taken word by word (`words_lowerChars`), and it does not matter
whether the white space and the colons at the end of a text are taken off before or after it
(`lowerChars_rdropWhile`).
-/

namespace FitProfile.Text

/-! ## Runs of capitals -/

/-- The runs of capitals with that of ASCII. -/
def capitalRuns : List (Nat × Nat × Nat × Int) := (0x41, 0x5a, 1, 32) :: lowerRuns

/-- Whether a code point is one of the capitals of a run. -/
def InRun (run : Nat × Nat × Nat × Int) (n : Nat) : Prop :=
  run.1 ≤ n ∧ n ≤ run.2.1 ∧ (n - run.1) % run.2.2.1 = 0

/-- The small letter of a capital of a run. -/
def smallIn (run : Nat × Nat × Nat × Int) (n : Nat) : Nat := ((n : Int) + run.2.2.2).toNat

/-- Whether the small letters of one run lie outside another one: in front of it, behind it, or
between its capitals where every second code point is one. -/
def avoids (run other : Nat × Nat × Nat × Int) : Bool :=
  Nat.blt other.2.1 (smallIn run run.1) || Nat.blt (smallIn run run.2.1) other.1 ||
    (other.2.2.1 == 2 && (run.2.2.1 == 2 || run.1 == run.2.1) &&
      (smallIn run run.1 - other.1) % 2 == 1)

theorem not_inRun_of_avoids {run other : Nat × Nat × Nat × Int} (h : avoids run other = true)
    {n : Nat} (hn : InRun run n) : ¬ InRun other (smallIn run n) := by
  obtain ⟨first, last, step, shift⟩ := run
  obtain ⟨first', last', step', shift'⟩ := other
  simp only [avoids, Bool.or_eq_true, Bool.and_eq_true, Nat.blt_eq, beq_iff_eq, smallIn] at h
  simp only [InRun, smallIn] at hn ⊢
  rcases h with (h | h) | ⟨⟨rfl, h⟩, hodd⟩
  · omega
  · omega
  · rcases h with rfl | rfl
    · omega
    · omega

theorem lowerCode_eq_or (n : Nat) :
    lowerCode n = n ∨ ∃ run ∈ capitalRuns, InRun run n ∧ lowerCode n = smallIn run n := by
  unfold lowerCode
  split
  next hascii =>
    split
    next hcapital =>
      right
      refine ⟨_, List.mem_cons_self, ⟨hcapital.1, hcapital.2, Nat.mod_one _⟩, ?_⟩
      simp only [smallIn]
      omega
    next => exact .inl rfl
  next =>
    split
    next run hfind =>
      right
      have hrun := List.find?_some hfind
      simp only [Bool.and_eq_true, decide_eq_true_eq, beq_iff_eq] at hrun
      exact ⟨run, List.mem_cons_of_mem _ (List.mem_of_find?_eq_some hfind),
        ⟨hrun.1.1, hrun.1.2, hrun.2⟩, rfl⟩
    next => exact .inl rfl

/-- A code point in no run is no capital. -/
theorem lowerCode_of_not_inRun {n : Nat} (h : ∀ run ∈ capitalRuns, ¬ InRun run n) :
    lowerCode n = n := by
  rcases lowerCode_eq_or n with heq | ⟨run, hrun, hn, -⟩
  · exact heq
  · exact absurd hn (h run hrun)

theorem avoids_capitalRuns :
    (capitalRuns.all fun run => capitalRuns.all fun other => avoids run other) = true := by
  decide +kernel

/-- No small letter is a capital. -/
theorem lowerCode_lowerCode (n : Nat) : lowerCode (lowerCode n) = lowerCode n := by
  rcases lowerCode_eq_or n with heq | ⟨run, hrun, hn, heq⟩
  · rw [heq, heq]
  · rw [heq]
    apply lowerCode_of_not_inRun
    intro other hother
    have havoids := List.all_eq_true.mp avoids_capitalRuns run hrun
    exact not_inRun_of_avoids (List.all_eq_true.mp havoids other hother) hn

/-! ## Characters without letter case -/

/-- The closed ranges of white space. -/
def blankRanges : List (Nat × Nat) := [
  (0x09, 0x0d), (0x1c, 0x20), (0x85, 0x85), (0xa0, 0xa0), (0x1680, 0x1680), (0x2000, 0x200a),
  (0x2028, 0x2029), (0x202f, 0x202f), (0x205f, 0x205f), (0x3000, 0x3000)]

theorem isBlankCode_eq (n : Nat) : isBlankCode n = inRanges blankRanges n := by
  rw [Bool.eq_iff_iff, inRanges_iff]
  simp only [isBlankCode, blankRanges, Bool.or_eq_true, Bool.and_eq_true, decide_eq_true_eq,
    beq_iff_eq, List.exists_mem_cons_iff, List.not_mem_nil, false_and, exists_false, or_false]
  omega

/-- White space, the colon, and the capital I with a dot, which lower case treats by itself. -/
def keptRanges : List (Nat × Nat) := (0x3a, 0x3a) :: (0x130, 0x130) :: blankRanges

theorem avoids_keptRanges : (capitalRuns.all fun run => keptRanges.all fun range =>
    avoids run (range.1, range.2, 1, 0) &&
      avoids (run.1, run.2.1, run.2.2.1, 0) (range.1, range.2, 1, 0)) = true := by
  decide +kernel

theorem lowerCode_kept {n : Nat}
    (h : inRanges keptRanges n = true ∨ inRanges keptRanges (lowerCode n) = true) :
    lowerCode n = n := by
  rcases lowerCode_eq_or n with heq | ⟨run, hrun, hn, heq⟩
  · exact heq
  · exfalso
    have hinRun : ∀ {m : Nat}, inRanges keptRanges m = true → ∃ range ∈ keptRanges,
        InRun (range.1, range.2, 1, 0) m := by
      intro m hm
      obtain ⟨range, hrange, hbounds⟩ := inRanges_iff.mp hm
      exact ⟨range, hrange, hbounds.1, hbounds.2, Nat.mod_one _⟩
    have havoids := fun range hrange => (Bool.and_eq_true_iff.mp
      (List.all_eq_true.mp (List.all_eq_true.mp avoids_keptRanges run hrun) range hrange))
    rcases h with h | h
    · obtain ⟨range, hrange, hrangeRun⟩ := hinRun h
      have hself : smallIn (run.1, run.2.1, run.2.2.1, 0) n = n := by simp [smallIn]
      exact not_inRun_of_avoids (havoids range hrange).2 hn (hself ▸ hrangeRun)
    · obtain ⟨range, hrange, hrangeRun⟩ := hinRun h
      exact not_inRun_of_avoids (havoids range hrange).1 hn (heq ▸ hrangeRun)

/-! ## Characters in lower case -/

/-- Code points that lower case leaves alone. -/
structure IsSmallCode (n : Nat) : Prop where
  notSigma : n ≠ 0x3a3
  notDotted : n ≠ 0x130
  same : lowerCode n = n

/-- Characters that lower case leaves alone. -/
def IsSmall (c : Char) : Prop := IsSmallCode c.toNat

theorem isSmallCode_lowerCode {n : Nat} (h : n ≠ 0x130) : IsSmallCode (lowerCode n) where
  notSigma := by
    intro heq
    have hsigma : lowerCode 0x3a3 ≠ 0x3a3 := by decide +kernel
    exact hsigma (heq ▸ lowerCode_lowerCode n)
  notDotted := by
    intro heq
    have hkept : inRanges keptRanges (lowerCode n) = true := heq ▸ by decide
    exact h ((lowerCode_kept (.inr hkept)).symm.trans heq)
  same := lowerCode_lowerCode n

/-- A code point is that of its character, unless there is none. -/
theorem toNat_ofNat_cases (n : Nat) : (Char.ofNat n).toNat = n ∨ (Char.ofNat n).toNat = 0 := by
  unfold Char.ofNat
  by_cases h : n.isValidChar
  · rw [dif_pos h]
    exact .inl rfl
  · rw [dif_neg h]
    exact .inr rfl

theorem isSmall_ofNat {n : Nat} (h : IsSmallCode n) : IsSmall (Char.ofNat n) := by
  have hzero : IsSmallCode 0 := ⟨by decide, by decide, by decide⟩
  unfold IsSmall
  rcases toNat_ofNat_cases n with heq | heq
  · rwa [heq]
  · rwa [heq]

variable {before after : List Char} {c d : Char}

theorem IsSmall.lowerChar_eq (h : IsSmall c) : lowerChar before c after = [c] := by
  rw [lowerChar, if_neg h.notSigma, if_neg h.notDotted, h.same, Char.ofNat_toNat]

theorem isSmall_of_mem_lowerChar (h : d ∈ lowerChar before c after) : IsSmall d := by
  have hsigmas : IsSmallCode 0x3c2 ∧ IsSmallCode 0x3c3 :=
    ⟨⟨by decide, by decide, by decide +kernel⟩, ⟨by decide, by decide, by decide +kernel⟩⟩
  have hletters : ∀ d ∈ ['i', Char.ofNat 0x307], IsSmall d :=
    List.forall_mem_cons.mpr ⟨⟨by decide, by decide, by decide⟩,
      List.forall_mem_singleton.mpr (isSmall_ofNat ⟨by decide, by decide, by decide +kernel⟩)⟩
  unfold lowerChar at h
  split at h
  next =>
    rw [List.mem_singleton.mp h]
    split
    next => exact isSmall_ofNat hsigmas.1
    next => exact isSmall_ofNat hsigmas.2
  next =>
    split at h
    next => exact hletters d h
    next hdotted =>
      rw [List.mem_singleton.mp h]
      exact isSmall_ofNat (isSmallCode_lowerCode hdotted)

theorem lowerChar_ne_nil : lowerChar before c after ≠ [] := by
  unfold lowerChar
  split
  next => exact List.cons_ne_nil _ _
  next =>
    split
    next => exact List.cons_ne_nil _ _
    next => exact List.cons_ne_nil _ _

theorem exists_of_mem_lowerFrom {cs : List Char} (h : d ∈ lowerFrom before cs) :
    ∃ c ∈ cs, ∃ before after, d ∈ lowerChar before c after := by
  induction cs generalizing before with
  | nil => cases h
  | cons c cs ih =>
    rw [lowerFrom, List.mem_append] at h
    rcases h with h | h
    · exact ⟨c, List.mem_cons_self, _, _, h⟩
    · obtain ⟨c, hc, hd⟩ := ih h
      exact ⟨c, List.mem_cons_of_mem _ hc, hd⟩

theorem lowerFrom_of_isSmall {cs : List Char} (h : ∀ c ∈ cs, IsSmall c) :
    lowerFrom before cs = cs := by
  induction cs generalizing before with
  | nil => rfl
  | cons c cs ih =>
    rw [List.forall_mem_cons] at h
    rw [lowerFrom, h.1.lowerChar_eq, ih h.2]
    rfl

/-- What is in lower case stays as it is. -/
theorem lowerChars_lowerChars (cs : List Char) : lowerChars (lowerChars cs) = lowerChars cs := by
  refine lowerFrom_of_isSmall fun d hd => ?_
  obtain ⟨_, -, _, _, hd⟩ := exists_of_mem_lowerFrom hd
  exact isSmall_of_mem_lowerChar hd

/-! ## White space and colons -/

/-- White space and the colon. -/
def isLabelEnd (c : Char) : Bool := isBlank c || c == ':'

theorem kept_of_isLabelEnd (h : isLabelEnd c = true) : inRanges keptRanges c.toNat = true := by
  rw [isLabelEnd, Bool.or_eq_true, beq_iff_eq] at h
  rw [inRanges_iff]
  rcases h with h | rfl
  · rw [isBlank, isBlankCode_eq, inRanges_iff] at h
    obtain ⟨range, hrange, hbounds⟩ := h
    exact ⟨range, List.mem_cons_of_mem _ (List.mem_cons_of_mem _ hrange), hbounds⟩
  · exact ⟨_, List.mem_cons_self, by decide, by decide⟩

theorem isSmall_of_isLabelEnd (h : isLabelEnd c = true) : IsSmall c := by
  have hother : ∀ {n : Nat}, isLabelEnd (Char.ofNat n) = false → c.toNat ≠ n := by
    rintro n hn rfl
    rw [Char.ofNat_toNat, h] at hn
    cases hn
  exact ⟨hother (by decide), hother (by decide), lowerCode_kept (.inl (kept_of_isLabelEnd h))⟩

/-- Lower case makes no white space and no colon of another character. -/
theorem eq_of_mem_lowerChar (h : d ∈ lowerChar before c after)
    (hend : isLabelEnd c = true ∨ isLabelEnd d = true) : d = c := by
  rcases hend with hend | hend
  · rw [(isSmall_of_isLabelEnd hend).lowerChar_eq] at h
    exact List.mem_singleton.mp h
  · unfold lowerChar at h
    split at h
    next =>
      rw [List.mem_singleton.mp h] at hend
      split at hend
      next => exact absurd hend (by decide)
      next => exact absurd hend (by decide)
    next =>
      split at h
      next =>
        have hletters : ∀ d ∈ ['i', Char.ofNat 0x307], isLabelEnd d = false :=
          List.forall_mem_cons.mpr ⟨by decide, List.forall_mem_singleton.mpr (by decide)⟩
        rw [hletters d h] at hend
        cases hend
      next =>
        obtain rfl := List.mem_singleton.mp h
        have hkept : inRanges keptRanges (Char.ofNat (lowerCode c.toNat)).toNat = true :=
          kept_of_isLabelEnd hend
        rcases toNat_ofNat_cases (lowerCode c.toNat) with heq | heq
        · rw [heq] at hkept
          rw [lowerCode_kept (.inr hkept), Char.ofNat_toNat]
        · rw [heq] at hkept
          exact absurd hkept (by decide)

/-! ## What a sigma sees -/

/-- Whether the first of the characters that are not skipped has letter case. -/
def meetsCased (cs : List Char) : Bool :=
  (cs.dropWhile fun c => isCaseIgnorableCode c.toNat).head?.any fun c => isCasedCode c.toNat

theorem endsWord_eq (before after : List Char) :
    endsWord before after = (meetsCased before && !meetsCased after) := by
  unfold endsWord meetsCased
  cases before.dropWhile fun c => isCaseIgnorableCode c.toNat with
  | nil => rfl
  | cons c _ =>
    cases after.dropWhile fun c => isCaseIgnorableCode c.toNat with
    | nil => rfl
    | cons d _ => rfl

/-- Nothing is seen behind a text in which there is nothing to see. -/
theorem meetsCased_append {ys : List Char} (h : meetsCased ys = false) (xs : List Char) :
    meetsCased (xs ++ ys) = meetsCased xs := by
  unfold meetsCased at h ⊢
  rw [List.dropWhile_append]
  cases xs.dropWhile fun c => isCaseIgnorableCode c.toNat with
  | nil => exact h
  | cons x rest => rfl

theorem lowerChar_congr {before' after' : List Char}
    (hbefore : meetsCased before = meetsCased before')
    (hafter : meetsCased after = meetsCased after') :
    lowerChar before c after = lowerChar before' c after' := by
  unfold lowerChar
  rw [endsWord_eq, endsWord_eq, hbefore, hafter]

theorem lowerFrom_congr {before' cs : List Char}
    (h : ∀ xs, meetsCased (xs ++ before) = meetsCased (xs ++ before')) :
    lowerFrom before cs = lowerFrom before' cs := by
  induction cs generalizing before before' with
  | nil => rfl
  | cons c cs ih =>
    have hfirst : meetsCased before = meetsCased before' := h []
    rw [lowerFrom, lowerFrom, lowerChar_congr hfirst rfl, ih]
    intro xs
    rw [List.append_cons xs c before, List.append_cons xs c before']
    exact h (xs ++ [c])

/-- Lower case is taken part by part where the second part begins with nothing to see. -/
theorem lowerFrom_append {ys : List Char} (h : meetsCased ys = false) (xs : List Char) :
    lowerFrom before (xs ++ ys) = lowerFrom before xs ++ lowerFrom (xs.reverse ++ before) ys := by
  induction xs generalizing before with
  | nil => rfl
  | cons c xs ih =>
    rw [List.cons_append, lowerFrom, lowerFrom, ih,
      lowerChar_congr rfl (meetsCased_append h xs), List.append_assoc, List.reverse_cons,
      List.append_assoc]
    rfl

/-! ## Lower case word by word -/

theorem not_cased_of_blank : (blankRanges.all fun range =>
    (List.range' range.1 (range.2 + 1 - range.1)).all fun n =>
      !isCasedCode n && !isCaseIgnorableCode n) = true := by
  decide +kernel

/-- No letter is seen in white space, nor behind it. -/
theorem meetsCased_blank (h : isBlank c = true) (cs : List Char) :
    meetsCased (c :: cs) = false := by
  rw [isBlank, isBlankCode_eq, inRanges_iff] at h
  obtain ⟨range, hrange, hbounds⟩ := h
  have hcode := List.all_eq_true.mp (List.all_eq_true.mp not_cased_of_blank range hrange) c.toNat
    (List.mem_range'_1.mpr (by omega))
  rw [Bool.and_eq_true, Bool.not_eq_true', Bool.not_eq_true'] at hcode
  have hstays : ¬ isCaseIgnorableCode c.toNat = true := Bool.eq_false_iff.mp hcode.2
  unfold meetsCased
  rw [List.dropWhile_cons, if_neg hstays]
  exact hcode.1

theorem meetsCased_labelEnds {cs : List Char} (h : ∀ c ∈ cs, isLabelEnd c = true) :
    meetsCased cs = false := by
  induction cs with
  | nil => rfl
  | cons c cs ih =>
    rw [List.forall_mem_cons] at h
    rcases (Bool.or_eq_true _ _).mp h.1 with hblank | hcolon
    · exact meetsCased_blank hblank cs
    · obtain rfl := beq_iff_eq.mp hcolon
      -- a colon is skipped
      exact ih h.2

/-- White space keeps what is in front of it from what is behind it. -/
theorem lowerChars_append_blank (h : isBlank c = true) (xs ys : List Char) :
    lowerChars (xs ++ c :: ys) = lowerChars xs ++ c :: lowerChars ys := by
  have hsmall : IsSmall c := isSmall_of_isLabelEnd ((Bool.or_eq_true _ _).mpr (.inl h))
  have hbehind : lowerFrom (c :: (xs.reverse ++ [])) ys = lowerFrom [] ys := by
    apply lowerFrom_congr
    intro zs
    rw [List.append_nil, List.append_nil]
    exact meetsCased_append (meetsCased_blank h _) zs
  unfold lowerChars
  rw [lowerFrom_append (meetsCased_blank h ys), lowerFrom, hsmall.lowerChar_eq, hbehind]
  rfl

/-- White space and colons at the end are nothing to the text in front of them. -/
theorem lowerChars_append_labelEnds {ends : List Char} (h : ∀ c ∈ ends, isLabelEnd c = true)
    (xs : List Char) : lowerChars (xs ++ ends) = lowerChars xs ++ ends := by
  unfold lowerChars
  rw [lowerFrom_append (meetsCased_labelEnds h),
    lowerFrom_of_isSmall fun c hc => isSmall_of_isLabelEnd (h c hc)]

/-- A word in lower case is a word. -/
theorem IsSolid.lowerChars {cs : List Char} (h : IsSolid cs) : IsSolid (lowerChars cs) where
  ne_nil := by
    cases cs with
    | nil => exact absurd rfl h.ne_nil
    | cons c cs =>
      intro hnil
      exact lowerChar_ne_nil (List.append_eq_nil_iff.mp hnil).1
  notBlank := by
    intro d hd
    obtain ⟨c, hc, before, after, hd⟩ := exists_of_mem_lowerFrom hd
    by_contra hblank
    have hend : isLabelEnd d = true := (Bool.or_eq_true _ _).mpr (.inl (by simpa using hblank))
    obtain rfl := eq_of_mem_lowerChar hd (.inr hend)
    exact hblank (h.notBlank d hc)

theorem words_lowerChars (cs : List Char) : words (lowerChars cs) = (words cs).map lowerChars := by
  have hsolid : ∀ {cs : List Char}, (∀ c ∈ cs, isBlank c = false) →
      words (lowerChars cs) = (words cs).map lowerChars := by
    intro cs h
    by_cases hne : cs = []
    · rw [hne]
      rfl
    · have hword : IsSolid cs := ⟨hne, h⟩
      rw [hword.words_eq, hword.lowerChars.words_eq]
      rfl
  induction cs using blank_induction with
  | solid cs h => exact hsolid h
  | cut xs c ys hxs hc ih =>
    rw [lowerChars_append_blank hc, words_append_blank hc, words_append_blank hc, List.map_append,
      hsolid hxs, ih]

theorem lowerChars_spaced (parts : List (List Char)) (cs : List Char) :
    lowerChars (spaced parts ++ cs) = spaced (parts.map lowerChars) ++ lowerChars cs := by
  induction parts with
  | nil => rfl
  | cons part parts ih =>
    rw [spaced_cons_append, lowerChars_append_blank (by decide), ih, List.map_cons,
      spaced_cons_append]

/-! ## The end of a text -/

theorem rdropWhile_append {p : Char → Bool} {ends : List Char} (h : ∀ c ∈ ends, p c = true)
    (xs : List Char) : (xs ++ ends).rdropWhile p = xs.rdropWhile p := by
  unfold List.rdropWhile
  rw [List.reverse_append, List.dropWhile_append_of_pos (by simpa using h)]

theorem exists_lowerFrom_concat (before xs : List Char) (c : Char) : ∃ ys before',
    lowerFrom before (xs ++ [c]) = ys ++ lowerChar before' c [] := by
  induction xs generalizing before with
  | nil => exact ⟨[], before, List.append_nil _⟩
  | cons x xs ih =>
    obtain ⟨ys, before', heq⟩ := ih (x :: before)
    exact ⟨_, before', by rw [List.cons_append, lowerFrom, heq, ← List.append_assoc]⟩

/-- It does not matter whether white space or colons are taken off before or after. -/
theorem lowerChars_rdropWhile {p : Char → Bool} (hp : ∀ c, p c = true → isLabelEnd c = true)
    (cs : List Char) : lowerChars (cs.rdropWhile p) = (lowerChars cs).rdropWhile p := by
  have htaken : ∀ c ∈ cs.rtakeWhile p, p c = true := fun c hc => List.mem_rtakeWhile_imp hc
  have hstays : (lowerChars (cs.rdropWhile p)).rdropWhile p = lowerChars (cs.rdropWhile p) := by
    rcases List.eq_nil_or_concat (cs.rdropWhile p) with hnil | ⟨xs, c, hconcat⟩
    · rw [hnil]
      rfl
    · have hc : ¬ p c = true := by
        have hlast := List.rdropWhile_last_not p cs (by simp [hconcat])
        simpa [hconcat] using hlast
      rw [List.concat_eq_append] at hconcat
      obtain ⟨ys, before, heq⟩ := exists_lowerFrom_concat [] xs c
      rw [hconcat, lowerChars, heq, List.rdropWhile_eq_self_iff]
      -- the last character in lower case comes from the last one that stays
      intro hne hlast
      rw [List.getLast_append_of_ne_nil hne lowerChar_ne_nil] at hlast
      have hmem := List.getLast_mem (lowerChar_ne_nil : lowerChar before c [] ≠ [])
      rw [eq_of_mem_lowerChar hmem (.inr (hp _ hlast))] at hlast
      exact hc hlast
  calc lowerChars (cs.rdropWhile p)
      = (lowerChars (cs.rdropWhile p) ++ cs.rtakeWhile p).rdropWhile p := by
        rw [rdropWhile_append htaken, hstays]
    _ = (lowerChars (cs.rdropWhile p ++ cs.rtakeWhile p)).rdropWhile p := by
        rw [lowerChars_append_labelEnds fun c hc => hp c (htaken c hc)]
    _ = (lowerChars cs).rdropWhile p := by
        rw [List.rdropWhile_append_rtakeWhile]

end FitProfile.Text
