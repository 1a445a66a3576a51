import FitProfile.Text.Blank
import Mathlib.Data.List.Basic
/-!
# FitProfile.Proofs.Text.Words -- the words of a text

White space is where a text is cut into its words: the words behind a character of white space
follow those in front of it (`words_append_blank`). The words hold no white space themselves, so
the words with one space between them make up a single line, in which they are found again
(`words_spaced`).
-/

namespace FitProfile.Text

/-! ## Cutting at white space -/

/-- Either there is no white space in a text, or it has a first character of white space. -/
theorem blank_induction {P : List Char → Prop}
    (solid : ∀ cs, (∀ c ∈ cs, isBlank c = false) → P cs)
    (cut : ∀ xs c ys, (∀ d ∈ xs, isBlank d = false) → isBlank c = true → P ys → P (xs ++ c :: ys))
    (cs : List Char) : P cs := by
  have hbehind : ∀ ys xs : List Char, (∀ c ∈ xs, isBlank c = false) → P (xs ++ ys) := by
    intro ys
    induction ys with
    | nil =>
      intro xs hxs
      rw [List.append_nil]
      exact solid xs hxs
    | cons c ys ih =>
      intro xs hxs
      cases hc : isBlank c with
      | true => exact cut xs c ys hxs hc (ih [] nofun)
      | false =>
        rw [List.append_cons]
        exact ih _ (List.forall_mem_append.mpr ⟨hxs, List.forall_mem_singleton.mpr hc⟩)
  exact hbehind cs [] nofun

/-- Words that are complete already stay behind the others. -/
theorem foldr_wordStep (xs : List Char) (complete : List (List Char)) :
    xs.foldr wordStep ([], complete) =
      ((xs.foldr wordStep ([], [])).1, (xs.foldr wordStep ([], [])).2 ++ complete) := by
  induction xs with
  | nil => rfl
  | cons c xs ih =>
    rw [List.foldr_cons, List.foldr_cons, ih]
    unfold wordStep
    split
    next =>
      split
      next => rfl
      next => rfl
    next => rfl

/-- The words behind white space follow those in front of it. -/
theorem words_append_blank {c : Char} (hc : isBlank c = true) (xs ys : List Char) :
    words (xs ++ c :: ys) = words xs ++ words ys := by
  have hstep : wordStep c (ys.foldr wordStep ([], [])) = ([], words ys) := if_pos hc
  unfold words
  rw [List.foldr_append, List.foldr_cons, hstep, foldr_wordStep]
  dsimp only
  split
  next => rfl
  next => rfl

/-! ## Words -/

/-- Some characters, none of them white space. -/
structure IsSolid (word : List Char) : Prop where
  ne_nil : word ≠ []
  notBlank : ∀ c ∈ word, isBlank c = false

theorem foldr_wordStep_of_notBlank {cs : List Char} (h : ∀ c ∈ cs, isBlank c = false) :
    cs.foldr wordStep ([], []) = (cs, []) := by
  induction cs with
  | nil => rfl
  | cons c cs ih =>
    rw [List.forall_mem_cons] at h
    rw [List.foldr_cons, ih h.2, wordStep, if_neg (Bool.eq_false_iff.mp h.1)]

/-- A text without white space is its only word. -/
theorem IsSolid.words_eq {cs : List Char} (h : IsSolid cs) : words cs = [cs] := by
  unfold words
  rw [foldr_wordStep_of_notBlank h.notBlank]
  exact if_neg (by simpa using h.ne_nil)

theorem eq_of_mem_words {cs word : List Char} (h : ∀ c ∈ cs, isBlank c = false)
    (hword : word ∈ words cs) : IsSolid word ∧ word = cs := by
  have hne : cs ≠ [] := by
    rintro rfl
    cases hword
  have hsolid : IsSolid cs := ⟨hne, h⟩
  rw [hsolid.words_eq, List.mem_singleton] at hword
  exact ⟨hword ▸ hsolid, hword⟩

theorem isSolid_of_mem_words {cs word : List Char} (hword : word ∈ words cs) : IsSolid word := by
  induction cs using blank_induction with
  | solid cs h => exact (eq_of_mem_words h hword).1
  | cut xs c ys hxs hc ih =>
    rw [words_append_blank hc, List.mem_append] at hword
    rcases hword with hword | hword
    · exact (eq_of_mem_words hxs hword).1
    · exact ih hword

theorem not_isBlank_of_mem_words {cs word : List Char} (hword : word ∈ words cs) {c : Char}
    (hc : c ∈ word) : isBlank c = false := (isSolid_of_mem_words hword).notBlank c hc

theorem eq_nil_of_words_eq_nil {cs : List Char} (h : ∀ c ∈ cs, isBlank c = false)
    (hwords : words cs = []) : cs = [] := by
  by_contra hne
  rw [IsSolid.words_eq ⟨hne, h⟩] at hwords
  cases hwords

/-- There are no words in white space, and in nothing else. -/
theorem words_eq_nil_iff {cs : List Char} : words cs = [] ↔ ∀ c ∈ cs, isBlank c = true := by
  constructor
  · intro h
    induction cs using blank_induction with
    | solid cs hcs =>
      rw [eq_nil_of_words_eq_nil hcs h]
      exact nofun
    | cut xs c ys hxs hc ih =>
      rw [words_append_blank hc, List.append_eq_nil_iff] at h
      rw [eq_nil_of_words_eq_nil hxs h.1]
      exact List.forall_mem_cons.mpr ⟨hc, ih h.2⟩
  · intro h
    induction cs with
    | nil => rfl
    | cons c cs ih =>
      rw [List.forall_mem_cons] at h
      exact (words_append_blank h.1 [] cs).trans (ih h.2)

theorem eq_of_words_eq_concat {cs word : List Char} {others : List (List Char)}
    (h : ∀ c ∈ cs, isBlank c = false) (hwords : words cs = others ++ [word]) :
    others = [] ∧ cs = word := by
  have hmem : word ∈ words cs := hwords ▸ List.mem_append_right others List.mem_cons_self
  obtain ⟨hsolid, rfl⟩ := eq_of_mem_words h hmem
  rw [hsolid.words_eq] at hwords
  exact ⟨List.self_eq_append_left.mp hwords, rfl⟩

/-- The last word stands at the end of a text but for white space, and what is put in its place
follows the other words. -/
theorem exists_of_words_concat {cs word : List Char} {others : List (List Char)}
    (h : words cs = others ++ [word]) : ∃ xs blanks, cs = xs ++ (word ++ blanks) ∧
      (∀ c ∈ blanks, isBlank c = true) ∧ ∀ ys, words (xs ++ ys) = others ++ words ys := by
  induction cs using blank_induction generalizing others with
  | solid cs hcs =>
    obtain ⟨rfl, rfl⟩ := eq_of_words_eq_concat hcs h
    exact ⟨[], [], (List.append_nil cs).symm, nofun, fun _ => rfl⟩
  | cut u c ys hu hc ih =>
    rw [words_append_blank hc] at h
    rcases List.eq_nil_or_concat (words ys) with hys | ⟨before, last, hys⟩
    · rw [hys, List.append_nil] at h
      obtain ⟨rfl, rfl⟩ := eq_of_words_eq_concat hu h
      exact ⟨[], c :: ys, rfl, List.forall_mem_cons.mpr ⟨hc, words_eq_nil_iff.mp hys⟩,
        fun _ => rfl⟩
    · rw [List.concat_eq_append] at hys
      rw [hys, ← List.append_assoc] at h
      obtain ⟨rfl, hlast⟩ := List.append_inj' h rfl
      obtain rfl := List.singleton_inj.mp hlast
      obtain ⟨xs, blanks, rfl, hblanks, hxs⟩ := ih hys
      refine ⟨u ++ c :: xs, blanks, by simp, hblanks, fun zs => ?_⟩
      rw [List.append_assoc, List.cons_append, words_append_blank hc, hxs, List.append_assoc]

/-! ## Words with spaces between them -/

theorem mem_intercalate {separator : List Char} {parts : List (List Char)} {c : Char}
    (h : c ∈ separator.intercalate parts) : c ∈ separator ∨ ∃ part ∈ parts, c ∈ part := by
  induction parts with
  | nil => simp [List.intercalate] at h
  | cons part rest ih =>
    cases rest with
    | nil => exact .inr ⟨part, by simp, by simpa [List.intercalate] using h⟩
    | cons next rest =>
      rw [List.intercalate_cons_cons, List.mem_append, List.mem_append] at h
      rcases h with (h | h) | h
      · exact .inr ⟨part, by simp, h⟩
      · exact .inl h
      · rcases ih h with h | ⟨other, hmem, h⟩
        · exact .inl h
        · exact .inr ⟨other, by simp [hmem], h⟩

/-- A text brought to its words holds no line feed. -/
theorem newline_notMem_collapse (s : String) : '\n' ∉ (collapse s).toList := by
  rw [collapse, String.toList_ofList]
  intro hmem
  rcases mem_intercalate hmem with hspace | ⟨word, hword, hchar⟩
  · exact absurd hspace (by decide)
  · exact absurd (not_isBlank_of_mem_words hword hchar) (by decide)

/-- Words with a space behind each of them. -/
def spaced (parts : List (List Char)) : List Char := parts.flatMap (· ++ [' '])

theorem spaced_cons_append (part : List Char) (parts : List (List Char)) (cs : List Char) :
    spaced (part :: parts) ++ cs = part ++ ' ' :: (spaced parts ++ cs) := by
  simp [spaced]

theorem intercalate_concat (parts : List (List Char)) (last : List Char) :
    [' '].intercalate (parts ++ [last]) = spaced parts ++ last := by
  induction parts with
  | nil => exact List.intercalate_singleton
  | cons part parts ih =>
    rw [List.cons_append, List.intercalate_cons_of_ne_nil (by simp), ih, spaced_cons_append]
    exact List.append_assoc _ _ _

/-- Words are found again in front of what follows their spaces. -/
theorem words_spaced {parts : List (List Char)} (h : ∀ part ∈ parts, IsSolid part)
    (cs : List Char) : words (spaced parts ++ cs) = parts ++ words cs := by
  induction parts with
  | nil => rfl
  | cons part parts ih =>
    rw [List.forall_mem_cons] at h
    rw [spaced_cons_append, words_append_blank (by decide), h.1.words_eq, ih h.2]
    rfl

/-- Words are found again between their spaces. -/
theorem words_intercalate {parts : List (List Char)} (h : ∀ part ∈ parts, IsSolid part) :
    words ([' '].intercalate parts) = parts := by
  rcases List.eq_nil_or_concat parts with rfl | ⟨others, last, rfl⟩
  · rfl
  · rw [List.concat_eq_append, List.forall_mem_append, List.forall_mem_singleton] at h
    rw [List.concat_eq_append, intercalate_concat, words_spaced h.1, h.2.words_eq]

end FitProfile.Text
