import FitProfile.Draft.Columns
import FitProfile.Proofs.Text.LetterCase
import Mathlib.Logic.Relation
/-!
# FitProfile.Proofs.Reading.HeaderLabels -- which labels are matched

Labels are compared by their keys, so that letter case, white space and colons at the end make no
difference. The key is the words of a label in lower case, without colons behind the last of them.
Where the last word is nothing but colons, it vanishes as a word, and the space in front of it is
left at the end of the key. Such a key is not a key of its own, and it is the key of no label
without loose colons. All other labels are matched just when they are the same but for letter case,
white space and colons at the end (`headerKey_matches_labels`).
-/

namespace FitProfile

open FitProfile.Text

/-! ## Labels that are the same -/

/-- A change to a label in letter case, in white space, or in what colons and white space stand at
its end. -/
inductive Restyled : String → String → Prop where
  | letterCase {a b : String} (same : lowerChars a.toList = lowerChars b.toList) : Restyled a b
  | whiteSpace {a b : String} (same : words a.toList = words b.toList) : Restyled a b
  | labelEnd (a : String) {ends : String} (only : ∀ c ∈ ends.toList, isLabelEnd c = true) :
      Restyled a (a ++ ends)

/-- Labels that become one another by such changes. -/
def SameLabel (a b : String) : Prop := Relation.EqvGen Restyled a b

/-- The words of a label in lower case, without the colons and the white space at its end. -/
def labelWords (label : String) : List (List Char) :=
  words (lowerChars (label.toList.rdropWhile isLabelEnd))

/-- Whether colons are the last of several words. -/
def HasLooseColons (label : String) : Prop :=
  1 < (words label.toList).length ∧ ∀ word ∈ (words label.toList).getLast?, ∀ c ∈ word, c = ':'

instance (label : String) : Decidable (HasLooseColons label) :=
  decidable_of_iff (1 < (words label.toList).length ∧
      (words label.toList).getLast?.all (fun word => word.all (· == ':')) = true)
    (by cases hlast : (words label.toList).getLast? <;> simp [HasLooseColons, hlast])

/-! ## The end of a label -/

section Ends

variable {cs word : List Char} {others : List (List Char)}

theorem isLabelEnd_of_colon {c : Char} (h : (c == ':') = true) : isLabelEnd c = true :=
  (Bool.or_eq_true _ _).mpr (.inr h)

theorem isLabelEnd_of_isBlank {c : Char} (h : isBlank c = true) : isLabelEnd c = true :=
  (Bool.or_eq_true _ _).mpr (.inl h)

/-- White space behind the last word is taken off with the colons. -/
theorem rdropWhile_labelEnd_of_concat (h : words cs = others ++ [word]) : ∃ xs,
    cs.rdropWhile isLabelEnd = (xs ++ word).rdropWhile isLabelEnd ∧
      ∀ ys, words (xs ++ ys) = others ++ words ys := by
  obtain ⟨xs, blanks, rfl, hblanks, hxs⟩ := exists_of_words_concat h
  refine ⟨xs, ?_, hxs⟩
  rw [← List.append_assoc, rdropWhile_append fun c hc => isLabelEnd_of_isBlank (hblanks c hc)]

/-- A last word of colons is taken off altogether. -/
theorem exists_of_looseColons (h : words cs = others ++ [word])
    (hcolons : dropAtEnd ':' word = []) : ∃ xs, words xs = others ∧
      cs.rdropWhile isLabelEnd = xs.rdropWhile isLabelEnd := by
  obtain ⟨xs, heq, hxs⟩ := rdropWhile_labelEnd_of_concat h
  have hends : ∀ c ∈ word, isLabelEnd c = true := fun c hc =>
    isLabelEnd_of_colon (List.rdropWhile_eq_nil_iff.mp hcolons c hc)
  refine ⟨xs, ?_, by rw [heq, rdropWhile_append hends]⟩
  have := hxs []
  rwa [List.append_nil, show words [] = [] from rfl, List.append_nil] at this

theorem isSolid_dropAtEnd (h : IsSolid word) (hstays : dropAtEnd ':' word ≠ []) :
    IsSolid (dropAtEnd ':' word) where
  ne_nil := hstays
  notBlank := fun c hc => h.notBlank c ((List.rdropWhile_prefix _ word).subset hc)

/-- Any other last word loses the colons behind it. -/
theorem words_rdropWhile (h : words cs = others ++ [word]) (hstays : dropAtEnd ':' word ≠ []) :
    words (cs.rdropWhile isLabelEnd) = others ++ [dropAtEnd ':' word] := by
  obtain ⟨xs, heq, hxs⟩ := rdropWhile_labelEnd_of_concat h
  have hmem : word ∈ words cs := h ▸ List.mem_append_right others List.mem_cons_self
  have hsolid : IsSolid (dropAtEnd ':' word) := isSolid_dropAtEnd (isSolid_of_mem_words hmem) hstays
  have hcolons : ∀ c ∈ word.rtakeWhile (· == ':'), isLabelEnd c = true := by
    intro c hc
    have hcolon : (c == ':') = true := List.mem_rtakeWhile_imp (p := (· == ':')) hc
    exact isLabelEnd_of_colon hcolon
  have hlast : isLabelEnd ((dropAtEnd ':' word).getLast hstays) = false := by
    have hcolon := List.rdropWhile_last_not (· == ':') word hstays
    have hblank := hsolid.notBlank _ (List.getLast_mem hstays)
    exact (Bool.or_eq_false_iff).mpr ⟨hblank, Bool.eq_false_iff.mpr hcolon⟩
  have hword : dropAtEnd ':' word ++ word.rtakeWhile (· == ':') = word :=
    List.rdropWhile_append_rtakeWhile
  have hends : cs.rdropWhile isLabelEnd = xs ++ dropAtEnd ':' word := by
    calc cs.rdropWhile isLabelEnd
        = (xs ++ dropAtEnd ':' word ++ word.rtakeWhile (· == ':')).rdropWhile isLabelEnd := by
          rw [heq, List.append_assoc, hword]
      _ = (xs ++ dropAtEnd ':' word).rdropWhile isLabelEnd := rdropWhile_append hcolons _
      _ = xs ++ dropAtEnd ':' word := by
          rw [List.rdropWhile_eq_self_iff]
          intro hne
          rw [List.getLast_append_of_ne_nil hne hstays, hlast]
          exact Bool.false_ne_true
  rw [hends, hxs, hsolid.words_eq]

end Ends

/-! ## The words that two labels share -/

variable {a b label : String}

theorem labelWords_eq (label : String) :
    labelWords label = (words (label.toList.rdropWhile isLabelEnd)).map lowerChars :=
  words_lowerChars _

/-- What is taken off at the end of a text depends on its words alone. -/
theorem words_rdropWhile_congr {cs ds : List Char} (h : words cs = words ds) :
    words (cs.rdropWhile isLabelEnd) = words (ds.rdropWhile isLabelEnd) := by
  generalize hparts : words ds = parts at h
  induction parts using List.reverseRecOn generalizing cs ds with
  | nil =>
    have hnil : ∀ {cs : List Char}, words cs = [] → cs.rdropWhile isLabelEnd = [] := by
      intro cs hcs
      exact List.rdropWhile_eq_nil_iff.mpr fun c hc =>
        isLabelEnd_of_isBlank (words_eq_nil_iff.mp hcs c hc)
    rw [hnil h, hnil hparts]
  | append_singleton others word ih =>
    by_cases hcolons : dropAtEnd ':' word = []
    · obtain ⟨xs, hxs, hcs⟩ := exists_of_looseColons h hcolons
      obtain ⟨ys, hys, hds⟩ := exists_of_looseColons hparts hcolons
      rw [hcs, hds]
      exact ih hys hxs
    · rw [words_rdropWhile h hcolons, words_rdropWhile hparts hcolons]

theorem labelWords_of_restyled (h : Restyled a b) : labelWords a = labelWords b := by
  cases h with
  | letterCase same =>
    rw [labelWords, labelWords, lowerChars_rdropWhile fun _ => id, same,
      lowerChars_rdropWhile fun _ => id]
  | whiteSpace same =>
    rw [labelWords_eq, labelWords_eq, words_rdropWhile_congr same]
  | labelEnd only =>
    rw [labelWords, labelWords, String.toList_append, rdropWhile_append only]

/-- The words of a label make up the same label. -/
theorem sameLabel_labelWords (label : String) :
    SameLabel label (String.ofList ([' '].intercalate (labelWords label))) := by
  have hsolid : ∀ word ∈ labelWords label, IsSolid word := fun _ hword => isSolid_of_mem_words hword
  have hstart : label = String.ofList (label.toList.rdropWhile isLabelEnd) ++
      String.ofList (label.toList.rtakeWhile isLabelEnd) := by
    rw [← String.ofList_append, List.rdropWhile_append_rtakeWhile, String.ofList_toList]
  have hends : Restyled (String.ofList (label.toList.rdropWhile isLabelEnd)) label := by
    nth_rewrite 2 [hstart]
    exact .labelEnd _ fun c hc => List.mem_rtakeWhile_imp (by simpa using hc)
  have hlower : Restyled (String.ofList (label.toList.rdropWhile isLabelEnd))
      (String.ofList (lowerChars (label.toList.rdropWhile isLabelEnd))) :=
    .letterCase (by simp [lowerChars_lowerChars])
  have hwords : Restyled (String.ofList (lowerChars (label.toList.rdropWhile isLabelEnd)))
      (String.ofList ([' '].intercalate (labelWords label))) :=
    .whiteSpace (by rw [String.toList_ofList, String.toList_ofList, words_intercalate hsolid]; rfl)
  exact .trans _ _ _ (.symm _ _ (.rel _ _ hends)) (.trans _ _ _ (.rel _ _ hlower) (.rel _ _ hwords))

theorem sameLabel_iff : SameLabel a b ↔ labelWords a = labelWords b := by
  constructor
  · intro h
    induction h with
    | rel a b hstep => exact labelWords_of_restyled hstep
    | refl a => rfl
    | symm a b _ ih => exact ih.symm
    | trans a b c _ _ hab hbc => exact hab.trans hbc
  · intro h
    exact .trans _ _ _ (sameLabel_labelWords a) (h ▸ .symm _ _ (sameLabel_labelWords b))

instance (a b : String) : Decidable (SameLabel a b) := decidable_of_iff _ sameLabel_iff.symm

/-! ## Keys -/

/-- Only the end of a text changes where what stands in front of it has nothing to lose. -/
theorem rdropWhile_append_of_stays {p : Char → Bool} {xs : List Char}
    (h : xs.rdropWhile p = xs) (ys : List Char) :
    (xs ++ ys).rdropWhile p = xs ++ ys.rdropWhile p := by
  unfold List.rdropWhile at h ⊢
  rw [List.reverse_append, List.dropWhile_append]
  split
  next hnone => rw [List.isEmpty_iff.mp hnone, h, List.reverse_nil, List.append_nil]
  next => rw [List.reverse_append, List.reverse_reverse]

theorem dropAtEnd_spaced (parts : List (List Char)) :
    dropAtEnd ':' (spaced parts) = spaced parts := by
  rcases List.eq_nil_or_concat parts with rfl | ⟨others, last, rfl⟩
  · rfl
  · have hspace : spaced (others.concat last) = spaced others ++ last ++ [' '] := by
      simp [spaced]
    rw [hspace]
    exact List.rdropWhile_concat_neg (· == ':') _ ' ' (by decide)

section Keys

variable {word : List Char} {others : List (List Char)}

/-- A key is made of the words of a label, the last of them without colons behind it. -/
theorem toList_headerKey (h : words label.toList = others ++ [word]) :
    (headerKey label).toList =
      spaced (others.map lowerChars) ++ lowerChars (dropAtEnd ':' word) := by
  rw [headerKey, String.toList_ofList, collapse, String.toList_ofList, h, intercalate_concat,
    ← lowerChars_spaced]
  exact congrArg lowerChars (rdropWhile_append_of_stays (dropAtEnd_spaced others) word)

theorem headerKey_of_words_eq_nil (h : words label.toList = []) : headerKey label = "" := by
  rw [headerKey, collapse, h]
  rfl

theorem hasLooseColons_iff (h : words label.toList = others ++ [word]) :
    HasLooseColons label ↔ others ≠ [] ∧ dropAtEnd ':' word = [] := by
  have hcolons : dropAtEnd ':' word = [] ↔ ∀ c ∈ word, c = ':' :=
    List.rdropWhile_eq_nil_iff.trans (by simp)
  rw [HasLooseColons, h, hcolons]
  simp [List.length_pos_iff]

end Keys

/-- With loose colons, a space is left behind the words in front of them. -/
theorem headerKey_of_looseColons (h : HasLooseColons label) :
    (headerKey label).toList = spaced ((words label.toList).dropLast.map lowerChars) := by
  rcases List.eq_nil_or_concat (words label.toList) with hnil | ⟨others, word, hwords⟩
  · have hseveral := h.1
    rw [hnil] at hseveral
    exact absurd hseveral (by decide)
  · rw [List.concat_eq_append] at hwords
    rw [toList_headerKey hwords, ((hasLooseColons_iff hwords).mp h).2, hwords,
      List.dropLast_concat]
    exact List.append_nil _

/-- Without loose colons, the key is made of the words that count. -/
theorem headerKey_eq (h : ¬ HasLooseColons label) :
    (headerKey label).toList = [' '].intercalate (labelWords label) := by
  rcases List.eq_nil_or_concat (words label.toList) with hnil | ⟨others, word, hwords⟩
  · have hends : label.toList.rdropWhile isLabelEnd = [] :=
      List.rdropWhile_eq_nil_iff.mpr fun c hc =>
        isLabelEnd_of_isBlank (words_eq_nil_iff.mp hnil c hc)
    rw [headerKey_of_words_eq_nil hnil, labelWords, hends]
    rfl
  · rw [List.concat_eq_append] at hwords
    rw [toList_headerKey hwords, labelWords_eq]
    by_cases hcolons : dropAtEnd ':' word = []
    · -- colons alone
      have halone : others = [] := by
        by_contra hne
        exact h ((hasLooseColons_iff hwords).mpr ⟨hne, hcolons⟩)
      obtain ⟨xs, hxs, hends⟩ := exists_of_looseColons hwords hcolons
      have hblank := words_eq_nil_iff.mp (hxs.trans halone)
      have hnone : xs.rdropWhile isLabelEnd = [] :=
        List.rdropWhile_eq_nil_iff.mpr fun c hc => isLabelEnd_of_isBlank (hblank c hc)
      rw [hends, hnone, hcolons, halone]
      rfl
    · rw [words_rdropWhile hwords hcolons, List.map_append, List.map_singleton,
        intercalate_concat]

/-! ## Keys of keys -/

/-- The last word that counts has more than colons. -/
theorem dropAtEnd_ne_nil_of_labelWords {others : List (List Char)} {word : List Char}
    (h : labelWords label = others ++ [word]) : dropAtEnd ':' word ≠ [] := by
  intro hcolons
  rw [labelWords, lowerChars_rdropWhile fun _ => id] at h
  have hmem : word ∈ words ((lowerChars label.toList).rdropWhile isLabelEnd) :=
    h ▸ List.mem_append_right others List.mem_cons_self
  obtain ⟨xs, blanks, heq, hblanks, -⟩ := exists_of_words_concat h
  have hends : ∀ c ∈ word ++ blanks, isLabelEnd c = true := by
    refine List.forall_mem_append.mpr ⟨fun c hc => ?_, fun c hc => ?_⟩
    · exact isLabelEnd_of_colon (List.rdropWhile_eq_nil_iff.mp hcolons c hc)
    · exact isLabelEnd_of_isBlank (hblanks c hc)
  -- so the word would have been taken off with the rest
  have hshort : xs.rdropWhile isLabelEnd = xs ++ (word ++ blanks) := by
    rw [← rdropWhile_append hends, ← heq, List.rdropWhile_idempotent]
  have hlength := (List.rdropWhile_prefix isLabelEnd xs).length_le
  rw [hshort, List.length_append, List.length_append] at hlength
  have hpos := List.length_pos_of_ne_nil (isSolid_of_mem_words hmem).ne_nil
  omega

theorem words_headerKey (h : ¬ HasLooseColons label) :
    words (headerKey label).toList = labelWords label := by
  rw [headerKey_eq h]
  exact words_intercalate fun _ hword => isSolid_of_mem_words hword

theorem labelWords_headerKey (h : ¬ HasLooseColons label) :
    labelWords (headerKey label) = labelWords label := by
  have hkey : headerKey label = String.ofList ([' '].intercalate (labelWords label)) := by
    rw [← headerKey_eq h, String.ofList_toList]
  rw [hkey]
  exact (sameLabel_iff.mp (sameLabel_labelWords label)).symm

/-- A key has no loose colons where its label has none. -/
theorem not_hasLooseColons_headerKey (h : ¬ HasLooseColons label) :
    ¬ HasLooseColons (headerKey label) := by
  intro hloose
  rcases List.eq_nil_or_concat (labelWords label) with hnil | ⟨others, word, hwords⟩
  · have hseveral := hloose.1
    rw [words_headerKey h, hnil] at hseveral
    exact absurd hseveral (by decide)
  · rw [List.concat_eq_append] at hwords
    have hcolons := ((hasLooseColons_iff ((words_headerKey h).trans hwords)).mp hloose).2
    exact dropAtEnd_ne_nil_of_labelWords hwords hcolons

theorem words_headerKey_of_looseColons (h : HasLooseColons label) :
    words (headerKey label).toList = (words label.toList).dropLast.map lowerChars := by
  have hsolid : ∀ part ∈ (words label.toList).dropLast.map lowerChars, IsSolid part := by
    intro part hpart
    obtain ⟨word, hword, rfl⟩ := List.mem_map.mp hpart
    exact (isSolid_of_mem_words (List.dropLast_subset _ hword)).lowerChars
  have hspaced := words_spaced hsolid []
  rwa [List.append_nil, ← headerKey_of_looseColons h, show words [] = [] from rfl,
    List.append_nil] at hspaced

/-- Nothing ends with a space that is made of words with spaces between them. -/
theorem intercalate_ne_spaced {parts : List (List Char)} (h : parts ≠ []) :
    [' '].intercalate parts ≠ spaced parts := by
  rcases List.eq_nil_or_concat parts with rfl | ⟨others, last, rfl⟩
  · exact absurd rfl h
  · rw [List.concat_eq_append, intercalate_concat]
    simp [spaced]

/-- A label without loose colons has no key of a label with them. -/
theorem hasLooseColons_of_headerKey_eq (h : HasLooseColons a) (heq : headerKey b = headerKey a) :
    HasLooseColons b := by
  by_contra hb
  have hwords : labelWords b = (words a.toList).dropLast.map lowerChars := by
    rw [← words_headerKey hb, heq, words_headerKey_of_looseColons h]
  have hne : labelWords b ≠ [] := by
    have hseveral := h.1
    rw [hwords, ← List.length_pos_iff, List.length_map, List.length_dropLast]
    omega
  apply intercalate_ne_spaced hne
  rw [← headerKey_eq hb, heq, headerKey_of_looseColons h, hwords]

/-- A label is a key of its own unless it has loose colons. -/
theorem headerKey_headerKey_iff :
    headerKey (headerKey label) = headerKey label ↔ ¬ HasLooseColons label := by
  constructor
  · intro hfixed h
    have hkey : HasLooseColons (headerKey label) := hasLooseColons_of_headerKey_eq h hfixed
    -- a word is lost with the colons, but a fixed key loses none
    have hlost := congrArg List.length (words_headerKey_of_looseColons hkey)
    rw [hfixed, List.length_map, List.length_dropLast] at hlost
    have hseveral := hkey.1
    omega
  · intro h
    rw [← String.toList_inj, headerKey_eq (not_hasLooseColons_headerKey h),
      labelWords_headerKey h, headerKey_eq h]

/-! ## Keys that are the same -/

variable {other : String}

/-- The labels with the key of a label without loose colons. -/
theorem headerKey_eq_iff (h : ¬ HasLooseColons label) :
    headerKey other = headerKey label ↔ ¬ HasLooseColons other ∧ SameLabel other label := by
  constructor
  · intro heq
    have htight : ¬ HasLooseColons other := fun hloose =>
      h (hasLooseColons_of_headerKey_eq hloose heq.symm)
    refine ⟨htight, sameLabel_iff.mpr ?_⟩
    rw [← words_headerKey htight, heq, words_headerKey h]
  · rintro ⟨htight, hsame⟩
    rw [← String.toList_inj, headerKey_eq htight, headerKey_eq h, sameLabel_iff.mp hsame]

/-- The labels with the key of a label with loose colons. -/
theorem headerKey_eq_iff_of_looseColons (h : HasLooseColons label) :
    headerKey other = headerKey label ↔ HasLooseColons other ∧
      (words other.toList).dropLast.map lowerChars =
        (words label.toList).dropLast.map lowerChars := by
  constructor
  · intro heq
    have hloose : HasLooseColons other := hasLooseColons_of_headerKey_eq h heq
    refine ⟨hloose, ?_⟩
    rw [← words_headerKey_of_looseColons hloose, heq, words_headerKey_of_looseColons h]
  · rintro ⟨hloose, hwords⟩
    rw [← String.toList_inj, headerKey_of_looseColons hloose, headerKey_of_looseColons h, hwords]

/-! ## Cells that are matched -/

/-- A cell that is a label but for letter case, white space and what stands at its end. -/
structure Bears (cell label : String) : Prop where
  ne_empty : cell ≠ ""
  tight : ¬ HasLooseColons cell
  same : SameLabel cell label

theorem bears_iff {cell : String} (h : ¬ HasLooseColons label) :
    (cell != "" && headerKey cell == headerKey label) = true ↔ Bears cell label := by
  rw [Bool.and_eq_true, bne_iff_ne, beq_iff_eq, headerKey_eq_iff h]
  exact ⟨fun ⟨hne, htight, hsame⟩ => ⟨hne, htight, hsame⟩,
    fun hbears => ⟨hbears.ne_empty, hbears.tight, hbears.same⟩⟩

/-- The place of a label is that of the first cell that bears it. -/
theorem place?_eq_some_iff {header : Row} {i : Nat} (h : ¬ HasLooseColons label) :
    Columns.place? header label = some i ↔ ∃ hi : i < header.cells.length,
      Bears header.cells[i] label ∧ ∀ j (hj : j < i), ¬ Bears header.cells[j] label := by
  rw [Columns.place?, List.findIdx?_eq_some_iff_getElem]
  simp only [bears_iff h]

/-- The key of a label is a key of its own just when there are no loose colons. Without them, the
label has the key of those that are the same but for letter case, white space and colons at the
end, if these have no loose colons either, and a header is searched for the first such cell. With
them, it has the key of those with loose colons behind the same words only. -/
theorem headerKey_matches_labels (label : String) :
    (headerKey (headerKey label) = headerKey label ↔ ¬ HasLooseColons label) ∧
    (¬ HasLooseColons label →
      (∀ other, headerKey other = headerKey label ↔
        ¬ HasLooseColons other ∧ SameLabel other label) ∧
      ∀ header i, Columns.place? header label = some i ↔
        ∃ hi : i < header.cells.length, Bears header.cells[i] label ∧
          ∀ j (hj : j < i), ¬ Bears header.cells[j] label) ∧
    (HasLooseColons label → ∀ other, headerKey other = headerKey label ↔
      HasLooseColons other ∧ (words other.toList).dropLast.map lowerChars =
        (words label.toList).dropLast.map lowerChars) := by
  refine ⟨headerKey_headerKey_iff, fun h => ⟨fun other => ?_, fun header i => ?_⟩,
    fun h other => ?_⟩
  · exact headerKey_eq_iff h
  · exact place?_eq_some_iff h
  · exact headerKey_eq_iff_of_looseColons h

/-- A header is searched past a cell with loose colons for one that bears a label. -/
theorem headerKey_value : ¬ HasLooseColons "Value" ∧ HasLooseColons "Value :" ∧
    headerKey (headerKey "Value") = headerKey "Value" ∧
    headerKey "VALUE::" = headerKey "Value" ∧ headerKey " value ::" = headerKey "Value :" ∧
    Columns.place? ⟨1, ["Value :", "VALUE::", "Value"]⟩ "Value" = some 1 := by
  have htight : ¬ HasLooseColons "Value" := by decide +kernel
  have hloose : HasLooseColons "Value :" := by decide +kernel
  have hcapitals : ¬ HasLooseColons "VALUE::" := by decide +kernel
  have hsame : SameLabel "VALUE::" "Value" := by decide +kernel
  obtain ⟨hfixed, hmatched, -⟩ := headerKey_matches_labels "Value"
  obtain ⟨-, -, hcolons⟩ := headerKey_matches_labels "Value :"
  refine ⟨htight, hloose, hfixed.mpr htight, ?same, ?loose, ?place⟩
  case same => exact ((hmatched htight).1 _).mpr ⟨hcapitals, hsame⟩
  case loose => exact (hcolons hloose _).mpr (by decide +kernel)
  case place =>
    refine ((hmatched htight).2 _ _).mpr ⟨by decide, ?_, fun j hj => ?_⟩
    · exact ⟨by decide, hcapitals, hsame⟩
    · obtain rfl := Nat.lt_one_iff.mp hj
      exact fun hbears => hbears.tight hloose

/-- A space in front of a colon at the end of a label keeps it from being matched. -/
theorem headerKey_looseColon : SameLabel "Value" "Value :" ∧
    headerKey "Value :" ≠ headerKey "Value" ∧
    headerKey (headerKey "Value :") ≠ headerKey "Value :" ∧
    Columns.ofHeader "Types" ⟨1, ["Value :"]⟩ ["value"] [("value", "Value")] =
      .error (.input (.columnMissing "Value")
        { sheet := some "Types", row := some 1, column := some "Value" }) := by
  refine ⟨?same, ?differ, ?moves, ?missing⟩
  case same =>
    have hends : ∀ c ∈ " :".toList, isLabelEnd c = true := List.all_eq_true.mp (by decide)
    exact .rel _ _ (.labelEnd "Value" hends)
  case differ => decide +kernel
  case moves => decide +kernel
  case missing =>
    have hplace : Columns.place? ⟨1, ["Value :"]⟩ "Value" = none := by decide +kernel
    have hrequired : ["value"].contains "value" = true := by decide
    rw [Columns.ofHeader, Columns.findPlaces, hplace]
    dsimp only
    rw [if_pos hrequired]
    rfl

end FitProfile
