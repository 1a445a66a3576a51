import FitProfile.Text.Blank
/-!
# FitProfile.Text.CommaList -- cells that hold a list

A list cell separates its entries by commas; white space around an entry does not count.
An empty cell holds no entry, a cell of one comma holds two empty ones.
-/

namespace FitProfile.Text

/-- The pieces between the occurrences of a separator, in order; never an empty list. -/
def splitAtChar (separator : Char) : List Char → List (List Char)
  | [] => [[]]
  | c :: rest =>
    if c = separator then [] :: splitAtChar separator rest
    else match splitAtChar separator rest with
      | piece :: pieces => (c :: piece) :: pieces
      | [] => [[c]]

/-- The entries of a list cell. -/
def commaList (s : String) : List String :=
  if s.toList.isEmpty then []
  else (splitAtChar ',' s.toList).map fun piece => String.ofList (trimBy isBlank piece)

theorem splitAtChar_ne_nil (separator : Char) (cs : List Char) :
    splitAtChar separator cs ≠ [] := by
  cases cs with
  | nil => simp [splitAtChar]
  | cons c rest =>
    unfold splitAtChar
    split
    · simp
    · split <;> simp

/-- Only an empty cell holds no entry. -/
theorem commaList_eq_nil {text : String} : commaList text = [] ↔ text = "" := by
  unfold commaList
  cases hchars : text.toList with
  | nil => simpa using hchars
  | cons c rest =>
    have hne : text ≠ "" := by
      rintro rfl
      simp at hchars
    simpa [hne] using splitAtChar_ne_nil ',' (c :: rest)

/-- A separator cuts a text in two. -/
theorem splitAtChar_append (separator : Char) (cs ds : List Char) :
    splitAtChar separator (cs ++ separator :: ds) =
      splitAtChar separator cs ++ splitAtChar separator ds := by
  induction cs with
  | nil => simp [splitAtChar]
  | cons c cs ih =>
    rw [List.cons_append, splitAtChar, splitAtChar, ih]
    split
    · rfl
    · cases hpieces : splitAtChar separator cs with
      | nil => exact absurd hpieces (splitAtChar_ne_nil separator cs)
      | cons piece pieces => rfl

/-- A text without the separator is a single piece. -/
theorem splitAtChar_of_notMem {separator : Char} {cs : List Char} (h : separator ∉ cs) :
    splitAtChar separator cs = [cs] := by
  induction cs with
  | nil => rfl
  | cons c cs ih =>
    rw [List.mem_cons, not_or] at h
    rw [splitAtChar, if_neg (fun heq => h.1 heq.symm), ih h.2]

/-- Pieces that are joined are found again, if there is any. -/
theorem splitAtChar_intercalate {separator : Char} {pieces : List (List Char)} (hne : pieces ≠ [])
    (h : ∀ piece ∈ pieces, separator ∉ piece) :
    splitAtChar separator ([separator].intercalate pieces) = pieces := by
  induction pieces with
  | nil => exact absurd rfl hne
  | cons piece rest ih =>
    obtain ⟨hpiece, hrest⟩ := List.forall_mem_cons.mp h
    cases rest with
    | nil => rw [List.intercalate_singleton, splitAtChar_of_notMem hpiece]
    | cons next rest =>
      rw [List.intercalate_cons_cons, List.append_assoc, List.singleton_append, splitAtChar_append,
        splitAtChar_of_notMem hpiece, ih (List.cons_ne_nil _ _) hrest, List.singleton_append]

/-- A cell without a comma holds one entry, if any. -/
theorem commaList_of_notMem {text : String} (h : ',' ∉ text.toList) :
    commaList text = if text = "" then [] else [strip text] := by
  unfold commaList
  rw [splitAtChar_of_notMem h]
  by_cases hempty : text = ""
  · simp [hempty]
  · rw [if_neg (by simpa using hempty), if_neg hempty]
    rfl

end FitProfile.Text
