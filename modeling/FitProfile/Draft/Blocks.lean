/-!
# FitProfile.Draft.Blocks -- cutting rows into blocks

Both sheets state their entries in blocks: a head row and the rows up to the next head.
The rows in front of the first head belong to no block.
-/

namespace FitProfile

variable {α : Type}

/-- Rows cut at their heads: the rows in front of the first head, then each head with the
rows up to the next one. -/
def cutBlocks (isHead : α → Bool) : List α → List α × List (α × List α)
  | [] => ([], [])
  | row :: rest =>
    let cut := cutBlocks isHead rest
    if isHead row then ([], (row, cut.1) :: cut.2) else (row :: cut.1, cut.2)

/-- A block as rows again. -/
def blockRows (block : α × List α) : List α := block.1 :: block.2

/-- Cutting loses no row and keeps the order. -/
theorem cutBlocks_append (isHead : α → Bool) (rows : List α) :
    (cutBlocks isHead rows).1 ++ (cutBlocks isHead rows).2.flatMap blockRows = rows := by
  induction rows with
  | nil => rfl
  | cons row rest ih =>
    unfold cutBlocks
    by_cases h : isHead row = true <;> simp [h, blockRows, ih]

/-- The rows in front of the first head are no heads. -/
theorem not_isHead_of_mem_lead {isHead : α → Bool} {rows : List α} {row : α}
    (h : row ∈ (cutBlocks isHead rows).1) : isHead row = false := by
  induction rows with
  | nil => simp [cutBlocks] at h
  | cons first rest ih =>
    unfold cutBlocks at h
    by_cases hf : isHead first = true
    · simp [hf] at h
    · simp only [hf, Bool.false_eq_true, if_false, List.mem_cons] at h
      rcases h with rfl | h
      · simpa using hf
      · exact ih h

end FitProfile
