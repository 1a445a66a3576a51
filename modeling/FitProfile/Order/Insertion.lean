/-!
# FitProfile.Order.Insertion -- sorting by insertion

A stable sort: elements that neither precedes the other keep their order. It is used on
lists that are short or nearly in order, and it evaluates by plain recursion.
-/

namespace FitProfile.Order

variable {α : Type}

/-- Puts an element in front of the first one that it precedes or equals. -/
def insertBy (le : α → α → Bool) (a : α) : List α → List α
  | [] => [a]
  | b :: rest => if le a b then a :: b :: rest else b :: insertBy le a rest

/-- Sorts a list, keeping the order of equal elements. -/
def sortBy (le : α → α → Bool) (list : List α) : List α := list.foldr (insertBy le) []

theorem insertBy_perm (le : α → α → Bool) (a : α) (list : List α) :
    (insertBy le a list).Perm (a :: list) := by
  induction list with
  | nil => simp [insertBy]
  | cons b rest ih =>
    unfold insertBy
    split
    · exact .refl _
    · exact (ih.cons b).trans (.swap a b rest)

/-- Sorting neither loses nor adds an element. -/
theorem sortBy_perm (le : α → α → Bool) (list : List α) : (sortBy le list).Perm list := by
  induction list with
  | nil => exact .refl _
  | cons a rest ih => exact (insertBy_perm le a (sortBy le rest)).trans (ih.cons a)

end FitProfile.Order
