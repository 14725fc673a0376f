/-!
# Sorting by insertion

A list is sorted by placing its elements, one after the other, behind every element that they are
not below.  Elements of which neither is below the other keep their order.
-/

namespace SectionTimes

/-- Places an element into a list that is sorted from the greatest to the least. -/
def place {α : Type} (below : α → α → Bool) (x : α) (greatestFirst : List α) : List α :=
  greatestFirst.takeWhile (below x) ++ x :: greatestFirst.dropWhile (below x)

/-- The elements of a list from the least to the greatest. -/
def sortedBy {α : Type} (below : α → α → Bool) (xs : List α) : List α :=
  (xs.foldl (fun sorted x => place below x sorted) []).reverse

/-- Strings from the least to the greatest, compared character by character. -/
def sortedNames (names : List String) : List String := sortedBy (fun a b => decide (a < b)) names

variable {α : Type} (below : α → α → Bool)

theorem place_perm (x : α) (xs : List α) : (place below x xs).Perm (x :: xs) := by
  unfold place
  refine List.perm_middle.trans ?_
  rw [List.takeWhile_append_dropWhile]

theorem foldl_place_perm (xs sorted : List α) :
    (xs.foldl (fun sorted x => place below x sorted) sorted).Perm (xs ++ sorted) := by
  induction xs generalizing sorted with
  | nil => exact List.Perm.refl _
  | cons x xs ih =>
    refine (ih _).trans ((List.Perm.append_left xs (place_perm below x sorted)).trans ?_)
    exact List.perm_middle

/-- Sorting keeps every element as often as it occurs. -/
theorem sortedBy_perm (xs : List α) : (sortedBy below xs).Perm xs := by
  unfold sortedBy
  refine (List.reverse_perm _).trans ?_
  simpa using foldl_place_perm below xs []

@[simp] theorem mem_sortedBy {x : α} {xs : List α} : x ∈ sortedBy below xs ↔ x ∈ xs :=
  (sortedBy_perm below xs).mem_iff

@[simp] theorem length_sortedBy (xs : List α) : (sortedBy below xs).length = xs.length :=
  (sortedBy_perm below xs).length_eq

end SectionTimes
