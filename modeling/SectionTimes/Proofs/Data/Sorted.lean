import Mathlib.Data.List.Sort
import Mathlib.Data.String.Basic
import Mathlib.Order.Bounds.Basic
import SectionTimes.Data.Sorted

/-!
# Sorting by a key

A list that is sorted by a key is in ascending order of the keys, and elements with the same key
stand as they did before.  For names, which are their own keys, the order in which they came makes
no difference, and the last of them is the greatest.
-/

namespace SectionTimes

section

variable {α β : Type} [LinearOrder β] {below : α → α → Bool} {key : α → β}
  {keeps : α → α → Prop} {x y : α} {xs : List α}

theorem place_cons_of_below (h : below x y = true) :
    place below x (y :: xs) = y :: place below x xs := by
  unfold place
  rw [List.takeWhile_cons_of_pos h, List.dropWhile_cons_of_pos h, List.cons_append]

theorem place_cons_of_not_below (h : ¬ below x y = true) :
    place below x (y :: xs) = x :: y :: xs := by
  unfold place
  rw [List.takeWhile_cons_of_neg h, List.dropWhile_cons_of_neg h, List.nil_append]

/-- One element comes before another by its key; with the same key, `keeps` says which is first. -/
def ByKey (key : α → β) (keeps : α → α → Prop) (a b : α) : Prop :=
  key a < key b ∨ key a = key b ∧ keeps a b

theorem ByKey.key_le {a b : α} (h : ByKey key keeps a b) : key a ≤ key b :=
  h.elim le_of_lt fun h => h.1.le

theorem byKey_of_le {a b : α} (hle : key a ≤ key b) (hkeeps : keeps a b) : ByKey key keeps a b :=
  (lt_or_eq_of_le hle).imp_right fun heq => ⟨heq, hkeeps⟩

/-- A sorted list, the greatest first, stays so when an element is placed into it that comes last
among those with its key. -/
theorem pairwise_place (hbelow : ∀ y ∈ xs, (below x y = true ↔ key x < key y))
    (hkeeps : ∀ y ∈ xs, keeps y x) (h : xs.Pairwise fun b a => ByKey key keeps a b) :
    (place below x xs).Pairwise fun b a => ByKey key keeps a b := by
  induction xs with
  | nil => exact List.pairwise_singleton _ x
  | cons y xs ih =>
    obtain ⟨hy, hxs⟩ := List.pairwise_cons.1 h
    obtain ⟨hbelowy, hbelow⟩ := List.forall_mem_cons.1 hbelow
    obtain ⟨hkeepsy, hkeeps⟩ := List.forall_mem_cons.1 hkeeps
    by_cases hlt : key x < key y
    · rw [place_cons_of_below (hbelowy.2 hlt)]
      refine List.pairwise_cons.2 ⟨fun a ha => ?_, ih hbelow hkeeps hxs⟩
      rcases List.mem_cons.1 ((place_perm _ x xs).mem_iff.1 ha) with rfl | ha
      · exact Or.inl hlt
      · exact hy a ha
    · rw [place_cons_of_not_below (mt hbelowy.1 hlt)]
      have hyx : key y ≤ key x := not_lt.1 hlt
      refine List.pairwise_cons.2 ⟨fun a ha => ?_, h⟩
      rcases List.mem_cons.1 ha with rfl | ha
      · exact byKey_of_le hyx hkeepsy
      · exact byKey_of_le ((hy a ha).key_le.trans hyx) (hkeeps a ha)

theorem pairwise_foldl_place {sorted : List α}
    (hbelow : ∀ x ∈ xs, ∀ y ∈ xs ++ sorted, (below x y = true ↔ key x < key y))
    (hkeeps : xs.Pairwise keeps) (hbehind : ∀ y ∈ sorted, ∀ x ∈ xs, keeps y x)
    (h : sorted.Pairwise fun b a => ByKey key keeps a b) :
    (xs.foldl (fun sorted x => place below x sorted) sorted).Pairwise
      fun b a => ByKey key keeps a b := by
  induction xs generalizing sorted with
  | nil => exact h
  | cons x xs ih =>
    obtain ⟨hx, hxs⟩ := List.pairwise_cons.1 hkeeps
    have hmem : ∀ {a}, a ∈ place below x sorted → a = x ∨ a ∈ sorted := fun ha =>
      List.mem_cons.1 ((place_perm below x sorted).mem_iff.1 ha)
    refine ih (fun a ha y hy => ?_) hxs (fun y hy a ha => ?_) (pairwise_place (fun y hy => ?_)
      (fun y hy => hbehind y hy x List.mem_cons_self) h)
    · refine hbelow a (List.mem_cons_of_mem x ha) y ?_
      rcases List.mem_append.1 hy with hy | hy
      · exact List.mem_cons_of_mem x (List.mem_append_left _ hy)
      · rcases hmem hy with rfl | hy
        · exact List.mem_cons_self
        · exact List.mem_cons_of_mem x (List.mem_append_right _ hy)
    · rcases hmem hy with rfl | hy
      · exact hx a ha
      · exact hbehind y hy a (List.mem_cons_of_mem x ha)
    · exact hbelow x List.mem_cons_self y (List.mem_append_right _ hy)

/-- A sorted list is in the order of the keys, and keeps the order of elements with the same key. -/
theorem pairwise_sortedBy (hbelow : ∀ x ∈ xs, ∀ y ∈ xs, (below x y = true ↔ key x < key y))
    (hkeeps : xs.Pairwise keeps) : (sortedBy below xs).Pairwise (ByKey key keeps) := by
  refine List.pairwise_reverse.2 (pairwise_foldl_place (fun x hx y hy => ?_) hkeeps nofun .nil)
  exact hbelow x hx y (by simpa using hy)

end

variable {names names' : List String} {x : String}

theorem pairwise_sortedNames (names : List String) : (sortedNames names).Pairwise (· ≤ ·) := by
  have h : (sortedNames names).Pairwise (ByKey id fun _ _ => True) :=
    pairwise_sortedBy (fun _ _ _ _ => decide_eq_true_iff)
      (List.pairwise_of_forall fun _ _ => trivial)
  exact h.imp ByKey.key_le

theorem sortedNames_perm (names : List String) : (sortedNames names).Perm names :=
  sortedBy_perm _ names

/-- Names that are different are in strictly ascending order. -/
theorem pairwise_lt_sortedNames (h : names.Nodup) : (sortedNames names).Pairwise (· < ·) := by
  have hnodup : (sortedNames names).Nodup := (sortedNames_perm names).nodup_iff.2 h
  exact ((pairwise_sortedNames names).and hnodup).imp fun hle => lt_of_le_of_ne hle.1 hle.2

theorem sortedNames_eq_of_perm (h : names.Perm names') : sortedNames names = sortedNames names' :=
  ((sortedNames_perm names).trans (h.trans (sortedNames_perm names').symm)).eq_of_pairwise'
    (pairwise_sortedNames names) (pairwise_sortedNames names')

theorem isGreatest_of_getLast?_sortedNames (h : (sortedNames names).getLast? = some x) :
    IsGreatest {name | name ∈ names} x := by
  refine ⟨(mem_sortedBy _).1 (List.mem_of_getLast? h), fun name hname => ?_⟩
  obtain ⟨init, hinit⟩ := List.getLast?_eq_some_iff.1 h
  have hsorted := pairwise_sortedNames names
  have hmem : name ∈ sortedNames names := (mem_sortedBy _).2 hname
  rw [hinit] at hsorted hmem
  rcases List.mem_append.1 hmem with hname | hname
  · exact (List.pairwise_append.1 hsorted).2.2 name hname x List.mem_cons_self
  · exact (List.mem_singleton.1 hname).le

theorem getLast?_sortedNames_eq_some_iff :
    (sortedNames names).getLast? = some x ↔ IsGreatest {name | name ∈ names} x := by
  refine ⟨isGreatest_of_getLast?_sortedNames, fun h => ?_⟩
  cases hlast : (sortedNames names).getLast? with
  | none =>
    have hnone : sortedNames names = [] := List.getLast?_eq_none_iff.1 hlast
    have hx : x ∈ sortedNames names := (mem_sortedBy _).2 h.1
    rw [hnone] at hx
    exact absurd hx List.not_mem_nil
  | some y => rw [(isGreatest_of_getLast?_sortedNames hlast).unique h]

theorem getLast?_sortedNames_eq_none_iff :
    (sortedNames names).getLast? = none ↔ ∀ x, x ∉ names := by
  rw [List.getLast?_eq_none_iff, List.eq_nil_iff_forall_not_mem]
  exact forall_congr' fun x => not_congr (mem_sortedBy _)

theorem getLast?_sortedNames_filter_eq_some_iff {p : String → Bool} :
    (sortedNames (names.filter p)).getLast? = some x ↔
      IsGreatest {name | name ∈ names ∧ p name = true} x := by
  have hset : {name | name ∈ names.filter p} = {name | name ∈ names ∧ p name = true} :=
    Set.ext fun name => List.mem_filter
  rw [getLast?_sortedNames_eq_some_iff, hset]

end SectionTimes
