import Mathlib.Logic.Relation
import SectionTimes.Proofs.Flag.Merge
import SectionTimes.Proofs.Log

/-!
# Classes and their ancestors

The order of a class has the class itself, its ancestors and no others, each once, and keeps the
order of every ancestor.  So a class stands before all that it inherits from.
-/

namespace SectionTimes.Flag

open Relation

/-- Hierarchies that are built class by class, with the parents of each class. -/
inductive IsBuilt : Hierarchy → List (List ClassId) → Prop where
  | empty : IsBuilt .empty []
  | add {h h' : Hierarchy} {parents : List (List ClassId)} {name : String} {names : List String}
      {methods : List Method} {ks : List ClassId} (hbuilt : IsBuilt h parents)
      (hparents : h.findAll names = .ok ks) (hadd : h.add name names methods = .ok h') :
      IsBuilt h' (parents ++ [ks])
  | declare {h h' : Hierarchy} {parents : List (List ClassId)} {want : Want}
      {values : List Value} (hbuilt : IsBuilt h parents)
      (hdeclare : h.declare want values = .ok h') : IsBuilt h' parents

variable {h h' : Hierarchy} {parents : List (List ClassId)} {c k : ClassId}

/-! ## Building -/

namespace Hierarchy

/-- A class is added with an order that its parents give. -/
theorem add_eq_ok {name : String} {names : List String} {methods : List Method}
    {ks : List ClassId} (hparents : h.findAll names = .ok ks)
    (hadd : h.add name names methods = .ok h') :
    ∃ order, h.orderFrom ks = some order ∧
      h' = ⟨h.classes ++ [⟨name, Tags.none, methods, order⟩]⟩ := by
  obtain ⟨ks', hks', hadd⟩ := exists_of_bind hadd
  obtain rfl := Except.ok.inj (hparents.symm.trans hks')
  cases horder : h.orderFrom ks with
  | none =>
    rw [horder] at hadd
    cases hadd
  | some order =>
    rw [horder] at hadd
    exact ⟨order, rfl, (Except.ok.inj hadd).symm⟩

/-- A declaration is written on the last class. -/
theorem declare_eq_ok {want : Want} {values : List Value}
    (hdeclare : h.declare want values = .ok h') :
    h.classes = [] ∧ h' = h ∨
      ∃ front cls flags, h.classes = front ++ [cls] ∧ checkNames values = .ok flags ∧
        h' = ⟨front ++ [{ cls with tags := cls.tags.put want flags }]⟩ := by
  unfold declare at hdeclare
  cases hlast : h.classes.getLast? with
  | none =>
    rw [hlast] at hdeclare
    exact Or.inl ⟨List.getLast?_eq_none_iff.1 hlast, (Except.ok.inj hdeclare).symm⟩
  | some cls =>
    obtain ⟨front, hfront⟩ := List.getLast?_eq_some_iff.1 hlast
    rw [hlast] at hdeclare
    cases hnames : checkNames values with
    | error e =>
      simp only [Tags.declare, hnames] at hdeclare
      cases hdeclare
    | ok flags =>
      simp only [Tags.declare, hnames] at hdeclare
      refine Or.inr ⟨front, cls, flags, hfront, rfl, ?_⟩
      rw [← Except.ok.inj hdeclare, hfront, List.dropLast_concat]

/-! ### What becomes of the orders -/

theorem length_declare {want : Want} {values : List Value}
    (hdeclare : h.declare want values = .ok h') : h'.classes.length = h.classes.length := by
  rcases declare_eq_ok hdeclare with ⟨-, rfl⟩ | ⟨front, cls, flags, hfront, -, rfl⟩
  · rfl
  · simp [hfront]

/-! ### The order of one class -/

/-- The order of a class has the class first, and then joins the orders of its parents. -/
structure IsJoined (h : Hierarchy) (c : ClassId) (ks : List ClassId) : Prop where
  lt : ∀ k ∈ ks, k < c
  exists_order : ∃ rest, h.orderOf c = c :: rest ∧ rest.Nodup ∧ ks.Sublist rest ∧
    (∀ k, k ∈ rest ↔ ∃ p ∈ ks, k = p ∨ k ∈ h.orderOf p) ∧ ∀ p ∈ ks, (h.orderOf p).Sublist rest

theorem IsJoined.congr {ks : List ClassId} (hjoined : h.IsJoined c ks)
    (horder : ∀ k ≤ c, h'.orderOf k = h.orderOf k) : h'.IsJoined c ks := by
  obtain ⟨hlt, rest, hrest, hnodup, hkeeps, hmem, hsub⟩ := hjoined
  have hparent : ∀ p ∈ ks, h'.orderOf p = h.orderOf p :=
    fun p hp => horder p (Nat.le_of_lt (hlt p hp))
  refine ⟨hlt, rest, (horder c (Nat.le_refl c)).trans hrest, hnodup, hkeeps, fun k => ?_,
    fun p hp => ?_⟩
  · rw [hmem]
    constructor
    · rintro ⟨p, hp, hk⟩
      exact ⟨p, hp, by rwa [hparent p hp]⟩
    · rintro ⟨p, hp, hk⟩
      exact ⟨p, hp, by rwa [hparent p hp] at hk⟩
  · rw [hparent p hp]
    exact hsub p hp

end Hierarchy

open Hierarchy

/-! ## Hierarchies that are built -/

theorem IsBuilt.length_eq (hbuilt : IsBuilt h parents) :
    parents.length = h.classes.length := by
  induction hbuilt with
  | empty => rfl
  | add hbuilt hparents hadd ih =>
    obtain ⟨order, -, rfl⟩ := add_eq_ok hparents hadd
    simp [ih]
  | declare hbuilt hdeclare ih => rw [ih, length_declare hdeclare]

end SectionTimes.Flag
