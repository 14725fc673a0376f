import Mathlib.Data.List.Infix
import SectionTimes.Text.Search

/-!
# Occurrences

Cutting a text at a part finds the first occurrence of the part, and finds one whenever there is
one.  Where the first character of a part does not come again in it, no two of its occurrences
overlap, so that a text in which the part does not occur can be put before it and cut off again.
-/

namespace SectionTimes.Text

/-! ## The first occurrence -/

theorem cutAt_eq_none_iff {part s : List Char} : cutAt part s = none ↔ ¬ part <:+: s := by
  induction s with
  | nil => cases part <;> simp [cutAt]
  | cons c s ih =>
    unfold cutAt
    rw [List.infix_cons_iff, ← List.isPrefixOf_iff_prefix]
    split
    · rename_i hp
      simp [hp]
    · rename_i hp
      simp [hp, ih]

theorem occurs_iff {part s : List Char} : occurs part s = true ↔ part <:+: s := by
  rw [occurs, Option.isSome_iff_ne_none, ne_eq, cutAt_eq_none_iff, Classical.not_not]

theorem mentions_iff {s part : String} : mentions s part = true ↔ part.toList <:+: s.toList :=
  occurs_iff

/-- No occurrence of a part is before the one at which a text is cut. -/
theorem length_le_of_cutAt {part s before after b a : List Char}
    (h : cutAt part s = some (before, after)) (hs : s = b ++ part ++ a) :
    before.length ≤ b.length := by
  induction s generalizing before b with
  | nil =>
    have hbefore := cutAt_eq h
    simp only [List.nil_eq, List.append_eq_nil_iff] at hbefore
    rw [hbefore.1.1]
    exact Nat.zero_le _
  | cons c s ih =>
    unfold cutAt at h
    split at h
    · cases h
      exact Nat.zero_le _
    · rename_i hp
      obtain ⟨⟨b₀, a₀⟩, hcut, he⟩ := Option.map_eq_some_iff.1 h
      cases he
      cases b with
      | nil => exact absurd (List.isPrefixOf_iff_prefix.2 ⟨a, hs.symm⟩) hp
      | cons d b =>
        rw [List.cons_append, List.cons_append, List.cons.injEq] at hs
        exact Nat.succ_le_succ (ih hcut hs.2)

/-- A text is cut at the first occurrence of a part. -/
theorem cutAt_eq_some_iff {part s before after : List Char} :
    cutAt part s = some (before, after) ↔
      s = before ++ part ++ after ∧
        ∀ b a, s = b ++ part ++ a → before.length ≤ b.length := by
  constructor
  · intro h
    exact ⟨cutAt_eq h, fun b a hs => length_le_of_cutAt h hs⟩
  · rintro ⟨hs, hfirst⟩
    cases hcut : cutAt part s with
    | none => exact absurd ⟨before, after, hs.symm⟩ (cutAt_eq_none_iff.1 hcut)
    | some found =>
      obtain ⟨b, a⟩ := found
      have hle := hfirst b a (cutAt_eq hcut)
      have hge := length_le_of_cutAt hcut hs
      have heq : before ++ part ++ after = b ++ part ++ a := hs.symm.trans (cutAt_eq hcut)
      rw [List.append_assoc, List.append_assoc] at heq
      obtain ⟨rfl, hrest⟩ := List.append_inj heq (by omega)
      rw [(List.append_inj hrest rfl).2]

/-! ## Single characters -/

variable {c : Char} {s before behind : List Char}

theorem cutAt_singleton_eq_some_iff :
    cutAt [c] s = some (before, behind) ↔ s = before ++ c :: behind ∧ c ∉ before := by
  rw [cutAt_eq_some_iff, List.append_assoc, List.singleton_append]
  refine and_congr_right fun hs => ⟨fun hfirst hmem => ?_, fun hmem b a hs' => ?_⟩
  · obtain ⟨b, a, rfl⟩ := List.append_of_mem hmem
    have := hfirst b (a ++ c :: behind) (by rw [hs]; simp)
    simp only [List.length_append, List.length_cons] at this
    omega
  · refine Nat.le_of_not_lt fun hlt => ?_
    have hs' : before ++ c :: behind = b ++ c :: a := by rw [← hs, hs']; simp
    obtain ⟨t, ht⟩ : b <+: before :=
      List.prefix_of_prefix_length_le ⟨c :: a, rfl⟩ ⟨c :: behind, hs'⟩ (by omega)
    cases t with
    | nil =>
      rw [← ht, List.append_nil] at hlt
      exact absurd hlt (Nat.lt_irrefl _)
    | cons d t =>
      rw [← ht, List.append_assoc, List.append_cancel_left_eq, List.cons_append,
        List.cons.injEq] at hs'
      exact hmem (by rw [← ht, hs'.1]; simp)

theorem cutAtLast_eq_some_iff :
    cutAtLast c s = some (before, behind) ↔ s = before ++ c :: behind ∧ c ∉ behind := by
  have hcut : cutAtLast c s = some (before, behind) ↔
      cutAt [c] s.reverse = some (behind.reverse, before.reverse) := by
    unfold cutAtLast
    rw [Option.map_eq_some_iff]
    constructor
    · rintro ⟨⟨a, b⟩, h, he⟩
      cases he
      rw [h, List.reverse_reverse, List.reverse_reverse]
    · exact fun h => ⟨_, h, by simp⟩
  rw [hcut, cutAt_singleton_eq_some_iff, List.mem_reverse]
  refine and_congr_left fun _ => ?_
  rw [← List.reverse_inj, List.reverse_reverse]
  simp

theorem cutAtLast_eq_none_iff : cutAtLast c s = none ↔ c ∉ s := by
  unfold cutAtLast
  rw [Option.map_eq_none_iff, cutAt_eq_none_iff, List.singleton_infix_iff, List.mem_reverse]

/-! ## Occurrences across a boundary -/

/-- Characters that a part does not hold make no occurrence of it when they are put at the end
of a text. -/
theorem infix_append_iff_of_disjoint {part s w : List Char} (hw : ∀ c ∈ w, c ∉ part) :
    part <:+: s ++ w ↔ part <:+: s := by
  refine ⟨fun h => ?_, List.infix_append_of_infix_left⟩
  rcases List.infix_append_iff_ne_nil.1 h with h | h | ⟨l₁, l₂, -, hne, rfl, -, hpre⟩
  · exact h
  · cases part with
    | nil => exact List.nil_infix
    | cons c part => exact absurd List.mem_cons_self (hw c (h.subset List.mem_cons_self))
  · obtain ⟨c, l₂, rfl⟩ := List.exists_cons_of_ne_nil hne
    have hc : c ∈ w := hpre.subset List.mem_cons_self
    exact absurd (List.mem_append_right l₁ List.mem_cons_self) (hw c hc)

/-- A part whose first character does not come again in it is found behind every text in which
it does not occur. -/
theorem cutAt_append {c : Char} {part s : List Char} (hc : c ∉ part)
    (hs : ¬ (c :: part) <:+: s) (t : List Char) :
    cutAt (c :: part) (s ++ (c :: part) ++ t) = some (s, t) := by
  refine cutAt_eq_some_iff.2 ⟨rfl, fun b a he => Nat.not_lt.1 fun hlt => ?_⟩
  rw [List.append_assoc, List.append_assoc] at he
  rcases List.append_eq_append_iff.1 he with ⟨d, rfl, -⟩ | ⟨d, rfl, hd⟩
  · rw [List.length_append] at hlt
    omega
  -- The other occurrence begins within `s`, at `d`; it is not over there, so `d` is its beginning.
  · rcases List.append_eq_append_iff.1 hd with ⟨e, rfl, -⟩ | ⟨e, he', hrest⟩
    · exact hs ⟨b, e, by simp⟩
    · cases d with
      | nil => simp at hlt
      | cons x d =>
        obtain ⟨rfl, rfl⟩ := List.cons.inj he'
        cases e with
        | nil => exact hs ⟨b, [], by simp⟩
        | cons y e =>
          obtain ⟨rfl, -⟩ := List.cons.inj hrest
          exact hc (List.mem_append_right d List.mem_cons_self)

end SectionTimes.Text
