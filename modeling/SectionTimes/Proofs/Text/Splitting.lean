import Mathlib.Data.List.Basic
import SectionTimes.Text.Search

/-!
# The parts between separators

A text is divided at every occurrence of a separator and nowhere else: no part holds the separator,
and the first part ends at its first occurrence.
-/

namespace SectionTimes.Text

variable {sep : Char}

theorem splitOn_cons (c : Char) (s : List Char) :
    splitOn sep (c :: s) =
      match splitOn sep s with
      | [] => [[]]
      | part :: parts => if c = sep then [] :: part :: parts else (c :: part) :: parts := rfl

theorem splitOn_ne_nil (s : List Char) : splitOn sep s ≠ [] := by
  cases s with
  | nil => exact List.cons_ne_nil _ _
  | cons c s =>
    rw [splitOn_cons]
    split
    · exact List.cons_ne_nil _ _
    · split <;> exact List.cons_ne_nil _ _

/-- There is always a first part. -/
theorem exists_splitOn (s : List Char) : ∃ part parts, splitOn sep s = part :: parts :=
  List.exists_cons_of_ne_nil (splitOn_ne_nil s)

theorem splitOn_cons_self (s : List Char) : splitOn sep (sep :: s) = [] :: splitOn sep s := by
  obtain ⟨part, parts, hsplit⟩ := exists_splitOn s
  rw [splitOn_cons, hsplit]
  exact if_pos rfl

/-- Any other character belongs to the first part. -/
theorem splitOn_cons_of_ne {c : Char} (hc : c ≠ sep) {s part : List Char}
    {parts : List (List Char)} (hsplit : splitOn sep s = part :: parts) :
    splitOn sep (c :: s) = (c :: part) :: parts := by
  rw [splitOn_cons, hsplit]
  exact if_neg hc

/-- No part has the character between the parts. -/
theorem not_mem_of_mem_splitOn {s part : List Char} (h : part ∈ splitOn sep s) : sep ∉ part := by
  induction s generalizing part with
  | nil => rw [List.mem_singleton.1 h]; exact List.not_mem_nil
  | cons c s ih =>
    by_cases hc : c = sep
    · subst hc
      rw [splitOn_cons_self] at h
      rcases List.mem_cons.1 h with rfl | h
      · exact List.not_mem_nil
      · exact ih h
    · obtain ⟨first, rest, hsplit⟩ := exists_splitOn s
      rw [splitOn_cons_of_ne hc hsplit] at h
      rw [hsplit] at ih
      rcases List.mem_cons.1 h with rfl | h
      · exact fun hmem => (List.mem_cons.1 hmem).elim (fun heq => hc heq.symm)
          (ih List.mem_cons_self)
      · exact ih (List.mem_cons_of_mem _ h)

theorem splitOn_of_not_mem {s : List Char} (h : sep ∉ s) : splitOn sep s = [s] := by
  induction s with
  | nil => rfl
  | cons c s ih =>
    obtain ⟨hc, hs⟩ := not_or.1 (mt List.mem_cons.2 h)
    exact splitOn_cons_of_ne (Ne.symm hc) (ih hs)

theorem splitOn_append_cons (s t : List Char) :
    splitOn sep (s ++ sep :: t) = splitOn sep s ++ splitOn sep t := by
  induction s with
  | nil => exact splitOn_cons_self t
  | cons c s ih =>
    rw [List.cons_append]
    by_cases hc : c = sep
    · subst hc
      rw [splitOn_cons_self, splitOn_cons_self, ih, List.cons_append]
    · obtain ⟨part, parts, hsplit⟩ := exists_splitOn s
      rw [hsplit, List.cons_append] at ih
      rw [splitOn_cons_of_ne hc ih, splitOn_cons_of_ne hc hsplit, List.cons_append]

theorem splitOn_eq_singleton_iff {s part : List Char} :
    splitOn sep s = [part] ↔ s = part ∧ sep ∉ part := by
  constructor
  · intro h
    have hsep : sep ∉ s := by
      intro hmem
      obtain ⟨first, rest, rfl, -⟩ := List.eq_append_cons_of_mem hmem
      rw [splitOn_append_cons] at h
      have hfirst : splitOn sep first ≠ [] := splitOn_ne_nil first
      have hrest : splitOn sep rest ≠ [] := splitOn_ne_nil rest
      rcases List.append_eq_singleton_iff.1 h with ⟨hnil, -⟩ | ⟨-, hnil⟩
      · exact hfirst hnil
      · exact hrest hnil
    rw [splitOn_of_not_mem hsep] at h
    cases h
    exact ⟨rfl, hsep⟩
  · rintro ⟨rfl, hsep⟩
    exact splitOn_of_not_mem hsep

/-- The first part ends at the first separator, and the others are those of what is behind it. -/
theorem splitOn_eq_cons_cons_iff {s part next : List Char} {parts : List (List Char)} :
    splitOn sep s = part :: next :: parts ↔
      ∃ rest, s = part ++ sep :: rest ∧ sep ∉ part ∧ splitOn sep rest = next :: parts := by
  constructor
  · intro h
    by_cases hmem : sep ∈ s
    · obtain ⟨first, rest, rfl, hfirst⟩ := List.eq_append_cons_of_mem hmem
      rw [splitOn_append_cons, splitOn_of_not_mem hfirst] at h
      obtain ⟨rfl, hrest⟩ := List.cons.inj h
      exact ⟨rest, rfl, hfirst, hrest⟩
    · rw [splitOn_of_not_mem hmem] at h
      cases h
  · rintro ⟨rest, rfl, hpart, hrest⟩
    rw [splitOn_append_cons, splitOn_of_not_mem hpart, hrest]
    rfl

/-- What a text ends with is at the end of its last part, if it has no separator in it. -/
theorem isSuffix_of_splitOn_eq_concat {ending s last : List Char} {init : List (List Char)}
    (hsep : sep ∉ ending) (hend : ending <:+ s) (h : splitOn sep s = init ++ [last]) :
    ending <:+ last := by
  induction init generalizing s with
  | nil => exact (splitOn_eq_singleton_iff.1 h).1 ▸ hend
  | cons part init ih =>
    obtain ⟨next, parts, hnext⟩ : ∃ next parts, init ++ [last] = next :: parts :=
      List.exists_cons_of_ne_nil (by simp)
    rw [List.cons_append, hnext] at h
    obtain ⟨rest, rfl, -, hrest⟩ := splitOn_eq_cons_cons_iff.1 h
    refine ih ?_ (hrest.trans hnext.symm)
    rcases List.suffix_or_suffix_of_suffix hend (List.suffix_append part (sep :: rest)) with
      hbehind | hbefore
    · rcases List.suffix_cons_iff.1 hbehind with rfl | hbehind
      · exact absurd List.mem_cons_self hsep
      · exact hbehind
    · exact absurd (hbefore.subset List.mem_cons_self) hsep

/-- The texts of a list that has another character behind each separator. -/
theorem splitOn_intercalate {pad : Char} (hpad : pad ≠ sep) {s : List Char}
    {texts : List (List Char)} (h : ∀ t ∈ s :: texts, sep ∉ t) :
    splitOn sep ([sep, pad].intercalate (s :: texts)) = s :: texts.map (pad :: ·) := by
  induction texts generalizing s with
  | nil =>
    rw [List.intercalate_singleton]
    exact splitOn_of_not_mem (h s List.mem_cons_self)
  | cons t texts ih =>
    obtain ⟨hs, hrest⟩ := List.forall_mem_cons.1 h
    have hlist : [sep, pad].intercalate (s :: t :: texts) =
        s ++ sep :: (pad :: [sep, pad].intercalate (t :: texts)) := by
      rw [List.intercalate_cons_cons, List.append_assoc]
      rfl
    have hbehind : splitOn sep (pad :: [sep, pad].intercalate (t :: texts)) =
        (pad :: t) :: texts.map (pad :: ·) :=
      splitOn_cons_of_ne hpad (ih hrest)
    rw [hlist, splitOn_append_cons, splitOn_of_not_mem hs, hbehind]
    rfl

/-- A list of texts that are not empty and have no separators can be read off. -/
theorem intercalate_injective {pad : Char} (hpad : pad ≠ sep) {texts texts' : List (List Char)}
    (htexts : ∀ t ∈ texts ++ texts', t ≠ [] ∧ sep ∉ t)
    (h : [sep, pad].intercalate texts = [sep, pad].intercalate texts') : texts = texts' := by
  obtain ⟨hleft, hright⟩ := List.forall_mem_append.1 htexts
  -- an empty list reads as one empty text
  have hnil : splitOn sep ([sep, pad].intercalate []) = [[]] := rfl
  cases texts with
  | nil =>
    cases texts' with
    | nil => rfl
    | cons t' texts' =>
      have hread := splitOn_intercalate hpad fun u hu => (hright u hu).2
      rw [← h, hnil] at hread
      exact absurd (List.cons.inj hread).1.symm (hright t' List.mem_cons_self).1
  | cons t texts =>
    have hread := splitOn_intercalate hpad fun u hu => (hleft u hu).2
    cases texts' with
    | nil =>
      rw [h, hnil] at hread
      exact absurd (List.cons.inj hread).1.symm (hleft t List.mem_cons_self).1
    | cons t' texts' =>
      rw [h, splitOn_intercalate hpad fun u hu => (hright u hu).2] at hread
      obtain ⟨rfl, hrest⟩ := List.cons.inj hread
      have hpadded : Function.Injective fun t : List Char => pad :: t :=
        fun _ _ => List.tail_eq_of_cons_eq
      rw [List.map_injective_iff.2 hpadded hrest]

end SectionTimes.Text
