import SectionTimes.Flag.Name
import SectionTimes.Proofs.Log
import SectionTimes.Proofs.Text.Splitting
import SectionTimes.Proofs.Text.Word

/-!
# The form of flag names

A flag name is two or more parts with single dots between them, each of them a letter of ASCII or
an underscore with word characters behind it.  What can be declared is a flag name, or a flag name
and a line feed.
-/

namespace SectionTimes.Flag

open Text

/-- A part of a flag name: a letter of ASCII or an underscore, and word characters behind it. -/
def IsComponent (s : List Char) : Prop :=
  ∃ first rest, s = first :: rest ∧ (first.isAlpha = true ∨ first = '_') ∧
    ∀ c ∈ rest, isWord c = true

/-- Flag names: two or more parts with single dots between them. -/
inductive IsFlagName : List Char → Prop
  | pair {part last : List Char} (hpart : IsComponent part) (hlast : IsComponent last) :
    IsFlagName (part ++ '.' :: last)
  | cons {part rest : List Char} (hpart : IsComponent part) (hrest : IsFlagName rest) :
    IsFlagName (part ++ '.' :: rest)

variable {s part : List Char}

/-! ## Parts -/

theorem isPart_iff : isPart s = true ↔ IsComponent s := by
  unfold IsComponent
  cases s with
  | nil => simp [isPart]
  | cons first rest => simp [isPart, isInitial]

theorem IsComponent.isWord_of_mem (h : IsComponent part) {c : Char} (hc : c ∈ part) :
    isWord c = true := by
  obtain ⟨first, rest, rfl, hfirst, hrest⟩ := h
  rcases List.mem_cons.1 hc with rfl | hc
  · rcases hfirst with hletter | rfl
    · exact isWord_of_isAlpha hletter
    · decide
  · exact hrest c hc

theorem IsComponent.dot_not_mem (h : IsComponent part) : '.' ∉ part := by
  intro hdot
  exact absurd (h.isWord_of_mem hdot) (by decide +kernel)

/-! ## Names -/

theorem isFlagName_of_splitOn {next : List Char} {parts : List (List Char)}
    (hsplit : splitOn '.' s = part :: next :: parts)
    (hparts : ∀ p ∈ part :: next :: parts, IsComponent p) : IsFlagName s := by
  induction parts generalizing s part next with
  | nil =>
    obtain ⟨rest, rfl, -, hrest⟩ := splitOn_eq_cons_cons_iff.1 hsplit
    obtain ⟨rfl, -⟩ := splitOn_eq_singleton_iff.1 hrest
    exact .pair (hparts _ List.mem_cons_self) (hparts _ (by simp))
  | cons after parts ih =>
    obtain ⟨rest, rfl, -, hrest⟩ := splitOn_eq_cons_cons_iff.1 hsplit
    exact .cons (hparts _ List.mem_cons_self)
      (ih hrest fun p hp => hparts p (List.mem_cons_of_mem _ hp))

theorem IsFlagName.splitOn (h : IsFlagName s) :
    2 ≤ (splitOn '.' s).length ∧ ∀ p ∈ splitOn '.' s, IsComponent p := by
  induction h with
  | pair hpart hlast =>
    rw [splitOn_append_cons, splitOn_of_not_mem hpart.dot_not_mem,
      splitOn_of_not_mem hlast.dot_not_mem]
    exact ⟨Nat.le_refl 2, by simp [hpart, hlast]⟩
  | cons hpart _ ih =>
    rw [splitOn_append_cons, splitOn_of_not_mem hpart.dot_not_mem, List.singleton_append]
    exact ⟨Nat.le_succ_of_le ih.1, List.forall_mem_cons.2 ⟨hpart, ih.2⟩⟩

theorem isDotted_iff : isDotted s = true ↔ IsFlagName s := by
  unfold isDotted
  rw [Bool.and_eq_true, decide_eq_true_iff, List.all_eq_true]
  simp only [isPart_iff]
  constructor
  · rintro ⟨hlength, hparts⟩
    cases hsplit : splitOn '.' s with
    | nil => exact absurd hsplit (splitOn_ne_nil s)
    | cons part parts =>
      cases parts with
      | nil => simp [hsplit] at hlength
      | cons next parts => exact isFlagName_of_splitOn hsplit (hsplit ▸ hparts)
  · exact IsFlagName.splitOn

/-- A character of a flag name is a word character or a dot. -/
theorem IsFlagName.isWord_or_dot (h : IsFlagName s) {c : Char} (hc : c ∈ s) :
    isWord c = true ∨ c = '.' := by
  induction h with
  | pair hpart hlast =>
    rcases List.mem_append.1 hc with hc | hc
    · exact Or.inl (hpart.isWord_of_mem hc)
    · exact (List.mem_cons.1 hc).elim Or.inr fun hc => Or.inl (hlast.isWord_of_mem hc)
  | cons hpart _ ih =>
    rcases List.mem_append.1 hc with hc | hc
    · exact Or.inl (hpart.isWord_of_mem hc)
    · exact (List.mem_cons.1 hc).elim Or.inr ih

theorem IsFlagName.isVisible (h : IsFlagName s) {c : Char} (hc : c ∈ s) : IsVisible c := by
  rcases h.isWord_or_dot hc with hword | rfl
  · exact isVisible_of_isWord hword
  · exact ⟨by decide, by decide, by decide⟩

/-- What can be declared as a flag name: a flag name, or a flag name and a line feed. -/
def IsDeclarable (s : List Char) : Prop :=
  ∃ name, IsFlagName name ∧ (s = name ∨ s = name ++ ['\n'])

theorem isName_iff : isName s = true ↔ IsDeclarable s := by
  unfold isName IsDeclarable
  rw [Bool.or_eq_true, Bool.and_eq_true, beq_iff_eq, isDotted_iff, isDotted_iff]
  constructor
  · rintro (h | ⟨hlast, h⟩)
    · exact ⟨s, h, Or.inl rfl⟩
    · obtain ⟨name, rfl⟩ := List.getLast?_eq_some_iff.1 hlast
      rw [List.dropLast_concat] at h
      exact ⟨name, h, Or.inr rfl⟩
  · rintro ⟨name, h, rfl | rfl⟩
    · exact Or.inl h
    · rw [List.getLast?_concat, List.dropLast_concat]
      exact Or.inr ⟨rfl, h⟩

theorem IsFlagName.ne_nil (h : IsFlagName s) : s ≠ [] := by
  cases h <;> simp

theorem IsDeclarable.ne_nil (h : IsDeclarable s) : s ≠ [] := by
  obtain ⟨name, hname, rfl | rfl⟩ := h
  · exact hname.ne_nil
  · simp

/-- What can be declared holds word characters, dots and perhaps a line feed. -/
theorem IsDeclarable.isWord_or_dot_or_lineFeed (h : IsDeclarable s) {c : Char} (hc : c ∈ s) :
    isWord c = true ∨ c = '.' ∨ c = '\n' := by
  obtain ⟨name, hname, rfl | rfl⟩ := h
  · exact (hname.isWord_or_dot hc).imp_right Or.inl
  · rcases List.mem_append.1 hc with hc | hc
    · exact (hname.isWord_or_dot hc).imp_right Or.inl
    · exact Or.inr (Or.inr (List.mem_singleton.1 hc))

/-- No name that can be declared holds a comma. -/
theorem IsDeclarable.comma_not_mem (h : IsDeclarable s) : ',' ∉ s := by
  intro hcomma
  rcases h.isWord_or_dot_or_lineFeed hcomma with hword | hdot | hfeed
  · exact absurd hword (by decide +kernel)
  · cases hdot
  · cases hfeed

/-- No name that can be declared holds a null character. -/
theorem IsDeclarable.null_not_mem (h : IsDeclarable s) : '\x00' ∉ s := by
  intro hnull
  rcases h.isWord_or_dot_or_lineFeed hnull with hword | hdot | hfeed
  · exact absurd hword (by decide +kernel)
  · cases hdot
  · cases hfeed

/-! ## The last part -/

/-- A flag name has a last part, and something before the dot in front of it. -/
theorem IsFlagName.exists_last (h : IsFlagName s) :
    ∃ package last, s = package ++ '.' :: last ∧ package ≠ [] ∧ IsComponent last := by
  induction h with
  | @pair part last hpart hlast =>
    obtain ⟨first, rest, rfl, -⟩ := hpart
    exact ⟨first :: rest, last, rfl, List.cons_ne_nil _ _, hlast⟩
  | @cons part rest hpart _ ih =>
    obtain ⟨package, last, rfl, -, hlast⟩ := ih
    refine ⟨part ++ '.' :: package, last, ?_, by simp, hlast⟩
    rw [List.append_assoc, List.cons_append]

/-- The last part of what can be declared may end in a line feed. -/
theorem IsDeclarable.exists_last (h : IsDeclarable s) :
    ∃ package last, s = package ++ '.' :: last ∧ package ≠ [] ∧ last ≠ [] ∧ '.' ∉ last := by
  obtain ⟨name, hname, hs⟩ := h
  obtain ⟨package, last, rfl, hpackage, hlast⟩ := hname.exists_last
  have hdot := hlast.dot_not_mem
  rcases hs with rfl | rfl
  · obtain ⟨first, rest, rfl, -⟩ := hlast
    exact ⟨package, first :: rest, rfl, hpackage, List.cons_ne_nil _ _, hdot⟩
  · refine ⟨package, last ++ ['\n'], ?_, hpackage, by simp, by simpa using hdot⟩
    rw [List.append_assoc, List.cons_append]

end SectionTimes.Flag
