import SectionTimes.Proofs.Text.Trim
import SectionTimes.Screen.ResumedActivity

/-!
# Components of records

A component is a word that names a package and a class with a slash between them.  What is found in
a record is the first such word that stands behind a blank, with no closing brace before it; the
word itself may hold one.  What comes behind the text of a record, set off by a blank, changes a
component that is found in it as little as it brings one to a record that is closed.
-/

namespace SectionTimes.Screen

open Text

variable {c : Char} {s w : List Char}

/-- A component is a package and a name with a slash between them. -/
def IsComponent (w : List Char) : Prop :=
  ∃ package name, package ≠ [] ∧ name ≠ [] ∧ w = package ++ '/' :: name

theorem isComponent_iff : isComponent w = true ↔ IsComponent w := by
  unfold isComponent
  rw [List.contains_iff_mem]
  constructor
  · intro h
    cases w with
    | nil => simp at h
    | cons c w =>
      rw [List.tail_cons] at h
      have hne : w ≠ [] := by
        rintro rfl
        simp at h
      obtain ⟨package, name, hslash⟩ := List.append_of_mem h
      refine ⟨c :: package, name ++ [w.getLast hne], by simp, by simp, ?_⟩
      calc c :: w = c :: (w.dropLast ++ [w.getLast hne]) := by rw [List.dropLast_append_getLast]
        _ = c :: package ++ '/' :: (name ++ [w.getLast hne]) := by rw [hslash]; simp
  · rintro ⟨package, name, hpackage, hname, rfl⟩
    obtain ⟨c, package, rfl⟩ := List.exists_cons_of_ne_nil hpackage
    obtain ⟨name, d, rfl⟩ := List.eq_nil_or_concat' name |>.resolve_left hname
    rw [List.cons_append, List.tail_cons, ← List.cons_append, ← List.append_assoc,
      List.dropLast_concat]
    exact List.mem_append_right _ List.mem_cons_self

/-! ## Records -/

/-- A word behind a blank, with what stands before and behind it. -/
structure Place where
  inside : List Char
  blank : Char
  word : List Char
  rest : List Char

namespace Place

variable {p p' : Place}

/-- The text around the word, with the word. -/
def text (p : Place) : List Char := p.inside ++ p.blank :: (p.word ++ p.rest)

/-- The word is a component of a record whose closing brace does not come before it. -/
structure Names (p : Place) : Prop where
  inside : '\x7d' ∉ p.inside
  blank : isBlank p.blank = true
  word : ∀ c ∈ p.word, isBlank c = false
  rest : ∀ c ∈ p.rest.head?, isBlank c = true
  component : IsComponent p.word

/-- The first component of a record. -/
structure IsFirst (p : Place) (s : List Char) : Prop where
  names : p.Names
  text_eq : p.text = s
  le : ∀ p' : Place, p'.Names → p'.text = s → p.inside.length ≤ p'.inside.length

/-- The word with one more character before it. -/
def behind (c : Char) (p : Place) : Place := { p with inside := c :: p.inside }

theorem Names.behind (hp : p.Names) (hc : c ≠ '\x7d') : (p.behind c).Names :=
  ⟨fun h => (List.mem_cons.1 h).elim (fun h => hc h.symm) hp.inside, hp.blank, hp.word, hp.rest,
    hp.component⟩

theorem Names.takeWhile_eq (hp : p.Names) :
    (p.word ++ p.rest).takeWhile (fun c => !isBlank c) = p.word := by
  have hword : ∀ c ∈ p.word, (!isBlank c) = true := fun c hc => by rw [hp.word c hc]; rfl
  cases hrest : p.rest with
  | nil => rw [List.append_nil, List.takeWhile_eq_self_iff.2 hword]
  | cons c rest =>
    have hc : isBlank c = true := hp.rest c (by rw [hrest]; rfl)
    exact takeWhile_append_stop hword (by rw [hc]; rfl)

/-- A place is known by its text and by how much of it is inside. -/
theorem Names.word_eq (hp : p.Names) (hp' : p'.Names) (htext : p.text = p'.text)
    (hinside : p.inside.length = p'.inside.length) : p.word = p'.word := by
  obtain ⟨-, hbehind⟩ := List.append_inj htext hinside
  rw [← hp.takeWhile_eq, ← hp'.takeWhile_eq, (List.cons.inj hbehind).2]

/-- The word behind the first character of a text, if that is a blank. -/
def ofBlank (c : Char) (s : List Char) : Place where
  inside := []
  blank := c
  word := s.takeWhile fun c => !isBlank c
  rest := s.dropWhile fun c => !isBlank c

theorem text_ofBlank (c : Char) (s : List Char) : (ofBlank c s).text = c :: s :=
  congrArg (c :: ·) List.takeWhile_append_dropWhile

theorem names_ofBlank (hblank : isBlank c = true)
    (hword : isComponent (s.takeWhile fun c => !isBlank c) = true) : (ofBlank c s).Names where
  inside := List.not_mem_nil
  blank := hblank
  word d hd := by simpa using List.mem_takeWhile_imp hd
  rest d hd := by
    have hstop := List.head?_dropWhile_not (fun c => !isBlank c) s
    rw [show (s.dropWhile fun c => !isBlank c).head? = some d from hd] at hstop
    simpa using hstop
  component := isComponent_iff.1 hword

/-- A place is at the first character of a text or behind it. -/
theorem Names.eq_or_behind (hp : p.Names) (htext : p.text = c :: s) :
    (isBlank c = true ∧ isComponent (s.takeWhile fun c => !isBlank c) = true) ∨
      c ≠ '\x7d' ∧ ∃ p' : Place, p'.Names ∧ p'.text = s ∧ p = p'.behind c := by
  have hword := hp.takeWhile_eq
  obtain ⟨inside, blank, word, rest⟩ := p
  cases inside with
  | nil =>
    obtain ⟨rfl, rfl⟩ := List.cons.inj htext
    rw [isComponent_iff, hword]
    exact Or.inl ⟨hp.blank, hp.component⟩
  | cons d inside =>
    obtain ⟨rfl, rfl⟩ := List.cons.inj htext
    have hinside := hp.inside
    rw [List.mem_cons, not_or] at hinside
    exact Or.inr ⟨fun h => hinside.1 h.symm, ⟨inside, blank, word, rest⟩,
      ⟨hinside.2, hp.blank, hp.word, hp.rest, hp.component⟩, rfl, rfl⟩

end Place

open Place

theorem componentIn_cons (c : Char) (s : List Char) :
    componentIn (c :: s) =
      if isBlank c then
        if isComponent (s.takeWhile fun c => !isBlank c) then
          some (s.takeWhile fun c => !isBlank c)
        else componentIn s
      else if c = '\x7d' then none
      else componentIn s := rfl

/-- What is found in a record is its first component, and nothing is found if it has none. -/
theorem componentIn_spec (s : List Char) :
    (∃ p : Place, p.IsFirst s ∧ componentIn s = some p.word) ∨
      componentIn s = none ∧ ∀ p : Place, p.Names → p.text ≠ s := by
  induction s with
  | nil => exact Or.inr ⟨rfl, fun p _ => by simp [Place.text]⟩
  | cons c s ih =>
    by_cases hhere : isBlank c = true ∧ isComponent (s.takeWhile fun c => !isBlank c) = true
    · left
      refine ⟨ofBlank c s, ⟨names_ofBlank hhere.1 hhere.2, text_ofBlank c s,
        fun _ _ _ => Nat.zero_le _⟩, ?_⟩
      rw [componentIn_cons, if_pos hhere.1, if_pos hhere.2]
      rfl
    · have hstep : componentIn (c :: s) = if c = '\x7d' then none else componentIn s := by
        rw [componentIn_cons]
        by_cases hblank : isBlank c = true
        · have hbrace : c ≠ '\x7d' := by
            rintro rfl
            exact absurd hblank (by decide)
          rw [if_pos hblank, if_neg hbrace]
          exact if_neg fun hword => hhere ⟨hblank, hword⟩
        · rw [if_neg hblank]
      have hbehind : ∀ p : Place, p.Names → p.text = c :: s →
          c ≠ '\x7d' ∧ ∃ p' : Place, p'.Names ∧ p'.text = s ∧ p = p'.behind c :=
        fun p hp htext => (hp.eq_or_behind htext).resolve_left hhere
      rw [hstep]
      by_cases hbrace : c = '\x7d'
      · rw [if_pos hbrace]
        exact Or.inr ⟨rfl, fun p hp htext => (hbehind p hp htext).1 hbrace⟩
      rw [if_neg hbrace]
      rcases ih with ⟨p, hp, hfound⟩ | ⟨hnone, hnames⟩
      · refine Or.inl ⟨p.behind c, ⟨hp.names.behind hbrace, congrArg (c :: ·) hp.text_eq, ?_⟩,
          hfound⟩
        intro p' hp' htext
        obtain ⟨-, q, hq, hqtext, rfl⟩ := hbehind p' hp' htext
        exact Nat.succ_le_succ (hp.le q hq hqtext)
      · refine Or.inr ⟨hnone, fun p' hp' htext => ?_⟩
        obtain ⟨-, q, hq, hqtext, -⟩ := hbehind p' hp' htext
        exact hnames q hq hqtext

/-! ## Texts behind a record -/

section

variable {behind : List Char} (hbehind : ∀ c ∈ behind.head?, isBlank c = true)

include hbehind

theorem takeWhile_append_behind (s : List Char) :
    (s ++ behind).takeWhile (fun c => !isBlank c) = s.takeWhile fun c => !isBlank c := by
  have hstop : behind.takeWhile (fun c => !isBlank c) = [] := by
    cases behind with
    | nil => rfl
    | cons c behind =>
      have hc : isBlank c = true := hbehind c rfl
      rw [List.takeWhile_cons, hc]
      rfl
  induction s with
  | nil => exact hstop
  | cons c s ih => rw [List.cons_append, List.takeWhile_cons, List.takeWhile_cons, ih]

theorem componentIn_append (h : componentIn s = some w) : componentIn (s ++ behind) = some w := by
  induction s with
  | nil => cases h
  | cons c s ih =>
    rw [componentIn_cons] at h
    rw [List.cons_append, componentIn_cons, takeWhile_append_behind hbehind]
    split_ifs at h ⊢ with hblank hword
    · exact h
    · exact ih h
    · exact ih h

/-- A record without a component is closed, or no end of it has a component either. -/
theorem componentIn_append_eq_none_or (h : componentIn s = none) :
    componentIn (s ++ behind) = none ∨ ∀ t, t <:+ s → componentIn t = none := by
  induction s with
  | nil => exact Or.inr fun t ht => by rw [List.suffix_nil.1 ht]; rfl
  | cons c s ih =>
    have hends : (∀ t, t <:+ s → componentIn t = none) →
        ∀ t, t <:+ c :: s → componentIn t = none := by
      intro hs t ht
      rcases List.suffix_cons_iff.1 ht with rfl | ht
      · exact h
      · exact hs t ht
    rw [componentIn_cons] at h
    rw [List.cons_append, componentIn_cons, takeWhile_append_behind hbehind]
    split_ifs at h ⊢ with hblank hword hbrace
    · exact (ih h).imp_right hends
    · exact Or.inl rfl
    · exact (ih h).imp_right hends

end

end SectionTimes.Screen
