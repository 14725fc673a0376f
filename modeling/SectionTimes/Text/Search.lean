/-!
# Finding a part of a text

`cutAt` splits a text around the first occurrence of a part; the other functions are stated
through it.
-/

namespace SectionTimes.Text

/-- What stands before and after the first occurrence of `part`, if it occurs. -/
def cutAt (part : List Char) : List Char → Option (List Char × List Char)
  | [] => if part.isEmpty then some ([], []) else none
  | c :: s =>
    if part.isPrefixOf (c :: s) then some ([], (c :: s).drop part.length)
    else (cutAt part s).map fun (before, after) => (c :: before, after)

/-- Whether `part` occurs in a text. -/
def occurs (part s : List Char) : Bool := (cutAt part s).isSome

/-- Whether the string `part` occurs in the string `s`. -/
def mentions (s part : String) : Bool := occurs part.toList s.toList

/-- What is left of a text once a given beginning is taken off. -/
def after? : List Char → List Char → Option (List Char)
  | [], s => some s
  | _ :: _, [] => none
  | p :: ps, c :: s => if p = c then after? ps s else none

/-- What is left of a text once a given end is taken off. -/
def before? (ending s : List Char) : Option (List Char) :=
  (after? ending.reverse s.reverse).map List.reverse

/-- The parts of a text between the occurrences of a character; there is always one part. -/
def splitOn (sep : Char) : List Char → List (List Char)
  | [] => [[]]
  | c :: s =>
    match splitOn sep s with
    | [] => [[]]
    | part :: parts => if c = sep then [] :: part :: parts else (c :: part) :: parts

/-- What stands before and after the last occurrence of a character, if it occurs. -/
def cutAtLast (sep : Char) (s : List Char) : Option (List Char × List Char) :=
  (cutAt [sep] s.reverse).map fun (after, before) => (before.reverse, after.reverse)

theorem cutAt_eq {part s before after : List Char} (h : cutAt part s = some (before, after)) :
    s = before ++ part ++ after := by
  induction s generalizing before with
  | nil =>
    unfold cutAt at h
    split at h <;> simp_all
  | cons c s ih =>
    unfold cutAt at h
    split at h
    · rename_i hp
      obtain ⟨t, ht⟩ := List.isPrefixOf_iff_prefix.1 hp
      simp only [Option.some.injEq, Prod.mk.injEq] at h
      obtain ⟨rfl, rfl⟩ := h
      simp [← ht]
    · obtain ⟨⟨b, a⟩, hb, he⟩ := Option.map_eq_some_iff.1 h
      simp only [Prod.mk.injEq] at he
      obtain ⟨rfl, rfl⟩ := he
      simp [ih hb]

theorem after?_eq_some_iff {part s rest : List Char} :
    after? part s = some rest ↔ s = part ++ rest := by
  fun_induction after? part s <;> simp_all [eq_comm]

theorem before?_eq_some_iff {ending s rest : List Char} :
    before? ending s = some rest ↔ s = rest ++ ending := by
  simp only [before?, Option.map_eq_some_iff, after?_eq_some_iff]
  constructor
  · rintro ⟨t, ht, rfl⟩
    have := congrArg List.reverse ht
    simpa using this
  · rintro rfl
    exact ⟨rest.reverse, by simp, by simp⟩

end SectionTimes.Text
