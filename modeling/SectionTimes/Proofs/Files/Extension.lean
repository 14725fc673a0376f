import SectionTimes.Files.Path
import SectionTimes.Proofs.Text.Occurrence

/-!
# Last parts and extensions

A path is a way, which ends with a slash if it is not empty, and a last part without slashes.  The
extension of the last part is its last dot and what follows, but no dot before which there are only
dots begins one.  A path without its extension has the whole way.
-/

namespace SectionTimes

namespace Path

open Text

variable {path : String} {way name stem : List Char}

/-- A path is a way and a last part. -/
inductive IsDivided : List Char → List Char → List Char → Prop where
  | bare {name : List Char} (hname : '/' ∉ name) : IsDivided name [] name
  | behind {folder name : List Char} (hname : '/' ∉ name) :
    IsDivided (folder ++ '/' :: name) (folder ++ ['/']) name

theorem exists_isDivided (path : List Char) : ∃ way name, IsDivided path way name := by
  cases hcut : cutAtLast '/' path with
  | none => exact ⟨[], path, .bare (cutAtLast_eq_none_iff.1 hcut)⟩
  | some parts =>
    obtain ⟨rfl, hname⟩ := cutAtLast_eq_some_iff.1 hcut
    exact ⟨_, _, .behind hname⟩

theorem IsDivided.eq_append {path : List Char} (h : IsDivided path way name) :
    path = way ++ name := by
  cases h with
  | bare hname => rfl
  | behind hname => rw [List.append_assoc, List.singleton_append]

/-- The way is empty if there are no slashes. -/
theorem IsDivided.way_eq_nil {path : List Char} (h : IsDivided path way name)
    (hslash : '/' ∉ path) : way = [] := by
  cases h with
  | bare hname => rfl
  | behind hname => simp at hslash

theorem IsDivided.toList_baseName (h : IsDivided path.toList way name) :
    (baseName path).toList = name := by
  unfold baseName
  generalize hpath : path.toList = s at h
  cases h with
  | bare hname => rw [cutAtLast_eq_none_iff.2 hname]; exact hpath
  | behind hname => rw [cutAtLast_eq_some_iff.2 ⟨rfl, hname⟩]; exact String.toList_ofList

/-- What is left of a last part without its extension. -/
inductive IsStem : List Char → List Char → Prop where
  | cut {stem extension : List Char} (hstem : ∃ c ∈ stem, c ≠ '.') (hdot : '.' ∉ extension) :
    IsStem (stem ++ '.' :: extension) stem
  | dotted {dots rest : List Char} (hdots : ∀ c ∈ dots, c = '.') (hdot : '.' ∉ rest) :
    IsStem (dots ++ '.' :: rest) (dots ++ '.' :: rest)
  | bare {name : List Char} (hdot : '.' ∉ name) : IsStem name name

theorem exists_isStem (name : List Char) : ∃ stem, IsStem name stem := by
  cases hcut : cutAtLast '.' name with
  | none => exact ⟨name, .bare (cutAtLast_eq_none_iff.1 hcut)⟩
  | some parts =>
    obtain ⟨rfl, hdot⟩ := cutAtLast_eq_some_iff.1 hcut
    by_cases hdots : ∀ c ∈ parts.1, c = '.'
    · exact ⟨_, .dotted hdots hdot⟩
    · exact ⟨_, .cut (by simpa using hdots) hdot⟩

/-- A path without its extension is the way and the stem of the last part. -/
theorem toList_dropExtension (hpath : IsDivided path.toList way name) (hname : IsStem name stem) :
    (dropExtension path).toList = way ++ stem := by
  have heq := hpath.eq_append
  unfold dropExtension
  dsimp only
  rw [hpath.toList_baseName]
  cases hname with
  | cut hstem hdot =>
    rw [cutAtLast_eq_some_iff.2 ⟨rfl, hdot⟩]
    dsimp only
    rw [if_neg (by simpa using hstem), String.toList_ofList, ← String.length_toList, heq,
      ← List.append_assoc]
    refine List.take_left' ?_
    simp only [List.length_append, List.length_cons]
    omega
  | dotted hdots hdot =>
    rw [cutAtLast_eq_some_iff.2 ⟨rfl, hdot⟩]
    dsimp only
    rw [if_pos (by simpa using hdots)]
    exact heq
  | bare hdot =>
    rw [cutAtLast_eq_none_iff.2 hdot]
    exact heq

end Path

end SectionTimes
