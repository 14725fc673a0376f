import SectionTimes.Files.Tree
import SectionTimes.Proofs.Text.Occurrence

/-!
# Paths that no file can have

A path with a null character in it leads nowhere, and it is the only one that is refused for such a
character: a path is taken apart, and nothing is put into it but slashes.
-/

namespace SectionTimes

namespace Path

open Text

variable {c : Char} {path : String}

theorem mem_of_mem_dropTrailingSlashes (h : c ∈ (dropTrailingSlashes path).toList) :
    c ∈ path.toList := by
  unfold dropTrailingSlashes at h
  rw [String.toList_ofList, List.mem_reverse] at h
  exact List.mem_reverse.1 ((List.dropWhile_suffix _).subset h)

theorem mem_of_mem_folderPart (h : c ∈ (folderPart path).toList) : c ∈ path.toList := by
  unfold folderPart at h
  cases hcut : cutAtLast '/' path.toList with
  | none =>
    rw [hcut] at h
    simp at h
  | some parts =>
    obtain ⟨folder, name⟩ := parts
    obtain ⟨hpath, -⟩ := cutAtLast_eq_some_iff.1 hcut
    rw [hcut] at h
    dsimp only at h
    rw [hpath, List.mem_append, List.mem_cons]
    split at h
    · rw [String.toList_ofList, List.mem_append, List.mem_singleton] at h
      exact h.imp_right Or.inl
    · have hfolder := mem_of_mem_dropTrailingSlashes h
      rw [String.toList_ofList] at hfolder
      exact Or.inl hfolder

end Path

namespace Files

variable {files : Files} {path place : String}

theorem follow_ne_nullInPath (l : Location) (part : String) :
    files.follow l part ≠ .error .nullInPath := by
  unfold follow
  split
  · nofun
  · nofun
  · split <;> nofun

theorem foldlM_follow_ne_nullInPath (parts : List String) (l : Location) :
    parts.foldlM files.follow l ≠ .error .nullInPath := by
  induction parts generalizing l with
  | nil => nofun
  | cons part parts ih =>
    rw [List.foldlM_cons]
    cases hfollow : files.follow l part with
    | ok l' => exact ih l'
    | error obstacle =>
      intro h
      exact follow_ne_nullInPath l part (hfollow.trans h)

theorem null_mem_of_locate (h : files.locate path = .error .nullInPath) :
    '\x00' ∈ path.toList := by
  by_contra hnull
  unfold locate at h
  rw [if_neg (by simpa using hnull : ¬ path.toList.contains '\x00' = true)] at h
  split_ifs at h
  · cases h
  · cases h
  · exact foldlM_follow_ne_nullInPath _ _ h

theorem null_mem_of_makeFolder (h : (files.makeFolder path).2 = some (place, .nullInPath)) :
    '\x00' ∈ path.toList := by
  unfold makeFolder at h
  cases hlocate : files.locate
      (if path.all (· == '/') then path else Path.dropTrailingSlashes path) with
  | error obstacle =>
    rw [hlocate] at h
    cases h
    have hnull := null_mem_of_locate hlocate
    split at hnull
    · exact hnull
    · exact Path.mem_of_mem_dropTrailingSlashes hnull
  | ok l =>
    rw [hlocate] at h
    dsimp only at h
    split at h <;> cases h

theorem null_mem_of_makeFoldersWithin {fuel : ℕ}
    (h : (files.makeFoldersWithin path fuel).2 = some (place, .nullInPath)) :
    '\x00' ∈ path.toList := by
  induction fuel generalizing path place with
  | zero => cases h
  | succ fuel ih =>
    unfold makeFoldersWithin at h
    dsimp only at h
    have hbody : ∀ c ∈ (if Path.baseName path = "" then Path.folderPart path else path).toList,
        c ∈ path.toList := by
      intro c hc
      split at hc
      · exact Path.mem_of_mem_folderPart hc
      · exact hc
    generalize (if Path.baseName path = "" then Path.folderPart path else path) = body at h hbody
    have hway : ∀ place', (files.makeFoldersWithin (Path.folderPart body) fuel).2 =
        some (place', .nullInPath) → '\x00' ∈ path.toList :=
      fun place' hplace => hbody _ (Path.mem_of_mem_folderPart (ih hplace))
    generalize files.makeFoldersWithin (Path.folderPart body) fuel = way at h hway
    obtain ⟨between, stopped⟩ := way
    split at h
    · exact null_mem_of_makeFolder h
    · cases stopped with
      | none =>
        dsimp only at h
        split at h
        · cases h
        · exact null_mem_of_makeFolder h
      | some found =>
        obtain ⟨place', obstacle⟩ := found
        dsimp only at h
        split at h
        · exact null_mem_of_makeFolder h
        · cases h
          exact hway place rfl

/-- Only a path with a null character is refused for one. -/
theorem null_mem_of_write {content : List UInt8}
    (h : (files.write path content).2 = some (place, .nullInPath)) : '\x00' ∈ path.toList := by
  have hway : ∀ place', (if (Path.folderPart path).isEmpty then (files, none)
      else files.makeFolders (Path.folderPart path)).2 = some (place', .nullInPath) →
        '\x00' ∈ path.toList := by
    intro place' hplace
    split at hplace
    · cases hplace
    · exact Path.mem_of_mem_folderPart (null_mem_of_makeFoldersWithin hplace)
  unfold write at h
  dsimp only at h
  generalize (if (Path.folderPart path).isEmpty then (files, none)
    else files.makeFolders (Path.folderPart path)) = way at h hway
  obtain ⟨between, stopped⟩ := way
  cases stopped with
  | some found =>
    dsimp only at h
    simp only [Option.isSome_some, if_true] at h
    exact hway place h
  | none =>
    dsimp only at h
    simp only [Option.isSome_none, Bool.false_eq_true, if_false] at h
    unfold writeFile at h
    cases hlocate : between.locate path with
    | error obstacle =>
      rw [hlocate] at h
      cases h
      exact null_mem_of_locate hlocate
    | ok l =>
      rw [hlocate] at h
      dsimp only at h
      split at h <;> cases h

end Files

end SectionTimes
