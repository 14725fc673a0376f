import SectionTimes.Files.Path
import SectionTimes.Proofs.Text.Splitting

/-!
# The parts of a path

The parts of a path have no slashes, and a name taken from a folder has its parts behind those of
the folder.
-/

namespace SectionTimes

namespace Path

open Text

variable {folder name path : String}

theorem slash_not_mem_of_mem_parts {part : String} (h : part ∈ parts path) :
    '/' ∉ part.toList := by
  obtain ⟨s, hs, rfl⟩ := List.mem_map.1 h
  rw [String.toList_ofList]
  exact not_mem_of_mem_splitOn hs

theorem isAbsolute_eq_false (h : '/' ∉ name.toList) : isAbsolute name = false := by
  unfold isAbsolute
  cases hname : name.toList with
  | nil => rfl
  | cons c rest =>
    rw [hname] at h
    have hc : c ≠ '/' := fun heq => h (heq ▸ List.mem_cons_self)
    simpa using hc

theorem parts_eq_singleton (h : '/' ∉ name.toList) : parts name = [name] := by
  unfold parts
  rw [splitOn_of_not_mem h, List.map_singleton, String.ofList_toList]

theorem eq_of_parts_eq_singleton (h : parts path = [name]) : path = name ∧ '/' ∉ path.toList := by
  obtain ⟨s, hs, rfl⟩ := List.map_eq_singleton_iff.1 h
  obtain ⟨rfl, hslash⟩ := splitOn_eq_singleton_iff.1 hs
  exact ⟨String.ofList_toList.symm, hslash⟩

/-- There is always a last part. -/
theorem exists_parts_eq_concat (path : String) : ∃ way name, parts path = way ++ [name] := by
  have hne : parts path ≠ [] := by simpa [parts] using splitOn_ne_nil path.toList
  exact ⟨_, _, (List.dropLast_append_getLast hne).symm⟩

/-- What a path ends with is at the end of its last part, if it has no slash in it. -/
theorem isSuffix_of_parts_eq_concat {ending : List Char} {way : List String}
    (hslash : '/' ∉ ending) (hend : ending <:+ path.toList) (h : parts path = way ++ [name]) :
    ending <:+ name.toList := by
  obtain ⟨init, rest, hsplit, -, hlast⟩ := List.map_eq_append_iff.1 h
  obtain ⟨last, rfl, rfl⟩ := List.map_eq_singleton_iff.1 hlast
  rw [String.toList_ofList]
  exact isSuffix_of_splitOn_eq_concat hslash hend hsplit

theorem exists_join_eq_append (folder : String) (hname : isAbsolute name = false) :
    ∃ rest, join folder name = folder ++ rest := by
  unfold join
  rw [hname, if_neg Bool.false_ne_true]
  split
  · exact ⟨name, rfl⟩
  · exact ⟨"/" ++ name, String.append_assoc⟩

/-- A name is taken from a folder behind the slash at its end, or behind one more. -/
theorem exists_join (hname : isAbsolute name = false) (hfolder : folder ≠ "") :
    ∃ body : List Char,
      (join folder name).toList = body ++ '/' :: name.toList ∧
        (folder.toList = body ∨ folder.toList = body ++ ['/']) := by
  unfold join
  rw [hname, if_neg Bool.false_ne_true]
  have hnotempty : folder.isEmpty = false := by simpa using hfolder
  rw [hnotempty, Bool.false_or]
  by_cases hlast : folder.toList.getLast? = some '/'
  · obtain ⟨body, hbody⟩ := List.getLast?_eq_some_iff.1 hlast
    refine ⟨body, ?_, Or.inr hbody⟩
    rw [if_pos (by simp [hlast]), String.toList_append, hbody, List.append_assoc]
    rfl
  · refine ⟨folder.toList, ?_, Or.inl rfl⟩
    rw [if_neg (by simpa using hlast), String.toList_append, String.toList_append,
      List.append_assoc]
    rfl

theorem isAbsolute_join (hname : isAbsolute name = false) (hfolder : folder ≠ "") :
    isAbsolute (join folder name) = isAbsolute folder := by
  obtain ⟨body, hjoin, hbody⟩ := exists_join hname hfolder
  unfold isAbsolute
  rw [hjoin]
  cases body with
  | nil =>
    rcases hbody with hbody | hbody
    · exact absurd (String.toList_eq_nil_iff.1 hbody) hfolder
    · rw [hbody]
      rfl
  | cons c body =>
    rcases hbody with hbody | hbody <;> rw [hbody] <;> rfl

/-- The parts of a name taken from a folder; those of the folder may end with an empty part. -/
theorem exists_parts_join (hname : isAbsolute name = false) (hfolder : folder ≠ "") :
    ∃ between : List String, between ≠ [] ∧ parts (join folder name) = between ++ parts name ∧
      (parts folder = between ∨ parts folder = between ++ [""]) := by
  obtain ⟨body, hjoin, hbody⟩ := exists_join hname hfolder
  refine ⟨(splitOn '/' body).map String.ofList, by simpa using splitOn_ne_nil body, ?_, ?_⟩
  · unfold parts
    rw [hjoin, splitOn_append_cons, List.map_append]
  · unfold parts
    rcases hbody with hbody | hbody
    · exact Or.inl (by rw [hbody])
    · refine Or.inr ?_
      rw [hbody, splitOn_append_cons, List.map_append]
      rfl

end Path

end SectionTimes
