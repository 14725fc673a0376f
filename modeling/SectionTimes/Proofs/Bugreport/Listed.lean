import SectionTimes.Proofs.Bugreport.Reading
import SectionTimes.Proofs.Data.Sorted
import SectionTimes.Proofs.Files.Listing

/-!
# The archives of a folder

A folder lists its names in some order.  Its archives are the files among them that are named like
archives, in ascending order, and the newest is the one of the greatest name.
-/

namespace SectionTimes

namespace Bugreport

variable {files files' : Files} {folder name : String}

/-- A file in a folder has the name of an archive. -/
structure IsListed (files : Files) (folder name : String) : Prop where
  inside : name ∈ files.names folder
  named : isArchiveName name = true
  file : files.isFile (Path.join folder name) = true

theorem exists_archives_eq_sortedNames (hfolder : files.isFolder folder = true) :
    ∃ names, archives files folder = .ok (sortedNames names) ∧ names.Nodup ∧
      ∀ name, name ∈ names ↔ IsListed files folder name := by
  refine ⟨_, if_pos hfolder, (Files.nodup_names files folder).filter _, fun name => ?_⟩
  rw [List.mem_filter, Bool.and_eq_true]
  exact ⟨fun ⟨hinside, hnamed, hfile⟩ => ⟨hinside, hnamed, hfile⟩,
    fun h => ⟨h.inside, h.named, h.file⟩⟩

/-- The archives of a folder that is there are in strictly ascending order. -/
theorem exists_archives_eq_ok (hfolder : files.isFolder folder = true) :
    ∃ names, archives files folder = .ok names ∧ names.Pairwise (· < ·) ∧
      ∀ name, name ∈ names ↔ IsListed files folder name := by
  obtain ⟨names, harchives, hnodup, hmem⟩ := exists_archives_eq_sortedNames hfolder
  exact ⟨_, harchives, pairwise_lt_sortedNames hnodup, fun name =>
    (sortedNames_perm names).mem_iff.trans (hmem name)⟩

/-- The order in which a folder lists its names makes no difference. -/
theorem archives_eq_of_alike (h : Files.Alike files files') :
    archives files' folder = archives files folder := by
  unfold archives
  rw [h.isFolder_eq, h.isFile_eq]
  rw [sortedNames_eq_of_perm ((h.perm_names folder).filter _)]

/-- The newest archive of a folder that is there is the one of the greatest name. -/
theorem newest_eq_ok_iff (hfolder : files.isFolder folder = true) {archive : String} :
    (newest files folder).outcome = .ok archive ↔
      IsGreatest {name | IsListed files folder name} archive := by
  obtain ⟨names, harchives, -, hmem⟩ := exists_archives_eq_sortedNames hfolder
  have hset : {name | name ∈ names} = {name | IsListed files folder name} := Set.ext hmem
  rw [← hset, ← getLast?_sortedNames_eq_some_iff, outcome_newest, harchives]
  dsimp only
  cases (sortedNames names).getLast? <;> simp

/-- There is no newest archive if the folder is not there or has no archives. -/
theorem newest_eq_error_iff {e : ReadFailure} :
    (newest files folder).outcome = .error e ↔
      files.isFolder folder = false ∧ e = .noFolder folder ∨
        files.isFolder folder = true ∧ (∀ name, ¬ IsListed files folder name) ∧
          e = .noArchives folder := by
  cases hfolder : files.isFolder folder with
  | false =>
    rw [outcome_newest, archives_eq_error_iff.2 ⟨hfolder, rfl⟩]
    simp [eq_comm]
  | true =>
    obtain ⟨names, harchives, -, hmem⟩ := exists_archives_eq_sortedNames hfolder
    have hnone : (sortedNames names).getLast? = none ↔ ∀ name, ¬ IsListed files folder name :=
      getLast?_sortedNames_eq_none_iff.trans (forall_congr' fun name => not_congr (hmem name))
    rw [outcome_newest, harchives, ← hnone]
    dsimp only
    cases (sortedNames names).getLast? <;> simp [eq_comm]

end Bugreport

end SectionTimes
