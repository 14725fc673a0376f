import SectionTimes.Proofs.Bugreport.Listed
import SectionTimes.Proofs.Files.Writing

/-!
# The newest archive after a write

Where the folders of a path are all there, the archives that are listed are the files that stand
right below the last of them and have such names.  An archive that is written there is one more of
them, and the newest is the one of the greatest name among all of these.
-/

namespace SectionTimes.Bugreport

open Files

variable {files : Files} {folder name : String}

/-- A file in a folder has the name of an archive, and can be reached. -/
structure IsArchive (files : Files) (folder name : String) : Prop where
  named : isArchiveName name = true
  reachable : IsReachable folder name
  file : (files.contentIn? folder name).isSome = true

theorem isPlain_of_isArchiveName (h : isArchiveName name = true) (hslash : '/' ∉ name.toList) :
    IsPlain name := by
  refine ⟨hslash, ?_, ?_, ?_⟩
  all_goals rintro rfl; exact absurd h (by decide)

theorem isFolder_of_nodeAt (hlocate : files.locate folder = .ok (lexically folder))
    (hnode : files.nodeAt (lexically folder) = some .folder) : files.isFolder folder = true := by
  unfold isFolder
  rw [find?_of_locate hlocate, hnode]
  rfl

/-- The archives of a folder are the files in it that have such names. -/
theorem isListed_iff_isArchive (hnamed : files.IsNamed) (hfolder : folder ≠ "")
    (hlocate : files.locate folder = .ok (lexically folder))
    (hnode : files.nodeAt (lexically folder) = some .folder) :
    IsListed files folder name ↔ IsArchive files folder name := by
  constructor
  · intro h
    have hfile := h.file
    unfold isFile at hfile
    obtain ⟨content, hcontent⟩ := Option.isSome_iff_exists.1 hfile
    have hplain := isPlain_of_isArchiveName h.named
      (hnamed _ _ ((mem_names_iff hlocate).1 h.inside))
    obtain ⟨hreach, hin⟩ := (content?_join_iff hplain hfolder hlocate hnode).1 hcontent
    exact ⟨h.named, hreach, by rw [hin]; rfl⟩
  · intro h
    obtain ⟨content, hcontent⟩ := Option.isSome_iff_exists.1 h.file
    have hjoin := (content?_join_iff h.reachable.plain hfolder hlocate hnode).2
      ⟨h.reachable, hcontent⟩
    refine ⟨(mem_names_iff hlocate).2 (isSome_find?_of_contentIn? h.file), h.named, ?_⟩
    unfold isFile
    rw [hjoin]
    rfl

theorem newest_eq_ok_iff_isArchive (hnamed : files.IsNamed) (hfolder : folder ≠ "")
    (hlocate : files.locate folder = .ok (lexically folder))
    (hnode : files.nodeAt (lexically folder) = some .folder) {archive : String} :
    (newest files folder).outcome = .ok archive ↔
      IsGreatest {name | IsArchive files folder name} archive := by
  have hset : {name | IsListed files folder name} = {name | IsArchive files folder name} :=
    Set.ext fun name => isListed_iff_isArchive hnamed hfolder hlocate hnode
  rw [← hset]
  exact newest_eq_ok_iff (isFolder_of_nodeAt hlocate hnode)

/-! ## An archive more -/

variable {between files' : Files} {fetched : String} {content : List UInt8}

/-- Once an archive is written into a folder, the newest one there is the greatest of it and those
that were there. -/
theorem exists_newest_of_write (hnamed : files.IsNamed) (hfolder : folder ≠ "")
    (hname : isArchiveName fetched = true) (hslash : '/' ∉ fetched.toList)
    (hadds : AddsFolders files between)
    (hwrite : between.write (Path.join folder fetched) content = (files', none)) :
    ∃ archive, (newest files' folder).outcome = .ok archive ∧
      IsGreatest (insert fetched {name | IsArchive files folder name}) archive ∧
      files'.content? (Path.join folder archive) =
        if archive = fetched then some content else files.contentIn? folder archive := by
  have hplain := isPlain_of_isArchiveName hname hslash
  obtain ⟨hreach, hlocate, hnode, hcontent⟩ := contentIn?_write hplain hfolder hwrite
  have hnamed' : files'.IsNamed := by
    have h := isNamed_write (hadds.named hnamed) (Path.join folder fetched) content
    rwa [hwrite] at h
  have harchive : ∀ name, IsArchive files' folder name ↔
      name = fetched ∨ IsArchive files folder name := by
    intro name
    have hsame := hcontent name
    rw [hadds.contentIn?_eq] at hsame
    by_cases heq : name = fetched
    · refine iff_of_true ?_ (Or.inl heq)
      subst heq
      exact ⟨hname, hreach, by rw [hcontent, if_pos rfl]; rfl⟩
    · rw [if_neg heq] at hsame
      constructor
      · exact fun h => Or.inr ⟨h.named, h.reachable, hsame ▸ h.file⟩
      · rintro (h | h)
        · exact absurd h heq
        · exact ⟨h.named, h.reachable, hsame ▸ h.file⟩
  have hset : {name | IsArchive files' folder name} =
      insert fetched {name | IsArchive files folder name} := Set.ext harchive
  cases hnewest : (newest files' folder).outcome with
  | error e =>
    have hfetched := (isListed_iff_isArchive hnamed' hfolder hlocate hnode).2
      ((harchive fetched).2 (Or.inl rfl))
    obtain ⟨hmissing, -⟩ | ⟨-, hnone, -⟩ := newest_eq_error_iff.1 hnewest
    · cases hmissing.symm.trans (isFolder_of_nodeAt hlocate hnode)
    · exact absurd hfetched (hnone fetched)
  | ok archive =>
    have hgreatest := (newest_eq_ok_iff_isArchive hnamed' hfolder hlocate hnode).1 hnewest
    refine ⟨archive, rfl, hset ▸ hgreatest, ?_⟩
    have hmem : IsArchive files' folder archive := hgreatest.1
    obtain ⟨bytes, hbytes⟩ := Option.isSome_iff_exists.1 hmem.file
    rw [(content?_join_iff hmem.reachable.plain hfolder hlocate hnode).2 ⟨hmem.reachable, hbytes⟩,
      ← hbytes, hcontent, hadds.contentIn?_eq]

end SectionTimes.Bugreport
