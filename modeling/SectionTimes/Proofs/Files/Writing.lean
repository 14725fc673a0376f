import SectionTimes.Proofs.Files.Following

/-!
# What writing changes

Making folders adds folders and changes nothing that is there.  Writing a file may add folders too,
and changes nothing else but the file.
-/

namespace SectionTimes.Files

variable {files files' between : Files} {l : Location} {path part folder name : String}
  {content : List UInt8}

theorem nodeAt_concat (h : IsPlain name) (files : Files) (l : Location) :
    files.nodeAt (l ++ [name]) = files.nodes.find? (l ++ [name]) := by
  unfold nodeAt
  rw [if_neg (by simp [h.dots, concat_ne_root h l])]

theorem find?_of_nodeAt_ne_folder (h : files.nodeAt l ≠ some .folder) :
    files.nodes.find? l = files.nodeAt l := by
  unfold nodeAt at h ⊢
  split at h
  · exact absurd rfl h
  · rw [if_neg ‹_›]

/-! ## Names -/

/-- No name in the tree has a slash in it. -/
def IsNamed (files : Files) : Prop :=
  ∀ l name, (files.nodes.find? (l ++ [name])).isSome = true → '/' ∉ name.toList

/-- The names that lead to a place, from the working folder or the root, have no slashes. -/
def HasNames (l : Location) : Prop :=
  ∃ names : List String, (∀ name ∈ names, '/' ∉ name.toList) ∧ (l = names ∨ l = root ++ names)

theorem hasNames_above (h : HasNames l) : HasNames (above l) := by
  obtain ⟨names, hnames, hl⟩ := h
  unfold above
  split
  · rename_i hdots
    refine ⟨l ++ [".."], fun name hname => ?_, Or.inl rfl⟩
    have hname : name = ".." := by
      rcases List.mem_append.1 hname with hname | hname
      · simpa using List.all_eq_true.1 hdots name hname
      · exact List.mem_singleton.1 hname
    rw [hname]
    decide
  · split
    · exact ⟨[], fun _ hname => absurd hname List.not_mem_nil, Or.inr rfl⟩
    · rename_i hroot
      refine ⟨names.dropLast, fun name hname => hnames name (List.dropLast_subset _ hname), ?_⟩
      rcases hl with rfl | rfl
      · exact Or.inl rfl
      · refine Or.inr (List.dropLast_append_of_ne_nil ?_)
        rintro rfl
        exact hroot rfl

theorem hasNames_enter (h : HasNames l) (hpart : '/' ∉ part.toList) : HasNames (enter l part) := by
  unfold enter
  split
  · exact h
  · split
    · exact hasNames_above h
    · obtain ⟨names, hnames, hl⟩ := h
      refine ⟨names ++ [part], fun name hname => ?_, ?_⟩
      · rcases List.mem_append.1 hname with hname | hname
        · exact hnames name hname
        · exact List.mem_singleton.1 hname ▸ hpart
      · rcases hl with rfl | rfl
        · exact Or.inl rfl
        · exact Or.inr (List.append_assoc _ _ _)

theorem hasNames_foldl_enter {parts : List String} (hparts : ∀ part ∈ parts, '/' ∉ part.toList)
    (h : HasNames l) : HasNames (parts.foldl enter l) := by
  induction parts generalizing l with
  | nil => exact h
  | cons part parts ih =>
    obtain ⟨hpart, hparts⟩ := List.forall_mem_cons.1 hparts
    exact ih hparts (hasNames_enter h hpart)

theorem hasNames_lexically (path : String) : HasNames (lexically path) := by
  unfold lexically begin
  cases Path.isAbsolute path with
  | false =>
    exact hasNames_foldl_enter (fun part hpart => Path.slash_not_mem_of_mem_parts hpart)
      ⟨[], fun _ hname => absurd hname List.not_mem_nil, Or.inl rfl⟩
  | true =>
    exact hasNames_foldl_enter
      (fun part hpart => Path.slash_not_mem_of_mem_parts (List.mem_of_mem_tail hpart))
      ⟨[], fun _ hname => absurd hname List.not_mem_nil, Or.inr rfl⟩

/-- Something new at the place of a path leaves all names without slashes. -/
theorem IsNamed.put (h : files.IsNamed) (hlocate : files.locate path = .ok l)
    (hfolder : files.nodeAt l ≠ some .folder) (node : Node) :
    IsNamed ⟨files.nodes.put l node⟩ := by
  intro l' name hfound
  rw [Table.find?_put] at hfound
  by_cases hl : l' ++ [name] = l
  · obtain ⟨names, hnames, hplace⟩ := hasNames_lexically path
    rw [lexically_of_locate hlocate] at hplace
    rcases hplace with hplace | hplace
    · exact hnames name (by rw [← hplace, ← hl]; exact List.mem_append_right _ List.mem_cons_self)
    · rcases List.eq_nil_or_concat names with rfl | ⟨names', last, rfl⟩
      · rw [hplace] at hfolder
        exact absurd rfl hfolder
      · have hlast : name = last := by
          simpa using congrArg List.getLast? (hl.trans hplace)
        exact hlast ▸ hnames last (by simp)
  · rw [if_neg hl] at hfound
    exact h l' name hfound

/-! ## Folders -/

/-- Folders were added, and nothing else was changed. -/
structure AddsFolders (files files' : Files) : Prop where
  same : ∀ l, files.nodes.find? l ≠ none → files'.nodes.find? l = files.nodes.find? l
  folder : ∀ l, files.nodes.find? l = none →
    files'.nodes.find? l = none ∨ files'.nodes.find? l = some .folder
  named : files.IsNamed → files'.IsNamed

theorem AddsFolders.refl (files : Files) : AddsFolders files files :=
  ⟨fun _ _ => rfl, fun _ h => Or.inl h, id⟩

theorem AddsFolders.trans (h : AddsFolders files between) (h' : AddsFolders between files') :
    AddsFolders files files' where
  same l hl := by
    have hsame := h.same l hl
    rw [← hsame]
    exact h'.same l (hsame ▸ hl)
  folder l hl := by
    rcases h.folder l hl with hnone | hfolder
    · exact h'.folder l hnone
    · refine Or.inr ((h'.same l ?_).trans hfolder)
      rw [hfolder]
      exact nofun
  named hnamed := h'.named (h.named hnamed)

theorem addsFolders_makeFolder (files : Files) (path : String) :
    AddsFolders files (files.makeFolder path).1 := by
  unfold makeFolder
  split
  · exact .refl _
  · rename_i location hlocate
    split
    · exact .refl _
    · exact .refl _
    · rename_i hnone
      have hfolder : files.nodeAt location ≠ some .folder := by
        rw [hnone]
        exact nofun
      have hfound : files.nodes.find? location = none :=
        (find?_of_nodeAt_ne_folder hfolder).trans hnone
      refine ⟨fun l hl => ?_, fun l hl => ?_, fun hnamed => hnamed.put hlocate hfolder .folder⟩
      · exact (Table.find?_put _ _ _ _).trans (if_neg fun (heq : l = location) => hl (heq ▸ hfound))
      · by_cases heq : l = location
        · exact Or.inr ((Table.find?_put _ _ _ _).trans (if_pos heq))
        · exact Or.inl (((Table.find?_put _ _ _ _).trans (if_neg heq)).trans hl)

theorem addsFolders_makeFoldersWithin (files : Files) (path : String) (fuel : ℕ) :
    AddsFolders files (files.makeFoldersWithin path fuel).1 := by
  induction fuel generalizing path with
  | zero => exact .refl _
  | succ fuel ih =>
    unfold makeFoldersWithin
    dsimp only
    generalize (if Path.baseName path = "" then Path.folderPart path else path) = body
    have hway := ih (Path.folderPart body)
    generalize files.makeFoldersWithin (Path.folderPart body) fuel = way at hway ⊢
    by_cases hstart : ((Path.folderPart body).isEmpty || Path.baseName body = "" ||
      (files.find? (Path.folderPart body)).isSome) = true
    · rw [if_pos hstart]
      exact addsFolders_makeFolder _ _
    · rw [if_neg hstart]
      obtain ⟨files₁, _ | ⟨place, obstacle⟩⟩ := way
      · dsimp only
        split
        · exact hway
        · exact hway.trans (addsFolders_makeFolder _ _)
      · dsimp only
        split
        · exact hway.trans (addsFolders_makeFolder _ _)
        · exact hway

theorem addsFolders_makeFolders (files : Files) (path : String) :
    AddsFolders files (files.makeFolders path).1 :=
  addsFolders_makeFoldersWithin files path _

/-! ## Files -/

theorem keepsFolders_put (hl : files.nodeAt l ≠ some .folder) (content : List UInt8) :
    KeepsFolders files ⟨files.nodes.put l (.file content)⟩ := by
  intro l' hl'
  have hne : l' ≠ l := fun heq => hl (heq ▸ hl')
  unfold nodeAt at hl' ⊢
  split at hl'
  · rw [if_pos ‹_›]
  · rw [if_neg ‹_›, Table.find?_put, if_neg hne, hl']

theorem writeFile_cases (files : Files) (path : String) (content : List UInt8) :
    (∃ obstacle, files.writeFile path content = (files, some (path, obstacle))) ∨
      ∃ l, files.locate path = .ok l ∧ files.nodeAt l ≠ some .folder ∧
        files.writeFile path content = (⟨files.nodes.put l (.file content)⟩, none) := by
  unfold writeFile
  cases hlocate : files.locate path with
  | error obstacle => exact Or.inl ⟨obstacle, rfl⟩
  | ok l =>
    dsimp only
    by_cases hfolder : files.nodeAt l = some .folder
    · exact Or.inl ⟨.folderThere, if_pos hfolder⟩
    · exact Or.inr ⟨l, rfl, hfolder, if_neg hfolder⟩

/-- Writing adds folders, and then perhaps puts the file where its path leads. -/
theorem write_cases (files : Files) (path : String) (content : List UInt8) :
    ∃ between, AddsFolders files between ∧
      ((∃ place obstacle, files.write path content = (between, some (place, obstacle))) ∨
        ∃ l, between.locate path = .ok l ∧ between.nodeAt l ≠ some .folder ∧
          files.write path content = (⟨between.nodes.put l (.file content)⟩, none)) := by
  have hway : AddsFolders files (if (Path.folderPart path).isEmpty then (files, none)
      else files.makeFolders (Path.folderPart path)).1 := by
    split
    · exact .refl _
    · exact addsFolders_makeFolders _ _
  unfold write
  dsimp only
  generalize (if (Path.folderPart path).isEmpty then (files, none)
    else files.makeFolders (Path.folderPart path)) = way at hway ⊢
  obtain ⟨between, _ | ⟨place, obstacle⟩⟩ := way
  · rcases writeFile_cases between path content with ⟨obstacle, hwrite⟩ | hwrite
    · exact ⟨between, hway, Or.inl ⟨path, obstacle, hwrite⟩⟩
    · exact ⟨between, hway, Or.inr hwrite⟩
  · exact ⟨between, hway, Or.inl ⟨place, obstacle, rfl⟩⟩

theorem isNamed_write (h : files.IsNamed) (path : String) (content : List UInt8) :
    (files.write path content).1.IsNamed := by
  obtain ⟨between, hadds, ⟨place, obstacle, hwrite⟩ | ⟨l, hlocate, hfolder, hwrite⟩⟩ :=
    write_cases files path content
  · rw [hwrite]
    exact hadds.named h
  · rw [hwrite]
    exact (hadds.named h).put hlocate hfolder _

/-- The content of a file in a folder, by the place of the folder. -/
def contentIn? (files : Files) (folder name : String) : Option (List UInt8) :=
  match files.nodes.find? (lexically folder ++ [name]) with
  | some (.file content) => some content
  | _ => none

theorem isSome_find?_of_contentIn? (h : (files.contentIn? folder name).isSome = true) :
    (files.nodes.find? (lexically folder ++ [name])).isSome = true := by
  unfold contentIn? at h
  cases hnode : files.nodes.find? (lexically folder ++ [name]) with
  | none => rw [hnode] at h; cases h
  | some node => rfl

theorem AddsFolders.contentIn?_eq (h : AddsFolders files files') (folder name : String) :
    files'.contentIn? folder name = files.contentIn? folder name := by
  unfold contentIn?
  cases hnode : files.nodes.find? (lexically folder ++ [name]) with
  | none =>
    rcases h.folder _ hnode with hnone | hfolder
    · rw [hnone]
    · rw [hfolder]
  | some node => rw [h.same _ (by rw [hnode]; exact nofun), hnode]

/-- A file that was written into a folder is there, and every other file still is. -/
theorem contentIn?_write (hplain : IsPlain name) (hfolder : folder ≠ "")
    (hwrite : files.write (Path.join folder name) content = (files', none)) :
    IsReachable folder name ∧ files'.locate folder = .ok (lexically folder) ∧
      files'.nodeAt (lexically folder) = some .folder ∧
      ∀ other, files'.contentIn? folder other =
        if other = name then some content else files.contentIn? folder other := by
  obtain ⟨between, hadds, ⟨place, obstacle, hfailed⟩ | ⟨l, hlocate, hnode, hwritten⟩⟩ :=
    write_cases files (Path.join folder name) content
  · cases hfailed.symm.trans hwrite
  · cases hwritten.symm.trans hwrite
    obtain ⟨hreach, place, hplace, hplacenode, rfl⟩ := (locate_join_iff hplain hfolder).1 hlocate
    obtain rfl := lexically_of_locate hplace
    have hkeeps := keepsFolders_put hnode content
    refine ⟨hreach, locate_of_keepsFolders hkeeps hplace, hkeeps _ hplacenode, fun other => ?_⟩
    rw [← hadds.contentIn?_eq]
    unfold contentIn?
    rw [Table.find?_put]
    by_cases hother : other = name
    · rw [if_pos (by rw [hother]), if_pos hother]
    · rw [if_neg (by simpa using hother), if_neg hother]

theorem find?_of_locate (h : files.locate path = .ok l) : files.find? path = files.nodeAt l := by
  unfold find? locate?
  rw [h]
  rfl

/-- A file in a folder is found by its name if it can be reached. -/
theorem content?_join_iff (hplain : IsPlain name) (hfolder : folder ≠ "")
    (hlocate : files.locate folder = .ok (lexically folder))
    (hnode : files.nodeAt (lexically folder) = some .folder) :
    files.content? (Path.join folder name) = some content ↔
      IsReachable folder name ∧ files.contentIn? folder name = some content := by
  have hfound (hreach : IsReachable folder name) :
      files.content? (Path.join folder name) = files.contentIn? folder name := by
    have hjoin := (locate_join_iff hplain hfolder).2 ⟨hreach, _, hlocate, hnode, rfl⟩
    unfold content?
    rw [find?_of_locate hjoin, nodeAt_concat hplain]
    rfl
  constructor
  · intro h
    have hreach : IsReachable folder name := by
      cases hjoin : files.locate (Path.join folder name) with
      | error obstacle => simp [content?, find?, locate?, hjoin, Except.toOption] at h
      | ok l => exact ((locate_join_iff hplain hfolder).1 hjoin).1
    exact ⟨hreach, hfound hreach ▸ h⟩
  · rintro ⟨hreach, h⟩
    exact (hfound hreach).trans h

end SectionTimes.Files
