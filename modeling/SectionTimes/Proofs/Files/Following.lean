import SectionTimes.Files.Tree
import SectionTimes.Proofs.Files.Path
import SectionTimes.Proofs.Log

/-!
# Following paths

A path that can be followed leads to the place that its text names, and still does when there are
more folders.  A name is followed from a folder by way of the folder.
-/

namespace SectionTimes.Files

variable {files files' : Files} {place l : Location} {path part folder name : String}

theorem follow_eq_ok_iff :
    files.follow place part = .ok l ↔
      files.nodeAt place = some .folder ∧ part.utf8ByteSize ≤ maxPartBytes ∧
        enter place part = l := by
  unfold follow
  cases files.nodeAt place with
  | none => simp
  | some node =>
    cases node with
    | file content => simp
    | folder =>
      by_cases hbytes : maxPartBytes < part.utf8ByteSize
      · simp [hbytes, Nat.not_le.2 hbytes]
      · simp [hbytes, Nat.not_lt.1 hbytes]

theorem locate_eq_ok_iff :
    files.locate path = .ok l ↔
      path ≠ "" ∧ '\x00' ∉ path.toList ∧ path.utf8ByteSize ≤ maxPathBytes ∧
        (begin path).2.foldlM files.follow (begin path).1 = .ok l := by
  unfold locate
  by_cases hempty : path = ""
  · simp [hempty]
  · by_cases hnull : '\x00' ∈ path.toList
    · simp [hempty, hnull]
    · by_cases hbytes : maxPathBytes < path.utf8ByteSize
      · simp [hempty, hnull, hbytes, Nat.not_le.2 hbytes]
      · simp [hempty, hnull, hbytes, Nat.not_lt.1 hbytes]

theorem foldl_enter_of_foldlM_follow {parts : List String}
    (h : parts.foldlM files.follow place = .ok l) : parts.foldl enter place = l := by
  induction parts generalizing place with
  | nil => cases h; rfl
  | cons part parts ih =>
    rw [List.foldlM_cons] at h
    obtain ⟨next, hnext, h⟩ := exists_of_bind h
    obtain ⟨-, -, rfl⟩ := follow_eq_ok_iff.1 hnext
    exact ih h

/-- A path that can be followed leads where its text says. -/
theorem lexically_of_locate (h : files.locate path = .ok l) : lexically path = l :=
  foldl_enter_of_foldlM_follow (locate_eq_ok_iff.1 h).2.2.2

/-! ## More folders -/

/-- Every folder is still one. -/
def KeepsFolders (files files' : Files) : Prop :=
  ∀ l, files.nodeAt l = some .folder → files'.nodeAt l = some .folder

theorem foldlM_follow_of_keepsFolders (hkeeps : KeepsFolders files files') {parts : List String}
    (h : parts.foldlM files.follow place = .ok l) : parts.foldlM files'.follow place = .ok l := by
  induction parts generalizing place with
  | nil => exact h
  | cons part parts ih =>
    rw [List.foldlM_cons] at h ⊢
    obtain ⟨next, hnext, h⟩ := exists_of_bind h
    obtain ⟨hfolder, hbytes, henter⟩ := follow_eq_ok_iff.1 hnext
    have hnext' : files'.follow place part = .ok next :=
      follow_eq_ok_iff.2 ⟨hkeeps _ hfolder, hbytes, henter⟩
    exact bind_eq_ok_iff.2 ⟨next, hnext', ih h⟩

theorem locate_of_keepsFolders (hkeeps : KeepsFolders files files')
    (h : files.locate path = .ok l) : files'.locate path = .ok l := by
  obtain ⟨hempty, hnull, hbytes, h⟩ := locate_eq_ok_iff.1 h
  exact locate_eq_ok_iff.2 ⟨hempty, hnull, hbytes, foldlM_follow_of_keepsFolders hkeeps h⟩

/-! ## Names in a folder -/

/-- A name that leads from a folder to something in it. -/
structure IsPlain (name : String) : Prop where
  slash : '/' ∉ name.toList
  empty : name ≠ ""
  dot : name ≠ "."
  dots : name ≠ ".."

theorem enter_of_isPlain (h : IsPlain name) (l : Location) : enter l name = l ++ [name] := by
  unfold enter
  rw [if_neg (not_or.2 ⟨h.empty, h.dot⟩), if_neg h.dots]

theorem concat_ne_root (h : IsPlain name) (l : Location) : l ++ [name] ≠ root := by
  intro heq
  have hname : name = "/" := by simpa [root] using congrArg List.getLast? heq
  exact h.slash (hname ▸ List.mem_singleton_self _)

theorem above_concat (h : IsPlain name) (l : Location) : above (l ++ [name]) = l := by
  unfold above
  rw [if_neg (by simp [h.dots]), if_neg (concat_ne_root h l), List.dropLast_concat]

/-- Parts none of which leads up are followed to somewhere below. -/
theorem isPrefix_foldl_enter {parts : List String} (hup : ".." ∉ parts) (l : Location) :
    l <+: parts.foldl enter l := by
  induction parts generalizing l with
  | nil => exact List.prefix_refl l
  | cons part parts ih =>
    obtain ⟨hpart, hparts⟩ := not_or.1 (mt List.mem_cons.2 hup)
    refine List.IsPrefix.trans ?_ (ih hparts (enter l part))
    unfold enter
    rw [if_neg (Ne.symm hpart)]
    split
    · exact List.prefix_refl l
    · exact List.prefix_append l [part]

/-- A name taken from a folder begins where the folder does, and has its parts behind those of the
folder. -/
theorem exists_begin_join (hname : Path.isAbsolute name = false) (hfolder : folder ≠ "") :
    ∃ between : List String,
      begin (Path.join folder name) = ((begin folder).1, between ++ Path.parts name) ∧
        ((begin folder).2 = between ∨ (begin folder).2 = between ++ [""]) := by
  obtain ⟨between, hne, hjoin, hparts⟩ := Path.exists_parts_join hname hfolder
  unfold begin
  rw [Path.isAbsolute_join hname hfolder, hjoin]
  cases Path.isAbsolute folder with
  | false => exact ⟨between, rfl, hparts⟩
  | true =>
    refine ⟨between.tail, ?_, ?_⟩
    · rw [if_pos rfl, if_pos rfl, List.tail_append_of_ne_nil hne]
    · rw [if_pos rfl]
      dsimp only
      rcases hparts with hparts | hparts
      · exact Or.inl (by rw [hparts])
      · exact Or.inr (by rw [hparts, List.tail_append_of_ne_nil hne])

/-- The parts of a name are followed from the folder that it is taken from. -/
theorem lexically_join_eq (hname : Path.isAbsolute name = false) (folder : String) :
    lexically (Path.join folder name) = (Path.parts name).foldl enter (lexically folder) := by
  by_cases hfolder : folder = ""
  · subst hfolder
    have hjoin : Path.join "" name = name := by
      unfold Path.join
      rw [hname]
      exact String.empty_append
    unfold lexically begin
    rw [hjoin, hname]
    rfl
  · obtain ⟨between, hjoin, hparts⟩ := exists_begin_join hname hfolder
    unfold lexically
    rw [hjoin]
    dsimp only
    rw [List.foldl_append]
    rcases hparts with hparts | hparts
    · rw [hparts]
    · rw [hparts, List.foldl_append]
      rfl

theorem lexically_join (h : IsPlain name) (folder : String) :
    lexically (Path.join folder name) = lexically folder ++ [name] := by
  rw [lexically_join_eq (Path.isAbsolute_eq_false h.slash), Path.parts_eq_singleton h.slash,
    List.foldl_cons, List.foldl_nil, enter_of_isPlain h]

/-- A name that something in a folder can be reached by. -/
structure IsReachable (folder name : String) : Prop where
  plain : IsPlain name
  null : '\x00' ∉ (Path.join folder name).toList
  part : name.utf8ByteSize ≤ maxPartBytes
  path : (Path.join folder name).utf8ByteSize ≤ maxPathBytes

theorem locate_join_iff (hplain : IsPlain name) (hfolder : folder ≠ "") :
    files.locate (Path.join folder name) = .ok l ↔
      IsReachable folder name ∧ ∃ place, files.locate folder = .ok place ∧
        files.nodeAt place = some .folder ∧ place ++ [name] = l := by
  have hrelative := Path.isAbsolute_eq_false hplain.slash
  obtain ⟨between, hjoin, hparts⟩ := exists_begin_join hrelative hfolder
  obtain ⟨rest, hrest⟩ := Path.exists_join_eq_append folder hrelative
  -- An empty part at the end leads nowhere from a folder.
  have hwalk : ∀ place, files.nodeAt place = some .folder →
      (between.foldlM files.follow (begin folder).1 = .ok place ↔
        (begin folder).2.foldlM files.follow (begin folder).1 = .ok place) := by
    intro place hnode
    rcases hparts with hparts | hparts
    · rw [hparts]
    · rw [hparts, List.foldlM_append, bind_eq_ok_iff]
      simp only [List.foldlM_cons, List.foldlM_nil, bind_pure, follow_eq_ok_iff]
      constructor
      · exact fun h => ⟨place, h, hnode, Nat.zero_le _, rfl⟩
      · rintro ⟨_, h, -, -, rfl⟩
        exact h
  rw [locate_eq_ok_iff, hjoin, Path.parts_eq_singleton hplain.slash]
  dsimp only
  rw [List.foldlM_append, bind_eq_ok_iff]
  simp only [List.foldlM_cons, List.foldlM_nil, bind_pure, follow_eq_ok_iff,
    enter_of_isPlain hplain]
  constructor
  · rintro ⟨-, hnull, hbytes, place, hplace, hnode, hpart, rfl⟩
    refine ⟨⟨hplain, hnull, hpart, hbytes⟩, place, ?_, hnode, rfl⟩
    rw [hrest, String.toList_append] at hnull
    rw [hrest, String.utf8ByteSize_append] at hbytes
    exact locate_eq_ok_iff.2 ⟨hfolder, fun h => hnull (List.mem_append_left _ h),
      by omega, (hwalk place hnode).1 hplace⟩
  · rintro ⟨hreach, place, hplace, hnode, rfl⟩
    obtain ⟨-, -, -, hplace⟩ := locate_eq_ok_iff.1 hplace
    refine ⟨?_, hreach.null, hreach.path, place, (hwalk place hnode).2 hplace, hnode,
      hreach.part, rfl⟩
    rw [hrest]
    simp [hfolder]

end SectionTimes.Files
