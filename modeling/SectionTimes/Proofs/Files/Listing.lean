import SectionTimes.Proofs.Data.Table
import SectionTimes.Proofs.Files.Following

/-!
# The names in a folder

The names in a folder are those of what stands right below it, each of them once.  If the same
stands at every place of two trees, then only the order of these names can be different in them.
-/

namespace SectionTimes.Files

variable {files files' : Files} {folder name : String} {place l : Location}

theorem nameIn_eq_some_iff :
    (if l.dropLast = place then l.getLast? else none) = some name ↔ l = place ++ [name] := by
  constructor
  · intro h
    split at h
    · rename_i hplace
      obtain ⟨init, rfl⟩ := List.getLast?_eq_some_iff.1 h
      rw [List.dropLast_concat] at hplace
      rw [hplace]
    · cases h
  · rintro rfl
    rw [List.dropLast_concat, if_pos rfl, List.getLast?_concat]

/-- The names of what stands in a folder. -/
theorem mem_names_iff (hlocate : files.locate folder = .ok place) :
    name ∈ files.names folder ↔ (files.nodes.find? (place ++ [name])).isSome = true := by
  unfold names locate?
  rw [hlocate, ← Table.mem_keys_iff]
  dsimp only [Except.toOption]
  rw [List.mem_filterMap]
  simp only [nameIn_eq_some_iff, exists_eq_right]

theorem nodup_names (files : Files) (folder : String) : (files.names folder).Nodup := by
  unfold names
  cases files.locate? folder with
  | none => exact List.nodup_nil
  | some place =>
    refine List.Nodup.filterMap (fun l l' name hl hl' => ?_) files.nodes.nodup
    exact (nameIn_eq_some_iff.1 hl).trans (nameIn_eq_some_iff.1 hl').symm

/-! ## The same at every place -/

/-- The same stands at every place. -/
def Alike (files files' : Files) : Prop := ∀ l, files'.nodes.find? l = files.nodes.find? l

namespace Alike

variable (h : Alike files files')

include h

theorem nodeAt_eq : files'.nodeAt = files.nodeAt := by
  funext l
  unfold nodeAt
  rw [h l]

theorem locate_eq : files'.locate = files.locate := by
  have hfollow : files'.follow = files.follow := by
    funext place part
    unfold follow
    rw [h.nodeAt_eq]
  funext path
  unfold locate
  rw [hfollow]

theorem find?_eq : files'.find? = files.find? := by
  funext path
  unfold find? locate?
  rw [h.locate_eq, h.nodeAt_eq]

theorem isFolder_eq : files'.isFolder = files.isFolder := by
  funext path
  unfold isFolder
  rw [h.find?_eq]

theorem content?_eq : files'.content? = files.content? := by
  funext path
  unfold content?
  rw [h.find?_eq]

theorem isFile_eq : files'.isFile = files.isFile := by
  funext path
  unfold isFile
  rw [h.content?_eq]

/-- The names in a folder can be in another order. -/
theorem perm_names (folder : String) : (files'.names folder).Perm (files.names folder) := by
  refine (List.perm_ext_iff_of_nodup (nodup_names _ _) (nodup_names _ _)).2 fun name => ?_
  cases hlocate : files.locate folder with
  | error obstacle =>
    unfold names locate?
    rw [h.locate_eq, hlocate]
    rfl
  | ok place =>
    have hlocate' : files'.locate folder = .ok place := h.locate_eq ▸ hlocate
    rw [mem_names_iff hlocate, mem_names_iff hlocate', h]

end Alike

end SectionTimes.Files
