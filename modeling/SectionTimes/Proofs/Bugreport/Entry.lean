import SectionTimes.Proofs.Bugreport.Reading
import SectionTimes.Proofs.Files.Extension

/-!
# The report entry

The entry that is named like an archive is taken wherever it stands among the entries, and without
it the first that has the name of a report.  An entry is named like an archive if it has the whole
path of the archive but for the extension.  Where the path of an archive has folders in it, an entry
that is named like its last part is not taken before others.
-/

namespace SectionTimes

namespace Bugreport

open SectionTimes.Path

variable {names : List String} {archive entry : String}

/-! ## Entries that are named like reports -/

/-- The last part of an entry's name begins and ends like a report's. -/
def IsReport (entry : String) : Prop :=
  ∃ way name, IsDivided entry.toList way name ∧ beginning <+: name ∧ entryEnding <:+ name

theorem isEntryName_baseName_iff : isEntryName (baseName entry) = true ↔ IsReport entry := by
  unfold isEntryName
  rw [Bool.and_eq_true, List.isPrefixOf_iff_prefix, List.isSuffixOf_iff_suffix]
  constructor
  · intro h
    obtain ⟨way, name, hentry⟩ := exists_isDivided entry.toList
    rw [hentry.toList_baseName] at h
    exact ⟨way, name, hentry, h⟩
  · rintro ⟨way, name, hentry, h⟩
    rwa [hentry.toList_baseName]

/-- Anything can stand between the beginning and the ending of a report's name, but they do not
overlap. -/
theorem isReport_iff_between : IsReport entry ↔
    ∃ way between, IsDivided entry.toList way (beginning ++ between ++ entryEnding) := by
  constructor
  · rintro ⟨way, name, hentry, ⟨rest, rfl⟩, init, hinit⟩
    rcases List.append_eq_append_iff.1 hinit with ⟨overlap, hbeginning, hending⟩ | ⟨between, -, rfl⟩
    · cases overlap with
      | nil => exact ⟨way, [], by rwa [List.append_nil, hending, List.nil_append]⟩
      | cons c overlap =>
        -- the ending begins with a dot, and there is none in the beginning
        obtain rfl : '.' = c := (List.cons.inj hending).1
        exact absurd (hbeginning ▸ List.mem_append_right init List.mem_cons_self) (by decide)
    · exact ⟨way, between, by rwa [List.append_assoc]⟩
  · rintro ⟨way, between, hentry⟩
    exact ⟨way, _, hentry, ⟨between ++ entryEnding, (List.append_assoc _ _ _).symm⟩,
      List.suffix_append _ _⟩

/-- The first of the entries that are named like reports. -/
def IsFirstReport (names : List String) (entry : String) : Prop :=
  IsReport entry ∧ ∃ before behind, names = before ++ entry :: behind ∧ ∀ n ∈ before, ¬ IsReport n

theorem find?_eq_some_iff_isFirstReport :
    (names.find? fun n => isEntryName (baseName n)) = some entry ↔ IsFirstReport names entry := by
  rw [List.find?_eq_some_iff_append, isEntryName_baseName_iff]
  simp only [IsFirstReport, ← isEntryName_baseName_iff, Bool.not_eq_true, Bool.not_eq_eq_eq_not,
    Bool.not_true]

theorem find?_eq_none_iff_forall_not_isReport :
    (names.find? fun n => isEntryName (baseName n)) = none ↔ ∀ n ∈ names, ¬ IsReport n := by
  simp only [List.find?_eq_none, isEntryName_baseName_iff]

/-! ## The entry that is named like an archive -/

/-- An entry has the path of an archive, with the ending of entries in place of the extension. -/
def IsNamedLike (archive entry : String) : Prop :=
  ∃ way name stem, IsDivided archive.toList way name ∧ IsStem name stem ∧
    entry.toList = way ++ stem ++ entryEnding

/-- An entry has the last part of an archive's path, with the ending of entries in place of the
extension. -/
def IsNamedLikeLast (archive entry : String) : Prop :=
  ∃ way name stem, IsDivided archive.toList way name ∧ IsStem name stem ∧
    entry.toList = stem ++ entryEnding

theorem isNamedLike_iff : IsNamedLike archive entry ↔ entry = ownEntry archive := by
  have hown : ∀ {way name stem}, IsDivided archive.toList way name → IsStem name stem →
      (ownEntry archive).toList = way ++ stem ++ entryEnding := by
    intro way name stem harchive hname
    unfold ownEntry
    rw [String.toList_append, toList_dropExtension harchive hname, String.toList_ofList]
  constructor
  · rintro ⟨way, name, stem, harchive, hname, hentry⟩
    exact String.toList_inj.1 (hentry.trans (hown harchive hname).symm)
  · rintro rfl
    obtain ⟨way, name, harchive⟩ := exists_isDivided archive.toList
    obtain ⟨stem, hname⟩ := exists_isStem name
    exact ⟨way, name, stem, harchive, hname, hown harchive hname⟩

/-- Without slashes in the path of an archive, its last part is the whole path. -/
theorem isNamedLikeLast_iff (hslash : '/' ∉ archive.toList) :
    IsNamedLikeLast archive entry ↔ IsNamedLike archive entry := by
  unfold IsNamedLikeLast IsNamedLike
  refine exists_congr fun way => exists_congr fun name => exists_congr fun stem =>
    and_congr_right fun harchive => ?_
  rw [harchive.way_eq_nil hslash, List.nil_append]

/-! ## The choice -/

theorem reportEntry?_of_mem (h : ownEntry archive ∈ names) :
    reportEntry? names archive = some (ownEntry archive) := if_pos h

theorem reportEntry?_of_notMem (h : ownEntry archive ∉ names) :
    reportEntry? names archive = names.find? fun n => isEntryName (baseName n) := if_neg h

theorem outcome_chooseEntry_eq_ok_iff :
    (chooseEntry names archive).outcome = .ok entry ↔ reportEntry? names archive = some entry := by
  rw [outcome_chooseEntry]
  cases reportEntry? names archive <;> simp

theorem outcome_chooseEntry_eq_error_iff {e : ReadFailure} :
    (chooseEntry names archive).outcome = .error e ↔
      e = .noEntry archive ∧ reportEntry? names archive = none := by
  rw [outcome_chooseEntry]
  cases reportEntry? names archive <;> simp [eq_comm]

/-- Of the entries of an archive the one that is named like it is taken, wherever it stands, and
without it the first that is named like a report.  There is none just if there is neither. -/
theorem own_entry_before_first (names : List String) (archive : String) :
    ∃ own, (∀ entry, IsNamedLike archive entry ↔ entry = own) ∧
      ('/' ∉ archive.toList → ∀ entry, IsNamedLikeLast archive entry ↔ entry = own) ∧
      (own ∈ names → ∀ names', names'.Perm names →
        (chooseEntry names' archive).outcome = .ok own) ∧
      (own ∉ names → ∀ entry,
        (chooseEntry names archive).outcome = .ok entry ↔ IsFirstReport names entry) ∧
      (∀ entry, (chooseEntry names archive).outcome = .ok entry → entry ∈ names) ∧
      ∀ e, (chooseEntry names archive).outcome = .error e ↔
        e = .noEntry archive ∧ own ∉ names ∧ ∀ n ∈ names, ¬ IsReport n := by
  simp only [outcome_chooseEntry_eq_ok_iff, outcome_chooseEntry_eq_error_iff]
  refine ⟨ownEntry archive, fun _ => isNamedLike_iff,
    fun hslash _ => (isNamedLikeLast_iff hslash).trans isNamedLike_iff,
    fun hown names' hperm => reportEntry?_of_mem (hperm.mem_iff.2 hown),
    fun hown entry => ?_, fun entry hentry => ?_, fun e => and_congr_right fun _ => ?_⟩
  · rw [reportEntry?_of_notMem hown, find?_eq_some_iff_isFirstReport]
  · by_cases hown : ownEntry archive ∈ names
    · rw [reportEntry?_of_mem hown] at hentry
      exact Option.some.inj hentry ▸ hown
    · rw [reportEntry?_of_notMem hown] at hentry
      exact List.mem_of_find?_eq_some hentry
  · by_cases hown : ownEntry archive ∈ names
    · simp [reportEntry?_of_mem hown, hown]
    · rw [reportEntry?_of_notMem hown, find?_eq_none_iff_forall_not_isReport]
      exact (and_iff_right hown).symm

/-- An archive of the reports `b` and `a`, in this order, each of one line with its letter. -/
def twoReports : List UInt8 :=
  [ 80, 75, 3, 4, 20, 0, 0, 0, 0, 0, 0, 0, 33, 84, 196, 242, 199, 246, 2, 0, 0, 0, 2, 0, 0, 0, 15,
    0, 0, 0, 98, 117, 103, 114, 101, 112, 111, 114, 116, 45, 98, 46, 116, 120, 116, 98, 10, 80, 75,
    3, 4, 20, 0, 0, 0, 0, 0, 0, 0, 33, 84, 7, 161, 234, 221, 2, 0, 0, 0, 2, 0, 0, 0, 15, 0, 0, 0,
    98, 117, 103, 114, 101, 112, 111, 114, 116, 45, 97, 46, 116, 120, 116, 97, 10, 80, 75, 1, 2,
    20, 3, 20, 0, 0, 0, 0, 0, 0, 0, 33, 84, 196, 242, 199, 246, 2, 0, 0, 0, 2, 0, 0, 0, 15, 0, 0,
    0, 0, 0, 0, 0, 0, 0, 0, 0, 128, 1, 0, 0, 0, 0, 98, 117, 103, 114, 101, 112, 111, 114, 116, 45,
    98, 46, 116, 120, 116, 80, 75, 1, 2, 20, 3, 20, 0, 0, 0, 0, 0, 0, 0, 33, 84, 7, 161, 234, 221,
    2, 0, 0, 0, 2, 0, 0, 0, 15, 0, 0, 0, 0, 0, 0, 0, 0, 0, 0, 0, 128, 1, 47, 0, 0, 0, 98, 117, 103,
    114, 101, 112, 111, 114, 116, 45, 97, 46, 116, 120, 116, 80, 75, 5, 6, 0, 0, 0, 0, 2, 0, 2, 0,
    122, 0, 0, 0, 94, 0, 0, 0, 0, 0]

/-- That archive in a folder below. -/
def filesBelow : Files :=
  ⟨Table.ofList [(["r"], .folder), (["r", "sub"], .folder),
    (["r", "sub", "bugreport-a.zip"], .file twoReports)]⟩

/-- From a folder below, the report that is named like the archive is not the one that is read. -/
theorem other_report_read_below :
    (Zip.Archive.ofBytes twoReports).toOption.map Zip.Archive.names =
      some ["bugreport-b.txt", "bugreport-a.txt"] ∧
    IsNamedLikeLast "sub/bugreport-a.zip" "bugreport-a.txt" ∧
    (chooseEntry ["bugreport-b.txt", "bugreport-a.txt"] "sub/bugreport-a.zip").outcome =
      .ok "bugreport-b.txt" ∧
    (lines filesBelow "r" "sub/bugreport-a.zip").outcome = .ok ["b\n"] := by
  have hway : IsDivided "sub/bugreport-a.zip".toList "sub/".toList "bugreport-a.zip".toList :=
    @IsDivided.behind "sub".toList "bugreport-a.zip".toList (by decide)
  have hstem : IsStem "bugreport-a.zip".toList "bugreport-a".toList :=
    IsStem.cut (⟨'b', by decide, by decide⟩ : ∃ c ∈ "bugreport-a".toList, c ≠ '.')
      (by decide : '.' ∉ "zip".toList)
  exact ⟨by decide +kernel, ⟨_, _, _, hway, hstem, rfl⟩, by decide +kernel, by decide +kernel⟩

end Bugreport

end SectionTimes
