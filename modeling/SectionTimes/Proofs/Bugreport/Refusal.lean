import SectionTimes.Proofs.Bugreport.Reading
import SectionTimes.Proofs.Zip.Refusal

/-!
# Which archives stop work

Of all reasons for which a report cannot be read, one only is not expected: that its archive is
given up, for what it asks for or for faulty data of a kind for which no damage is told.
-/

namespace SectionTimes

namespace Bugreport

open Logged

/-- What the report of an archive is refused for: something in the directory, or something in the
member that is to be read. -/
inductive IsRefused (bytes : List UInt8) (archive : String) (r : Zip.Refusal) : Prop where
  | directory (h : Zip.Archive.ofBytes bytes = .error (.refused r))
  | report {zip : Zip.Archive} {entry : String} (hzip : Zip.Archive.ofBytes bytes = .ok zip)
      (hentry : reportEntry? zip.names archive = some entry)
      (h : zip.read entry = .error (.refused r))

/-- What the archive of a name is refused for, in a folder. -/
def Refuses (files : Files) (folder archive : String) (r : Zip.Refusal) : Prop :=
  ∃ bytes, files.content? (Path.join folder archive) = some bytes ∧ IsRefused bytes archive r

theorem mem_names_of_report {names : List String} {archive entry : String}
    (h : reportEntry? names archive = some entry) : entry ∈ names := by
  unfold reportEntry? at h
  split at h
  · rename_i hown
    exact Option.some.inj h ▸ hown
  · exact List.mem_of_find?_eq_some h

theorem bytes_of_ofBytes {bytes : List UInt8} {zip : Zip.Archive}
    (h : Zip.Archive.ofBytes bytes = .ok zip) : zip.bytes = bytes := by
  unfold Zip.Archive.ofBytes at h
  split at h
  · cases h
  · obtain ⟨extent, -, h⟩ := exists_of_bind h
    obtain ⟨entries, -, h⟩ := exists_of_bind (Zip.of_unless h)
    obtain rfl := Except.ok.inj h
    rfl

/-- An archive is refused only where there are grounds for it. -/
theorem IsRefused.grounds {bytes : List UInt8} {archive : String} {r : Zip.Refusal}
    (h : IsRefused bytes archive r) : Zip.Grounds bytes r := by
  cases h with
  | directory h =>
    obtain ⟨record, hrecord, hmark, hgrounds⟩ := Zip.refusedOnly_ofBytes bytes r h
    exact .record hrecord hmark hgrounds
  | report hzip hentry h =>
    obtain ⟨e, he, hgrounds⟩ := Zip.refusedOnly_read (mem_names_of_report hentry) r h
    exact .member hzip he (bytes_of_ofBytes hzip ▸ hgrounds)

theorem isExpected_eq_false_iff {e : ReadFailure} :
    e.isExpected = false ↔ ∃ r, e = .refused r := by
  cases e <;> simp [ReadFailure.isExpected]

/-! ## Reading -/

variable {files : Files} {folder archive : String} {r : Zip.Refusal}

theorem ofZipFailure_eq_refused_iff {path : String} {e : Zip.Failure} :
    ofZipFailure path e = .refused r ↔ e = .refused r := by
  cases e <;> simp [ofZipFailure]

/-- Reading is refused just when the archive is. -/
theorem outcome_lines_eq_refused_iff :
    (lines files folder archive).outcome = .error (.refused r) ↔
      Refuses files folder archive r := by
  have hrefused : ∀ {e : Zip.Failure},
      (.error (ofZipFailure (Path.join folder archive) e) : Except ReadFailure (List String)) =
        .error (.refused r) → e = .refused r :=
    fun h => ofZipFailure_eq_refused_iff.1 (Except.error.inj h)
  rw [outcome_lines]
  constructor
  · intro h
    split at h
    · cases h
    rename_i bytes hcontent
    refine ⟨bytes, hcontent, ?_⟩
    split at h
    · rename_i e hzip
      exact .directory (hzip.trans (congrArg _ (hrefused h)))
    rename_i zip hzip
    split at h
    · cases h
    rename_i entry hentry
    split at h
    · rename_i e hread
      exact .report hzip hentry (hread.trans (congrArg _ (hrefused h)))
    · cases h
  · rintro ⟨bytes, hcontent, hzip | ⟨hzip, hentry, hread⟩⟩
    · simp only [hcontent, hzip]
      rfl
    · simp only [hcontent, hzip, hentry, hread]
      rfl

/-- That there is no newest archive is expected. -/
theorem outcome_newest_ne_refused : (newest files folder).outcome ≠ .error (.refused r) := by
  intro h
  rw [outcome_newest] at h
  split at h
  · rename_i e harchives
    obtain ⟨-, rfl⟩ := archives_eq_error_iff.1 harchives
    cases h
  · split at h <;> cases h

end Bugreport

namespace Collector

open Bugreport Logged

variable {c : Collector} {files : Files} {archive : String}

/-- The metrics of an archive are refused just when it is. -/
theorem outcome_metrics_eq_refused_iff {r : Zip.Refusal} :
    (c.metrics files (some archive)).outcome = .error (.refused r) ↔
      Refuses files c.folder archive r := by
  rw [← outcome_lines_eq_refused_iff]
  change (c.metricsOf files archive).outcome = _ ↔ _
  rw [outcome_metricsOf]
  cases (lines files c.folder archive).outcome <;> simp [Except.map]

end Collector

end SectionTimes
