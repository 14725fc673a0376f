import Mathlib.Data.List.Lex
import SectionTimes.Proofs.Bugreport.Listed
import SectionTimes.Proofs.Number.Width

/-!
# Dated archives

The names of archives hold the time at which they were made, in fields of fixed width from the year
to the second, so that the greatest name is that of the latest time.  The name without a time is
greater than all of these, since a dot comes after a hyphen.
-/

namespace SectionTimes

namespace Bugreport

/-! ## Times in names -/

/-- The time in the name of an archive: any digits, four for the year and two for each other
field. -/
structure Stamp where
  year : Fin 10000
  month : Fin 100
  day : Fin 100
  hour : Fin 100
  minute : Fin 100
  second : Fin 100
  deriving DecidableEq, Repr

namespace Stamp

variable {t u : Stamp}

/-- The fields of a time, the one that counts most first. -/
def fields (t : Stamp) : List ℕ := [t.year, t.month, t.day, t.hour, t.minute, t.second]

theorem fields_injective : Function.Injective fields := by
  intro t u h
  cases t
  cases u
  simpa only [fields, List.cons.injEq, Fin.val_inj, and_true, Stamp.mk.injEq] using h

/-- The earlier of two times is the lesser one in the first field in which they differ. -/
instance : LinearOrder Stamp := LinearOrder.lift' fields fields_injective

theorem lt_iff_fields_lt : t < u ↔ t.fields < u.fields := Iff.rfl

/-- The width of each field in a name. -/
def widths : List ℕ := [4, 2, 2, 2, 2, 2]

theorem fit_fields (t : Stamp) : Fit widths t.fields := by
  have htwo : ∀ n : Fin 100, 0 < 2 ∧ n.val < 10 ^ 2 := fun n => ⟨by decide, n.isLt⟩
  exact .cons ⟨by decide, t.year.isLt⟩ (.cons (htwo _) (.cons (htwo _) (.cons (htwo _)
    (.cons (htwo _) (.cons (htwo _) .nil)))))

/-- The name of the archive that was made at a time. -/
def archiveName (t : Stamp) : String :=
  String.ofList (beginning ++ (hyphened widths t.fields ++ archiveEnding))

example : archiveName ⟨2022, 4, 23, 3, 12, 33⟩ = "bugreport-2022-04-23-03-12-33.zip" := by
  decide +kernel

/-- A later time has the greater name. -/
theorem strictMono_archiveName : StrictMono archiveName := by
  intro t u h
  rw [String.lt_iff_toList_lt]
  unfold archiveName
  rw [String.toList_ofList, String.toList_ofList]
  exact append_lt_append_left
    (hyphened_lt_hyphened (fit_fields t) (fit_fields u) (lt_iff_fields_lt.1 h) _) _

end Stamp

/-- The name of an archive that holds no time. -/
def bareName : String := "bugreport.zip"

theorem Stamp.archiveName_lt_bareName (t : Stamp) : t.archiveName < bareName := by
  have hbare : bareName.toList = beginning ++ archiveEnding := by decide
  rw [String.lt_iff_toList_lt, hbare]
  unfold archiveName
  rw [String.toList_ofList]
  -- the hyphen before the year stands where the bare name has its dot
  exact append_lt_append_left (List.cons_lt_cons_iff.2 (Or.inl (by decide))) _

/-! ## The newest archive -/

variable {files : Files} {folder : String}

/-- The archives of a folder are named by times, but perhaps for one that is named without. -/
def IsDated (files : Files) (folder : String) : Prop :=
  ∀ name, IsListed files folder name → name = bareName ∨ ∃ t : Stamp, name = t.archiveName

theorem isGreatest_bareName (hdated : IsDated files folder)
    (hbare : IsListed files folder bareName) :
    IsGreatest {name | IsListed files folder name} bareName := by
  refine ⟨hbare, fun name hname => ?_⟩
  obtain rfl | ⟨t, rfl⟩ := hdated name hname
  · exact le_refl _
  · exact t.archiveName_lt_bareName.le

/-- The greatest of dated names is that of the latest time. -/
theorem isGreatest_iff_latest (hdated : IsDated files folder)
    (hbare : ¬ IsListed files folder bareName) {archive : String} :
    IsGreatest {name | IsListed files folder name} archive ↔
      ∃ t : Stamp, archive = t.archiveName ∧
        IsGreatest {t | IsListed files folder t.archiveName} t := by
  constructor
  · rintro ⟨hlisted, hgreatest⟩
    obtain rfl | ⟨t, rfl⟩ := hdated archive hlisted
    · exact absurd hlisted hbare
    · exact ⟨t, rfl, hlisted, fun u hu => Stamp.strictMono_archiveName.le_iff_le.1 (hgreatest hu)⟩
  · rintro ⟨t, rfl, hlisted, hlatest⟩
    refine ⟨hlisted, fun name hname => ?_⟩
    obtain rfl | ⟨u, rfl⟩ := hdated name hname
    · exact absurd hname hbare
    · exact Stamp.strictMono_archiveName.le_iff_le.2 (hlatest hname)

/-- The newest archive of a folder of dated archives is the one without a time if it is there, and
the one of the latest time otherwise.  There is none just if the folder is not there or has no
archives. -/
theorem newest_is_bare_or_latest (files : Files) (folder : String)
    (hdated : IsDated files folder) :
    (files.isFolder folder = true → IsListed files folder bareName →
      (newest files folder).outcome = .ok bareName) ∧
    (files.isFolder folder = true → ¬ IsListed files folder bareName →
      (∃ name, IsListed files folder name) →
      ∃ t : Stamp, IsGreatest {t | IsListed files folder t.archiveName} t ∧
        (newest files folder).outcome = .ok t.archiveName) ∧
    ∀ e, (newest files folder).outcome = .error e ↔
      files.isFolder folder = false ∧ e = .noFolder folder ∨
        files.isFolder folder = true ∧ (∀ name, ¬ IsListed files folder name) ∧
          e = .noArchives folder := by
  refine ⟨fun hfolder hbare => ?_, fun hfolder hbare hsome => ?_, fun e => newest_eq_error_iff⟩
  · exact (newest_eq_ok_iff hfolder).2 (isGreatest_bareName hdated hbare)
  · cases hnewest : (newest files folder).outcome with
    | error e =>
      obtain ⟨hmissing, -⟩ | ⟨-, hnone, -⟩ := newest_eq_error_iff.1 hnewest
      · cases hmissing.symm.trans hfolder
      · exact absurd hsome (not_exists.2 hnone)
    | ok archive =>
      obtain ⟨t, rfl, hlatest⟩ :=
        (isGreatest_iff_latest hdated hbare).1 ((newest_eq_ok_iff hfolder).1 hnewest)
      exact ⟨t, hlatest, rfl⟩

/-- A folder that lists the archives of two times, the later of them first, among a folder that is
named like an archive and a file that is not, with or without an archive that holds no time. -/
def datedFiles (bare : Bool) : Files :=
  ⟨Table.ofList ([(["r"], .folder), (["r", "bugreport-2023-01-02-03-04-05.zip"], .folder),
    (["r", "bugreport-2022-11-02-03-04-05.zip"], .file []), (["r", "notes.zip"], .file []),
    (["r", "bugreport-2022-04-23-03-12-33.zip"], .file [])] ++
    if bare then [(["r", "bugreport.zip"], .file [])] else [])⟩

theorem isDated_datedFiles (bare : Bool) : IsDated (datedFiles bare) "r" := by
  have hnames : ∀ bare, ∀ name ∈ (datedFiles bare).names "r", isArchiveName name = true →
      (datedFiles bare).isFile (Path.join "r" name) = true →
      name = bareName ∨ name = Stamp.archiveName ⟨2022, 11, 2, 3, 4, 5⟩ ∨
        name = Stamp.archiveName ⟨2022, 4, 23, 3, 12, 33⟩ := by decide +kernel
  intro name h
  obtain hname | hname | hname := hnames bare name h.inside h.named h.file
  · exact Or.inl hname
  · exact Or.inr ⟨_, hname⟩
  · exact Or.inr ⟨_, hname⟩

theorem dated_newest_is_latest :
    (IsGreatest {t : Stamp | IsListed (datedFiles false) "r" t.archiveName} ⟨2022, 11, 2, 3, 4, 5⟩ ∧
      (newest (datedFiles false) "r").outcome = .ok "bugreport-2022-11-02-03-04-05.zip") ∧
    (newest (datedFiles true) "r").outcome = .ok "bugreport.zip" ∧
    (newest (datedFiles true) "s").outcome = .error (.noFolder "s") := by
  refine ⟨?_, ?_, ?_⟩
  · have hnewest : (newest (datedFiles false) "r").outcome =
        .ok "bugreport-2022-11-02-03-04-05.zip" := by decide +kernel
    have hname :
        Stamp.archiveName ⟨2022, 11, 2, 3, 4, 5⟩ = "bugreport-2022-11-02-03-04-05.zip" := by
      decide +kernel
    have hbare : bareName ∉ (datedFiles false).names "r" := by decide +kernel
    obtain ⟨t, hlatest, ht⟩ :=
      (newest_is_bare_or_latest (datedFiles false) "r" (isDated_datedFiles false)).2.1
        (by decide +kernel) (fun h => hbare h.inside)
        ⟨"bugreport-2022-04-23-03-12-33.zip", by decide +kernel, by decide +kernel,
          by decide +kernel⟩
    have htime : t.archiveName = Stamp.archiveName ⟨2022, 11, 2, 3, 4, 5⟩ :=
      (Except.ok.inj (ht.symm.trans hnewest)).trans hname.symm
    rw [Stamp.strictMono_archiveName.injective htime] at hlatest
    exact ⟨hlatest, hnewest⟩
  · exact (newest_is_bare_or_latest (datedFiles true) "r" (isDated_datedFiles true)).1
      (by decide +kernel) ⟨by decide +kernel, by decide +kernel, by decide +kernel⟩
  · have hnames : (datedFiles true).names "s" = [] := by decide +kernel
    have hdated : IsDated (datedFiles true) "s" := fun name hname =>
      absurd (hnames ▸ hname.inside) List.not_mem_nil
    exact ((newest_is_bare_or_latest (datedFiles true) "s" hdated).2.2 _).2
      (Or.inl ⟨by decide +kernel, rfl⟩)

end Bugreport

end SectionTimes
