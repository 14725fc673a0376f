import SectionTimes.Proofs.Bugreport.Content
import SectionTimes.Proofs.Zip.Delivery

/-!
# Intact and damaged reports

A report can be read just when all that its entry delivers has the checksum listed for it.  If its
delivery fails on the way, or ends with another checksum, then nothing of it is read, however much
was delivered until then.
-/

namespace SectionTimes

namespace Bugreport

/-- An entry that holds the report of an archive, with the entries before it. -/
structure IsReportEntry (files : Files) (folder archive : String) (zip : Zip.Archive)
    (before : List Zip.Entry) (e : Zip.Entry) : Prop where
  /-- The archive has a directory that can be read. -/
  opened : ∃ bytes, files.content? (Path.join folder archive) = some bytes ∧
    Zip.Archive.ofBytes bytes = .ok zip
  /-- The entry is the one chosen. -/
  chosen : ∃ name, reportEntry? zip.names archive = some name ∧
    Zip.findLast? name zip.entries = some (before, e)

/-- The damage to the report of an archive, whose directory can be read. -/
inductive IsDamaged (files : Files) (folder archive : String) : Zip.Damage → Prop where
  /-- Its delivery fails. -/
  | delivery {zip : Zip.Archive} {before : List Zip.Entry} {e : Zip.Entry} {damage : Zip.Damage}
      (hentry : IsReportEntry files folder archive zip before e)
      (hdeliver : zip.deliver before e = .error (.damaged damage)) :
      IsDamaged files folder archive damage
  /-- What is delivered has another checksum. -/
  | checksum {zip : Zip.Archive} {before : List Zip.Entry} {e : Zip.Entry} {content : List UInt8}
      (hentry : IsReportEntry files folder archive zip before e)
      (hdeliver : zip.deliver before e = .ok content)
      (hsum : (Checksum.of content).toNat ≠ e.checksum) :
      IsDamaged files folder archive (.checksum e.name)

/-- The bytes of the report of an archive are all that its entry delivers, and have the checksum
listed for it. -/
def IsIntact (files : Files) (folder archive : String) (bytes : List UInt8) : Prop :=
  ∃ zip before e, IsReportEntry files folder archive zip before e ∧
    zip.deliver before e = .ok bytes ∧ (Checksum.of bytes).toNat = e.checksum

variable {files : Files} {folder archive : String}

theorem IsReportEntry.content_eq {zip : Zip.Archive} {before : List Zip.Entry} {e : Zip.Entry}
    (h : IsReportEntry files folder archive zip before e) :
    content files folder archive =
      (zip.deliver before e >>= Zip.checkSum e).mapError
        (ofZipFailure (Path.join folder archive)) := by
  obtain ⟨⟨bytes, hbytes, hzip⟩, name, hname, hfound⟩ := h
  unfold content
  rw [hbytes]
  dsimp only
  rw [hzip]
  dsimp only
  rw [hname]
  dsimp only
  rw [Zip.Archive.read, hfound]
  rfl

/-- What can be read has been chosen. -/
theorem exists_isReportEntry {bytes : List UInt8} (h : content files folder archive = .ok bytes) :
    ∃ zip before e, IsReportEntry files folder archive zip before e := by
  unfold content at h
  cases hcontent : files.content? (Path.join folder archive) with
  | none =>
    rw [hcontent] at h
    cases h
  | some packed =>
    rw [hcontent] at h
    dsimp only at h
    cases hzip : Zip.Archive.ofBytes packed with
    | error failure =>
      rw [hzip] at h
      cases h
    | ok zip =>
      rw [hzip] at h
      dsimp only at h
      cases hname : reportEntry? zip.names archive with
      | none =>
        rw [hname] at h
        cases h
      | some name =>
        rw [hname] at h
        dsimp only [Zip.Archive.read] at h
        cases hfound : Zip.findLast? name zip.entries with
        | none =>
          rw [hfound] at h
          cases h
        | some found => exact ⟨zip, found.1, found.2, ⟨packed, hcontent, hzip⟩, name, hname, hfound⟩

/-- A report can be read just when it is intact. -/
theorem content_eq_ok_iff {bytes : List UInt8} :
    content files folder archive = .ok bytes ↔ IsIntact files folder archive bytes := by
  constructor
  · intro h
    obtain ⟨zip, before, e, hentry⟩ := exists_isReportEntry h
    rw [hentry.content_eq] at h
    cases hdeliver : zip.deliver before e with
    | error failure =>
      rw [hdeliver] at h
      cases h
    | ok delivered =>
      rw [hdeliver] at h
      change (Zip.checkSum e delivered).mapError _ = _ at h
      unfold Zip.checkSum at h
      split at h
      · rename_i hsum
        obtain rfl := Except.ok.inj h
        exact ⟨zip, before, e, hentry, hdeliver, hsum⟩
      · cases h
  · rintro ⟨zip, before, e, hentry, hdeliver, hsum⟩
    rw [hentry.content_eq, hdeliver]
    change (Zip.checkSum e bytes).mapError _ = _
    rw [Zip.checkSum, if_pos hsum]
    rfl

/-- Nothing of a damaged report can be read. -/
theorem IsDamaged.content_eq {damage : Zip.Damage} (h : IsDamaged files folder archive damage) :
    content files folder archive = .error (.corrupt (Path.join folder archive) damage) := by
  cases h with
  | delivery hentry hdeliver =>
    rw [hentry.content_eq, hdeliver]
    rfl
  | @checksum zip before e delivered hentry hdeliver hsum =>
    rw [hentry.content_eq, hdeliver]
    change (Zip.checkSum e delivered).mapError _ = _
    rw [Zip.checkSum, if_neg hsum]
    rfl

/-- Whether an archive is the one that is read: the one named, or the newest. -/
def IsAsked (files : Files) (folder : String) (named : Option String) (archive : String) : Prop :=
  match named with
  | some name => name = archive
  | none => (newest files folder).outcome = .ok archive

end Bugreport

open Bugreport Logged

namespace Collector

variable {c : Collector} {files : Files} {named : Option String} {archive : String}
  {metrics : List Metric} {log log' : Log}

theorem outcome_metrics_of_isAsked (h : IsAsked files c.folder named archive) :
    (c.metrics files named).outcome = (content files c.folder archive).map Metric.ofContent := by
  cases named with
  | some name =>
    obtain rfl : name = archive := h
    exact c.outcome_metricsOf_eq_map files name
  | none =>
    have hnewest : (newest files c.folder).outcome = .ok archive := h
    rw [outcome_metrics_none, hnewest]
    exact c.outcome_metricsOf_eq_map files archive

theorem outcome_metrics_of_isDamaged {damage : Zip.Damage}
    (hasked : IsAsked files c.folder named archive)
    (hdamaged : IsDamaged files c.folder archive damage) :
    (c.metrics files named).outcome = .error (.corrupt (Path.join c.folder archive) damage) := by
  rw [outcome_metrics_of_isAsked hasked, hdamaged.content_eq]
  rfl

/-- Metrics that are had are those of an intact report. -/
theorem exists_isIntact_of_outcome (h : (c.metrics files named).outcome = .ok metrics) :
    ∃ archive bytes, IsAsked files c.folder named archive ∧
      IsIntact files c.folder archive bytes ∧ metrics = Metric.ofContent bytes := by
  have hasked : ∃ archive, IsAsked files c.folder named archive := by
    cases named with
    | some name => exact ⟨name, rfl⟩
    | none =>
      rw [outcome_metrics_none] at h
      cases hnewest : (newest files c.folder).outcome with
      | error e =>
        rw [hnewest] at h
        cases h
      | ok archive => exact ⟨archive, hnewest⟩
  obtain ⟨archive, hasked⟩ := hasked
  rw [outcome_metrics_of_isAsked hasked] at h
  cases hcontent : content files c.folder archive with
  | error e =>
    rw [hcontent] at h
    cases h
  | ok bytes =>
    rw [hcontent] at h
    exact ⟨archive, bytes, hasked, content_eq_ok_iff.1 hcontent, (Except.ok.inj h).symm⟩

theorem outcome_of_run (h : (c.metrics files named).run log = .ok metrics log') :
    (c.metrics files named).outcome = .ok metrics := by
  obtain ⟨log'', hrun⟩ := c.isSteady_metrics files named log
  rw [h] at hrun
  cases houtcome : (c.metrics files named).outcome with
  | error e =>
    rw [houtcome] at hrun
    cases hrun
  | ok metrics' =>
    rw [houtcome] at hrun
    cases hrun
    rfl

theorem run_metrics_of_isDamaged {damage : Zip.Damage}
    (hasked : IsAsked files c.folder named archive)
    (hdamaged : IsDamaged files c.folder archive damage) (log : Log) :
    ∃ log', (c.metrics files named).run log =
      .error (.corrupt (Path.join c.folder archive) damage) log' := by
  obtain ⟨log', hrun⟩ := c.isSteady_metrics files named log
  rw [outcome_metrics_of_isDamaged hasked hdamaged] at hrun
  exact ⟨log', hrun⟩

/-- A map that is collected is empty or that of an intact report. -/
theorem map_of_run_collect {map : MetricMap} (h : (c.collect files).run log = .ok map log') :
    map = .empty ∨ ∃ archive bytes, IsAsked files c.folder none archive ∧
      IsIntact files c.folder archive bytes ∧ map = .ofMetrics (Metric.ofContent bytes) := by
  obtain ⟨log'', hrun⟩ := c.run_collect_eq files log
  rw [hrun] at h
  cases houtcome : (c.metrics files none).outcome with
  | ok metrics =>
    rw [houtcome] at h
    cases h
    obtain ⟨archive, bytes, hasked, hintact, rfl⟩ := exists_isIntact_of_outcome houtcome
    exact Or.inr ⟨archive, bytes, hasked, hintact, rfl⟩
  | error e =>
    rw [houtcome] at h
    dsimp only at h
    split at h
    · cases h
      exact Or.inl rfl
    · cases h

end Collector

end SectionTimes
