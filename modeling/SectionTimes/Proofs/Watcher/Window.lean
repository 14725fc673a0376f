import SectionTimes.Proofs.Watcher.Spacing

/-!
# When an archive pauses

An archive pauses because it was reported, or because a scan began it, and for no other reason:
attempts to read it that an event or a request made in vain change nothing.  A scan, though,
remembers the time of an archive before it reads it, so that an archive which is still being
written while the scan goes on may be passed over when it is closed.
-/

namespace SectionTimes

open Binary64 Bugreport

/-- A time that a clock shows after the first half of a second. -/
def IsClockTime (time : Binary64) : Prop := time.IsFinite ∧ time.less Watcher.pause = false

instance : DecidablePred IsClockTime := fun time =>
  inferInstanceAs (Decidable (time.IsFinite ∧ time.less Watcher.pause = false))

namespace Watcher

variable {w : Watcher} {archive : String}

/-- An archive that was never taken up does not pause. -/
theorem isPausing_of_find?_none (hclock : IsClockTime w.clock)
    (h : w.taken.find? archive = none) : w.isPausing archive = false := by
  obtain ⟨k, hpause, hover, -⟩ := exists_pause_eq
  obtain ⟨hfinite, hless⟩ := hclock
  unfold isPausing
  rw [h, Option.getD_none, hpause]
  rw [hpause] at hless
  exact sub_zero_not_less hfinite (by positivity) hover (isMagnitude_two_pow _) hless

/-- An archive pauses only if less than a pause ago it was reported or begun by a scan. -/
theorem isPausing_run {folder : String} {files : Files} {clock : Binary64} {acts : List Act}
    (hclock : IsClockTime ((ofFolder folder files clock).run acts).clock)
    (hspaced : ∀ m ∈ (ofFolder folder files clock).stages acts,
      m.ReportsByEvent archive ∨ m.Scans archive →
        (((ofFolder folder files clock).run acts).clock - m.clock).less pause = false) :
    ((ofFolder folder files clock).run acts).isPausing archive = false := by
  -- the time remembered, if there is one, is that of a stage at which the archive was taken up
  cases htaken : ((ofFolder folder files clock).run acts).taken.find? archive with
  | none => exact isPausing_of_find?_none hclock htaken
  | some time =>
    rcases exists_stage_of_find?_taken_run htaken with hnone | ⟨m, hm, rfl, hmarked⟩
    · cases hnone
    · unfold isPausing
      rw [htaken, Option.getD_some]
      exact hspaced m hm (Stage.mem_marked_iff.1 hmarked)

end Watcher

/-- The time remembered for an archive changes only when an event has the archive reported or a
scan begins it.  An event of an archive that can be read is reported unless less than a pause ago
the archive was reported or begun by a scan, however often it could not be read before. -/
theorem readable_reported_unless_taken_up (folder : String) (files : Files) (clock : Binary64)
    (acts : List Act) (hclock : IsClockTime clock)
    (hacts : ∀ time, .change (.setClock time) ∈ acts → IsClockTime time) (archive : String)
    (hname : isArchiveName archive = true) :
    (∀ m ∈ (Watcher.ofFolder folder files clock).stages acts,
      m.next.taken.find? archive ≠ m.watcher.taken.find? archive →
        (m.ReportsByEvent archive ∨ m.Scans archive) ∧
          m.next.taken.find? archive = some m.clock) ∧
    ∀ w, w = (Watcher.ofFolder folder files clock).run acts → ∀ (e : Event) (metrics : List Metric),
      e.path?.map Path.baseName = some archive → w.metricsOf archive = .ok metrics →
        (∀ m ∈ (Watcher.ofFolder folder files clock).stages acts,
          m.Reports archive ∨ m.Scans archive →
            (w.clock - m.clock).less Watcher.pause = false) →
          (w.after (.event e)).reports = w.reports ++ [(archive, .ofMetrics metrics)] := by
  constructor
  · rintro m - hchanged
    rw [Stage.find?_taken_next] at hchanged ⊢
    by_cases hmarked : archive ∈ m.marked
    · rw [if_pos hmarked]
      exact ⟨Stage.mem_marked_iff.1 hmarked, rfl⟩
    · rw [if_neg hmarked] at hchanged
      exact absurd rfl hchanged
  · rintro w rfl e metrics hpath hmetrics hspaced
    have hpausing := Watcher.isPausing_run (Watcher.clock_invariant hclock hacts).2
      fun m hm hm' => hspaced m hm (hm'.imp_left And.right)
    have hnews := Watcher.news?_eq_some_iff (r := (archive, .ofMetrics metrics)).2
      ⟨⟨hpath, hname, hpausing⟩, metrics, hmetrics, rfl⟩
    rw [Watcher.reports_after_event, hnews]
    rfl

/-- A watcher of a folder in which an archive was begun and nothing written yet. -/
def earlyWatcher : Watcher :=
  .ofFolder "." ⟨Table.ofList [(["bugreport-a.zip"], .file [])]⟩ (.ofDecimal false 1000 0)

/-- The archive cannot be read when it is made nor when it is asked for, and is reported when it
is closed. -/
theorem reported_when_closed :
    let acts : List Act :=
      [.event ⟨.created, "bugreport-a.zip", "", false⟩, .process "bugreport-a.zip",
        .change (.write "bugreport-a.zip" shortArchive)]
    let w := earlyWatcher.run acts
    (∀ m ∈ earlyWatcher.stages acts,
      ¬ (m.Reports "bugreport-a.zip" ∨ m.Scans "bugreport-a.zip")) ∧
      ∃ metrics, w.metricsOf "bugreport-a.zip" = .ok metrics ∧
        (w.after (.event ⟨.closed, "bugreport-a.zip", "", false⟩)).reports =
          w.reports ++ [("bugreport-a.zip", .ofMetrics metrics)] := by
  intro acts w
  have hclock : IsClockTime (.ofDecimal false 1000 0) := by decide +kernel
  have hacts : ∀ time, .change (.setClock time) ∈ acts → IsClockTime time := by
    intro time htime
    simp [acts] at htime
  have huntaken : ∀ m ∈ earlyWatcher.stages acts,
      ¬ (m.Reports "bugreport-a.zip" ∨ m.Scans "bugreport-a.zip") := by decide +kernel
  have hreadable : (w.metricsOf "bugreport-a.zip").toOption.isSome = true := by decide +kernel
  obtain ⟨metrics, hmetrics⟩ : ∃ metrics, w.metricsOf "bugreport-a.zip" = .ok metrics := by
    cases h : w.metricsOf "bugreport-a.zip" with
    | ok metrics => exact ⟨metrics, rfl⟩
    | error e =>
      rw [h] at hreadable
      cases hreadable
  refine ⟨huntaken, metrics, hmetrics, ?_⟩
  exact (readable_reported_unless_taken_up _ _ _ acts hclock hacts "bugreport-a.zip"
    (by decide +kernel)).2 w rfl _ metrics (by decide +kernel) hmetrics
    fun m hm htaken => absurd htaken (huntaken m hm)

/-- A scan that meets the archive before it is written has its closing passed over, although it
can then be read and was never reported. -/
theorem unreported_after_scan :
    let acts : List Act :=
      [.scan, .change (.write "bugreport-a.zip" shortArchive),
        .change (.setClock (.ofDecimal false 10002 (-1)))]
    let w := earlyWatcher.run acts
    (w.metricsOf "bugreport-a.zip").toOption.isSome = true ∧ w.reports.isEmpty = true ∧
      (w.after (.event ⟨.closed, "bugreport-a.zip", "", false⟩)).reports.isEmpty = true ∧
      (w.taken.find? "bugreport-a.zip").isSome = true := by
  decide +kernel

end SectionTimes
