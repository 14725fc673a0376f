import SectionTimes.Proofs.Collector
import SectionTimes.Proofs.Number.Difference
import SectionTimes.Proofs.Watcher.Stage

/-!
# The time between two reports

Two reports of an archive that events bring are a pause apart, and so is a report from a scan that
began the archive before.  The clock may be set back: an archive then pauses until the clock has
passed the time of its last report by a pause.  This rests on the time remembered for an archive
being the latest of all times at which it was taken up.
-/

namespace SectionTimes

open Binary64

/-- A pause or more lies between two times.  The difference is that of the clock's arithmetic,
which is exact unless one of the times is within a quarter of a second of zero. -/
structure Spaced (earlier later : Binary64) : Prop where
  pause_le : (later - earlier).less Watcher.pause = false
  less : earlier.less later = true
  exact : earlier.IsNumber → later.IsNumber → (one : ℤ) ≤ 4 * |earlier.quanta| →
    (one : ℤ) ≤ 4 * |later.quanta| → 2 * earlier.quanta + one ≤ 2 * later.quanta

namespace Watcher

/-- A pause is a power of two, and half of a second. -/
theorem exists_pause_eq :
    ∃ k, pause = .finite false (2 ^ (53 + k)) ∧ 2 ^ (53 + k) < overflow ∧ one = 2 ^ (54 + k) := by
  obtain ⟨k, hk⟩ : ∃ k, 54 + k = 1074 := ⟨1020, rfl⟩
  refine ⟨k, ?_, ?_, by rw [hk]; exact one_eq⟩
  · rw [show 53 + k = 1073 by omega]
    decide +kernel
  · rw [overflow_eq, Nat.pow_lt_pow_iff_right (by decide)]
    omega

/-- A time that is not after one from which another is a pause away is a pause away itself. -/
theorem spaced_of_le {now last time : Binary64} (hnow : now.IsFinite) (hlast : last.IsFinite)
    (htime : time.IsFinite) (hle : time.quanta ≤ last.quanta)
    (h : (now - last).less pause = false) : Spaced time now := by
  obtain ⟨k, hpause, hover, hone⟩ := exists_pause_eq
  rw [hpause] at h
  have hpos : 0 < 2 ^ (53 + k) := by positivity
  have hsub := sub_not_less_of_le hnow hlast htime hpos hover hle h
  refine ⟨by rw [hpause]; exact hsub, (less_iff htime hnow).2 ?_, fun htime' hnow' h₁ h₂ => ?_⟩
  · exact ((sub_not_less_iff hnow htime hpos hover).1 hsub).1
  · rw [hone] at h₁ h₂ ⊢
    push_cast at h₁ h₂ ⊢
    have hquarter : (2 : ℤ) ^ (54 + k) = 4 * 2 ^ (52 + k) := by ring
    have hhalf : (2 : ℤ) ^ (54 + k) = 2 * 2 ^ (53 + k) := by ring
    have hexact := add_le_of_sub_not_less hnow' htime' hover (by linarith) (by linarith) hsub
    linarith

/-- The time remembered for an archive is not before a given one. -/
def TakenSince (w : Watcher) (archive : String) (time : Binary64) : Prop :=
  ∃ last, w.taken.find? archive = some last ∧ last.IsFinite ∧ time.quanta ≤ last.quanta

variable {w : Watcher} {archive : String} {time : Binary64}

/-- What an event has reported was not pausing. -/
theorem spaced_of_reportsByEvent {m : Stage} (hclock : m.clock.IsFinite) (htime : time.IsFinite)
    (hsince : m.watcher.TakenSince archive time) (h : m.ReportsByEvent archive) :
    Spaced time m.clock := by
  obtain ⟨last, hlast, hfinite, hle⟩ := hsince
  obtain ⟨⟨e, hact⟩, hreports⟩ := h
  obtain ⟨w, act⟩ := m
  obtain rfl : act = .event e := hact
  unfold Stage.Reports at hreports
  rw [Stage.reported_eq] at hreports
  obtain ⟨news, hnews, rfl⟩ := List.mem_map.1 hreports
  obtain ⟨⟨-, -, hpausing⟩, -⟩ := news?_eq_some_iff.1 (Option.mem_toList.1 hnews)
  unfold isPausing at hpausing
  change w.taken.find? news.1 = some last at hlast
  rw [hlast, Option.getD_some] at hpausing
  exact spaced_of_le hclock hfinite htime hle hpausing

/-- The time remembered for an archive does not become earlier while changes go on. -/
theorem TakenSince.after_change {change : Change} (hclock : w.clock.IsFinite)
    (htime : time.IsFinite) (h : w.TakenSince archive time) :
    (w.after (.change change)).TakenSince archive time := by
  have hstep := (Stage.mk w (.change change)).find?_taken_next archive
  change (w.after (.change change)).taken.find? archive = _ at hstep
  split at hstep
  · rename_i hmarked
    -- a change is no scan, so an event had the archive reported, which therefore did not pause
    rcases Stage.mem_marked_iff.1 hmarked with hreports | ⟨hscan, -⟩
    · have hspaced := spaced_of_reportsByEvent (m := ⟨w, .change change⟩) hclock htime h hreports
      exact ⟨w.clock, hstep, hclock, ((less_iff htime hclock).1 hspaced.less).le⟩
    · cases hscan
  · obtain ⟨last, hlast, hle⟩ := h
    exact ⟨last, hstep.trans hlast, hle⟩

/-- What holds of a clock and of the times that it is set to still holds after the first change. -/
theorem isFinite_clock_after {change : Change} {changes : List Change} (hclock : w.clock.IsFinite)
    (hchanges : ∀ t, .setClock t ∈ change :: changes → t.IsFinite) :
    (w.after (.change change)).clock.IsFinite ∧ ∀ t, .setClock t ∈ changes → t.IsFinite := by
  refine ⟨clock_after hclock fun t ht => hchanges t ?_,
    fun t ht => hchanges t (List.mem_cons_of_mem _ ht)⟩
  cases ht
  exact List.mem_cons_self

/-- Once an archive was taken up at a time, events have it reported at times a pause away. -/
theorem TakenSince.spaced {changes : List Change} (hclock : w.clock.IsFinite)
    (hchanges : ∀ t, .setClock t ∈ changes → t.IsFinite) (htime : time.IsFinite)
    (h : w.TakenSince archive time) :
    ∀ m ∈ w.stages (changes.map .change), m.ReportsByEvent archive → Spaced time m.clock := by
  induction changes generalizing w with
  | nil => exact fun m hm => absurd hm List.not_mem_nil
  | cons change changes ih =>
    intro m hm hreports
    rcases List.mem_cons.1 hm with rfl | hm
    · exact spaced_of_reportsByEvent hclock htime h hreports
    · obtain ⟨hnext, hrest⟩ := isFinite_clock_after hclock hchanges
      exact ih hnext hrest (h.after_change hclock htime) m hm hreports

theorem takenSince_next {m : Stage} (hclock : m.clock.IsFinite)
    (h : m.ReportsByEvent archive ∨ m.Scans archive) : m.next.TakenSince archive m.clock := by
  refine ⟨m.clock, ?_, hclock, le_rfl⟩
  rw [Stage.find?_taken_next, if_pos (Stage.mem_marked_iff.2 h)]

/-- Whether a report that an event brings is a pause away from when the archive was taken up. -/
def SpacedStages (archive : String) (m m' : Stage) : Prop :=
  m.ReportsByEvent archive ∨ m.Scans archive → m'.ReportsByEvent archive →
    Spaced m.clock m'.clock

theorem pairwise_spaced_cons {act : Act} {changes : List Change} (hclock : w.clock.IsFinite)
    (hnext : (w.after act).clock.IsFinite) (hchanges : ∀ t, .setClock t ∈ changes → t.IsFinite)
    (h : ((w.after act).stages (changes.map .change)).Pairwise (SpacedStages archive)) :
    (w.stages (act :: changes.map .change)).Pairwise (SpacedStages archive) := by
  refine List.Pairwise.cons (fun m hm htaken => ?_) h
  have hsince := takenSince_next (m := ⟨w, act⟩) hclock htaken
  exact hsince.spaced hnext hchanges hclock m hm

theorem pairwise_spaced_changes {changes : List Change} (hclock : w.clock.IsFinite)
    (hchanges : ∀ t, .setClock t ∈ changes → t.IsFinite) :
    (w.stages (changes.map .change)).Pairwise (SpacedStages archive) := by
  induction changes generalizing w with
  | nil => exact List.Pairwise.nil
  | cons change changes ih =>
    obtain ⟨hnext, hrest⟩ := isFinite_clock_after hclock hchanges
    exact pairwise_spaced_cons hclock hnext hrest (ih hnext hrest)

end Watcher

open Watcher in
/-- If all there is to a run are changes, and perhaps one scan before them, then the reports of an
archive that events bring are a pause apart from each other and from the scan that began it,
whatever the clock is set to. -/
theorem eventReports_spaced (w : Watcher) (hclock : w.clock.IsFinite) (opening : List Act)
    (hopening : opening = [] ∨ opening = [.scan]) (changes : List Change)
    (hchanges : ∀ time, .setClock time ∈ changes → time.IsFinite) (archive : String) :
    (w.stages (opening ++ changes.map .change)).Pairwise fun m m' =>
      m.ReportsByEvent archive ∨ m.Scans archive → m'.ReportsByEvent archive →
        Spaced m.clock m'.clock := by
  rcases hopening with rfl | rfl
  · exact pairwise_spaced_changes hclock hchanges
  · have hnext : (w.after .scan).clock.IsFinite :=
      clock_after hclock fun time htime => by cases htime
    exact pairwise_spaced_cons hclock hnext hchanges (pairwise_spaced_changes hnext hchanges)

/-- A watcher of the folder with the short report, at a thousand seconds. -/
def shortWatcher : Watcher := .ofFolder "r" shortFiles (.ofDecimal false 1000 0)

/-- The closing of its archive. -/
def shortClosed : Event := ⟨.closed, "r/bugreport-a.zip", "", false⟩

/-- After a scan the clock is set back by ten seconds and then to half a second after the scan. -/
theorem spaced_setBack :
    let back : List Change :=
      [.setClock (.ofDecimal false 990 0), .event shortClosed,
        .setClock (.ofDecimal false 10005 (-1)), .event shortClosed]
    let m : Stage := ⟨shortWatcher, .scan⟩
    let m' : Stage :=
      ⟨shortWatcher.run (.scan :: (back.take 3).map .change), .event shortClosed⟩
    shortWatcher.clock.IsFinite ∧ (∀ time, .setClock time ∈ back → time.IsFinite) ∧
      m.Scans "bugreport-a.zip" ∧ m'.ReportsByEvent "bugreport-a.zip" ∧
        Spaced m.clock m'.clock := by
  intro back m m'
  have hclock : shortWatcher.clock.IsFinite := by decide +kernel
  have hback : ∀ time, .setClock time ∈ back → time.IsFinite := by
    intro time htime
    simp only [back, List.mem_cons, Change.setClock.injEq, reduceCtorEq, List.not_mem_nil,
      false_or, or_false] at htime
    rcases htime with h | h
    · rw [h]
      decide +kernel
    · rw [h]
      decide +kernel
  have hscans : m.Scans "bugreport-a.zip" := ⟨rfl, by decide +kernel⟩
  have hreports : m'.ReportsByEvent "bugreport-a.zip" := ⟨⟨_, rfl⟩, by
    unfold Stage.Reports
    decide +kernel⟩
  have hpairwise := eventReports_spaced shortWatcher hclock [.scan] (Or.inr rfl) back hback
    "bugreport-a.zip"
  have hmem : m' ∈ (shortWatcher.after .scan).stages (back.map .change) :=
    Watcher.mem_stages_iff.2 ⟨(back.take 3).map .change, [], rfl, rfl⟩
  exact ⟨hclock, hback, hscans, hreports,
    (List.pairwise_cons.1 hpairwise).1 m' hmem (Or.inr hscans) hreports⟩

end SectionTimes
