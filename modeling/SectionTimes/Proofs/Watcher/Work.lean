import SectionTimes.Proofs.Bugreport.Reading
import SectionTimes.Watcher

/-!
# What the work of a watcher does

What a watcher reports, and which times it remembers, are functions of its folder, its files, its
clock and the times remembered before.  Whatever work does besides is to take notes.  This holds
also of work that fails: what was done before the failure stays done.
-/

namespace SectionTimes.Watcher

open Bugreport Logged

variable (w : Watcher)

/-- The watcher that work leaves, whether or not it fails. -/
def left {α : Type} (work : Watching α) (w : Watcher) : Watcher :=
  match work.run w with
  | .ok _ w' => w'
  | .error _ w' => w'

/-- The metrics of an archive as its file is now, or why it cannot be read. -/
def metricsOf (archive : String) : Except ReadFailure (List Metric) :=
  (Collector.metrics ⟨w.folder⟩ w.files (some archive)).outcome

/-- The metric map of an archive, if it can be read. -/
def mapOf? (archive : String) : Option MetricMap :=
  (w.metricsOf archive).toOption.map MetricMap.ofMetrics

/-- The failure to read an archive, if it is one after which work is not gone on with. -/
def stop? (archive : String) : Option ReadFailure :=
  match w.metricsOf archive with
  | .ok _ => none
  | .error e => if e.isExpected then none else some e

/-- The report of an archive, if it can be read. -/
def reportOf? (archive : String) : Option (String × MetricMap) :=
  (w.mapOf? archive).map fun metrics => (archive, metrics)

/-- Work that ends in a watcher, with a result unless it is stopped. -/
def endedBy {α : Type} (stop : Option ReadFailure) (result : α) (w : Watcher) :
    EStateM.Result ReadFailure Watcher α :=
  match stop with
  | none => .ok result w
  | some e => .error e w

theorem exists_endedBy_eq_error_iff {α : Type} {stop : Option ReadFailure} {result : α}
    {w : Watcher} {e : ReadFailure} :
    (∃ w', endedBy stop result w = .error e w') ↔ stop = some e := by
  cases stop <;> simp [endedBy]

theorem left_of_run {α : Type} {w w' : Watcher} {work : Watching α} {stop : Option ReadFailure}
    {result : α} (h : work.run w = endedBy stop result w') : left work w = w' := by
  unfold left
  rw [h]
  cases stop <;> rfl

/-- What is done after work that is not stopped. -/
theorem run_bind_of_run {α β : Type} {w w' : Watcher} {work : Watching α} {rest : α → Watching β}
    {stop : Option ReadFailure} {result : α} :
    work.run w = endedBy stop result w' → (work >>= rest).run w =
      match stop with
      | none => (rest result).run w'
      | some e => .error e w' := by
  intro h
  rw [EStateM.run_bind, h]
  cases stop <;> rfl

theorem left_bind {α β : Type} (work : Watching α) (rest : α → Watching β) :
    left (work >>= rest) w =
      match work.run w with
      | .ok a w' => left (rest a) w'
      | .error _ w' => w' := by
  unfold left
  rw [EStateM.run_bind]
  cases work.run w <;> rfl

theorem with_reports_append_nil (log : Log) :
    { w with log, reports := w.reports ++ [] } = ({ w with log } : Watcher) := by
  rw [List.append_nil]

/-! ## Processing -/

theorem run_note (level : Level) (message : String) :
    (note level message).run w = .ok () { w with log := w.log ++ [⟨level, message⟩] } := rfl

theorem run_reading {α : Type} (work : Files → Reading α) (hwork : IsSteady (work w.files)) :
    ∃ log, (reading work).run w =
      match (work w.files).outcome with
      | .ok a => .ok a { w with log }
      | .error e => .error e { w with log } := by
  obtain ⟨log, h⟩ := hwork w.log
  refine ⟨log, ?_⟩
  unfold EStateM.run at h ⊢
  unfold reading
  rw [h]
  cases (work w.files).outcome <;> rfl

theorem mapOf?_eq_none_of_stop? {w : Watcher} {archive : String} {e : ReadFailure}
    (h : w.stop? archive = some e) : w.mapOf? archive = none := by
  unfold stop? at h
  unfold mapOf?
  cases hmetrics : w.metricsOf archive with
  | ok metrics =>
    rw [hmetrics] at h
    cases h
  | error e => rfl

/-- An archive that can be read is reported, and nothing else is done but to take notes. -/
theorem run_process (archive : String) :
    ∃ log, (process archive).run w =
      endedBy (w.stop? archive) (w.mapOf? archive)
        { w with log, reports := w.reports ++ (w.reportOf? archive).toList } := by
  obtain ⟨log, h⟩ := run_reading { w with log := w.log ++ [⟨.info, "Processing: " ++ archive⟩] }
    (fun files => Collector.metrics ⟨w.folder⟩ files (some archive))
    (Collector.isSteady_metrics _ _ _)
  unfold process stop? reportOf? mapOf? metricsOf
  simp only [EStateM.run_bind, run_note, EStateM.run_get, run_tryCatch]
  rw [h]
  cases (Collector.metrics ⟨w.folder⟩ w.files (some archive)).outcome with
  | ok metrics => exact ⟨log, rfl⟩
  | error e =>
    simp only [Except.toOption, Option.map_none, Option.toList_none, List.append_nil]
    cases e.isExpected with
    | true => exact ⟨_, rfl⟩
    | false => exact ⟨log, rfl⟩

/-! ## Times -/

/-- Remembers a time for archives, one after the other. -/
def putAll (time : Binary64) (archives : List String) (taken : Table String Binary64) :
    Table String Binary64 :=
  archives.foldl (fun taken archive => taken.put archive time) taken

/-- The archives have the time, and the others keep theirs. -/
theorem find?_putAll (time : Binary64) (archives : List String) (taken : Table String Binary64)
    (archive : String) :
    (putAll time archives taken).find? archive =
      if archive ∈ archives then some time else taken.find? archive := by
  induction archives generalizing taken with
  | nil => rfl
  | cons a archives ih =>
    change (putAll time archives (taken.put a time)).find? archive = _
    rw [ih, Table.find?_put]
    by_cases hmem : archive ∈ archives
    · rw [if_pos hmem, if_pos (List.mem_cons_of_mem _ hmem)]
    · by_cases ha : archive = a
      · rw [if_neg hmem, if_pos ha, if_pos (ha ▸ List.mem_cons_self)]
      · rw [if_neg hmem, if_neg ha, if_neg (by simp [hmem, ha])]

/-! ## Events -/

/-- The report that an event brings: that of the archive at its path, unless the archive
pauses or cannot be read. -/
def news? (e : Event) : Option (String × MetricMap) :=
  (e.path?.map Path.baseName).bind fun archive =>
    if isArchiveName archive && !w.isPausing archive then w.reportOf? archive else none

/-- A report holds the metric map of its archive. -/
theorem reportOf?_eq_some_iff {w : Watcher} {archive : String} {r : String × MetricMap} :
    w.reportOf? archive = some r ↔
      ∃ metrics, w.metricsOf archive = .ok metrics ∧ r = (archive, .ofMetrics metrics) := by
  unfold reportOf? mapOf?
  cases w.metricsOf archive with
  | ok metrics =>
    constructor
    · intro h
      exact ⟨metrics, rfl, (Option.some.inj h).symm⟩
    · rintro ⟨metrics', hmetrics, rfl⟩
      rw [Except.ok.inj hmetrics]
      rfl
  | error e =>
    constructor
    · intro h
      exact absurd h (by simp [Except.toOption])
    · rintro ⟨metrics, hmetrics, -⟩
      cases hmetrics

/-- An event brings the report of an archive just when that came at its path, does not pause and
can be read. -/
theorem news?_eq_some_iff {w : Watcher} {e : Event} {r : String × MetricMap} :
    w.news? e = some r ↔
      (e.path?.map Path.baseName = some r.1 ∧ isArchiveName r.1 = true ∧ w.isPausing r.1 = false) ∧
        ∃ metrics, w.metricsOf r.1 = .ok metrics ∧ r.2 = .ofMetrics metrics := by
  unfold news?
  rw [Option.bind_eq_some_iff]
  constructor
  · rintro ⟨archive, harchive, h⟩
    split at h
    · rename_i htake
      obtain ⟨hname, hpausing⟩ := Bool.and_eq_true_iff.1 htake
      obtain ⟨metrics, hmetrics, rfl⟩ := reportOf?_eq_some_iff.1 h
      exact ⟨⟨harchive, hname, by simpa using hpausing⟩, metrics, hmetrics, rfl⟩
    · cases h
  · rintro ⟨⟨harchive, hname, hpausing⟩, metrics, hmetrics, hr⟩
    refine ⟨r.1, harchive, ?_⟩
    rw [hname, hpausing]
    exact reportOf?_eq_some_iff.2 ⟨metrics, hmetrics, Prod.ext rfl hr⟩

/-- An event has its report delivered, and the time of that remembered. -/
theorem left_handle (e : Event) :
    ∃ log, left (handle e) w =
      { w with
        log
        reports := w.reports ++ (w.news? e).toList
        taken := putAll w.clock ((w.news? e).toList.map Prod.fst) w.taken } := by
  unfold handle news?
  cases e.path? with
  | none => exact ⟨w.log, (w.with_reports_append_nil w.log).symm⟩
  | some path =>
    dsimp only [Option.map_some, Option.bind_some]
    unfold takeUp
    rw [left_bind, EStateM.run_get]
    dsimp only
    generalize Path.baseName path = archive
    split
    · obtain ⟨log, h⟩ := w.run_process archive
      refine ⟨log, ?_⟩
      rw [left_bind, h]
      unfold reportOf?
      cases hstop : w.stop? archive with
      | none => cases w.mapOf? archive <;> rfl
      | some e =>
        -- work stops only where nothing could be read
        rw [mapOf?_eq_none_of_stop? hstop]
        rfl
    · exact ⟨w.log, (w.with_reports_append_nil w.log).symm⟩

theorem left_modify (f : Watcher → Watcher) : left (modify f) w = f w := rfl

/-- The files after a change. -/
def filesAfter (files : Files) : Change → Files
  | .write path content => (files.write path content).1
  | .makeFolder path => (files.makeFolders path).1
  | .remove path => files.remove path
  | .setClock _ => files
  | .event _ => files

/-- What the clock shows after a change. -/
def clockAfter (clock : Binary64) : Change → Binary64
  | .setClock time => time
  | _ => clock

/-- Changes other than events concern the files and the clock only. -/
theorem left_undergo {change : Change} (h : ∀ e, change ≠ .event e) :
    left (undergo change) w =
      { w with files := filesAfter w.files change, clock := clockAfter w.clock change } := by
  cases change with
  | event e => exact absurd rfl (h e)
  | _ =>
    unfold undergo filesAfter clockAfter
    rw [left_modify]

/-! ## Scans -/

/-- The archives that are begun when archives are processed one after the other: those behind
one at which work stops are not. -/
def begun (stops : String → Bool) : List String → List String
  | [] => []
  | archive :: archives => archive :: if stops archive then [] else begun stops archives

theorem begun_eq_self {stops : String → Bool} {archives : List String}
    (h : ∀ archive ∈ archives, stops archive = false) : begun stops archives = archives := by
  induction archives with
  | nil => rfl
  | cons archive archives ih =>
    unfold begun
    rw [h archive List.mem_cons_self, ih fun a ha => h a (List.mem_cons_of_mem _ ha)]
    rfl

theorem begun_append {stops : String → Bool} {before behind : List String} {archive : String}
    (hbefore : ∀ a ∈ before, stops a = false) (harchive : stops archive = true) :
    begun stops (before ++ archive :: behind) = before ++ [archive] := by
  induction before with
  | nil =>
    change archive :: (if stops archive then [] else begun stops behind) = [archive]
    rw [if_pos harchive]
  | cons a before ih =>
    change a :: (if stops a then [] else begun stops (before ++ archive :: behind)) = _
    rw [hbefore a List.mem_cons_self, ih fun a ha => hbefore a (List.mem_cons_of_mem _ ha)]
    rfl

theorem run_remember (archive : String) (time : Binary64) :
    (remember archive time).run w = .ok () { w with taken := w.taken.put archive time } := rfl

/-- The first archive is remembered and processed; the others follow unless work stops there. -/
theorem run_processAll_cons (archive : String) (archives : List String) :
    ∃ log,
      let w' := { w with
        log
        reports := w.reports ++ (w.reportOf? archive).toList
        taken := w.taken.put archive w.clock }
      (processAll (archive :: archives)).run w =
        match w.stop? archive with
        | none => (processAll archives).run w'
        | some e => .error e w' := by
  obtain ⟨log, h⟩ := run_process { w with taken := w.taken.put archive w.clock } archive
  refine ⟨log, ?_⟩
  rw [processAll, EStateM.run_bind, EStateM.run_get]
  dsimp only
  rw [EStateM.run_bind, run_remember]
  dsimp only
  rw [run_bind_of_run h]
  rfl

/-- Archives that are processed one after the other are reported and remembered up to the first
one at which work stops. -/
theorem run_processAll (archives : List String) :
    ∃ log, (processAll archives).run w =
      endedBy (archives.findSome? w.stop?) ()
        { w with
          log
          reports := w.reports ++
            (begun (fun archive => (w.stop? archive).isSome) archives).filterMap w.reportOf?
          taken := putAll w.clock
            (begun (fun archive => (w.stop? archive).isSome) archives) w.taken } := by
  induction archives generalizing w with
  | nil =>
    exact ⟨w.log, congrArg (EStateM.Result.ok ()) (w.with_reports_append_nil w.log).symm⟩
  | cons archive archives ih =>
    have hreports : ∀ l : List String, (archive :: l).filterMap w.reportOf? =
        (w.reportOf? archive).toList ++ l.filterMap w.reportOf? := by
      intro l
      rw [List.filterMap_cons]
      cases w.reportOf? archive <;> rfl
    obtain ⟨log, h⟩ := w.run_processAll_cons archive archives
    rw [h, List.findSome?_cons]
    unfold begun
    rw [hreports]
    cases hstop : w.stop? archive with
    | some e =>
      refine ⟨log, ?_⟩
      simp only [Option.isSome_some, if_true, List.filterMap_nil, List.append_nil]
      rfl
    | none =>
      obtain ⟨log', h'⟩ := ih { w with
        log
        reports := w.reports ++ (w.reportOf? archive).toList
        taken := w.taken.put archive w.clock }
      refine ⟨log', ?_⟩
      simp only [Option.isSome_none, if_false, Bool.false_eq_true]
      rw [h', ← List.append_assoc]
      rfl

/-- The archives that a scan begins. -/
def scanned : List String :=
  match archives w.files w.folder with
  | .ok archives => begun (fun archive => (w.stop? archive).isSome) archives
  | .error _ => []

/-- The failure with which a scan stops. -/
def scanStop? : Option ReadFailure :=
  match archives w.files w.folder with
  | .ok archives => archives.findSome? w.stop?
  | .error e => some e

/-- A scan remembers the time for every archive that it begins, and reports those of them that
can be read. -/
theorem run_processExisting :
    ∃ log, processExisting.run w =
      endedBy w.scanStop? ()
        { w with
          log
          reports := w.reports ++ w.scanned.filterMap w.reportOf?
          taken := putAll w.clock w.scanned w.taken } := by
  unfold processExisting scanned scanStop?
  rw [EStateM.run_bind, EStateM.run_get]
  dsimp only
  cases archives w.files w.folder with
  | ok archives => exact w.run_processAll archives
  | error e =>
    exact ⟨w.log, congrArg (EStateM.Result.error e) (w.with_reports_append_nil w.log).symm⟩

end SectionTimes.Watcher
