import SectionTimes.Proofs.CommandLine.Fetching
import SectionTimes.Proofs.Watcher.Stopping

/-!
# What the program stops for, and when it asks

Each part of the program stops for failures of some sort only, and most parts ask nothing of the
bridge.  Watching stops for nothing but an archive that is refused, once there is a folder to
watch; only fetching asks.
-/

namespace SectionTimes

/-! ## Watchers -/

namespace Watcher

open Bugreport

/-- The failure to read an archive that is refused. -/
def IsRefusal (e : ReadFailure) : Prop := ∃ r, e = .refused r

theorem failsBy_process (archive : String) : FailsBy IsRefusal (process archive) := by
  intro w e w' hrun
  obtain ⟨r, -, he⟩ := run_process_eq_error_iff.1 ⟨w', hrun⟩
  exact ⟨r, he⟩

theorem failsBy_handle (e : Event) : FailsBy IsRefusal (handle e) := by
  unfold handle
  cases e.path? with
  | none => exact failsBy_pure ()
  | some path =>
    dsimp only
    unfold takeUp
    refine failsBy_get.bind fun w => ?_
    split
    · refine (failsBy_process _).bind fun found => ?_
      split
      · exact failsBy_modify _
      · exact failsBy_pure ()
    · exact failsBy_pure ()

/-- Nothing that happens stops a watcher but an archive that is refused. -/
theorem failsBy_undergoAll (changes : List Change) : FailsBy IsRefusal (undergoAll changes) := by
  induction changes with
  | nil => exact failsBy_pure ()
  | cons change changes ih =>
    refine FailsBy.bind ?_ fun _ => ih
    cases change with
    | event e => exact failsBy_handle e
    | write _ _ | makeFolder _ | remove _ | setClock _ => exact failsBy_modify _

/-- A scan is stopped by an archive that is refused, or reports nothing as there is no folder. -/
theorem processExisting_error_cases {w w' : Watcher} {e : ReadFailure}
    (h : processExisting.run w = .error e w') :
    IsRefusal e ∨ archives w.files w.folder = .error e ∧ w'.reports = w.reports := by
  obtain ⟨log, hrun⟩ := w.run_processExisting
  have hstop : w.scanStop? = some e := exists_endedBy_eq_error_iff.1 ⟨w', hrun.symm.trans h⟩
  rw [hstop] at hrun
  cases hrun.symm.trans h
  unfold scanStop? at hstop
  unfold scanned
  cases harchives : archives w.files w.folder with
  | ok names =>
    rw [harchives] at hstop
    obtain ⟨archive, -, hfound⟩ := List.exists_of_findSome?_eq_some hstop
    obtain ⟨r, -, he⟩ := stop?_eq_some_iff.1 hfound
    exact Or.inl ⟨r, he⟩
  | error e' =>
    rw [harchives] at hstop
    cases hstop
    exact Or.inr ⟨rfl, List.append_nil _⟩

end Watcher

namespace CommandLine

variable {α β : Type} {work : Work α}

/-! ## Asking nothing -/

/-- Work that asks nothing of the bridge, whether or not it fails. -/
def AsksNothing (work : Work α) : Prop :=
  ∀ s, (endOf (work.run s)).link.calls = s.link.calls

theorem IsAside.asksNothing (h : IsAside work) : AsksNothing work := by
  intro s
  obtain ⟨log, hlog⟩ := h s
  rw [hlog]

theorem AsksNothing.bind {f : α → Work β} (h : AsksNothing work) (hf : ∀ a, AsksNothing (f a)) :
    AsksNothing (work >>= f) := by
  intro s
  have hfirst := h s
  rw [EStateM.run_bind]
  cases hrun : work.run s with
  | error stop s' =>
    rw [hrun] at hfirst
    exact hfirst
  | ok a s' =>
    rw [hrun] at hfirst
    exact (hf a s').trans hfirst

theorem AsksNothing.tryCatch {handler : Stop → Work α} (h : AsksNothing work)
    (hhandler : ∀ stop, AsksNothing (handler stop)) : AsksNothing (tryCatch work handler) := by
  intro s
  have hfirst := h s
  rw [Logged.run_tryCatch]
  cases hrun : work.run s with
  | ok a s' =>
    rw [hrun] at hfirst
    exact hfirst
  | error stop s' =>
    rw [hrun] at hfirst
    exact (hhandler stop s').trans hfirst

theorem asksNothing_print (line : String) : AsksNothing (Work.print line) := fun _ => rfl

theorem failsBy_noting {ε : Type} {P : Stop → Prop} {stop : ε → Stop} (h : ∀ e, P (stop e))
    (x : Logged ε α) : FailsBy P (Work.noting stop x) := by
  intro s e s' hrun
  rw [run_noting] at hrun
  split at hrun
  · cases hrun
  · cases hrun
    exact h _

namespace Durations

variable {a : Arguments} {environment : Table String String} {config : Config} {format : Format}

/-! ## Before reporting -/

theorem isFailure_ofConfig (e : Config.Failure) : (Stop.ofConfig e).IsFailure := by
  unfold Stop.ofConfig
  split
  · exact Or.inl ⟨_, rfl⟩
  · exact Or.inr ⟨_, rfl⟩

theorem isFailure_stopOfPull (e : Device.Failure) : (stopOfPull e).IsFailure := by
  unfold stopOfPull
  split
  · exact Or.inl ⟨_, rfl⟩
  · exact Or.inl ⟨_, rfl⟩
  · exact Or.inr ⟨_, rfl⟩

theorem failsBy_config (a : Arguments) (environment : Table String String) :
    FailsBy Stop.IsFailure (Work.config a environment) := by
  unfold Work.config
  refine failsBy_get.bind fun s => ?_
  refine (failsBy_noting (fun e => Or.inr ⟨_, rfl⟩) _).bind fun file => ?_
  split
  · exact failsBy_pure _
  · exact failsBy_throw (isFailure_ofConfig _)

theorem failsBy_settle (a : Arguments) (environment : Table String String) :
    FailsBy Stop.IsFailure (settle a environment) := by
  have hrest : FailsBy Stop.IsFailure (do
      let config ← Work.config a environment
      let format ← formatOf config.format
      Work.note .debug ("Config: " ++ config.describe)
      return (config, format)) := by
    refine (failsBy_config a environment).bind fun config => ?_
    refine FailsBy.bind ?_ fun format => (failsBy_modify _).bind fun _ => failsBy_pure _
    rcases formatOf_cases config.format with ⟨format, h⟩ | ⟨stop, hstop, h⟩
    · exact h ▸ failsBy_pure format
    · exact h ▸ failsBy_throw hstop
  unfold settle
  refine (failsBy_modify _).bind fun _ => ?_
  split
  · exact (failsBy_throw (P := Stop.IsFailure) (Or.inl ⟨_, rfl⟩)).bind fun _ => hrest
  · exact hrest

theorem failsBy_pull (config : Config) : FailsBy Stop.IsFailure (pull config) := by
  intro s stop s' hrun
  rw [run_pull] at hrun
  split at hrun
  · cases hrun
  · cases hrun
    exact isFailure_stopOfPull _

theorem failsBy_prepare (a : Arguments) (environment : Table String String) :
    FailsBy Stop.IsFailure (prepare a environment) := by
  rw [prepare_eq]
  refine (failsBy_settle a environment).bind fun found => ?_
  dsimp only
  split
  · exact (failsBy_pull _).bind fun _ => failsBy_pure _
  · exact failsBy_pure _

/-- Without fetching nothing is asked before anything is reported. -/
theorem asksNothing_prepare (hpull : a.has "pull" = false) (environment : Table String String) :
    AsksNothing (prepare a environment) := by
  rw [prepare_eq]
  refine (isAside_settle a environment).asksNothing.bind fun found => ?_
  rw [hpull]
  exact (isAside_pure _).asksNothing

/-! ## Reporting -/

theorem failsBy_folderOf (setting : Value) (archive : Option String) :
    FailsBy Stop.IsFailure (folderOf setting archive) := by
  rcases folderOf_cases setting archive with ⟨folder, h⟩ | ⟨stop, hstop, h⟩
  · exact h ▸ failsBy_pure folder
  · exact h ▸ failsBy_throw hstop

theorem asksNothing_folderOf (setting : Value) (archive : Option String) :
    AsksNothing (folderOf setting archive) := by
  rcases folderOf_cases setting archive with ⟨folder, h⟩ | ⟨stop, -, h⟩
  · exact h ▸ (isAside_pure folder).asksNothing
  · exact h ▸ (isAside_throw stop).asksNothing

theorem failsBy_report (a : Arguments) (config : Config) (format : Format) :
    FailsBy Stop.IsFailure (report a config format) := by
  unfold report
  refine (failsBy_modify _).bind fun _ => (failsBy_folderOf _ _).bind fun folder => ?_
  refine failsBy_get.bind fun s => (failsBy_noting isFailure_ofReading _).bind fun metrics => ?_
  refine (failsBy_modify _).bind fun _ => ?_
  split
  · exact failsBy_modify _
  · dsimp only
    split
    · exact failsBy_modify _
    · exact failsBy_pure _

theorem asksNothing_report (a : Arguments) (config : Config) (format : Format) :
    AsksNothing (report a config format) := by
  unfold report
  refine (isAside_note _ _).asksNothing.bind fun _ => ?_
  refine (asksNothing_folderOf _ _).bind fun folder => isAside_get.asksNothing.bind fun s => ?_
  refine (isAside_noting _ _).asksNothing.bind fun metrics => ?_
  refine (isAside_note _ _).asksNothing.bind fun _ => ?_
  split
  · exact asksNothing_print _
  · dsimp only
    split
    · exact asksNothing_print _
    · exact (isAside_pure _).asksNothing

/-! ## Watching -/

/-- A stop for an archive that is refused. -/
def StopsAtRefused (stop : Stop) : Prop := ∃ r, stop = .escaped (.reading (.refused r))

theorem stopsAtRefused_ofReading {e : Bugreport.ReadFailure} (h : Watcher.IsRefusal e) :
    StopsAtRefused (Stop.ofReading e) := by
  obtain ⟨r, rfl⟩ := h
  exact ⟨r, rfl⟩

namespace Watch

theorem failsBy_run (w : Watch) {work : Watching Unit} (h : FailsBy Watcher.IsRefusal work) :
    FailsBy StopsAtRefused (w.run work) := by
  intro s stop s' hrun
  rw [run_run] at hrun
  split at hrun
  · cases hrun
  · rename_i e w' he
    cases hrun
    exact stopsAtRefused_ofReading (h _ e w' he)

theorem asksNothing_run (w : Watch) (work : Watching Unit) : AsksNothing (w.run work) := by
  intro s
  rw [endOf_run]
  rfl

theorem asksNothing_start (setting : Value) (format : Format) :
    AsksNothing (start setting format) := by
  unfold start
  refine (asksNothing_folderOf _ _).bind fun folder => (asksNothing_run _ _).bind fun w => ?_
  refine AsksNothing.bind (fun _ => rfl) fun _ => ?_
  exact (isAside_note _ _).asksNothing.bind fun _ => (isAside_pure _).asksNothing

theorem failsBy_pass (w : Watch) (changes : List Change) :
    FailsBy StopsAtRefused (w.pass changes) := by
  intro s stop s' hrun
  have hpass := failsBy_run w (Watcher.failsBy_undergoAll changes) s
  unfold pass at hrun
  rw [Logged.run_tryCatch] at hrun
  cases hfirst : (w.run (Watcher.undergoAll changes)).run s with
  | ok w' s₁ =>
    rw [hfirst] at hrun
    cases hrun
  | error stop₁ s₁ =>
    rw [hfirst] at hrun
    -- the stop is thrown again when the end was noted
    cases hrun
    exact hpass stop s₁ hfirst

theorem asksNothing_pass (w : Watch) (changes : List Change) : AsksNothing (w.pass changes) := by
  unfold pass
  refine (asksNothing_run _ _).tryCatch fun stop => ?_
  exact (isAside_note _ _).asksNothing.bind fun _ => (isAside_throw stop).asksNothing

end Watch

theorem failsBy_watch (w : Watch) (changes : List (List Change)) :
    FailsBy StopsAtRefused (watch w changes) := by
  induction changes generalizing w with
  | nil => exact (failsBy_modify _).bind fun _ => failsBy_modify _
  | cons change changes ih => exact (Watch.failsBy_pass w change).bind fun w => ih w

theorem asksNothing_watch (w : Watch) (changes : List (List Change)) :
    AsksNothing (watch w changes) := by
  induction changes generalizing w with
  | nil => exact (isAside_note _ _).asksNothing.bind fun _ => (isAside_note _ _).asksNothing
  | cons change changes ih => exact (Watch.asksNothing_pass w change).bind fun w => ih w

end Durations

end CommandLine

end SectionTimes
