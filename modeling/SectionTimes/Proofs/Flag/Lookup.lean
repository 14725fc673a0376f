import SectionTimes.Proofs.Data.Table
import SectionTimes.Proofs.Device.Asking
import SectionTimes.Proofs.Flag.Gate

/-!
# Looking flags up

A flag that was read is given again without asking the device; a flag that was not is read from
it, and kept if that succeeds.  So what a checker has kept are the flags read from the device by
the lookups until now, each of them once.
-/

namespace SectionTimes.Flag

/-- One time that a flag is looked up, with the checker as it is then. -/
structure Lookup where
  /-- The checker. -/
  checker : Checker
  /-- The flag. -/
  flag : String

namespace Lookup

variable (d : Device) (l : Lookup)

/-- How a lookup goes. -/
def result : EStateM.Result Device.Failure Checker FlagState :=
  (Checker.get d l.flag).run l.checker

/-- The checker that a lookup leaves. -/
def next : Checker := endOf (l.result d)

/-- What the bridge is asked for a lookup. -/
def calls : List (List String) := (l.next d).link.calls.drop l.checker.link.calls.length

/-- The flag and its state, if a lookup succeeds. -/
def value? : Option (String × FlagState) :=
  match l.result d with
  | .ok v _ => some (l.flag, v)
  | .error _ _ => none

/-- The flag and its state, if a lookup reads it from the device. -/
def read? : Option (String × FlagState) := if (l.calls d).isEmpty then none else l.value? d

/-- How a lookup goes that reads the flag from the device. -/
def fresh : EStateM.Result Device.Failure Checker FlagState :=
  match (d.flag l.flag).run l.checker.link with
  | .ok v link =>
    .ok v
      { cache := l.checker.cache.put l.flag v
        link := { link with
          log := link.log ++ [⟨.debug, "Flag " ++ l.flag ++ " = " ++ Checker.stateText v⟩] } }
  | .error e link => .error e { l.checker with link }

variable {d l}

theorem run_talk {α : Type} (work : Device.Talk α) (s : Checker) :
    (Checker.talk work).run s =
      match work.run s.link with
      | .ok x link => .ok x { s with link }
      | .error e link => .error e { s with link } := rfl

/-- A flag that was read is given as it was read, and one that was not is read. -/
theorem result_eq (d : Device) (l : Lookup) :
    l.result d =
      match l.checker.cache.find? l.flag with
      | some v => .ok v l.checker
      | none => l.fresh d := by
  have hget : EStateM.get.run l.checker =
      (.ok l.checker l.checker : EStateM.Result Device.Failure Checker Checker) := rfl
  unfold result Checker.get
  rw [EStateM.run_bind, hget]
  dsimp only
  cases l.checker.cache.find? l.flag with
  | some v => rfl
  | none =>
    dsimp only
    rw [EStateM.run_bind, run_talk]
    unfold fresh
    cases (d.flag l.flag).run l.checker.link <;> rfl

theorem result_of_kept {v : FlagState} (h : l.checker.cache.find? l.flag = some v) :
    l.result d = .ok v l.checker := by
  rw [result_eq, h]

theorem result_of_not_kept (h : l.checker.cache.find? l.flag = none) :
    l.result d = l.fresh d := by
  rw [result_eq, h]

theorem endOf_fresh_calls (d : Device) (l : Lookup) :
    (endOf (l.fresh d)).link.calls = l.checker.link.calls ++ (d.flagWords? l.flag).toList := by
  rw [← d.calls_flag l.checker.link l.flag]
  unfold fresh
  cases (d.flag l.flag).run l.checker.link <;> rfl

theorem calls_of_kept {v : FlagState} (h : l.checker.cache.find? l.flag = some v) :
    l.calls d = [] := by
  unfold calls next
  rw [result_of_kept h]
  exact List.drop_length

theorem calls_of_not_kept (h : l.checker.cache.find? l.flag = none) :
    l.calls d = (d.flagWords? l.flag).toList := by
  unfold calls next
  rw [result_of_not_kept h, endOf_fresh_calls, List.drop_left]

theorem next_calls (d : Device) (l : Lookup) :
    (l.next d).link.calls = l.checker.link.calls ++ l.calls d := by
  cases h : l.checker.cache.find? l.flag with
  | some v =>
    rw [calls_of_kept h, next, result_of_kept h]
    exact (List.append_nil _).symm
  | none => rw [calls_of_not_kept h, next, result_of_not_kept h, endOf_fresh_calls]

/-- What is kept after a lookup is what was kept before and what it read. -/
theorem next_entries (d : Device) (l : Lookup) :
    (l.next d).cache.entries = l.checker.cache.entries ++ (l.read? d).toList := by
  cases h : l.checker.cache.find? l.flag with
  | some v =>
    rw [read?, calls_of_kept h, next, result_of_kept h]
    exact (List.append_nil _).symm
  | none =>
    unfold read? value? next
    rw [calls_of_not_kept h, result_of_not_kept h]
    unfold fresh
    cases hflag : (d.flag l.flag).run l.checker.link with
    | error e link =>
      dsimp only
      rw [ite_self]
      exact (List.append_nil _).symm
    | ok v link =>
      obtain ⟨words, hwords⟩ :=
        Option.isSome_iff_exists.1 (d.isSome_flagWords?_of_flag_eq_ok _ hflag)
      rw [hwords]
      exact Table.entries_put v h

end Lookup

/-! ## Lookups one after the other -/

/-- Whether lookups lead from one checker to another, each going on from where the one before it
ended. -/
def IsHistory (d : Device) : Checker → List Lookup → Checker → Prop
  | s, [], s' => s = s'
  | s, l :: ls, s' => l.checker = s ∧ IsHistory d (l.next d) ls s'

/-- What was read from the device. -/
def reads (d : Device) (ls : List Lookup) : List (String × FlagState) :=
  ls.filterMap (Lookup.read? d)

variable {d : Device} {s s' : Checker} {ls ls' : List Lookup}

theorem isHistory_append :
    IsHistory d s (ls ++ ls') s' ↔
      ∃ between, IsHistory d s ls between ∧ IsHistory d between ls' s' := by
  induction ls generalizing s with
  | nil => exact ⟨fun h => ⟨s, rfl, h⟩, fun ⟨_, hs, h⟩ => hs ▸ h⟩
  | cons l ls ih =>
    rw [List.cons_append, IsHistory, ih]
    constructor
    · rintro ⟨hl, between, h, h'⟩
      exact ⟨between, ⟨hl, h⟩, h'⟩
    · rintro ⟨between, ⟨hl, h⟩, h'⟩
      exact ⟨hl, between, h, h'⟩

theorem IsHistory.before {l : Lookup} (h : IsHistory d s (ls ++ l :: ls') s') :
    IsHistory d s ls l.checker := by
  obtain ⟨between, hls, hl, -⟩ := isHistory_append.1 h
  rw [hl]
  exact hls

/-- A checker keeps what it kept and what is read. -/
theorem IsHistory.entries (h : IsHistory d s ls s') :
    s'.cache.entries = s.cache.entries ++ reads d ls := by
  induction ls generalizing s with
  | nil =>
    rw [← show s = s' from h]
    exact (List.append_nil _).symm
  | cons l ls ih =>
    obtain ⟨rfl, hrest⟩ := h
    rw [ih hrest, l.next_entries, List.append_assoc]
    congr 1
    unfold reads
    rw [List.filterMap_cons]
    cases l.read? d <;> rfl

/-- The device is asked what its lookups ask. -/
theorem IsHistory.calls (h : IsHistory d s ls s') :
    s'.link.calls = s.link.calls ++ ls.flatMap (Lookup.calls d) := by
  induction ls generalizing s with
  | nil =>
    rw [← show s = s' from h]
    exact (List.append_nil _).symm
  | cons l ls ih =>
    obtain ⟨rfl, hrest⟩ := h
    rw [ih hrest, l.next_calls, List.flatMap_cons, List.append_assoc]

end SectionTimes.Flag
