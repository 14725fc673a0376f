import SectionTimes.Proofs.Flag.Lookup

/-!
# The snapshot that a checker answers from

However many calls are made on a checker, and whatever the device replies, the flags that it has
read make up one table.  Nothing in it is ever read again or changed, and each answer is the one
that the table gives.
-/

namespace SectionTimes.Flag

/-- A call on a checker. -/
inductive Call where
  /-- Asks for a flag. -/
  | get (flag : String)
  /-- Asks why a test does not run. -/
  | skipReason (h : Hierarchy) (test : Subject) (owner : Option Subject)

/-- Whether a flag is on, looked up in a given way. -/
def isOnBy {σ : Type} (lookUp : String → EStateM Device.Failure σ FlagState) (flag : String) :
    EStateM Device.Failure σ Bool := do
  return (← lookUp flag) == .on

/-- Makes a call, with flags looked up in a given way. -/
def Call.make {σ : Type} (lookUp : String → EStateM Device.Failure σ FlagState) :
    Call → EStateM Device.Failure σ Unit
  | .get flag => do
    let _ ← lookUp flag
  | .skipReason h test owner => do
    let _ ← reason? (isOnBy lookUp) (required h test owner)

/-- What is left when calls were made one after the other, whether or not they failed. -/
def leftBy {σ : Type} (lookUp : String → EStateM Device.Failure σ FlagState) (calls : List Call)
    (s : σ) : σ :=
  calls.foldl (fun s call => endOf ((call.make lookUp).run s)) s

/-- A checker, and the lookups made until now. -/
structure Trace where
  /-- The checker. -/
  checker : Checker
  /-- The lookups. -/
  lookups : List Lookup

/-- What work gives, with the lookups made. -/
def withLookups {α : Type} (ls : List Lookup) :
    EStateM.Result Device.Failure Checker α → EStateM.Result Device.Failure Trace α
  | .ok a s => .ok a ⟨s, ls⟩
  | .error e s => .error e ⟨s, ls⟩

/-- Looks a flag up and takes down that it was. -/
def lookUp (d : Device) (flag : String) : EStateM Device.Failure Trace FlagState := fun t =>
  withLookups (t.lookups ++ [⟨t.checker, flag⟩]) ((Checker.get d flag).run t.checker)

/-- A checker that has not read anything. -/
def Checker.new (link : Device.Link) : Checker := ⟨.empty, link⟩

/-- The lookups that calls on a new checker make. -/
def traceOf (d : Device) (link : Device.Link) (calls : List Call) : Trace :=
  leftBy (lookUp d) calls ⟨.new link, []⟩

/-! ## Traces -/

variable {d : Device}

/-- Whether work with a trace is work with a checker, its lookups taken down. -/
def Follows {α : Type} (d : Device) (traced : EStateM Device.Failure Trace α) (work : Checking α) :
    Prop :=
  ∀ t, ∃ ls, traced.run t = withLookups (t.lookups ++ ls) (work.run t.checker) ∧
    IsHistory d t.checker ls (endOf (work.run t.checker))

variable {α β : Type} {traced : EStateM Device.Failure Trace α} {work : Checking α}

theorem follows_pure (a : α) : Follows d (pure a) (pure a) := by
  intro t
  refine ⟨[], ?_, rfl⟩
  rw [List.append_nil]
  rfl

theorem Follows.bind {f : α → EStateM Device.Failure Trace β} {g : α → Checking β}
    (h : Follows d traced work) (hf : ∀ a, Follows d (f a) (g a)) :
    Follows d (traced >>= f) (work >>= g) := by
  intro t
  obtain ⟨ls, hrun, hls⟩ := h t
  rw [EStateM.run_bind, EStateM.run_bind, hrun]
  cases hwork : work.run t.checker with
  | error e s =>
    rw [hwork] at hls
    exact ⟨ls, rfl, hls⟩
  | ok a s =>
    rw [hwork] at hls
    obtain ⟨ls', hrun', hls'⟩ := hf a ⟨s, t.lookups ++ ls⟩
    refine ⟨ls ++ ls', ?_, isHistory_append.2 ⟨s, hls, hls'⟩⟩
    rw [← List.append_assoc]
    exact hrun'

theorem follows_lookUp (flag : String) : Follows d (lookUp d flag) (Checker.get d flag) :=
  fun t => ⟨[⟨t.checker, flag⟩], rfl, rfl, rfl⟩

theorem follows_select (wanted : Bool) (flags : List String) :
    Follows d (select (isOnBy (lookUp d)) wanted flags)
      (select (isOnBy (Checker.get d)) wanted flags) := by
  induction flags with
  | nil => exact follows_pure _
  | cons flag flags ih =>
    refine ((follows_lookUp flag).bind fun v => follows_pure _).bind fun on => ?_
    exact ih.bind fun rest => follows_pure _

theorem follows_reason? (r : Required) :
    Follows d (reason? (isOnBy (lookUp d)) r) (Checker.skipReason d r) := by
  refine (follows_select true r.off).bind fun areOn => ?_
  split
  · exact (follows_select false r.on).bind fun areOff => follows_pure _
  · exact follows_pure _

theorem follows_make (call : Call) :
    Follows d (call.make (lookUp d)) (call.make (Checker.get d)) := by
  cases call with
  | get flag => exact (follows_lookUp flag).bind fun v => follows_pure _
  | skipReason h test owner => exact (follows_reason? _).bind fun reason => follows_pure _

theorem endOf_withLookups (ls : List Lookup) (r : EStateM.Result Device.Failure Checker α) :
    endOf (withLookups ls r) = ⟨endOf r, ls⟩ := by
  cases r <;> rfl

/-- The lookups taken down lead from one checker to the other. -/
theorem exists_leftBy_lookUp (d : Device) (calls : List Call) (t : Trace) :
    ∃ ls, leftBy (lookUp d) calls t =
        ⟨leftBy (Checker.get d) calls t.checker, t.lookups ++ ls⟩ ∧
      IsHistory d t.checker ls (leftBy (Checker.get d) calls t.checker) := by
  induction calls generalizing t with
  | nil =>
    refine ⟨[], ?_, rfl⟩
    rw [List.append_nil]
    rfl
  | cons call calls ih =>
    obtain ⟨ls, hrun, hls⟩ := follows_make (d := d) call t
    obtain ⟨ls', hleft, hls'⟩ := ih (endOf ((call.make (lookUp d)).run t))
    rw [hrun, endOf_withLookups] at hleft hls'
    refine ⟨ls ++ ls', ?_, isHistory_append.2 ⟨_, hls, hls'⟩⟩
    rw [leftBy, List.foldl_cons, hrun, endOf_withLookups, ← List.append_assoc]
    exact hleft

/-! ## Answers -/

/-- The value of a flag in a table of values. -/
def valueOf : FlagState → Value
  | .on => .bool true
  | .off => .bool false
  | .unset => .null

/-- What a checker has read, as a table of values. -/
def Checker.snapshot (s : Checker) : Table String Value := s.cache.mapValues valueOf

variable {s s' : Checker}

theorem isOnIn_snapshot {flag : String} {v : FlagState} (h : (flag, v) ∈ s.cache.entries) :
    isOnIn s.snapshot flag = (v == .on) := by
  rw [isOnIn, Checker.snapshot, Table.find?_mapValues, Table.find?_eq_some_iff.2 h]
  cases v <;> rfl

/-- A state that is given has been read, now or before. -/
theorem entries_of_get {flag : String} {v : FlagState}
    (h : (Checker.get d flag).run s = .ok v s') :
    s.cache.entries <+: s'.cache.entries ∧ (flag, v) ∈ s'.cache.entries := by
  let l : Lookup := ⟨s, flag⟩
  have hresult : l.result d = .ok v s' := h
  have hentries := l.next_entries d
  rw [Lookup.next, hresult] at hentries
  refine ⟨⟨_, hentries.symm⟩, ?_⟩
  rw [l.result_eq d] at hresult
  cases hfind : s.cache.find? flag with
  | some v' =>
    simp only [l, hfind] at hresult
    cases hresult
    exact Table.find?_eq_some_iff.1 hfind
  | none =>
    simp only [l, hfind, Lookup.fresh] at hresult
    cases hflag : (d.flag flag).run s.link with
    | error e link =>
      rw [hflag] at hresult
      cases hresult
    | ok v' link =>
      rw [hflag] at hresult
      cases hresult
      rw [Table.entries_put v hfind]
      exact List.mem_append_right _ (List.mem_singleton_self _)

theorem entries_of_isOnBy {flag : String} {on : Bool}
    (h : (isOnBy (Checker.get d) flag).run s = .ok on s') :
    s.cache.entries <+: s'.cache.entries ∧ ∀ later : Checker,
      s'.cache.entries <+: later.cache.entries → on = isOnIn later.snapshot flag := by
  obtain ⟨v, between, hget, hpure⟩ := exists_of_run_bind h
  cases hpure
  obtain ⟨hentries, hmem⟩ := entries_of_get hget
  exact ⟨hentries, fun later h' => (isOnIn_snapshot (h'.subset hmem)).symm⟩

/-- Flags that are looked up are selected by what is read of them then or later. -/
theorem select_of_run {wanted : Bool} {flags found : List String}
    (h : (select (isOnBy (Checker.get d)) wanted flags).run s = .ok found s') :
    s.cache.entries <+: s'.cache.entries ∧ ∀ later : Checker,
      s'.cache.entries <+: later.cache.entries →
        found = flags.filter fun flag => isOnIn later.snapshot flag == wanted := by
  induction flags generalizing s found with
  | nil =>
    cases h
    exact ⟨List.prefix_rfl, fun _ _ => rfl⟩
  | cons flag flags ih =>
    obtain ⟨on, s₁, hon, h⟩ := exists_of_run_bind h
    obtain ⟨rest, s₂, hrest, h⟩ := exists_of_run_bind h
    cases h
    obtain ⟨hfirst, hflag⟩ := entries_of_isOnBy hon
    obtain ⟨hbehind, hfilter⟩ := ih hrest
    refine ⟨hfirst.trans hbehind, fun later h' => ?_⟩
    rw [List.filter_cons, ← hflag later (hbehind.trans h'), hfilter later h']

/-- A reason that is given is the one by what was read then or before. -/
theorem reason_of_run {r : Required} {reason : Option Reason}
    (h : (Checker.skipReason d r).run s = .ok reason s') :
    s.cache.entries <+: s'.cache.entries ∧ reason = r.reasonIf (isOnIn s'.snapshot) := by
  obtain ⟨areOn, s₁, hoff, h⟩ := exists_of_run_bind h
  obtain ⟨hfirst, hareOn⟩ := select_of_run hoff
  unfold Required.reasonIf
  cases hempty : areOn.isEmpty with
  | false =>
    rw [hempty] at h
    cases h
    refine ⟨hfirst, ?_⟩
    rw [← hareOn s' List.prefix_rfl]
    simp [hempty]
  | true =>
    rw [hempty, if_pos rfl] at h
    obtain ⟨areOff, s₂, hon, h⟩ := exists_of_run_bind h
    obtain ⟨hbehind, hareOff⟩ := select_of_run hon
    cases h
    refine ⟨hfirst.trans hbehind, ?_⟩
    rw [← hareOn s' hbehind, ← hareOff s' List.prefix_rfl]
    simp [hempty]

/-! ## Runs -/

variable {link : Device.Link} {calls : List Call}

theorem traceOf_checker (d : Device) (link : Device.Link) (calls : List Call) :
    (traceOf d link calls).checker = leftBy (Checker.get d) calls (.new link) := by
  obtain ⟨ls, hleft, -⟩ := exists_leftBy_lookUp d calls ⟨.new link, []⟩
  rw [traceOf, hleft]

theorem isHistory_traceOf (d : Device) (link : Device.Link) (calls : List Call) :
    IsHistory d (.new link) (traceOf d link calls).lookups (traceOf d link calls).checker := by
  obtain ⟨ls, hleft, hls⟩ := exists_leftBy_lookUp d calls ⟨.new link, []⟩
  rw [traceOf, hleft]
  exact hls

theorem entries_of_new {s : Checker} {ls : List Lookup} (h : IsHistory d (.new link) ls s) :
    s.cache.entries = reads d ls := by
  rw [h.entries]
  rfl

theorem traceOf_append (more : List Call) :
    traceOf d link (calls ++ more) = leftBy (lookUp d) more (traceOf d link calls) :=
  List.foldl_append

theorem lookups_grow (more : List Call) :
    (traceOf d link calls).lookups <+: (traceOf d link (calls ++ more)).lookups := by
  obtain ⟨ls, hleft, -⟩ := exists_leftBy_lookUp d more (traceOf d link calls)
  rw [traceOf_append, hleft]
  exact List.prefix_append _ _

/-- The checker after a test was asked for and a reason given. -/
theorem eq_checker_of_skipReason {h : Hierarchy} {test : Subject} {owner : Option Subject}
    {reason : Option Reason} {s : Checker}
    (hrun : (Checker.skipReason d (required h test owner)).run (traceOf d link calls).checker =
      .ok reason s) :
    s = (traceOf d link (calls ++ [.skipReason h test owner])).checker := by
  rw [traceOf_checker] at hrun ⊢
  rw [leftBy, List.foldl_append, List.foldl_cons, List.foldl_nil]
  change s = endOf ((Checker.skipReason d (required h test owner) >>= fun _ => pure ()).run _)
  rw [EStateM.run_bind]
  change (Checker.skipReason d (required h test owner)).run (calls.foldl _ _) = _ at hrun
  rw [hrun]
  rfl

/-- What a checker has read makes up one table, each flag being read once.  A flag in the table
is answered from it without a word to the device, one that is not is read whenever it is looked
up, and a test is judged as by the table. -/
theorem answers_from_one_snapshot (d : Device) (link : Device.Link) (calls : List Call) :
    let t := traceOf d link calls
    t.checker = leftBy (Checker.get d) calls (.new link) ∧
    t.checker.cache.entries = reads d t.lookups ∧
    ((reads d t.lookups).map Prod.fst).Nodup ∧
    t.checker.link.calls = link.calls ++ t.lookups.flatMap (Lookup.calls d) ∧
    (∀ before l behind, t.lookups = before ++ l :: behind →
      l.checker.cache.entries = reads d before ∧
      (∀ v, (l.flag, v) ∈ reads d before → l.result d = .ok v l.checker ∧ l.calls d = []) ∧
      (l.flag ∉ (reads d before).map Prod.fst →
        l.result d = l.fresh d ∧ l.calls d = (d.flagWords? l.flag).toList)) ∧
    (∀ flag v, (flag, v) ∈ reads d t.lookups →
      (Checker.get d flag).run t.checker = .ok v t.checker) ∧
    (∀ h test owner reason s,
      (Checker.skipReason d (required h test owner)).run t.checker = .ok reason s →
        s = (traceOf d link (calls ++ [.skipReason h test owner])).checker ∧
        reason = (reason? (recordLookup s.snapshot) (required h test owner) []).1) ∧
    ∀ more, reads d t.lookups <+: reads d (traceOf d link (calls ++ more)).lookups := by
  intro t
  have hhistory : IsHistory d (.new link) t.lookups t.checker := isHistory_traceOf d link calls
  have hentries : t.checker.cache.entries = reads d t.lookups := entries_of_new hhistory
  refine ⟨traceOf_checker d link calls, hentries, ?_, hhistory.calls, ?_, ?_, ?_, ?_⟩
  · rw [← hentries]
    exact t.checker.cache.nodup
  · intro before l behind hlookups
    rw [hlookups] at hhistory
    have hbefore : l.checker.cache.entries = reads d before := entries_of_new hhistory.before
    refine ⟨hbefore, fun v hv => ?_, fun hnot => ?_⟩
    · have hfind : l.checker.cache.find? l.flag = some v :=
        Table.find?_eq_some_iff.2 (hbefore ▸ hv)
      exact ⟨Lookup.result_of_kept hfind, Lookup.calls_of_kept hfind⟩
    · have hfind : l.checker.cache.find? l.flag = none := by
        rw [Table.find?_eq_none_iff, Table.keys, hbefore]
        exact hnot
      exact ⟨Lookup.result_of_not_kept hfind, Lookup.calls_of_not_kept hfind⟩
  · intro flag v hv
    have hfind : t.checker.cache.find? flag = some v :=
      Table.find?_eq_some_iff.2 (hentries ▸ hv)
    exact Lookup.result_of_kept (l := ⟨t.checker, flag⟩) hfind
  · intro h test owner reason s hrun
    refine ⟨eq_checker_of_skipReason hrun, ?_⟩
    rw [reason?_recordLookup]
    exact (reason_of_run hrun).2
  · intro more
    exact (lookups_grow more).filterMap _

/-- A device reached without further settings. -/
def plainDevice : Device := ⟨.null, .text "adb", .ofDecimal false 60 0⟩

/-- A device that gives one flag and fails at the next. -/
def failingLink : Device.Link :=
  .ofReplies ⟨.empty⟩ [.exited 0 "false" "" none, .exited 1 "" "gone" none]

/-- A test that needs two flags to be off. -/
def twoFlagCall : Call := .skipReason .empty (.function ⟨some ["p.first", "p.second"], none⟩) none

/-- The flag read before the failure is kept and judged by, the other is read anew. -/
theorem first_kept_after_failure :
    let t := traceOf plainDevice failingLink [twoFlagCall]
    (Checker.get plainDevice "p.first").run t.checker = .ok .off t.checker ∧
    (∃ l ∈ t.lookups, l.flag = "p.second" ∧ l.result plainDevice = l.fresh plainDevice) ∧
    ∃ s, (Checker.skipReason plainDevice
        (required .empty (.function ⟨none, some ["p.first"]⟩) none)).run t.checker =
          .ok (some (.areOff ["p.first"])) s ∧
      (reason? (recordLookup s.snapshot)
        (required .empty (.function ⟨none, some ["p.first"]⟩) none) []).1 =
          some (.areOff ["p.first"]) := by
  have hreads : reads plainDevice (traceOf plainDevice failingLink [twoFlagCall]).lookups =
      [("p.first", .off)] := by decide +kernel
  have hflags : (traceOf plainDevice failingLink [twoFlagCall]).lookups.map Lookup.flag =
      ["p.first", "p.second"] := by decide +kernel
  intro t
  obtain ⟨-, -, -, -, hlookups, hget, hskip, -⟩ :=
    answers_from_one_snapshot plainDevice failingLink [twoFlagCall]
  refine ⟨hget "p.first" .off (by rw [hreads]; exact List.mem_singleton_self _), ?_, ?_⟩
  · have hmem : "p.second" ∈ t.lookups.map Lookup.flag := by
      rw [hflags]
      decide
    obtain ⟨l, hl, hflag⟩ := List.mem_map.1 hmem
    obtain ⟨before, behind, happend⟩ := List.append_of_mem hl
    refine ⟨l, hl, hflag, ((hlookups before l behind happend).2.2 ?_).1⟩
    have hsub : (reads plainDevice before).Sublist [("p.first", .off)] := by
      rw [← hreads]
      exact (happend ▸ List.sublist_append_left before (l :: behind)).filterMap _
    intro hread
    rw [hflag] at hread
    exact absurd ((hsub.map Prod.fst).subset hread) (by decide)
  · have hrun : (match (Checker.skipReason plainDevice
        (required .empty (.function ⟨none, some ["p.first"]⟩) none)).run t.checker with
      | .ok reason _ => some reason
      | .error _ _ => none) = some (some (.areOff ["p.first"])) := by decide +kernel
    cases hresult : (Checker.skipReason plainDevice
        (required .empty (.function ⟨none, some ["p.first"]⟩) none)).run t.checker with
    | error e s =>
      rw [hresult] at hrun
      cases hrun
    | ok reason s =>
      rw [hresult] at hrun
      obtain rfl := Option.some.inj hrun
      exact ⟨s, rfl, (hskip .empty _ none _ s hresult).2.symm⟩

end SectionTimes.Flag
