import SectionTimes.Proofs.Device.FirstFailure
import SectionTimes.Proofs.Device.Quoting
import SectionTimes.Proofs.Flag.Declaration
import SectionTimes.Proofs.Flag.Precedence

/-!
# Declared flags can be read

What can be declared as a flag name is divided into a package and a flag.  So a device that is
asked for the flags of a test refuses none of them for its name: it is asked for each flag that was
not read before, by the two parts of the name, and only the bridge can fail.
-/

namespace SectionTimes.Flag

open Device Text.ShellCommand

variable {t t' : Tags} {want : Want} {values : List Value} {flag name : String}

/-! ## Names -/

/-- What can be declared is divided into two parts. -/
theorem exists_splitFlagName? (h : IsDeclarable name.toList) :
    ∃ package flag, splitFlagName? name = some (package, flag) := by
  obtain ⟨package, last, hname, hpackage, hlast, hdot⟩ := h.exists_last
  refine ⟨String.ofList package, String.ofList last, splitFlagName?_eq_some_iff.2 ⟨?_, ?_, ?_, ?_⟩⟩
  · rw [eq_append_dot_iff, hname, String.toList_ofList, String.toList_ofList]
  · rwa [String.toList_ofList]
  · rwa [ne_eq, String.ofList_eq_empty_iff]
  · rwa [ne_eq, String.ofList_eq_empty_iff]

theorem isDeclarable_of_checkNames {flags : List String} (h : checkNames values = .ok flags) :
    ∀ flag ∈ flags, IsDeclarable flag.toList := by
  intro flag hflag
  obtain ⟨-, rfl, hvalues⟩ := checkNames_eq_ok_iff.1 h
  obtain ⟨s, hs, hdeclarable⟩ := hvalues _ (List.mem_map_of_mem hflag)
  cases hs
  exact hdeclarable

/-! ## Declarations -/

/-- Declarations that were made one after the other, on what had none. -/
inductive Tags.IsDecorated : Tags → Prop where
  | none : IsDecorated Tags.none
  | declare {t t' : Tags} {want : Want} {values : List Value} (ht : t.IsDecorated)
      (hdeclare : t.declare want values = .ok t') : IsDecorated t'

/-- Declared flags have names that can be declared. -/
theorem Tags.IsDecorated.isDeclarable (h : t.IsDecorated) {flags : List String}
    (hget : t.get want = some flags) : ∀ flag ∈ flags, IsDeclarable flag.toList := by
  induction h generalizing flags with
  | none => cases want <;> cases hget
  | declare _ hdeclare ih =>
    obtain ⟨flags', hcheck, hput⟩ := Tags.get_of_declare hdeclare
    rw [hput] at hget
    split at hget
    · cases hget
      exact isDeclarable_of_checkNames hcheck
    · exact ih hget

variable {h h' : Hierarchy} {parents : List (List ClassId)} {k : ClassId}

/-- In a hierarchy that is built class by class all declarations were made so. -/
theorem IsBuilt.isDecorated (hbuilt : IsBuilt h parents) (k : ClassId) :
    (h.tagsOf k).IsDecorated := by
  induction hbuilt generalizing k with
  | empty => exact .none
  | @add h h' _ name _ methods ks _ hparents hadd ih =>
    obtain ⟨order, -, rfl⟩ := Hierarchy.add_eq_ok hparents hadd
    unfold Hierarchy.tagsOf at ih ⊢
    rcases Nat.lt_trichotomy k h.classes.length with hlt | rfl | hgt
    · rw [List.getElem?_append_left hlt]
      exact ih k
    · rw [List.getElem?_concat_length]
      exact .none
    · rw [List.getElem?_eq_none (by simp; omega)]
      exact .none
  | @declare h h' _ want values _ hdeclare ih =>
    rcases Hierarchy.declare_eq_ok hdeclare with ⟨-, rfl⟩ | ⟨front, cls, flags, hfront, hcheck, rfl⟩
    · exact ih k
    · unfold Hierarchy.tagsOf at ih ⊢
      rw [hfront] at ih
      rcases Nat.lt_trichotomy k front.length with hlt | rfl | hgt
      · have hfirst := ih k
        rw [List.getElem?_append_left hlt] at hfirst ⊢
        exact hfirst
      · have hlast := ih front.length
        rw [List.getElem?_concat_length] at hlast ⊢
        exact .declare hlast (Tags.declare_eq_ok_iff.2 ⟨flags, hcheck, rfl⟩)
      · rw [List.getElem?_eq_none (by simp; omega)]
        exact .none

/-- Whatever a test requires can be declared. -/
theorem isDeclarable_of_required (hbuilt : IsBuilt h parents) {test : Subject}
    (htest : (test.tags h).IsDecorated) (owner : Option Subject) :
    ∀ flag ∈ (required h test owner).off ++ (required h test owner).on,
      IsDeclarable flag.toList := by
  have hget : ∀ want, ∀ flag ∈ (required h test owner).get want, IsDeclarable flag.toList := by
    intro want flag hflag
    rw [get_required] at hflag
    unfold resolve at hflag
    cases hown : (test.tags h).get want with
    | some flags =>
      rw [hown] at hflag
      exact htest.isDeclarable hown flag hflag
    | none =>
      rw [hown] at hflag
      cases hclass : ownerClass? test owner with
      | none =>
        rw [hclass] at hflag
        cases hflag
      | some c =>
        rw [hclass] at hflag
        dsimp only at hflag
        cases hfound : (h.orderOf c).findSome? fun k => (h.tagsOf k).get want with
        | none =>
          rw [hfound] at hflag
          cases hflag
        | some flags =>
          rw [hfound] at hflag
          obtain ⟨k, -, hk⟩ := List.exists_of_findSome?_eq_some hfound
          exact (hbuilt.isDecorated k).isDeclarable hk flag hflag
  intro flag hflag
  exact (List.mem_append.1 hflag).elim (hget .off flag) (hget .on flag)

/-! ## Reading -/

/-- A flag that can be declared is read by a shell command whose last words are the two parts of
its name. -/
theorem exists_command (h : IsDeclarable name.toList) :
    ∃ package flag command, name = package ++ "." ++ flag ∧ package ≠ "" ∧ flag ≠ "" ∧
      splitFlagName? name = some (package, flag) ∧
      words? command = some ["device_config", "get", package, flag] ∧
      (∀ d : Device, d.flag name = do return flagStateOf (← d.shell command)) ∧
      ∀ (d : Device) (opening : List String), d.opening? = some opening →
        d.flagWords? name = some (opening ++ ["shell", command]) := by
  obtain ⟨package, flag, hsplit⟩ := exists_splitFlagName? h
  obtain ⟨hname, -, hpackage, hflag⟩ := splitFlagName?_eq_some_iff.1 hsplit
  have hnull := h.null_not_mem
  rw [eq_append_dot_iff.1 hname, List.mem_append, List.mem_cons, not_or, not_or] at hnull
  refine ⟨package, flag, _, hname, hpackage, hflag, hsplit,
    words?_deviceConfig hnull.1 hnull.2.2, fun d => ?_, fun d opening hopening => ?_⟩
  · unfold Device.flag
    rw [hsplit]
  · exact flagWords?_eq hopening hsplit

/-- A flag that can be declared is not refused for its name. -/
theorem run_flag_ne_flagName (h : IsDeclarable name.toList) (d : Device) (link link' : Link)
    (other : String) : (d.flag name).run link ≠ .error (.flagName other) link' := by
  intro hrun
  obtain ⟨_, _, command, -, -, -, -, -, heq, -⟩ := exists_command h
  rw [heq] at hrun
  have hfailure : failureOf? ((d.shell command).run link) = some (.flagName other) := by
    rw [← (ends_bind_pure (d.shell command) flagStateOf link).2]
    exact failureOf?_eq_some_iff.2 ⟨link', hrun⟩
  obtain ⟨link₁, hshell⟩ := failureOf?_eq_some_iff.1 hfailure
  cases hopening : d.opening? with
  | none =>
    have hnone := run_of_opening?_eq_none hopening ["shell", command] link
    cases hnone.symm.trans hshell
  | some opening =>
    rcases error_of_run hopening hshell with ⟨_, _, he⟩ | ⟨_, _, he⟩
    · cases he
    · cases he

section

variable {d : Device} {opening : List String} (hopening : d.opening? = some opening)

include hopening

theorem failsBy_flag (h : IsDeclarable name.toList) :
    FailsBy Failure.IsCommand (d.flag name) := by
  obtain ⟨_, _, command, -, -, -, -, hwords, heq, -⟩ := exists_command h
  rw [heq]
  exact (failsBy_shell hopening (null_not_mem_of_words? hwords)).bind fun _ => failsBy_pure _

/-- Looking a flag up fails for the bridge only. -/
theorem failsBy_get_flag (h : IsDeclarable name.toList) :
    FailsBy Failure.IsCommand (Checker.get d name) := by
  have htalk : ∀ {α : Type} {work : Talk α}, FailsBy Failure.IsCommand work →
      FailsBy Failure.IsCommand (Checker.talk work) := by
    intro α work hwork s f s' hrun
    rw [Lookup.run_talk] at hrun
    cases hfirst : work.run s.link with
    | ok a link =>
      rw [hfirst] at hrun
      cases hrun
    | error f' link =>
      rw [hfirst] at hrun
      cases hrun
      exact hwork s.link f link hfirst
  unfold Checker.get
  refine failsBy_get.bind fun s => ?_
  cases s.cache.find? name with
  | some state => exact failsBy_pure state
  | none =>
    refine (htalk (failsBy_flag hopening h)).bind fun state => ?_
    refine (failsBy_modify _).bind fun _ => ?_
    exact (htalk (failsBy_modify _)).bind fun _ => failsBy_pure state

end

/-! ## Lookups -/

variable {d : Device}

/-- Work of a checker that looks up no other flags than these. -/
def LooksUp (d : Device) (flags : List String) {α : Type} (work : Checking α) : Prop :=
  ∀ s, ∃ ls, IsHistory d s ls (endOf (work.run s)) ∧ ∀ l ∈ ls, l.flag ∈ flags

theorem looksUp_get {flags : List String} (h : flag ∈ flags) :
    LooksUp d flags (Checker.get d flag) :=
  fun s => ⟨[⟨s, flag⟩], ⟨rfl, rfl⟩, List.forall_mem_singleton.2 h⟩

theorem isKept_looksUp (d : Device) (flags : List String) :
    IsKept fun α (work : Checking α) => LooksUp d flags work where
  pure a s := ⟨[], rfl, List.forall_mem_nil _⟩
  bind {α β x f} hx hf s := by
    obtain ⟨ls, hhistory, hflags⟩ := hx s
    rw [EStateM.run_bind]
    cases hrun : x.run s with
    | error e s₁ =>
      rw [hrun] at hhistory
      exact ⟨ls, hhistory, hflags⟩
    | ok a s₁ =>
      rw [hrun] at hhistory
      obtain ⟨ls', hhistory', hflags'⟩ := hf a s₁
      refine ⟨ls ++ ls', isHistory_append.2 ⟨s₁, hhistory, hhistory'⟩, fun l hl => ?_⟩
      exact (List.mem_append.1 hl).elim (hflags l) (hflags' l)

/-- A test is decided by lookups of the flags that it requires. -/
theorem looksUp_skipReason (d : Device) (r : Required) :
    LooksUp d (r.off ++ r.on) (Checker.skipReason d r) :=
  reason?_of_isKept (isKept_looksUp d _) fun _ hflag =>
    (isKept_looksUp d _).bind (looksUp_get hflag) fun _ => (isKept_looksUp d _).pure _

theorem failsBy_skipReason {opening : List String} (hopening : d.opening? = some opening)
    {r : Required} (h : ∀ flag ∈ r.off ++ r.on, IsDeclarable flag.toList) :
    FailsBy Failure.IsCommand (Checker.skipReason d r) :=
  reason?_of_isKept isKept_failsBy fun flag hflag =>
    (failsBy_get_flag hopening (h flag hflag)).bind fun _ => failsBy_pure _

/-- Whatever is accepted as the name of a flag is divided into a package and a flag, and is not
refused for its name when it is read.  So a checker that is asked for a test on a device fails for
the bridge only, however the declarations that count for the test came about.  For this it looks up
flags that the test requires; each one that it has not read is read by one command, the last two
words of which are the parts of the name. -/
theorem declared_flags_are_resolved :
    (∀ (t t' : Tags) (want : Want) (values : List Value), t.declare want values = .ok t' →
      ∀ v ∈ values, ∃ name package flag, v = .text name ∧
        splitFlagName? name = some (package, flag) ∧ name = package ++ "." ++ flag ∧
        package ≠ "" ∧ flag ≠ "" ∧
        ∀ (d : Device) (link link' : Link) (other : String),
          (d.flag name).run link ≠ .error (.flagName other) link') ∧
    ∀ (h : Hierarchy) (parents : List (List ClassId)) (test : Subject) (owner : Option Subject)
      (d : Device) (opening : List String) (s : Checker), IsBuilt h parents →
      (test.tags h).IsDecorated → d.opening? = some opening →
      let r := required h test owner
      let result := (Checker.skipReason d r).run s
      (∀ f s', result = .error f s' → f.IsCommand) ∧
      ∃ ls : List Lookup, IsHistory d s ls (endOf result) ∧
        (endOf result).link.calls = s.link.calls ++ ls.flatMap (Lookup.calls d) ∧
        ∀ l ∈ ls, l.flag ∈ r.off ++ r.on ∧
          (l.flag ∈ l.checker.cache.keys → l.calls d = []) ∧
          (l.flag ∉ l.checker.cache.keys → ∃ package flag command,
            l.flag = package ++ "." ++ flag ∧ package ≠ "" ∧ flag ≠ "" ∧
            l.calls d = [opening ++ ["shell", command]] ∧
            words? command = some ["device_config", "get", package, flag]) := by
  refine ⟨fun t t' want values hdeclare v hv => ?_,
    fun h parents test owner d opening s hbuilt htest hopening => ?_⟩
  · obtain ⟨flags, hcheck, -⟩ := Tags.declare_eq_ok_iff.1 hdeclare
    obtain ⟨-, -, hvalues⟩ := checkNames_eq_ok_iff.1 hcheck
    obtain ⟨name, rfl, hname⟩ := hvalues v hv
    obtain ⟨package, flag, -, hparts, hpackage, hflag, hsplit, -⟩ := exists_command hname
    exact ⟨name, package, flag, rfl, hsplit, hparts, hpackage, hflag, run_flag_ne_flagName hname⟩
  · intro r result
    have hnames := isDeclarable_of_required hbuilt htest owner
    obtain ⟨ls, hhistory, hflags⟩ := looksUp_skipReason d r s
    refine ⟨failsBy_skipReason hopening hnames s, ls, hhistory, hhistory.calls, fun l hl => ?_⟩
    refine ⟨hflags l hl, fun hkept => ?_, fun hkept => ?_⟩
    · obtain ⟨v, hv⟩ := Option.isSome_iff_exists.1 (Table.mem_keys_iff.1 hkept)
      exact Lookup.calls_of_kept hv
    · obtain ⟨package, flag, command, hparts, hpackage, hflag, -, hwords, -, hasked⟩ :=
        exists_command (hnames l.flag (hflags l hl))
      refine ⟨package, flag, command, hparts, hpackage, hflag, ?_, hwords⟩
      rw [Lookup.calls_of_not_kept (Table.find?_eq_none_iff.2 hkept), hasked d opening hopening]
      rfl

/-- A checker on a device that gives one flag and is then too slow. -/
def slowChecker : Checker := ⟨.empty, .ofReplies .empty [.exited 0 "0\n" "" none, .timedOut]⟩

/-- A test that two classes declare flags for fails at the second flag, for which the bridge was
asked by its two parts; and a name with a line feed at its end is divided like others. -/
theorem diamond_flags_resolved :
    let d : Device := ⟨.null, .text "adb", .zero⟩
    let result := (Checker.skipReason d
      (required diamond (.ofMethod plainTest 3) (some (.cls 3)))).run slowChecker
    (∃ f s', result = .error f s' ∧ f.IsCommand) ∧
      (∃ ls, IsHistory d slowChecker ls (endOf result) ∧ ls.flatMap (Lookup.calls d) =
        [["adb", "shell", "device_config get p c"], ["adb", "shell", "device_config get p b"]]) ∧
      ∃ t', Tags.none.declare .off [.text "a.b.c\n"] = .ok t' ∧
        ∃ package flag, splitFlagName? "a.b.c\n" = some (package, flag) ∧ package ≠ "" ∧
          flag ≠ "" := by
  intro d result
  have hfails : (failureOf? result).isSome = true := by decide +kernel
  have hcalls : (endOf result).link.calls =
      [["adb", "shell", "device_config get p c"], ["adb", "shell", "device_config get p b"]] := by
    decide +kernel
  obtain ⟨hdeclared, hchecked⟩ := declared_flags_are_resolved
  obtain ⟨hcommand, ls, hhistory, hasked, -⟩ := hchecked diamond diamondParents
    (.ofMethod plainTest 3) (some (.cls 3)) d ["adb"] slowChecker isBuilt_diamond .none rfl
  refine ⟨?_, ⟨ls, hhistory, hasked.symm.trans hcalls⟩, ?_⟩
  · obtain ⟨f, hf⟩ := Option.isSome_iff_exists.1 hfails
    obtain ⟨s', hresult⟩ := failureOf?_eq_some_iff.1 hf
    exact ⟨f, s', hresult, hcommand f s' hresult⟩
  · have hname : isName "a.b.c\n".toList = true := by decide +kernel
    have hdeclare : ∃ t', Tags.none.declare .off [.text "a.b.c\n"] = .ok t' := by
      refine Tags.exists_declare_eq_ok_iff.2 ⟨List.cons_ne_nil _ _, ?_⟩
      exact List.forall_mem_singleton.2 ⟨_, rfl, isName_iff.1 hname⟩
    obtain ⟨t', ht'⟩ := hdeclare
    obtain ⟨name, package, flag, hv, hsplit, -, hpackage, hflag, -⟩ :=
      hdeclared Tags.none t' .off _ ht' _ (List.mem_singleton_self _)
    cases hv
    exact ⟨t', ht', package, flag, hsplit, hpackage, hflag⟩

end SectionTimes.Flag
