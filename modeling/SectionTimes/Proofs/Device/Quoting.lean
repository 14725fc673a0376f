import SectionTimes.Proofs.Device.Opening
import SectionTimes.Proofs.Text.Occurrence
import SectionTimes.Proofs.Text.ShellCommand

/-!
# What reaches the shell of a device

A path to be listed and the parts of a flag name go into a command for the shell of the device.
However they are written, the shell takes each of them as one word, and nothing else comes out of
the command.
-/

namespace SectionTimes

namespace Device

open Text ShellCommand

/-! ## Flag names -/

/-- A flag name without a package or without a flag: it has no dot, or nothing stands before its
last dot or nothing behind it. -/
def LacksPart (name : String) : Prop :=
  '.' ∉ name.toList ∨
    ∃ package flag, name = package ++ "." ++ flag ∧ '.' ∉ flag.toList ∧ (package = "" ∨ flag = "")

theorem eq_append_dot_iff {name package flag : String} :
    name = package ++ "." ++ flag ↔ name.toList = package.toList ++ '.' :: flag.toList := by
  rw [← String.toList_inj, String.toList_append, String.toList_append, List.append_assoc]
  rfl

/-- A flag name is divided at its last dot. -/
theorem splitFlagName?_eq_some_iff {name package flag : String} :
    splitFlagName? name = some (package, flag) ↔
      name = package ++ "." ++ flag ∧ '.' ∉ flag.toList ∧ package ≠ "" ∧ flag ≠ "" := by
  have hempty : ∀ s : String, s ≠ "" ↔ s.toList ≠ [] := fun s => by simp
  rw [eq_append_dot_iff, hempty, hempty, ← and_assoc, ← cutAtLast_eq_some_iff]
  unfold splitFlagName?
  constructor
  · intro h
    split at h
    · split at h
      · cases h
      · rename_i p f hcut hparts
        cases h
        simpa [hcut] using hparts
    · cases h
  · rintro ⟨hcut, hpackage, hflag⟩
    rw [hcut]
    simp [hpackage, hflag]

theorem cutAtLast_dot_iff {name package flag : String} :
    cutAtLast '.' name.toList = some (package.toList, flag.toList) ↔
      name = package ++ "." ++ flag ∧ '.' ∉ flag.toList := by
  rw [cutAtLast_eq_some_iff, eq_append_dot_iff]

theorem splitFlagName?_eq_none_iff {name : String} :
    splitFlagName? name = none ↔ LacksPart name := by
  unfold LacksPart
  constructor
  · intro h
    refine Decidable.or_iff_not_imp_left.2 fun hdot => ?_
    obtain ⟨⟨p, f⟩, hcut⟩ : ∃ parts, cutAtLast '.' name.toList = some parts :=
      Option.ne_none_iff_exists'.1 fun hnone => hdot (cutAtLast_eq_none_iff.1 hnone)
    obtain ⟨package, rfl⟩ : ∃ s : String, s.toList = p := ⟨_, String.toList_ofList⟩
    obtain ⟨flag, rfl⟩ : ∃ s : String, s.toList = f := ⟨_, String.toList_ofList⟩
    obtain ⟨hname, hflag⟩ := cutAtLast_dot_iff.1 hcut
    refine ⟨package, flag, hname, hflag, Decidable.or_iff_not_imp_left.2 fun hpackage => ?_⟩
    refine Decidable.of_not_not fun hempty => ?_
    rw [splitFlagName?_eq_some_iff.2 ⟨hname, hflag, hpackage, hempty⟩] at h
    cases h
  · intro h
    refine Option.eq_none_iff_forall_not_mem.2 fun parts hparts => ?_
    obtain ⟨hname, hflag, hpackage, hempty⟩ := splitFlagName?_eq_some_iff.1 hparts
    rcases h with hdot | ⟨package, flag, hname', hflag', h⟩
    · refine hdot ?_
      rw [eq_append_dot_iff.1 hname]
      simp
    · -- the last dot is one place only
      have hcut := (cutAtLast_dot_iff.2 ⟨hname, hflag⟩).symm.trans
        (cutAtLast_dot_iff.2 ⟨hname', hflag'⟩)
      rw [Option.some.injEq, Prod.mk.injEq, String.toList_inj, String.toList_inj] at hcut
      exact h.elim (fun he => hpackage (hcut.1.trans he)) fun he => hempty (hcut.2.trans he)

/-! ## Commands -/

variable {d : Device} {opening : List String}

theorem words?_ls {remote : String} (h : '\x00' ∉ remote.toList) :
    words? ("ls " ++ shellQuote remote) = some ["ls", remote] := by
  have hread : read? ⟨[], .between⟩ "ls ".toList = some ⟨[['l', 's']], .between⟩ := rfl
  exact words?_append_shellQuote hread (List.cons_ne_nil _ _) h

theorem words?_deviceConfig {package flag : String} (hpackage : '\x00' ∉ package.toList)
    (hflag : '\x00' ∉ flag.toList) :
    words? ("device_config get " ++ shellQuote package ++ " " ++ shellQuote flag) =
      some ["device_config", "get", package, flag] := by
  have hstart : read? ⟨[], .between⟩ "device_config get ".toList =
      some ⟨["device_config".toList, "get".toList], .between⟩ := rfl
  have hread := read?_append_shellQuote hstart (List.cons_ne_nil _ _) hpackage
  have hwords := words?_append_shellQuote hread (by simp) hflag
  simpa using hwords

/-- A listing asks for one command. -/
theorem calls_list (h : d.opening? = some opening) (remote : String) (link : Link) :
    (endOf ((d.list (.text remote)).run link)).calls =
      link.calls ++ [opening ++ ["shell", "ls " ++ shellQuote remote]] := by
  have hcalls := calls_run_of_opening?_eq_some h ["shell", "ls " ++ shellQuote remote] link
  rw [run_list (Or.inl rfl)]
  refine Eq.trans ?_ hcalls
  cases (d.run ["shell", "ls " ++ shellQuote remote]).run link <;> rfl

theorem flagWords?_eq {name package flag : String} (h : d.opening? = some opening)
    (hparts : splitFlagName? name = some (package, flag)) :
    d.flagWords? name = some (opening ++
      ["shell", "device_config get " ++ shellQuote package ++ " " ++ shellQuote flag]) := by
  unfold flagWords?
  rw [hparts, Option.bind_some]
  dsimp only
  rw [texts?_words, h]
  rfl

/-- A flag is refused for its name just when the name lacks a part. -/
theorem flag_eq_error_flagName_iff (h : d.opening? = some opening) (name : String)
    (link : Link) :
    (∃ link', (d.flag name).run link = .error (.flagName name) link') ↔ LacksPart name := by
  rw [← splitFlagName?_eq_none_iff, run_flag]
  cases splitFlagName? name with
  | none => exact iff_of_true ⟨link, rfl⟩ rfl
  | some parts =>
    refine iff_of_false ?_ nofun
    rintro ⟨link', hrun⟩
    dsimp only at hrun
    split at hrun
    · cases hrun
    · rename_i e link₁ he
      cases hrun
      rcases error_of_run h he with ⟨_, _, he⟩ | ⟨_, _, he⟩
      · cases he
      · cases he

/-- Nothing that stands in a path or in a flag name gets out of its word.  The shell is given one
command for a listing, with the path as its only argument, and one command for a flag, with the
package and the flag as the last two.  A name that lacks either part is refused before anything is
asked. -/
theorem arguments_stay_words (h : d.opening? = some opening) (link : Link) :
    (∀ remote : String, '\x00' ∉ remote.toList → ∃ command,
      (endOf ((d.list (.text remote)).run link)).calls =
        link.calls ++ [opening ++ ["shell", command]] ∧
      words? command = some ["ls", remote]) ∧
    ∀ name : String, '\x00' ∉ name.toList →
      ((∃ link', (d.flag name).run link = .error (.flagName name) link') ↔ LacksPart name) ∧
      (LacksPart name → (d.flag name).run link = .error (.flagName name) link) ∧
      (¬ LacksPart name → ∃ package flag command,
        name = package ++ "." ++ flag ∧ '.' ∉ flag.toList ∧ package ≠ "" ∧ flag ≠ "" ∧
        (endOf ((d.flag name).run link)).calls = link.calls ++ [opening ++ ["shell", command]] ∧
        words? command = some ["device_config", "get", package, flag]) := by
  refine ⟨fun remote hremote => ⟨_, calls_list h remote link, words?_ls hremote⟩,
    fun name hname => ⟨flag_eq_error_flagName_iff h name link, fun hlacks => ?_, fun hlacks => ?_⟩⟩
  · rw [run_flag, splitFlagName?_eq_none_iff.2 hlacks]
  · obtain ⟨⟨package, flag⟩, hparts⟩ :=
      Option.ne_none_iff_exists'.1 (mt splitFlagName?_eq_none_iff.1 hlacks)
    obtain ⟨hdivided, hdot, hpackage, hflag⟩ := splitFlagName?_eq_some_iff.1 hparts
    have hmem : '\x00' ∉ package.toList ∧ '\x00' ∉ flag.toList := by
      rw [eq_append_dot_iff.1 hdivided] at hname
      simp only [List.mem_append, List.mem_cons, not_or] at hname
      exact ⟨hname.1, hname.2.2⟩
    refine ⟨package, flag, _, hdivided, hdot, hpackage, hflag, ?_,
      words?_deviceConfig hmem.1 hmem.2⟩
    rw [calls_flag, flagWords?_eq h hparts]
    rfl

theorem operators_stay_words :
    let d : Device := ⟨.text "emulator-5554", .text "adb", .zero⟩
    let link := Link.ofReplies Files.empty []
    (∃ command, (endOf ((d.list (.text "it's; reboot\n$HOME")).run link)).calls =
        [["adb", "-s", "emulator-5554", "shell", command]] ∧
      words? command = some ["ls", "it's; reboot\n$HOME"]) ∧
    ∃ package flag command, "a b.c.$(d)'" = package ++ "." ++ flag ∧ '.' ∉ flag.toList ∧
      (endOf ((d.flag "a b.c.$(d)'").run link)).calls =
        [["adb", "-s", "emulator-5554", "shell", command]] ∧
      words? command = some ["device_config", "get", package, flag] := by
  intro d link
  have hopening : d.opening? = some ["adb", "-s", "emulator-5554"] := rfl
  obtain ⟨hlist, hflag⟩ := arguments_stay_words hopening link
  obtain ⟨-, -, hasked⟩ := hflag "a b.c.$(d)'" (by decide)
  obtain ⟨package, flag, command, hname, hdot, -, -, hcalls, hwords⟩ :=
    hasked (mt splitFlagName?_eq_none_iff.2 (by decide))
  exact ⟨hlist _ (by decide), package, flag, command, hname, hdot, hcalls, hwords⟩

end Device

end SectionTimes
