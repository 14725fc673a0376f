import SectionTimes.Proofs.Screen.Sighting
import SectionTimes.Screen.AllApps

/-!
# What the screen check goes by

The check passes just when the first component behind a mark is a settings activity that shows all
apps.  Lines do not matter to it: if the marked activity is missing, the record of another activity
on a later line is taken for it.  If the first line with a mark names a component itself, that one
decides, whatever else is in the dump.
-/

namespace SectionTimes.Screen

open Text

variable {w : List Char}

/-- The component is an activity of the settings that shows all apps. -/
def IsAllApps (w : List Char) : Prop :=
  "com.android.settings/".toList <+: w ∧ "ManageApplications".toList <:+: w

theorem takeWhile_eq_iff {package : List Char} (hpackage : '/' ∉ package) (hw : '/' ∈ w) :
    w.takeWhile (· ≠ '/') = package ↔ package ++ ['/'] <+: w := by
  obtain ⟨before, name, rfl, hbefore⟩ := List.eq_append_cons_of_mem hw
  have htake : ∀ before : List Char, '/' ∉ before → ∀ name,
      (before ++ '/' :: name).takeWhile (· ≠ '/') = before := fun before hbefore name =>
    takeWhile_append_stop (fun _ hc => decide_eq_true fun h => hbefore (h ▸ hc)) (by decide)
  rw [htake before hbefore]
  constructor
  · rintro rfl
    exact ⟨name, by rw [List.append_assoc]; rfl⟩
  · rintro ⟨name', hname⟩
    rw [List.append_assoc] at hname
    rw [← htake before hbefore name, ← hname]
    exact htake package hpackage name'

theorem showsAllApps_iff (hw : IsComponent w) :
    showsAllApps (String.ofList w) = true ↔ IsAllApps w := by
  have hslash : '/' ∈ w := by
    obtain ⟨package, name, -, -, rfl⟩ := hw
    exact List.mem_append_right _ List.mem_cons_self
  have hpackage : packageOf (String.ofList w) = settingsPackage ↔
      "com.android.settings/".toList <+: w := by
    unfold packageOf
    rw [String.toList_ofList, ← String.toList_inj, String.toList_ofList,
      takeWhile_eq_iff (by decide) hslash]
    rfl
  unfold showsAllApps
  rw [Bool.and_eq_true, decide_eq_true_iff, hpackage, mentions_iff, String.toList_ofList (l := w)]
  exact Iff.rfl

/-! ## The check -/

theorem checkDump_eq (dump : String) :
    checkDump dump = match findComponent dump.toList with
      | none => some .nothing
      | some w =>
        if showsAllApps (String.ofList w) then none else some (.other (String.ofList w)) := by
  unfold checkDump resumedComponent?
  cases findComponent dump.toList <;> rfl

section

variable {p : Sighting} {dump : String} (hp : p.IsFirst dump.toList)

include hp

theorem checkDump_of_isAllApps (hall : IsAllApps p.place.word) : checkDump dump = none := by
  rw [checkDump_eq, findComponent_eq_some_iff.2 ⟨p, hp, rfl⟩]
  exact if_pos ((showsAllApps_iff hp.names.place.component).2 hall)

theorem checkDump_of_not_isAllApps (hother : ¬ IsAllApps p.place.word) :
    checkDump dump = some (.other (String.ofList p.place.word)) := by
  rw [checkDump_eq, findComponent_eq_some_iff.2 ⟨p, hp, rfl⟩]
  exact if_neg (mt (showsAllApps_iff hp.names.place.component).1 hother)

end

theorem checkDump_of_forall_ne {dump : String}
    (h : ∀ p : Sighting, p.Names → p.text ≠ dump.toList) : checkDump dump = some .nothing := by
  rw [checkDump_eq, findComponent_eq_none_iff.2 h]

/-- A dump has a first component, which is the screen or is not, or it has none. -/
theorem sighting_cases (dump : String) :
    (∃ p : Sighting, p.IsFirst dump.toList ∧ IsAllApps p.place.word) ∨
    (∃ p : Sighting, p.IsFirst dump.toList ∧ ¬ IsAllApps p.place.word) ∨
    ∀ p : Sighting, p.Names → p.text ≠ dump.toList := by
  rcases findComponent_spec dump.toList with ⟨p, hp, -⟩ | ⟨-, hnames⟩
  · by_cases hall : IsAllApps p.place.word
    · exact Or.inl ⟨p, hp, hall⟩
    · exact Or.inr (Or.inl ⟨p, hp, hall⟩)
  · exact Or.inr (Or.inr hnames)

/-- Lines without a mark before it, and lines behind it, do not change what a line says. -/
theorem checkDump_eq_of_line {dump line : String} {front behind : List Char}
    (hdump : dump.toList = front ++ (line.toList ++ behind)) (hfront : ¬ mark <:+: front)
    (hend : ∀ c ∈ front.getLast?, c = '\n') (hbehind : ∀ c ∈ behind.head?, c = '\n')
    (hline : checkDump line ≠ some .nothing) : checkDump dump = checkDump line := by
  cases hfound : findComponent line.toList with
  | none =>
    rw [checkDump_eq, hfound] at hline
    exact absurd rfl hline
  | some w =>
    rw [checkDump_eq, checkDump_eq, hdump, findComponent_append_of_not_mark hfront hend,
      findComponent_append hfound hbehind, hfound]

/-- The check of a dump, on which alone the outcome depends: it passes just when the first
component behind a mark is a settings activity that shows all apps, names that component just when
it is another one, and finds nothing just when no mark has a component behind it.  If the first line
with a mark has a component of its own, the check of the dump is the check of that line. -/
theorem first_component_decides (dump : String) :
    (∀ d, checkAllApps d = do return checkDump (← d.shell "dumpsys activity activities")) ∧
    (checkDump dump = none ↔
      ∃ p : Sighting, p.IsFirst dump.toList ∧ IsAllApps p.place.word) ∧
    (∀ component, checkDump dump = some (.other component) ↔
      ∃ p : Sighting, p.IsFirst dump.toList ∧ ¬ IsAllApps p.place.word ∧
        String.ofList p.place.word = component) ∧
    (checkDump dump = some .nothing ↔ ∀ p : Sighting, p.Names → p.text ≠ dump.toList) ∧
    ∀ (front behind : List Char) (line : String), dump.toList = front ++ (line.toList ++ behind) →
      ¬ mark <:+: front → (∀ c ∈ front.getLast?, c = '\n') → (∀ c ∈ behind.head?, c = '\n') →
      checkDump line ≠ some .nothing → checkDump dump = checkDump line := by
  refine ⟨fun _ => rfl, ⟨fun h => ?_, fun ⟨p, hp, hall⟩ => checkDump_of_isAllApps hp hall⟩,
    fun component => ⟨fun h => ?_, ?_⟩, ⟨fun h => ?_, checkDump_of_forall_ne⟩,
    fun front behind line => checkDump_eq_of_line⟩
  · rcases sighting_cases dump with hall | ⟨p, hp, hother⟩ | hnames
    · exact hall
    · cases h.symm.trans (checkDump_of_not_isAllApps hp hother)
    · cases h.symm.trans (checkDump_of_forall_ne hnames)
  · rcases sighting_cases dump with ⟨p, hp, hall⟩ | ⟨p, hp, hother⟩ | hnames
    · cases h.symm.trans (checkDump_of_isAllApps hp hall)
    · obtain rfl := Mismatch.other.inj
        (Option.some.inj (h.symm.trans (checkDump_of_not_isAllApps hp hother)))
      exact ⟨p, hp, hother, rfl⟩
    · cases h.symm.trans (checkDump_of_forall_ne hnames)
  · rintro ⟨p, hp, hother, rfl⟩
    exact checkDump_of_not_isAllApps hp hother
  · rcases sighting_cases dump with ⟨p, hp, hall⟩ | ⟨p, hp, hother⟩ | hnames
    · cases h.symm.trans (checkDump_of_isAllApps hp hall)
    · cases h.symm.trans (checkDump_of_not_isAllApps hp hother)
    · exact hnames

/-- A line that names a resumed activity. -/
def resumedLine : String :=
  "mResumedActivity: ActivityRecord\x7b1 u0 com.android.settings/.ManageApplications t1\x7d"

/-- A dump in which another activity is listed behind the resumed one. -/
def resumedDump : String := "Display #0\n" ++ resumedLine ++ "\nHist #0: \x7b2 com.a/.B t2\x7d"

theorem resumed_line_decides :
    checkDump resumedLine ≠ some .nothing ∧ checkDump resumedDump = checkDump resumedLine := by
  have hline : checkDump resumedLine ≠ some .nothing := by decide +kernel
  have hfront : ¬ mark <:+: "Display #0\n".toList :=
    fun h => absurd (occurs_iff.2 h) (by decide)
  exact ⟨hline, (first_component_decides resumedDump).2.2.2.2 "Display #0\n".toList
    "\nHist #0: \x7b2 com.a/.B t2\x7d".toList resumedLine (by decide +kernel) hfront
    (fun _ hc => (Option.some.inj hc).symm) (fun _ hc => (Option.some.inj hc).symm) hline⟩

/-- A dump in which no activity is resumed and another one is listed. -/
def nullDump : String :=
  "mResumedActivity: null\n" ++
    "Hist #0: \x7ba1 u0 com.android.settings/.Settings$ManageApplicationsActivity t12\x7d\n"

/-- The check passes although no line shows a record behind a mark. -/
theorem null_activity_passes :
    checkDump nullDump = none ∧
    ∀ line ∈ splitOn '\n' nullDump.toList, occurs mark line = true → '\x7b' ∉ line := by
  decide +kernel

end SectionTimes.Screen
