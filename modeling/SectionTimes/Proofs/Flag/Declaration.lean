import SectionTimes.Proofs.Flag.Lineage
import SectionTimes.Proofs.Flag.Name

/-!
# What can be declared

Flags are declared just when there is one at least and each is a name that can be declared; what is
declared is then these names.  In all other cases the declaration fails, for want of flags or for
the first that is no name, and nothing is written.
-/

namespace SectionTimes.Flag

open Text

/-- A value is a name that can be declared. -/
def CanBeDeclared (v : Value) : Prop := ∃ s, v = .text s ∧ IsDeclarable s.toList

variable {v : Value} {values : List Value} {flag : String} {flags : List String} {fault : Fault}

/-! ## Names among values -/

theorem checkName_eq_ok_iff : checkName v = .ok flag ↔ v = .text flag ∧ CanBeDeclared v := by
  cases v with
  | text s =>
    simp only [checkName, ← isName_iff, CanBeDeclared, Value.text.injEq, exists_eq_left']
    cases isName s.toList <;> simp
  | _ => simp [checkName]

theorem checkName_eq_error_iff :
    checkName v = .error fault ↔ ¬ CanBeDeclared v ∧ fault = .badName v := by
  cases v with
  | text s =>
    simp only [checkName, ← isName_iff, CanBeDeclared, Value.text.injEq, exists_eq_left']
    cases isName s.toList <;> simp [eq_comm]
  | _ => simp [checkName, CanBeDeclared, eq_comm]

theorem checkNames_eq_ok_iff :
    checkNames values = .ok flags ↔
      values ≠ [] ∧ values = flags.map .text ∧ ∀ v ∈ values, CanBeDeclared v := by
  unfold checkNames
  cases values with
  | nil => simp
  | cons v values =>
    rw [List.isEmpty_cons, if_neg Bool.false_ne_true, mapM_eq_ok_iff]
    simp only [checkName_eq_ok_iff, And.comm (b := CanBeDeclared _)]
    rw [List.forall₂_and_left, ← List.forall₂_map_right_iff, List.forall₂_eq_eq_eq]
    simp [And.comm]

theorem exists_checkName_eq_ok_iff : (∃ flag, checkName v = .ok flag) ↔ CanBeDeclared v := by
  simp only [checkName_eq_ok_iff, exists_and_right, and_iff_right_iff_imp]
  exact fun ⟨s, hs, _⟩ => ⟨s, hs⟩

/-- What is complained of is that there are no flags, or the first value that is no name. -/
theorem checkNames_eq_error_iff :
    checkNames values = .error fault ↔
      values = [] ∧ fault = .noFlags ∨
        ∃ before v behind, values = before ++ v :: behind ∧ (∀ u ∈ before, CanBeDeclared u) ∧
          ¬ CanBeDeclared v ∧ fault = .badName v := by
  unfold checkNames
  cases values with
  | nil => simp [eq_comm]
  | cons v values =>
    rw [List.isEmpty_cons, if_neg Bool.false_ne_true, mapM_eq_error_iff]
    simp only [exists_checkName_eq_ok_iff, checkName_eq_error_iff]
    simp

/-! ## Declarations -/

variable {t t' : Tags} {h h' : Hierarchy} {want : Want}

theorem Tags.declare_eq_ok_iff :
    t.declare want values = .ok t' ↔
      ∃ flags, checkNames values = .ok flags ∧ t.put want flags = t' := by
  unfold Tags.declare
  cases checkNames values <;> simp [Except.map]

theorem Tags.declare_eq_error_iff :
    t.declare want values = .error fault ↔ checkNames values = .error fault := by
  unfold Tags.declare
  cases checkNames values <;> simp [Except.map]

theorem Tags.exists_declare_eq_ok_iff :
    (∃ t', t.declare want values = .ok t') ↔ values ≠ [] ∧ ∀ v ∈ values, CanBeDeclared v := by
  simp only [Tags.declare_eq_ok_iff]
  constructor
  · rintro ⟨_, flags, hflags, -⟩
    obtain ⟨hne, -, hnames⟩ := checkNames_eq_ok_iff.1 hflags
    exact ⟨hne, hnames⟩
  · rintro ⟨hne, hnames⟩
    cases hcheck : checkNames values with
    | ok flags => exact ⟨_, flags, rfl, rfl⟩
    | error fault =>
      rcases checkNames_eq_error_iff.1 hcheck with ⟨hnil, -⟩ | ⟨before, v, behind, rfl, -, hv, -⟩
      · exact absurd hnil hne
      · exact absurd (hnames v (by simp)) hv

/-- On a class a declaration fails for the same. -/
theorem Hierarchy.declare_eq_error_iff (hsome : h.classes ≠ []) :
    h.declare want values = .error fault ↔ checkNames values = .error fault := by
  obtain ⟨cls, hlast⟩ := Option.ne_none_iff_exists'.1 (mt List.getLast?_eq_none_iff.1 hsome)
  unfold Hierarchy.declare
  rw [hlast]
  dsimp only
  rw [bind_eq_error_iff, Tags.declare_eq_error_iff]
  refine or_iff_left ?_
  rintro ⟨_, _, h⟩
  cases h

/-- Flags are declared just when there is one and each is a flag name, with a line feed behind it
or not: then these names are written in place of earlier ones of the kind.  Otherwise the fault is
that there are no flags, or the first that is no such name, on a class as on a function.  But for
that line feed a declared name is of word characters and dots, all of them visible. -/
theorem declares_just_names (want : Want) (values : List Value) :
    (∀ t : Tags,
      ((∃ t', t.declare want values = .ok t') ↔ values ≠ [] ∧ ∀ v ∈ values, CanBeDeclared v) ∧
      (∀ t', t.declare want values = .ok t' →
        ∃ flags, values = flags.map .text ∧ t' = t.put want flags) ∧
      ∀ fault, t.declare want values = .error fault ↔
        values = [] ∧ fault = .noFlags ∨
          ∃ before v behind, values = before ++ v :: behind ∧ (∀ u ∈ before, CanBeDeclared u) ∧
            ¬ CanBeDeclared v ∧ fault = .badName v) ∧
    (∀ (h : Hierarchy) (t : Tags), h.classes ≠ [] → ∀ fault,
      h.declare want values = .error fault ↔ t.declare want values = .error fault) ∧
    ∀ v, CanBeDeclared v ↔ ∃ s name, v = .text s ∧ IsFlagName name ∧
      (s.toList = name ∨ s.toList = name ++ ['\n']) ∧
        ∀ c ∈ name, (isWord c = true ∨ c = '.') ∧ IsVisible c := by
  refine ⟨fun t => ⟨Tags.exists_declare_eq_ok_iff, fun t' ht' => ?_, fun fault =>
      Tags.declare_eq_error_iff.trans checkNames_eq_error_iff⟩,
    fun h t hsome fault =>
      (Hierarchy.declare_eq_error_iff hsome).trans Tags.declare_eq_error_iff.symm, fun v => ?_⟩
  · obtain ⟨flags, hflags, rfl⟩ := Tags.declare_eq_ok_iff.1 ht'
    exact ⟨flags, (checkNames_eq_ok_iff.1 hflags).2.1, rfl⟩
  · constructor
    · rintro ⟨s, rfl, name, hname, hs⟩
      exact ⟨s, name, rfl, hname, hs, fun c hc => ⟨hname.isWord_or_dot hc, hname.isVisible hc⟩⟩
    · rintro ⟨s, name, rfl, hname, hs, -⟩
      exact ⟨s, rfl, name, hname, hs⟩

/-- A class on which nothing is declared. -/
def bareHierarchy : Hierarchy := ⟨[⟨"A", Tags.none, [], [0]⟩]⟩

/-- Two names are declared, one of them with a letter that is not of ASCII within a part; two dots
side by side are complained of, on a class too. -/
theorem accented_declared :
    (∃ t', Tags.none.declare .on [.text "settings.new_page", .text "_a.b1.cé"] = .ok t') ∧
      bareHierarchy.declare .on [.text "settings.new_page", .text "a..b"] =
        .error (.badName (.text "a..b")) ∧
      ∃ name, IsFlagName name ∧ "_a.b1.cé".toList = name ∧ ∀ c ∈ name, IsVisible c := by
  have hpage : CanBeDeclared (.text "settings.new_page") :=
    ⟨_, rfl, isName_iff.1 (by decide +kernel)⟩
  have haccented : CanBeDeclared (.text "_a.b1.cé") := ⟨_, rfl, isName_iff.1 (by decide +kernel)⟩
  have hdots : ¬ CanBeDeclared (.text "a..b") := by
    rintro ⟨s, hs, h⟩
    cases hs
    exact absurd (isName_iff.2 h) (by decide +kernel)
  obtain ⟨htags, -, hnames⟩ :=
    declares_just_names .on [.text "settings.new_page", .text "_a.b1.cé"]
  obtain ⟨htags', hclass, -⟩ := declares_just_names .on [.text "settings.new_page", .text "a..b"]
  refine ⟨(htags Tags.none).1.2 ⟨by simp, by simp [hpage, haccented]⟩, ?_, ?_⟩
  · refine (hclass bareHierarchy Tags.none (by decide) _).2 (((htags' Tags.none).2.2 _).2 ?_)
    exact Or.inr ⟨[.text "settings.new_page"], _, [], rfl, by simp [hpage], hdots, rfl⟩
  · obtain ⟨s, name, hs, hname, hlist, hvisible⟩ := (hnames _).1 haccented
    cases hs
    refine ⟨name, hname, hlist.resolve_right fun hfeed => ?_, fun c hc => (hvisible c hc).2⟩
    have hlast := congrArg List.getLast? hfeed
    rw [List.getLast?_concat] at hlast
    exact absurd hlast (by decide)

/-- A name with a line feed behind it is declared, although it is no flag name. -/
theorem line_feed_declared :
    Tags.none.declare .off [.text "settings.new_page\n"] =
        .ok ⟨some ["settings.new_page\n"], none⟩ ∧
      ¬ IsFlagName "settings.new_page\n".toList ∧ isBreak '\n' = true := by
  have hname : isName "settings.new_page\n".toList = true := by decide +kernel
  refine ⟨?_, fun h => ?_, rfl⟩
  · refine Tags.declare_eq_ok_iff.2 ⟨_, checkNames_eq_ok_iff.2 ⟨by simp, rfl, ?_⟩, rfl⟩
    exact List.forall_mem_singleton.2 ⟨_, rfl, isName_iff.1 hname⟩
  · have hvisible : IsVisible '\n' := h.isVisible (by decide)
    exact absurd hvisible.lineBreak (by decide)

end SectionTimes.Flag
