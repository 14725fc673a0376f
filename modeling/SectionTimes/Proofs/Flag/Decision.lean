import SectionTimes.Proofs.Flag.Gate
import SectionTimes.Proofs.Flag.Name

/-!
# When a test runs

A test runs just when none of the flags that it requires to be off is on, and all that it requires
to be on are.  Otherwise it is said which are not as required: of those to be off, or if these are
all off of those to be on.  Nothing but the values of these flags matters, and what is said names
them without doubt.
-/

namespace SectionTimes.Flag

open Text

/-! ## Decisions -/

section

variable {isOn isOn' : String → Bool} {r : Required}

theorem reasonIf_of_on (h : ∃ flag ∈ r.off, isOn flag = true) :
    r.reasonIf isOn = some (.areOn (r.off.filter isOn)) := by
  have hsome : (r.off.filter isOn).isEmpty = false := by
    rw [List.isEmpty_eq_false_iff, ne_eq, List.filter_eq_nil_iff]
    simpa using h
  unfold Required.reasonIf
  simp [hsome]

theorem reasonIf_of_off (h : ∀ flag ∈ r.off, isOn flag = false) :
    r.reasonIf isOn =
      if (r.on.filter fun flag => !isOn flag).isEmpty then none
      else some (.areOff (r.on.filter fun flag => !isOn flag)) := by
  have hnone : r.off.filter isOn = [] := List.filter_eq_nil_iff.2 fun flag hflag => by
    simp [h flag hflag]
  unfold Required.reasonIf
  simp [hnone]

theorem reasonIf_eq_none_iff :
    r.reasonIf isOn = none ↔
      (∀ flag ∈ r.off, isOn flag = false) ∧ ∀ flag ∈ r.on, isOn flag = true := by
  by_cases hoff : ∀ flag ∈ r.off, isOn flag = false
  · rw [reasonIf_of_off hoff, and_iff_right hoff]
    simp [List.isEmpty_iff]
  · rw [reasonIf_of_on (by simpa using hoff), iff_false_left (by simp)]
    exact fun h => hoff h.1

theorem readIf_of_on (h : ∃ flag ∈ r.off, isOn flag = true) : r.readIf isOn = r.off :=
  if_pos (List.any_eq_true.2 h)

theorem readIf_of_off (h : ∀ flag ∈ r.off, isOn flag = false) : r.readIf isOn = r.off ++ r.on :=
  if_neg (by simpa using h)

/-- Only the flags that are required matter. -/
theorem reasonIf_congr (h : ∀ flag ∈ r.off ++ r.on, isOn flag = isOn' flag) :
    r.reasonIf isOn = r.reasonIf isOn' := by
  obtain ⟨hoff, hon⟩ := List.forall_mem_append.1 h
  have hareOn : r.off.filter (fun flag => isOn flag == true) =
      r.off.filter fun flag => isOn' flag == true :=
    List.filter_congr fun flag hflag => by rw [hoff flag hflag]
  have hareOff : r.on.filter (fun flag => isOn flag == false) =
      r.on.filter fun flag => isOn' flag == false :=
    List.filter_congr fun flag hflag => by rw [hon flag hflag]
  unfold Required.reasonIf
  rw [hareOn, hareOff]

theorem readIf_congr (h : ∀ flag ∈ r.off, isOn flag = isOn' flag) :
    r.readIf isOn = r.readIf isOn' := by
  have hany : r.off.any isOn = r.off.any isOn' := by
    rw [Bool.eq_iff_iff, List.any_eq_true, List.any_eq_true]
    exact exists_congr fun flag => and_congr_right fun hflag => by rw [h flag hflag]
  unfold Required.readIf
  rw [hany]

end

/-! ## Wordings -/

/-- The flags that a reason names. -/
def Reason.flags : Reason → List String
  | .areOn flags => flags
  | .areOff flags => flags

theorem list_injective {flags flags' : List String}
    (hnames : ∀ flag ∈ flags ++ flags', IsDeclarable flag.toList)
    (h : ", ".intercalate flags = ", ".intercalate flags') : flags = flags' := by
  have hlist := congrArg String.toList h
  rw [String.toList_intercalate, String.toList_intercalate] at hlist
  have hinjective : Function.Injective String.toList := fun _ _ => String.toList_injective
  refine List.map_injective_iff.2 hinjective (intercalate_injective (by decide) ?_ hlist)
  rw [← List.map_append]
  intro t ht
  obtain ⟨flag, hflag, rfl⟩ := List.mem_map.1 ht
  exact ⟨(hnames flag hflag).ne_nil, (hnames flag hflag).comma_not_mem⟩

/-- The wordings for the two kinds begin differently. -/
theorem message_areOn_ne_message_areOff (flags flags' : List String) :
    (Reason.areOn flags).message ≠ (Reason.areOff flags').message := by
  intro h
  have hlist := congrArg String.toList h
  unfold Reason.message at hlist
  rw [String.toList_append, String.toList_append] at hlist
  exact absurd (List.append_inj_left hlist (by decide)) (by decide)

/-- A wording tells which flags it names, and how they are. -/
theorem message_injective {reason reason' : Reason}
    (hnames : ∀ flag ∈ reason.flags ++ reason'.flags, IsDeclarable flag.toList)
    (h : reason.message = reason'.message) : reason = reason' := by
  cases reason with
  | areOn flags =>
    cases reason' with
    | areOn flags' =>
      exact congrArg Reason.areOn (list_injective hnames ((String.append_right_inj _).1 h))
    | areOff flags' => exact absurd h (message_areOn_ne_message_areOff flags flags')
  | areOff flags =>
    cases reason' with
    | areOn flags' => exact absurd h.symm (message_areOn_ne_message_areOff flags' flags)
    | areOff flags' =>
      exact congrArg Reason.areOff (list_injective hnames ((String.append_right_inj _).1 h))

/-! ## Tests -/

theorem check_eq (h : Hierarchy) (test : Subject) (owner : Option Subject) (a : Assignment) :
    check h test owner a =
      ((required h test owner).reasonIf fun flag => decide (a.IsOn flag),
        (required h test owner).readIf fun flag => decide (a.IsOn flag)) := by
  unfold check
  rw [reason?_record, List.nil_append]

/-- A test runs by an assignment just when no flag to be off is on and all to be on are.  If some
flag to be off is on, these are named and no more is looked up; otherwise those to be on are looked
up too, and those that are not on are named.  Which other values there are makes no difference, nor
whether it is a table or a rule that gives them; a flag to be both off and on never lets a test run;
and a wording names the flags of its reason and of no other. -/
theorem runs_just_as_required (h : Hierarchy) (test : Subject) (owner : Option Subject) :
    let r := required h test owner
    (∀ a : Assignment,
      ((check h test owner a).1 = none ↔
        (∀ flag ∈ r.off, ¬ a.IsOn flag) ∧ ∀ flag ∈ r.on, a.IsOn flag) ∧
      ((∃ flag ∈ r.off, a.IsOn flag) →
        check h test owner a = (some (.areOn (r.off.filter fun flag => a.IsOn flag)), r.off)) ∧
      ((∀ flag ∈ r.off, ¬ a.IsOn flag) →
        (check h test owner a).2 = r.off ++ r.on ∧
        ((∃ flag ∈ r.on, ¬ a.IsOn flag) → (check h test owner a).1 =
          some (.areOff (r.on.filter fun flag => ¬ a.IsOn flag))))) ∧
    (∀ a b : Assignment, (∀ flag ∈ r.off ++ r.on, a.IsOn flag ↔ b.IsOn flag) →
      check h test owner a = check h test owner b) ∧
    (∀ values : Table String Value, check h test owner (.table values) =
      check h test owner (.rule fun flag => (values.find? flag).getD .null)) ∧
    (∀ flag ∈ r.off, flag ∈ r.on → ∀ a, (check h test owner a).1 ≠ none) ∧
    ∀ reason reason' : Reason,
      (∀ flag ∈ reason.flags ++ reason'.flags, IsDeclarable flag.toList) →
        reason.message = reason'.message → reason = reason' := by
  intro r
  have hnone : ∀ a, (check h test owner a).1 = none ↔
      (∀ flag ∈ r.off, ¬ a.IsOn flag) ∧ ∀ flag ∈ r.on, a.IsOn flag := by
    intro a
    rw [check_eq, reasonIf_eq_none_iff]
    simp only [decide_eq_true_iff, decide_eq_false_iff_not]
    rfl
  have hcongr : ∀ a b : Assignment, (∀ flag ∈ r.off ++ r.on, a.IsOn flag ↔ b.IsOn flag) →
      check h test owner a = check h test owner b := by
    intro a b hagree
    have hsame : ∀ flag ∈ r.off ++ r.on, decide (a.IsOn flag) = decide (b.IsOn flag) :=
      fun flag hflag => decide_eq_decide.2 (hagree flag hflag)
    rw [check_eq, check_eq, reasonIf_congr hsame,
      readIf_congr fun flag hflag => hsame flag (List.mem_append_left _ hflag)]
  refine ⟨fun a => ⟨hnone a, fun hon => ?_, fun hoff => ?_⟩, hcongr,
    fun values => hcongr _ _ fun _ _ => Iff.rfl, fun flag hoff hon a hruns => ?_,
    fun reason reason' => message_injective⟩
  · have hon : ∃ flag ∈ r.off, decide (a.IsOn flag) = true := by simpa using hon
    rw [check_eq, reasonIf_of_on hon, readIf_of_on hon]
  · have hoff : ∀ flag ∈ r.off, decide (a.IsOn flag) = false := by simpa using hoff
    rw [check_eq, reasonIf_of_off hoff, readIf_of_off hoff]
    refine ⟨rfl, fun hon => ?_⟩
    have hsome : (r.on.filter fun flag => !decide (a.IsOn flag)).isEmpty = false := by
      rw [List.isEmpty_eq_false_iff, ne_eq, List.filter_eq_nil_iff]
      simpa using hon
    simp only [decide_not]
    exact if_neg (by rw [hsome]; exact Bool.false_ne_true)
  · obtain ⟨hareOff, hareOn⟩ := (hnone a).1 hruns
    exact hareOff flag hoff (hareOn flag hon)

/-- A class that has flags to be on. -/
def wantingHierarchy : Hierarchy := ⟨[⟨"A", ⟨none, some ["p.a", "p.c"]⟩, [], [0]⟩]⟩

/-- A method of the class that has flags to be off, one of them twice and one to be on as well. -/
def tornTest : Subject := .bound ⟨some ["p.b", "p.a", "p.b"], none⟩ 0

theorem torn_never_runs :
    check wantingHierarchy tornTest none (.rule fun flag => .bool (flag == "p.b")) =
        (some (.areOn ["p.b", "p.b"]), ["p.b", "p.a", "p.b"]) ∧
      check wantingHierarchy tornTest none
          (.table (.ofList [("p.a", .int 1), ("p.c", .bool true)])) =
        (some (.areOff ["p.a"]), ["p.b", "p.a", "p.b", "p.a", "p.c"]) ∧
      ∀ a, (check wantingHierarchy tornTest none a).1 ≠ none := by
  obtain ⟨hdecides, -, -, htorn, -⟩ := runs_just_as_required wantingHierarchy tornTest none
  obtain ⟨-, hon, -⟩ := hdecides (.rule fun flag => .bool (flag == "p.b"))
  obtain ⟨-, -, hoff⟩ := hdecides (.table (.ofList [("p.a", .int 1), ("p.c", .bool true)]))
  obtain ⟨hreads, hnames⟩ := hoff (by decide)
  refine ⟨(hon ⟨"p.b", by decide, by decide⟩).trans (by decide), Prod.ext ?_ hreads,
    htorn "p.a" (by decide) (by decide)⟩
  exact (hnames ⟨"p.a", by decide, by decide⟩).trans (by decide)

end SectionTimes.Flag
