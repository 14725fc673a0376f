import SectionTimes.Flag.Gate
import SectionTimes.Proofs.Log

/-!
# What a gate decides

A gate that looks its flags up by an assignment decides by the flags that are on there.  It looks
up the flags that must be off, and then those that must be on unless one of the former is on.
-/

namespace SectionTimes.Flag

/-- What is decided if it is known which flags are on. -/
def Required.reasonIf (isOn : String → Bool) (r : Required) : Option Reason :=
  let areOn := r.off.filter fun flag => isOn flag == true
  let areOff := r.on.filter fun flag => isOn flag == false
  if areOn.isEmpty then if areOff.isEmpty then none else some (.areOff areOff)
  else some (.areOn areOn)

/-- The flags that are looked up if it is known which flags are on. -/
def Required.readIf (isOn : String → Bool) (r : Required) : List String :=
  if r.off.any isOn then r.off else r.off ++ r.on

/-- Whether a flag is on in a table. -/
def isOnIn (values : Table String Value) (flag : String) : Bool :=
  ((values.find? flag).map isOnValue).getD false

/-! ## Assignments -/

/-- The value that an assignment gives a flag; one that is missing has none. -/
def Assignment.valueOf : Assignment → String → Value
  | .table values, flag => (values.find? flag).getD .null
  | .rule valueOf, flag => valueOf flag

/-- A flag is on by an assignment: the value is true, and not one that only counts as true. -/
def Assignment.IsOn (a : Assignment) (flag : String) : Prop := a.valueOf flag = .bool true

theorem isOnValue_iff {v : Value} : isOnValue v = true ↔ v = .bool true := by
  cases v <;> simp [isOnValue]

instance (a : Assignment) (flag : String) : Decidable (a.IsOn flag) :=
  decidable_of_iff (isOnValue (a.valueOf flag) = true) isOnValue_iff

theorem Assignment.decide_isOn (a : Assignment) (flag : String) :
    decide (a.IsOn flag) = isOnValue (a.valueOf flag) :=
  (decide_eq_decide.2 isOnValue_iff.symm).trans (Bool.decide_coe _)

theorem isOnIn_eq (values : Table String Value) (flag : String) :
    isOnIn values flag = decide ((Assignment.table values).IsOn flag) := by
  rw [Assignment.decide_isOn, isOnIn, Assignment.valueOf]
  cases values.find? flag <;> rfl

theorem Assignment.record_eq (a : Assignment) (flag : String) (seen : List String) :
    a.record flag seen = (decide (a.IsOn flag), seen ++ [flag]) := by
  cases a with
  | table values => exact congrArg (Prod.mk · _) (isOnIn_eq values flag)
  | rule valueOf => exact congrArg (Prod.mk · _) (Assignment.decide_isOn (.rule valueOf) flag).symm

/-! ## Looking up -/

section

variable {ε σ : Type} {C : (α : Type) → EStateM ε σ α → Prop} (hC : IsKept C)
  {isOn : String → EStateM ε σ Bool}

include hC

theorem select_of_isKept {flags : List String} (h : ∀ flag ∈ flags, C Bool (isOn flag))
    (wanted : Bool) : C (List String) (select isOn wanted flags) := by
  induction flags with
  | nil => exact hC.pure []
  | cons flag flags ih =>
    obtain ⟨hflag, hflags⟩ := List.forall_mem_cons.1 h
    exact hC.bind hflag fun on => hC.bind (ih hflags) fun rest => hC.pure _

/-- What is true of each lookup is true of the decision. -/
theorem reason?_of_isKept {r : Required} (h : ∀ flag ∈ r.off ++ r.on, C Bool (isOn flag)) :
    C (Option Reason) (reason? isOn r) := by
  have hoff := select_of_isKept hC (fun flag hflag => h flag (List.mem_append_left _ hflag)) true
  refine hC.bind hoff fun areOn => ?_
  split
  · have hon := select_of_isKept hC (fun flag hflag => h flag (List.mem_append_right _ hflag)) false
    exact hC.bind hon fun areOff => hC.pure _
  · exact hC.pure _

end

variable (a : Assignment)

theorem select_record (wanted : Bool) (flags seen : List String) :
    select a.record wanted flags seen =
      (flags.filter fun flag => decide (a.IsOn flag) == wanted, seen ++ flags) := by
  induction flags generalizing seen with
  | nil => exact congrArg (Prod.mk []) (List.append_nil seen).symm
  | cons flag flags ih =>
    have hrest := ih (seen ++ [flag])
    rw [List.append_assoc, List.singleton_append] at hrest
    change (let first := a.record flag seen
      let found := select a.record wanted flags first.2
      ((if first.1 == wanted then flag :: found.1 else found.1), found.2)) = _
    rw [a.record_eq]
    dsimp only
    rw [hrest, List.filter_cons]

/-- What is decided by an assignment is decided by the flags that are on. -/
theorem reason?_record (r : Required) (seen : List String) :
    reason? a.record r seen =
      (r.reasonIf fun flag => decide (a.IsOn flag),
        seen ++ r.readIf fun flag => decide (a.IsOn flag)) := by
  have hoff := select_record a true r.off seen
  have hany : (r.off.filter fun flag => decide (a.IsOn flag) == true).isEmpty =
      !r.off.any fun flag => decide (a.IsOn flag) := by
    rw [Bool.eq_iff_iff, List.isEmpty_iff, List.filter_eq_nil_iff]
    simp
  change (let found := select a.record true r.off seen
    (if found.1.isEmpty then (do
        let areOff ← select a.record false r.on
        return if areOff.isEmpty then none else some (Reason.areOff areOff) :
        StateM (List String) (Option Reason))
      else return some (.areOn found.1)) found.2) = _
  rw [hoff]
  unfold Required.reasonIf Required.readIf
  dsimp only
  rw [hany]
  cases r.off.any fun flag => decide (a.IsOn flag) with
  | true => rfl
  | false =>
    have hon := select_record a false r.on (seen ++ r.off)
    change (let found := select a.record false r.on (seen ++ r.off)
      (if found.1.isEmpty then none else some (Reason.areOff found.1), found.2)) = _
    rw [hon, List.append_assoc]
    rfl

/-- What is decided by a table is decided by the flags that are on in it. -/
theorem reason?_recordLookup (values : Table String Value) (r : Required) (seen : List String) :
    (reason? (recordLookup values) r seen).1 = r.reasonIf (isOnIn values) := by
  have hrecord := congrArg Prod.fst (reason?_record (.table values) r seen)
  rw [funext (isOnIn_eq values)]
  exact hrecord

end SectionTimes.Flag
