import SectionTimes.Config.Basic
import SectionTimes.Proofs.Number.Difference

/-!
# Values that count as numbers

A value counts as an integer or as a number, or is too large to be one, or is unfit.  A conversion
gives the number that a value counts as and tells the other two cases apart.
-/

namespace SectionTimes

namespace Binary64

/-- The least magnitude of an integer that no finite number is nearest to. -/
def integerBound : ℕ := Nat.pow 2 1024 - Nat.pow 2 970

/-- Rounding goes to infinity half way between the greatest finite number and the next power. -/
theorem overflow_le_roundQuanta_iff (n : ℕ) :
    overflow ≤ roundQuanta (n * one) 1 ↔ integerBound ≤ n := by
  constructor
  · intro h
    by_contra hlt
    have hbelow : roundQuanta ((integerBound - 1) * one) 1 < overflow := by decide +kernel
    have hmono : roundQuanta (n * one) 1 ≤ roundQuanta ((integerBound - 1) * one) 1 :=
      roundQuanta_mono (Nat.mul_le_mul_right _ (Nat.le_sub_one_of_lt (not_le.1 hlt)))
    exact absurd (hmono.trans_lt hbelow) (not_lt.2 h)
  · intro h
    have hbound : overflow ≤ roundQuanta (integerBound * one) 1 := by decide +kernel
    exact hbound.trans (roundQuanta_mono (Nat.mul_le_mul_right _ h))

theorem ofQuanta_cases (negative : Bool) (num den : ℕ) :
    roundQuanta num den < overflow ∧
        ofQuanta negative num den = .finite negative (roundQuanta num den) ∨
      overflow ≤ roundQuanta num den ∧ ofQuanta negative num den = .infinite negative := by
  unfold ofQuanta
  dsimp only
  by_cases h : roundQuanta num den < overflow
  · exact Or.inl ⟨h, if_pos h⟩
  · exact Or.inr ⟨not_lt.1 h, if_neg h⟩

theorem ofInt?_eq_none_iff (i : ℤ) : ofInt? i = none ↔ integerBound ≤ i.natAbs := by
  rw [← overflow_le_roundQuanta_iff]
  unfold ofInt?
  rcases ofQuanta_cases (i < 0) (i.natAbs * one) 1 with ⟨h, hquanta⟩ | ⟨h, hquanta⟩
  · rw [hquanta]
    exact ⟨nofun, fun hover => absurd h (not_lt.2 hover)⟩
  · rw [hquanta]
    exact ⟨fun _ => h, fun _ => rfl⟩

end Binary64

namespace Config

variable {setting : String} {v : Value}

/-- A conversion that gives what a value counts as, and fails as too large just where the value is,
fails as unfit where it is neither. -/
theorem eq_error_iff_of_cases {α : Type} {r : Except Failure α} {counts : α → Prop}
    {tooLarge : Prop} {unfit : Failure} (hok : ∀ a, r = .ok a ↔ counts a)
    (hlarge : tooLarge → r = .error .tooLarge)
    (hunfit : ∀ e, r = .error e → tooLarge ∨ e = unfit) (e : Failure) :
    r = .error e ↔
      tooLarge ∧ e = .tooLarge ∨ ((∀ a, ¬ counts a) ∧ ¬ tooLarge) ∧ e = unfit := by
  by_cases hbound : tooLarge
  · simp [hlarge hbound, hbound, eq_comm]
  · cases r with
    | ok a =>
      have hcounts : ¬ ∀ a, ¬ counts a := fun h => h a ((hok a).1 rfl)
      simp [hbound, hcounts]
    | error e' =>
      have hnone : ∀ a, ¬ counts a := fun a h => nomatch (hok a).2 h
      have he := (hunfit e' rfl).resolve_left hbound
      simp [hbound, hnone, he, eq_comm]

/-! ## Integers -/

/-- A value counts as an integer: a fraction is cut off, and a text is read. -/
inductive CountsAsInt : Value → ℤ → Prop where
  | bool (b : Bool) : CountsAsInt (.bool b) b.toNat
  | int (i : ℤ) : CountsAsInt (.int i) i
  | float {x : Binary64} {i : ℤ} (h : x.truncate? = some i) : CountsAsInt (.float x) i
  | text {s : String} {i : ℤ} (h : Numeral.readInt s.toList = some i) : CountsAsInt (.text s) i

/-- A value is infinite. -/
def IsInfinite (v : Value) : Prop := ∃ negative, v = .float (.infinite negative)

theorem toInt_eq_ok_iff {i : ℤ} : toInt setting v = .ok i ↔ CountsAsInt v i := by
  constructor
  · intro h
    unfold toInt at h
    split at h
    · cases h
      exact .bool _
    · cases h
      exact .int _
    · cases h
    · split at h
      · rename_i hx
        cases h
        exact .float hx
      · cases h
    · split at h
      · rename_i hs
        cases h
        exact .text hs
      · cases h
    · cases h
  · rintro (b | i | @⟨x, i, h⟩ | ⟨h⟩)
    · rfl
    · rfl
    · cases x with
      | finite s q => simp only [toInt, h]
      | nan => cases h
      | infinite s => cases h
    · simp only [toInt, h]

theorem toInt_eq_error_iff {e : Failure} :
    toInt setting v = .error e ↔
      IsInfinite v ∧ e = .tooLarge ∨
        ((∀ i, ¬ CountsAsInt v i) ∧ ¬ IsInfinite v) ∧ e = .ofValue setting v := by
  refine eq_error_iff_of_cases (fun _ => toInt_eq_ok_iff) ?_ (fun e h => ?_) e
  · rintro ⟨negative, rfl⟩
    rfl
  · unfold toInt at h
    split at h
    · cases h
    · cases h
    · exact Or.inl ⟨_, rfl⟩
    · split at h
      · cases h
      · exact Or.inr (Except.error.inj h).symm
    · split at h
      · cases h
      · exact Or.inr (Except.error.inj h).symm
    · exact Or.inr (Except.error.inj h).symm

/-! ## Numbers -/

/-- A value counts as a number: an integer is rounded, and a text is read. -/
inductive CountsAsBinary : Value → Binary64 → Prop where
  | int {v : Value} {i : ℤ} {x : Binary64} (hv : v.asInt? = some i)
      (h : Binary64.ofInt? i = some x) : CountsAsBinary v x
  | float (x : Binary64) : CountsAsBinary (.float x) x
  | text {s : String} {x : Binary64} (h : Numeral.readBinary s.toList = some x) :
      CountsAsBinary (.text s) x

/-- A value is an integer that no finite number is nearest to. -/
def IsBeyondBinary (v : Value) : Prop := ∃ i, v.asInt? = some i ∧ Binary64.integerBound ≤ i.natAbs

theorem toBinary_of_asInt? {i : ℤ} (h : v.asInt? = some i) :
    toBinary setting v = (Binary64.ofInt? i).elim (.error .tooLarge) .ok := by
  cases v <;> cases h <;> rfl

theorem toBinary_eq_ok_iff {x : Binary64} : toBinary setting v = .ok x ↔ CountsAsBinary v x := by
  constructor
  · intro h
    cases hv : v.asInt? with
    | some i =>
      rw [toBinary_of_asInt? hv] at h
      cases hi : Binary64.ofInt? i with
      | none => simp [hi] at h
      | some y =>
        simp only [hi, Option.elim_some, Except.ok.injEq] at h
        exact .int hv (h ▸ hi)
    | none =>
      unfold toBinary at h
      split at h
      · cases hv
      · cases hv
      · cases h
        exact .float _
      · split at h
        · rename_i hs
          cases h
          exact .text hs
        · cases h
      · cases h
  · rintro (@⟨v, i, x, hv, h⟩ | x | ⟨h⟩)
    · rw [toBinary_of_asInt? hv, h]
      rfl
    · rfl
    · simp only [toBinary, h]

theorem toBinary_eq_error_iff {e : Failure} :
    toBinary setting v = .error e ↔
      IsBeyondBinary v ∧ e = .tooLarge ∨
        ((∀ x, ¬ CountsAsBinary v x) ∧ ¬ IsBeyondBinary v) ∧ e = .ofValue setting v := by
  refine eq_error_iff_of_cases (fun _ => toBinary_eq_ok_iff) ?_ (fun e h => ?_) e
  · rintro ⟨i, hv, hi⟩
    rw [toBinary_of_asInt? hv, (Binary64.ofInt?_eq_none_iff i).2 hi]
    rfl
  · cases hv : v.asInt? with
    | some i =>
      rw [toBinary_of_asInt? hv] at h
      cases hi : Binary64.ofInt? i with
      | none => exact Or.inl ⟨i, hv, (Binary64.ofInt?_eq_none_iff i).1 hi⟩
      | some x => simp [hi] at h
    | none =>
      unfold toBinary at h
      split at h
      · cases hv
      · cases hv
      · cases h
      · split at h
        · cases h
        · exact Or.inr (Except.error.inj h).symm
      · exact Or.inr (Except.error.inj h).symm

end Config

end SectionTimes
