import SectionTimes.Bytes.Utf8

/-!
# Characters of one byte

A byte of ASCII is a character wherever it stands.  A character that was begun before it is
malformed, and what comes behind it is read as if it stood alone.
-/

namespace SectionTimes.Utf8

/-- Whether what is to come is no byte of ASCII. -/
def ExpectsNoAscii (pending : Option Pending) : Prop := ∀ p, pending = some p → 0x80 ≤ p.least

theorem expectsNoAscii_none : ExpectsNoAscii none := nofun

theorem expectsNoAscii_some {p : Pending} (hp : 0x80 ≤ p.least) : ExpectsNoAscii (some p) := by
  intro q hq
  rw [← Option.some.inj hq]
  exact hp

theorem expectsNoAscii_lead (b : Nat) : ExpectsNoAscii (lead b).2 := by
  unfold lead
  split
  · exact expectsNoAscii_none
  split
  · exact expectsNoAscii_none
  split
  · exact expectsNoAscii_some (Nat.le_refl _)
  split
  · apply expectsNoAscii_some
    dsimp only
    split <;> omega
  split
  · apply expectsNoAscii_some
    dsimp only
    split <;> omega
  · exact expectsNoAscii_none

theorem expectsNoAscii_step (pending : Option Pending) (b : Nat) :
    ExpectsNoAscii (step pending b).2 := by
  unfold step
  split
  · exact expectsNoAscii_lead b
  · split
    · dsimp only
      split
      · exact expectsNoAscii_none
      · exact expectsNoAscii_some (Nat.le_refl _)
    · exact expectsNoAscii_lead b

theorem lead_ascii {b : Nat} (hb : b < 0x80) : lead b = ([some (Char.ofNat b)], none) := if_pos hb

/-- A byte of ASCII ends what was begun, which is malformed then, and is read on its own. -/
theorem step_ascii {pending : Option Pending} {b : Nat} (hpending : ExpectsNoAscii pending)
    (hb : b < 0x80) :
    step pending b = (places pending [] ++ [some (Char.ofNat b)], none) := by
  cases pending with
  | none => exact lead_ascii hb
  | some p =>
    have hleast := hpending p rfl
    unfold step
    dsimp only
    rw [if_neg (by omega), lead_ascii hb]
    rfl

theorem places_append_ascii {pending : Option Pending} (hpending : ExpectsNoAscii pending)
    (before behind : List UInt8) {b : UInt8} (hb : b.toNat < 0x80) :
    places pending (before ++ b :: behind) =
      places pending before ++ some (Char.ofNat b.toNat) :: places none behind := by
  induction before generalizing pending with
  | nil =>
    rw [List.nil_append, places.eq_2, step_ascii hpending hb, List.append_assoc]
    rfl
  | cons b' before ih =>
    rw [List.cons_append, places.eq_2, places.eq_2, ih (expectsNoAscii_step _ _), List.append_assoc]

/-- A byte of ASCII divides a text: it is a character, and both sides are read apart. -/
theorem decode_append_ascii (before behind : List UInt8) {b : UInt8} (hb : b.toNat < 0x80) :
    decode (before ++ b :: behind) = decode before ++ Char.ofNat b.toNat :: decode behind := by
  unfold decode
  rw [places_append_ascii expectsNoAscii_none before behind hb, List.map_append, List.map_cons]
  rfl

end SectionTimes.Utf8
