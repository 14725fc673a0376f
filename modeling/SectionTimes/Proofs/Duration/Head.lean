import SectionTimes.Duration.Line
import SectionTimes.Proofs.Duration.Amount

/-!
# The head of a duration line

Both forms of a duration line begin alike: a rule of dashes, a gap, an amount and fixed words.
The reader of heads accepts just these texts, and because an amount begins where the gap ends
and ends where the words begin, there is one way only to divide a text so.
-/

namespace SectionTimes.Duration

open Text

/-- A head as it is written. -/
def headText (dashes : Nat) (gap : List Char) (a : Amount) (words : List Char) : List Char :=
  rule dashes ++ gap ++ a.text ++ words

variable {dashes : Nat} {gap words s rest : List Char} {a : Amount} {c : Char}

/-- A head that is read is one that is written. -/
theorem exists_headText_of_readHead (h : readHead dashes words s = some (a, rest)) :
    ∃ gap, IsGap gap ∧ a.Valid ∧ s = headText dashes gap a words ++ rest := by
  unfold readHead at h
  simp only [Option.bind_eq_bind, Option.bind_eq_some_iff] at h
  obtain ⟨s₁, hrule, h⟩ := h
  have hs : s = rule dashes ++ s₁ := after?_eq_some_iff.1 hrule
  by_cases hgap : (s₁.takeWhile isBlank).isEmpty = true
  · rw [if_pos hgap] at h
    cases h
  rw [if_neg hgap] at h
  obtain ⟨⟨b, s₂⟩, hamount, h⟩ := Option.bind_eq_some_iff.1 h
  obtain ⟨r, hwords, hend⟩ := Option.bind_eq_some_iff.1 h
  obtain ⟨rfl, rfl⟩ := Prod.mk.inj (Option.some.inj hend)
  obtain ⟨hb, hs₁⟩ := Amount.eq_of_read? hamount
  have hs₂ : s₂ = words ++ r := after?_eq_some_iff.1 hwords
  refine ⟨s₁.takeWhile isBlank, ⟨?_, fun x hx => List.mem_takeWhile_imp hx⟩, hb, ?_⟩
  · exact fun hnil => hgap (List.isEmpty_iff.2 hnil)
  · calc s = rule dashes ++ (s₁.takeWhile isBlank ++ s₁.dropWhile isBlank) := by
          rw [hs, List.takeWhile_append_dropWhile]
      _ = headText dashes (s₁.takeWhile isBlank) b words ++ r := by
          rw [hs₁, hs₂]
          simp only [headText, List.append_assoc]

/-- A head that is written is read.  The words have to begin with a character that ends an
amount. -/
theorem readHead_headText (hd : isDigit c = false) (hp : c ≠ '.') (hgap : IsGap gap)
    (ha : a.Valid) (rest : List Char) :
    readHead dashes (c :: words) (headText dashes gap a (c :: words) ++ rest) =
      some (a, rest) := by
  obtain ⟨d, t, hdigit, htext⟩ := ha.exists_text_eq_cons
  have hstop : isBlank d = false := isBlank_eq_false_of_isDigit hdigit
  have hrule : after? (rule dashes) (headText dashes gap a (c :: words) ++ rest) =
      some (gap ++ (a.text ++ (c :: words ++ rest))) :=
    after?_eq_some_iff.2 (by simp only [headText, List.append_assoc])
  have htake : (gap ++ (a.text ++ (c :: words ++ rest))).takeWhile isBlank = gap := by
    rw [htext, List.cons_append, takeWhile_append_stop hgap.2 hstop]
  have hdrop : (gap ++ (a.text ++ (c :: words ++ rest))).dropWhile isBlank =
      a.text ++ (c :: words ++ rest) := by
    rw [htext, List.cons_append, dropWhile_append_stop hgap.2 hstop]
  have hamount : Amount.read? (a.text ++ (c :: words ++ rest)) =
      some (a, c :: words ++ rest) := Amount.read?_text_append ha hd hp _
  have hwords : after? (c :: words) (c :: words ++ rest) = some rest :=
    after?_eq_some_iff.2 rfl
  have hne : ¬ gap.isEmpty = true := fun h => hgap.1 (List.isEmpty_iff.1 h)
  unfold readHead
  rw [hrule]
  simp only [Option.bind_eq_bind, Option.bind_some, htake, if_neg hne, hdrop, hamount, hwords]
  rfl

/-- The gap is what an amount and what stands behind it leave of a text. -/
theorem gap_eq_of_headText_append_eq {gap' : List Char}
    (h : headText dashes gap a words ++ rest = headText dashes gap' a words ++ rest) :
    gap = gap' := by
  unfold headText at h
  have h := List.append_cancel_right h
  have h := List.append_cancel_right h
  have h := List.append_cancel_right h
  exact List.append_cancel_left h

/-- A head begins with a dash. -/
theorem headText_head (rest : List Char) :
    (headText (dashes + 1) gap a words ++ rest).head? = some '-' := by
  unfold headText rule
  rfl

/-- Where one head has its gap, a head with a longer rule has a dash. -/
theorem headText_append_ne (dashes more : Nat) {gap' words' rest' : List Char} {a' : Amount}
    (hgap : IsGap gap) :
    headText dashes gap a words ++ rest ≠
      headText (dashes + (more + 1)) gap' a' words' ++ rest' := by
  intro h
  obtain ⟨x, t, rfl⟩ := List.exists_cons_of_ne_nil hgap.1
  have hrule : rule (dashes + (more + 1)) = rule dashes ++ '-' :: rule more := by
    unfold rule
    rw [List.replicate_add]
    rfl
  unfold headText at h
  rw [hrule] at h
  simp only [List.append_assoc, List.cons_append] at h
  obtain ⟨rfl, -⟩ := List.cons.inj (List.append_cancel_left h)
  have hblank := hgap.2 '-' List.mem_cons_self
  exact absurd hblank (by decide)

end SectionTimes.Duration
