import SectionTimes.Json.Printer
import SectionTimes.Json.Reader
import SectionTimes.Proofs.Number.Parts

/-!
# Numbers in JSON

A number is written with the fewest digits that become it again, and the reader gives it back: the
words for infinities and the undefined number, zero with its sign, and every other number from the
parts of its decimal.  The text ends where a character follows that no number goes on with.
-/

namespace SectionTimes

open Numeral Text

/-! ## Exponents -/

section Exponents

variable {e : ℤ}

theorem digitsValue_fixedWidth (width n : ℕ) : digitsValue (fixedWidth width n) = n := by
  unfold fixedWidth padStart
  rw [digitsValue_zeros_append, digitsValue_natDigits]

theorem sign_exponent (e : ℤ) (s : List Char) :
    Numeral.sign ((if e < 0 then '-' else '+') :: s) = (decide (e < 0), s) := by
  by_cases h : e < 0
  · rw [if_pos h, decide_eq_true h]
    rfl
  · rw [if_neg h, decide_eq_false h]
    rfl

theorem signed_decide_natAbs (e : ℤ) : Binary64.signed (decide (e < 0)) e.natAbs = e := by
  unfold Binary64.signed
  by_cases h : e < 0
  · rw [decide_eq_true h, if_pos rfl]
    omega
  · rw [decide_eq_false h, if_neg Bool.false_ne_true]
    omega

/-- An exponent is the letter, a sign and digits that say it. -/
theorem exists_exponentText_eq (e : ℤ) : ∃ d digits,
    Binary64.exponentText e = 'e' :: (if e < 0 then '-' else '+') :: d :: digits ∧
      (∀ c ∈ d :: digits, isAsciiDigit c = true) ∧ digitsValue (d :: digits) = e.natAbs := by
  have hne : fixedWidth 2 e.natAbs ≠ [] := List.append_ne_nil_of_right_ne_nil _ Nat.toDigits_ne_nil
  obtain ⟨d, digits, hd⟩ := List.exists_cons_of_ne_nil hne
  refine ⟨d, digits, congrArg (fun s => 'e' :: (if e < 0 then '-' else '+') :: s) hd, ?_, ?_⟩
  · intro c hc
    exact isAsciiDigit_of_mem_fixedWidth (hd ▸ hc)
  · rw [← hd, digitsValue_fixedWidth]

end Exponents

namespace Json

open Binary64 (withSign ofDecimal)

variable {c : Char} {rest : List Char} {p : Parts} {x : Binary64} {s : List Char} {v : ℚ}

/-- No number goes on with this character. -/
def EndsNumber (c : Char) : Prop := isAsciiDigit c = false ∧ c ≠ '.' ∧ c ≠ 'e' ∧ c ≠ 'E'

/-! ## Reading parts -/

/-- The parts of a number are read one by one. -/
theorem readNumber_text (hp : p.WellFormed) (hc : EndsNumber c) (negative : Bool)
    (rest : List Char) :
    readNumber negative (p.text ++ c :: rest) =
      some (.float (ofDecimal negative (digitsValue (p.whole ++ p.fraction))
        (p.exponent.getD 0 - p.fraction.length)), c :: rest) := by
  obtain ⟨whole, fraction, exponent⟩ := p
  obtain ⟨hdigits, hne, hleading, hmarked⟩ := hp
  obtain ⟨hwhole, hfraction⟩ := List.forall_mem_append.1 hdigits
  obtain ⟨hc, -, he, hE⟩ := hc
  have hpoint : isAsciiDigit '.' = false := rfl
  have hletter : isAsciiDigit 'e' = false := rfl
  unfold readNumber Parts.text
  cases exponent with
  | none =>
    have hfraction' : fraction ≠ [] := hmarked.resolve_right (by simp)
    simp [hfraction', hne, he, hE, takeWhile_append_stop hwhole hpoint,
      dropWhile_append_stop hwhole hpoint, takeWhile_append_stop hfraction hc,
      dropWhile_append_stop hfraction hc]
    exact hleading
  | some e =>
    obtain ⟨d, digits, htext, hall, hvalue⟩ := exists_exponentText_eq e
    have hd := hall d List.mem_cons_self
    have htake : (d :: (digits ++ c :: rest)).takeWhile isAsciiDigit = d :: digits :=
      takeWhile_append_stop hall hc
    have hdrop : (d :: (digits ++ c :: rest)).dropWhile isAsciiDigit = c :: rest :=
      dropWhile_append_stop hall hc
    by_cases hfraction' : fraction = []
    · simp [hfraction', hne, htext, sign_exponent, takeWhile_append_stop hwhole hletter,
        dropWhile_append_stop hwhole hletter]
      rw [htake, hdrop, hvalue, signed_decide_natAbs]
      exact ⟨hleading, hd, rfl, rfl⟩
    · simp [hfraction', hne, htext, sign_exponent, takeWhile_append_stop hwhole hpoint,
        dropWhile_append_stop hwhole hpoint, takeWhile_append_stop hfraction hletter,
        dropWhile_append_stop hfraction hletter]
      rw [htake, hdrop, hvalue, signed_decide_natAbs]
      exact ⟨hleading, hd, rfl, rfl⟩

/-- A decimal text is read as the number nearest to what it says. -/
theorem readNumber_of_denotes {digits : ℕ} {exponent : ℤ}
    (h : Denotes s (digits * 10 ^ exponent)) (hc : EndsNumber c) (negative : Bool)
    (rest : List Char) :
    readNumber negative (s ++ c :: rest) =
      some (.float (ofDecimal negative digits exponent), c :: rest) := by
  obtain ⟨p, hp, rfl, hvalue⟩ := h
  rw [readNumber_text hp hc, Binary64.ofDecimal_congr hvalue]

/-- A text of a number begins with a digit, so it is taken for no word. -/
theorem readScalar_of_denotes (h : Denotes s v) (negative : Bool) (rest : List Char) :
    readScalar (withSign negative s ++ rest) = readNumber negative (s ++ rest) := by
  obtain ⟨p, hp, rfl, -⟩ := h
  obtain ⟨d, whole, hwhole⟩ := List.exists_cons_of_ne_nil hp.whole_ne_nil
  have hd : isAsciiDigit d = true := hp.digits d (by simp [hwhole])
  unfold Parts.text
  rw [hwhole]
  cases negative with
  | false =>
    exact forall_isAsciiDigit (P := fun d => ∀ s, readScalar (d :: s) = readNumber false (d :: s))
      (by simp [readScalar]) hd _
  | true =>
    exact forall_isAsciiDigit
      (P := fun d => ∀ s, readScalar ('-' :: d :: s) = readNumber true (d :: s))
      (by simp [readScalar]) hd _

/-! ## The text of a number -/

/-- The text of a number: a word, zero, or a shortest decimal that becomes the number. -/
inductive IsFloatText : Binary64 → List Char → Prop
  | nan : IsFloatText .nan "NaN".toList
  | infinite (negative : Bool) :
      IsFloatText (.infinite negative) (withSign negative "Infinity".toList)
  | zero (negative : Bool) : IsFloatText (.finite negative 0) (withSign negative "0.0".toList)
  | finite {negative : Bool} {q : ℕ} {d : Binary64.Scaled} (pos : 0 < q)
      (shortest : Binary64.IsShortest q d) :
      IsFloatText (.finite negative q) (withSign negative d.text)

theorem isFloatText_floatText (hx : x.IsRepresentable) : IsFloatText x (floatText x) := by
  cases hx with
  | nan => exact .nan
  | infinite negative => exact .infinite negative
  | @finite negative q hq hover =>
    show IsFloatText _ (withSign negative (if q = 0 then "0.0".toList else _))
    by_cases hzero : q = 0
    · rw [if_pos hzero, hzero]
      exact .zero negative
    · rw [if_neg hzero]
      have hpos := Nat.pos_of_ne_zero hzero
      exact .finite hpos (Binary64.isShortest_shortestScaled hq hpos hover)

theorem digits_pos {q : ℕ} {d : Binary64.Scaled} (hq : 0 < q)
    (h : d.toBinary = .finite false q) : 0 < d.digits := by
  rw [Nat.pos_iff_ne_zero]
  intro hzero
  rw [Binary64.Scaled.toBinary, hzero] at h
  exact hq.ne (Binary64.finite.inj h).2

theorem denotes_zero : Denotes "0.0".toList ((0 : ℕ) * 10 ^ (-1 : ℤ)) :=
  denotes_positional (List.all_iff_forall_prop.1 (by decide)) (List.cons_ne_nil '0' [])
    (fun _ => rfl) (List.cons_ne_nil '0' [])

/-- Every text of a number is read as the number. -/
theorem IsFloatText.readScalar_append (h : IsFloatText x s) (hc : EndsNumber c)
    (rest : List Char) : readScalar (s ++ c :: rest) = some (.float x, c :: rest) := by
  cases h with
  | nan => rfl
  | infinite negative => cases negative <;> rfl
  | zero negative =>
    rw [readScalar_of_denotes denotes_zero, readNumber_of_denotes denotes_zero hc]
    rfl
  | @finite negative q d hpos hshortest =>
    have hdenotes := Binary64.Scaled.denotes_text (digits_pos hpos hshortest.reads)
    have hreads : ofDecimal false d.digits d.exponent = .finite false q := hshortest.reads
    rw [readScalar_of_denotes hdenotes, readNumber_of_denotes hdenotes hc,
      Binary64.ofDecimal_eq_withMinus, hreads]
    cases negative <;> rfl

/-! ## The characters of numbers -/

theorem mem_numberChars_of_denotes (h : Denotes s v) : ∀ x ∈ s, x ∈ numberChars := by
  obtain ⟨p, hp, rfl, -⟩ := h
  have hdigits : ∀ x ∈ p.whole ++ p.fraction, x ∈ numberChars :=
    fun x hx => mem_numberChars_of_isAsciiDigit (hp.digits x hx)
  obtain ⟨hwhole, hfraction⟩ := List.forall_mem_append.1 hdigits
  refine List.forall_mem_append.2 ⟨List.forall_mem_append.2 ⟨hwhole, ?_⟩, ?_⟩
  · split_ifs
    · exact List.forall_mem_nil _
    · exact List.forall_mem_cons.2 ⟨by decide, hfraction⟩
  · cases p.exponent with
    | none => exact List.forall_mem_nil _
    | some e =>
      obtain ⟨d, digits, htext, hall, -⟩ := exists_exponentText_eq e
      rw [Option.elim_some, htext]
      refine List.forall_mem_cons.2 ⟨by decide, List.forall_mem_cons.2 ⟨?_, fun x hx => ?_⟩⟩
      · split_ifs <;> decide
      · exact mem_numberChars_of_isAsciiDigit (hall x hx)

theorem IsFloatText.mem_numberChars (h : IsFloatText x s) : ∀ c ∈ s, c ∈ numberChars := by
  cases h with
  | nan => exact List.all_iff_forall_prop.1 (by decide)
  | infinite negative =>
    exact Binary64.forall_mem_withSign (by decide) (List.all_iff_forall_prop.1 (by decide))
  | zero negative =>
    exact Binary64.forall_mem_withSign (by decide) (List.all_iff_forall_prop.1 (by decide))
  | finite hpos hshortest =>
    have hdenotes := Binary64.Scaled.denotes_text (digits_pos hpos hshortest.reads)
    exact Binary64.forall_mem_withSign (by decide) (mem_numberChars_of_denotes hdenotes)

theorem IsFloatText.ne_nil (h : IsFloatText x s) : s ≠ [] := by
  have hsign : ∀ (negative : Bool) (s : List Char), s ≠ [] → withSign negative s ≠ [] := by
    intro negative s hs
    cases negative with
    | false => exact hs
    | true => exact List.cons_ne_nil _ _
  cases h with
  | nan => exact List.cons_ne_nil _ _
  | infinite negative => exact hsign _ _ (List.cons_ne_nil _ _)
  | zero negative => exact hsign _ _ (List.cons_ne_nil _ _)
  | finite hpos hshortest =>
    obtain ⟨p, hp, htext, -⟩ := Binary64.Scaled.denotes_text (digits_pos hpos hshortest.reads)
    rw [← htext]
    exact hsign _ _ (List.append_ne_nil_of_left_ne_nil
      (List.append_ne_nil_of_left_ne_nil hp.whole_ne_nil _) _)

end Json

end SectionTimes
