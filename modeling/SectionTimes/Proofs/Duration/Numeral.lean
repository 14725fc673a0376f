import SectionTimes.Number.Numeral
import SectionTimes.Proofs.Duration.Amount

/-!
# Amounts are numerals

Every amount, in the digits of whatever script, is the text of a number: the reader of numerals
takes it, and what it gives are the seconds of the amount.  So nothing that a duration line lets
through as an amount is ever refused as a number.
-/

namespace SectionTimes

open Text Numeral

/-! ## Digits in ASCII -/

namespace Numeral

/-- The ASCII digit of the same value as a digit. -/
def asciiDigit (c : Char) : Char := Char.ofNat (48 + digitValue c)

theorem isAsciiDigit_asciiDigit (c : Char) : isAsciiDigit (asciiDigit c) = true := by
  have hdigit : ∀ n < 10, isAsciiDigit (Char.ofNat (48 + n)) = true := by decide
  exact hdigit _ (digitValue_lt c)

theorem digitValue_asciiDigit (c : Char) : digitValue (asciiDigit c) = digitValue c := by
  have hvalue : ∀ n < 10, digitValue (Char.ofNat (48 + n)) = n := by decide
  exact hvalue _ (digitValue_lt c)

theorem digitsValue_map_asciiDigit (s : List Char) :
    digitsValue (s.map asciiDigit) = digitsValue s := by
  unfold digitsValue
  rw [List.foldl_map]
  simp only [digitValue_asciiDigit]

theorem isMargin_eq_false_of_isDigit {c : Char} (h : isDigit c = true) : isMargin c = false := by
  have hblank : isBlank c = false := isBlank_eq_false_of_isDigit h
  have hascii : isAsciiBlank c = false :=
    Bool.eq_false_iff.2 fun ha => absurd (isBlank_of_isAsciiBlank ha) (by simp [hblank])
  rw [isMargin, hascii, hblank, Bool.and_false, Bool.or_false]

/-! ## Texts that begin with an ASCII digit -/

variable {c : Char} {s : List Char}

theorem joined_eq_self (h : '_' ∉ s) (previous : Option Char) : joined previous s = some s := by
  induction s generalizing previous with
  | nil => rfl
  | cons c s ih =>
    have hc : c ≠ '_' := fun he => h (he ▸ List.mem_cons_self)
    have hs : '_' ∉ s := fun hmem => h (List.mem_cons_of_mem _ hmem)
    unfold joined
    split
    · rename_i he
      cases he
    · rename_i he
      exact absurd (List.cons.inj he).1 hc
    · rename_i he
      exact absurd (List.cons.inj he).1 hc
    · rename_i he
      obtain ⟨rfl, rfl⟩ := List.cons.inj he
      rw [ih hs, Option.map_some]

/-- A digit is not a sign. -/
theorem sign_cons (hc : isAsciiDigit c = true) : sign (c :: s) = (false, c :: s) := by
  unfold sign
  split
  · rename_i he
    obtain ⟨rfl, -⟩ := List.cons.inj he
    cases hc
  · rename_i he
    obtain ⟨rfl, -⟩ := List.cons.inj he
    cases hc
  · rfl

theorem toLower_of_isAsciiDigit (hc : isAsciiDigit c = true) : c.toLower = c := by
  simp only [isAsciiDigit, Bool.and_eq_true, decide_eq_true_eq, Char.le_def,
    UInt32.le_iff_toNat_le] at hc
  have hnine : ('9' : Char).val.toNat = 57 := rfl
  unfold Char.toLower
  rw [dif_neg]
  rintro ⟨hupper, -⟩
  have : 65 ≤ c.val.toNat := UInt32.le_iff_toNat_le.1 hupper
  omega

/-- A digit begins none of the words for numbers that are not finite. -/
theorem ofList_map_toLower_ne (hc : isAsciiDigit c = true) {word : String} {d : Char}
    (hword : word.toList.head? = some d) (hd : isAsciiDigit d = false) :
    String.ofList ((c :: s).map Char.toLower) ≠ word := by
  rintro rfl
  rw [String.toList_ofList, List.map_cons, List.head?_cons, toLower_of_isAsciiDigit hc,
    Option.some.injEq] at hword
  rw [hword, hd] at hc
  cases hc

theorem readBinary_of_prepared {t : List Char} (ht : prepared t = c :: s)
    (hc : isAsciiDigit c = true) (hs : '_' ∉ c :: s) :
    readBinary t = readMagnitude false (c :: s) := by
  unfold readBinary
  rw [ht, joined_eq_self hs, Option.bind_eq_bind, Option.bind_some, sign_cons hc]
  dsimp only
  split
  · rename_i he
    exact absurd he (ofList_map_toLower_ne hc rfl (by decide))
  · rename_i he
    exact absurd he (ofList_map_toLower_ne hc rfl (by decide))
  · rename_i he
    exact absurd he (ofList_map_toLower_ne hc rfl (by decide))
  · rfl

end Numeral

/-! ## The text of an amount as a numeral -/

namespace Amount

variable {a : Amount}

/-- An amount with its digits in ASCII. -/
def inAscii (a : Amount) : Amount := ⟨a.whole.map asciiDigit, a.fraction.map asciiDigit⟩

theorem mem_text_iff {c : Char} :
    c ∈ a.text ↔ c ∈ a.whole ∨ c ∈ a.fraction ∨ a.fraction ≠ [] ∧ c = '.' := by
  by_cases hf : a.fraction = []
  · rw [text_of_fraction_nil hf, hf]
    simp
  · rw [text_of_fraction_ne_nil hf, List.mem_append, List.mem_cons]
    simp only [ne_eq, hf, not_false_eq_true, true_and]
    tauto

/-- The text of an amount ends with a digit. -/
theorem Valid.isDigit_getLast (ha : a.Valid) {c : Char} (h : a.text.getLast? = some c) :
    isDigit c = true := by
  by_cases hf : a.fraction = []
  · rw [text_of_fraction_nil hf] at h
    exact ha.2.1 c (List.mem_of_getLast? h)
  · rw [text_of_fraction_ne_nil hf, List.getLast?_append_of_ne_nil _ (List.cons_ne_nil _ _),
      List.getLast?_cons_of_ne_nil hf] at h
    exact ha.2.2 c (List.mem_of_getLast? h)

theorem inAscii_ascii (a : Amount) : (∀ c ∈ a.inAscii.whole, isAsciiDigit c = true) ∧
    ∀ c ∈ a.inAscii.fraction, isAsciiDigit c = true := by
  constructor
  all_goals
    intro c hc
    obtain ⟨d, -, rfl⟩ := List.mem_map.1 hc
    exact isAsciiDigit_asciiDigit d

theorem seconds_inAscii (a : Amount) : a.inAscii.seconds = a.seconds := by
  unfold seconds inAscii
  dsimp only
  rw [← List.map_append, digitsValue_map_asciiDigit, List.length_map]

/-- No blanks are taken off an amount, and its digits become those of ASCII. -/
theorem Valid.prepared_text (ha : a.Valid) : prepared a.text = a.inAscii.text := by
  have hmap : ∀ s : List Char, (∀ c ∈ s, isDigit c = true) →
      (s.map fun c => if isDigit c then Char.ofNat (48 + digitValue c) else c) =
        s.map asciiDigit :=
    fun s hs => List.map_congr_left fun c hc => if_pos (hs c hc)
  have htrim : trimBy isMargin a.text = a.text := by
    refine trimBy_eq_self (fun c hc => ?_) fun c hc => ?_
    · obtain ⟨d, s, hd, hs⟩ := ha.exists_text_eq_cons
      rw [hs, List.head?_cons, Option.some.injEq] at hc
      exact isMargin_eq_false_of_isDigit (hc ▸ hd)
    · exact isMargin_eq_false_of_isDigit (ha.isDigit_getLast hc)
  rw [prepared, htrim]
  by_cases hf : a.fraction = []
  · have hf' : a.inAscii.fraction = [] := List.map_eq_nil_iff.2 hf
    rw [text_of_fraction_nil hf, text_of_fraction_nil hf', hmap _ ha.2.1]
    rfl
  · have hf' : a.inAscii.fraction ≠ [] := fun h => hf (List.map_eq_nil_iff.1 h)
    rw [text_of_fraction_ne_nil hf, text_of_fraction_ne_nil hf', List.map_append, List.map_cons,
      hmap _ ha.2.1, hmap _ ha.2.2]
    rfl

theorem readMagnitude_text (hne : a.whole ≠ []) (hwhole : ∀ c ∈ a.whole, isAsciiDigit c = true)
    (hfraction : ∀ c ∈ a.fraction, isAsciiDigit c = true) :
    readMagnitude false a.text = some a.seconds := by
  unfold readMagnitude
  by_cases hf : a.fraction = []
  · have htake : a.whole.takeWhile isAsciiDigit = a.whole := List.takeWhile_eq_self_iff.2 hwhole
    have hdrop : a.whole.dropWhile isAsciiDigit = [] := List.dropWhile_eq_nil_iff.2 hwhole
    rw [text_of_fraction_nil hf]
    dsimp only
    rw [htake, hdrop]
    simp [hne, readExponent, seconds, hf]
  · have hpoint : isAsciiDigit '.' = false := by decide
    have htake : a.fraction.takeWhile isAsciiDigit = a.fraction :=
      List.takeWhile_eq_self_iff.2 hfraction
    have hdrop : a.fraction.dropWhile isAsciiDigit = [] := List.dropWhile_eq_nil_iff.2 hfraction
    rw [text_of_fraction_ne_nil hf]
    dsimp only
    rw [takeWhile_append_stop hwhole hpoint, dropWhile_append_stop hwhole hpoint]
    simp only [htake, hdrop]
    simp [hne, readExponent, seconds]

/-- The text of an amount is read as a number, and the number is that of its seconds. -/
theorem Valid.readBinary_text (ha : a.Valid) : readBinary a.text = some a.seconds := by
  obtain ⟨hwhole, hfraction⟩ := a.inAscii_ascii
  have hne : a.inAscii.whole ≠ [] := fun h => ha.1 (List.map_eq_nil_iff.1 h)
  obtain ⟨d, hd, s, hs⟩ := text_eq_cons_of_whole_ne_nil hne
  have hunderscore : '_' ∉ d :: s := by
    rw [← hs, mem_text_iff]
    rintro (h | h | ⟨-, h⟩)
    · exact absurd (hwhole _ h) (by decide)
    · exact absurd (hfraction _ h) (by decide)
    · exact absurd h (by decide)
  rw [readBinary_of_prepared (ha.prepared_text.trans hs) (hwhole d hd) hunderscore, ← hs,
    readMagnitude_text hne hwhole hfraction, seconds_inAscii]

end Amount

end SectionTimes
