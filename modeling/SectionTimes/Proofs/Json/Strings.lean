import SectionTimes.Json.Printer
import SectionTimes.Json.Reader
import SectionTimes.Proofs.Number.Fixed

/-!
# Strings in JSON

What is written between the quotes of a string is ASCII, and reading it gives the characters of the
string back one by one: those that stand for themselves, those with an escape by a letter, and the
others by their codes of 16 bits, of which a character beyond them takes two.
-/

namespace SectionTimes.Json

open Text

variable {c : Char} {s done : List Char} {n : ℕ}

/-! ## Codes -/

/-- A character is no half of a character, and its code is in range. -/
theorem toNat_cases (c : Char) : c.toNat < 0xD800 ∨ 0xE000 ≤ c.toNat ∧ c.toNat < 0x110000 := by
  rcases c.valid with h | ⟨hlow, hhigh⟩
  · exact Or.inl h
  · exact Or.inr ⟨hlow, hhigh⟩

theorem hexValue?_hexDigit : ∀ d < 16, hexValue? (hexDigit d) = some d := by decide

/-- The unit of an escape is read back from its four digits. -/
theorem readString_unitEscape (hn : n < 0x10000) (high : Option ℕ) (done s : List Char) :
    readString high done (unitEscape n ++ s) =
      match high with
      | some h =>
        if isLowHalf n then readString none (pairChar h n :: done) s
        else if isHighHalf n then readString (some n) (codeChar h :: done) s
        else readString none (codeChar n :: codeChar h :: done) s
      | none =>
        if isHighHalf n then readString (some n) done s
        else readString none (codeChar n :: done) s := by
  have hunit : unit? (hexDigit (n / 16 / 16 / 16 % 16)) (hexDigit (n / 16 / 16 % 16))
      (hexDigit (n / 16 % 16)) (hexDigit (n % 16)) = some n := by
    unfold unit?
    rw [hexValue?_hexDigit _ (Nat.mod_lt _ (by decide)),
      hexValue?_hexDigit _ (Nat.mod_lt _ (by decide)),
      hexValue?_hexDigit _ (Nat.mod_lt _ (by decide)),
      hexValue?_hexDigit _ (Nat.mod_lt _ (by decide))]
    exact congrArg some (by omega)
  show readString high done ('\\' :: 'u' :: hexDigit (n / 16 / 16 / 16 % 16) ::
    hexDigit (n / 16 / 16 % 16) :: hexDigit (n / 16 % 16) :: hexDigit (n % 16) :: s) = _
  rw [readString, hunit]
  cases high <;> rfl

/-! ## Characters -/

theorem codeChar_toNat (c : Char) : codeChar c.toNat = c := by
  have hhalf : isHalf c.toNat = false := by
    have hc := toNat_cases c
    simp only [isHalf, isHighHalf, isLowHalf, Bool.or_eq_false_iff, Bool.and_eq_false_iff,
      decide_eq_false_iff_not]
    omega
  unfold codeChar
  rw [hhalf]
  exact Char.ofNat_toNat c

/-- A character of one unit is read back from its escape. -/
theorem readString_unitEscape_toNat (hc : c.toNat < 0x10000) (done s : List Char) :
    readString none done (unitEscape c.toNat ++ s) = readString none (c :: done) s := by
  have hhigh : isHighHalf c.toNat = false := by
    have hvalid := toNat_cases c
    simp only [isHighHalf, Bool.and_eq_false_iff, decide_eq_false_iff_not]
    omega
  rw [readString_unitEscape hc, codeChar_toNat]
  simp only [hhigh, Bool.false_eq_true, if_false]

/-- A character of two units is read back from their escapes. -/
theorem readString_pair (hc : 0x10000 ≤ c.toNat) (done s : List Char) :
    readString none done (unitEscape (0xD800 + (c.toNat - 0x10000) / 0x400) ++
      (unitEscape (0xDC00 + (c.toNat - 0x10000) % 0x400) ++ s)) =
        readString none (c :: done) s := by
  have hlast : c.toNat < 0x110000 := by
    have hvalid := toNat_cases c
    omega
  have hhigh : isHighHalf (0xD800 + (c.toNat - 0x10000) / 0x400) = true := by
    simp only [isHighHalf, Bool.and_eq_true, decide_eq_true_eq]
    omega
  have hlow : isLowHalf (0xDC00 + (c.toNat - 0x10000) % 0x400) = true := by
    simp only [isLowHalf, Bool.and_eq_true, decide_eq_true_eq]
    omega
  have hpair : pairChar (0xD800 + (c.toNat - 0x10000) / 0x400)
      (0xDC00 + (c.toNat - 0x10000) % 0x400) = c := by
    unfold pairChar
    rw [show 0x10000 + (0xD800 + (c.toNat - 0x10000) / 0x400 - 0xD800) * 0x400 +
      (0xDC00 + (c.toNat - 0x10000) % 0x400 - 0xDC00) = c.toNat by omega]
    exact Char.ofNat_toNat c
  rw [readString_unitEscape (by omega), readString_unitEscape (by omega)]
  simp only [hhigh, hlow, if_true, hpair]

theorem readString_letter {e : Char} (h : letterEscape? e = some c) (hu : e ≠ 'u')
    (done s : List Char) :
    readString none done ('\\' :: e :: s) = readString none (c :: done) s := by
  rw [readString]
  · rw [h]
    rfl
  · intro a b c d t _ ht
    exact hu (List.cons.inj ht).1

theorem readString_plain (hquote : c ≠ '"') (hbackslash : c ≠ '\\') (hplain : 0x20 ≤ c.toNat)
    (done s : List Char) : readString none done (c :: s) = readString none (c :: done) s := by
  have hchar : ¬(c.toNat < 0x20 || c = '\\') = true := by
    simp only [Bool.or_eq_true, decide_eq_true_eq, hbackslash, or_false]
    omega
  rw [readString]
  · exact if_neg hchar
  · exact fun a b c d t hc => absurd hc hbackslash
  · exact fun hc => absurd hc hquote
  · exact fun e t hc => absurd hc hbackslash

/-- Every character is read back from the way it is written. -/
theorem readString_escaped (c : Char) (done s : List Char) :
    readString none done (escaped c ++ s) = readString none (c :: done) s := by
  unfold escaped
  split_ifs with hquote hbackslash hn hr ht hf hb hplain hshort
  · exact readString_letter (by rw [hquote]; rfl) (by decide) done s
  · exact readString_letter (by rw [hbackslash]; rfl) (by decide) done s
  · exact readString_letter (by rw [hn]; rfl) (by decide) done s
  · exact readString_letter (by rw [hr]; rfl) (by decide) done s
  · exact readString_letter (by rw [ht]; rfl) (by decide) done s
  · exact readString_letter (by rw [hf]; rfl) (by decide) done s
  · exact readString_letter (by rw [hb]; rfl) (by decide) done s
  · rw [Bool.and_eq_true, decide_eq_true_eq] at hplain
    exact readString_plain hquote hbackslash hplain.1 done s
  · exact readString_unitEscape_toNat hshort done s
  · rw [List.append_assoc]
    exact readString_pair (not_lt.1 hshort) done s

/-- A string is read back from the way it is written, up to its closing quote. -/
theorem readString_flatMap_escaped (s done rest : List Char) :
    readString none done (s.flatMap escaped ++ '"' :: rest) = some (done.reverse ++ s, rest) := by
  induction s generalizing done with
  | nil =>
    rw [List.append_nil]
    rfl
  | cons c s ih => rw [List.flatMap_cons, List.append_assoc, readString_escaped, ih,
      List.reverse_cons, List.append_assoc, List.singleton_append]

/-! ## Written strings -/

theorem isAscii_hexDigits (width n : ℕ) : ∀ x ∈ hexDigits width n, x.toNat < 128 := by
  have hdigit : ∀ d < 16, (hexDigit d).toNat < 128 := by decide
  induction width generalizing n with
  | zero => exact List.forall_mem_nil _
  | succ width ih =>
    exact List.forall_mem_append.2
      ⟨ih _, List.forall_mem_singleton.2 (hdigit _ (Nat.mod_lt n (by decide)))⟩

theorem isAscii_unitEscape (n : ℕ) : ∀ x ∈ unitEscape n, x.toNat < 128 :=
  List.forall_mem_cons.2 ⟨by decide, List.forall_mem_cons.2 ⟨by decide, isAscii_hexDigits 4 n⟩⟩

/-- What is written for a character is ASCII. -/
theorem isAscii_escaped (c : Char) : ∀ x ∈ escaped c, x.toNat < 128 := by
  unfold escaped
  split_ifs with _ _ _ _ _ _ _ hplain
  -- the escapes by a letter
  iterate 7 · exact List.all_iff_forall_prop.1 (by decide)
  · rw [Bool.and_eq_true, decide_eq_true_eq, decide_eq_true_eq] at hplain
    exact List.forall_mem_singleton.2 (by omega)
  · exact isAscii_unitEscape _
  · exact List.forall_mem_append.2 ⟨isAscii_unitEscape _, isAscii_unitEscape _⟩

/-- What is written for a string is ASCII. -/
theorem isAscii_stringText (s : List Char) : ∀ x ∈ stringText s, x.toNat < 128 := by
  refine List.forall_mem_append.2 ⟨List.forall_mem_cons.2 ⟨by decide, ?_⟩,
    List.forall_mem_singleton.2 (by decide)⟩
  intro x hx
  obtain ⟨c, -, hc⟩ := List.mem_flatMap.1 hx
  exact isAscii_escaped c x hc

end SectionTimes.Json
