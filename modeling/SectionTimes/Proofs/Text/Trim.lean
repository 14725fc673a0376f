import Mathlib.Data.List.DropRight
import SectionTimes.Text.Blank

/-!
# Trimming

A run of characters of one class ends at the first character outside the class.  Trimming takes
off the blanks around a text and nothing else: blanks put around a text make no difference, and
what is left neither begins nor ends with one.
-/

namespace SectionTimes.Text

variable {p : Char → Bool}

/-! ## Runs -/

theorem takeWhile_append_stop {w r : List Char} {c : Char} (hw : ∀ x ∈ w, p x = true)
    (hc : p c = false) : (w ++ c :: r).takeWhile p = w := by
  rw [List.takeWhile_append_of_pos hw, List.takeWhile_cons_of_neg (by simp [hc]),
    List.append_nil]

theorem dropWhile_append_stop {w r : List Char} {c : Char} (hw : ∀ x ∈ w, p x = true)
    (hc : p c = false) : (w ++ c :: r).dropWhile p = c :: r := by
  rw [List.dropWhile_append_of_pos hw, List.dropWhile_cons_of_neg (by simp [hc])]

/-- A gap: blanks only, and at least one. -/
def IsGap (w : List Char) : Prop := w ≠ [] ∧ ∀ x ∈ w, isBlank x = true

/-! ## Trimming at the end -/

theorem trimEnd_eq_rdropWhile (s : List Char) : trimEnd p s = s.rdropWhile p := rfl

theorem trimEnd_append_stop {s w : List Char} {c : Char} (hw : ∀ x ∈ w, p x = true)
    (hc : p c = false) : trimEnd p (s ++ c :: w) = s ++ [c] := by
  have hrev : (s ++ c :: w).reverse = w.reverse ++ c :: s.reverse := by simp
  unfold trimEnd
  rw [hrev, dropWhile_append_stop (fun x hx => hw x (List.mem_reverse.1 hx)) hc]
  simp

/-- What trimming at the end takes off belongs to the class. -/
theorem exists_eq_trimEnd_append (p : Char → Bool) (s : List Char) :
    ∃ w, (∀ x ∈ w, p x = true) ∧ s = trimEnd p s ++ w := by
  refine ⟨(s.reverse.takeWhile p).reverse, fun x hx => ?_, ?_⟩
  · exact List.mem_takeWhile_imp (List.mem_reverse.1 hx)
  · unfold trimEnd
    rw [← List.reverse_append, List.takeWhile_append_dropWhile, List.reverse_reverse]

theorem trimEnd_append {s w : List Char} (hw : ∀ x ∈ w, p x = true) :
    trimEnd p (s ++ w) = trimEnd p s := by
  have hw' : ∀ x ∈ w.reverse, p x = true := fun x hx => hw x (List.mem_reverse.1 hx)
  unfold trimEnd
  rw [List.reverse_append, List.dropWhile_append_of_pos hw']

theorem trimEnd_trimEnd (s : List Char) : trimEnd p (trimEnd p s) = trimEnd p s :=
  List.rdropWhile_idempotent p s

theorem getLast_trimEnd {s : List Char} {c : Char} (h : (trimEnd p s).getLast? = some c) :
    p c = false := by
  have hne : trimEnd p s ≠ [] := by
    intro hnil
    rw [hnil] at h
    cases h
  have hlast : ¬ p ((trimEnd p s).getLast hne) = true := List.rdropWhile_last_not p s hne
  rw [List.getLast?_eq_some_getLast hne, Option.some.injEq] at h
  rw [h] at hlast
  simpa using hlast

/-! ## Trimming at both ends -/

/-- Blanks around a text make no difference to it once it is trimmed. -/
theorem trim_append {w s w' : List Char} (hw : ∀ x ∈ w, isBlank x = true)
    (hw' : ∀ x ∈ w', isBlank x = true) : trim (w ++ s ++ w') = trim s := by
  unfold trim trimBy
  rw [List.append_assoc, List.dropWhile_append_of_pos hw, List.dropWhile_append]
  split
  · rename_i hnil
    rw [List.isEmpty_iff.1 hnil, List.dropWhile_eq_nil_iff.2 hw']
  · exact trimEnd_append hw'

/-- A text is what is left of it when it is trimmed, with blanks around. -/
theorem exists_eq_append_trim (s : List Char) :
    ∃ w w', (∀ x ∈ w, isBlank x = true) ∧ (∀ x ∈ w', isBlank x = true) ∧
      s = w ++ trim s ++ w' := by
  obtain ⟨w', hw', he⟩ := exists_eq_trimEnd_append isBlank (s.dropWhile isBlank)
  refine ⟨s.takeWhile isBlank, w', fun x hx => List.mem_takeWhile_imp hx, hw', ?_⟩
  calc s = s.takeWhile isBlank ++ s.dropWhile isBlank := List.takeWhile_append_dropWhile.symm
    _ = s.takeWhile isBlank ++ trim s ++ w' := by rw [List.append_assoc]; exact congrArg _ he

/-- A text that neither begins nor ends with a character of the class is left as it is. -/
theorem trimBy_eq_self {s : List Char} (hhead : ∀ c, s.head? = some c → p c = false)
    (hlast : ∀ c, s.getLast? = some c → p c = false) : trimBy p s = s := by
  have hdrop : s.dropWhile p = s := by
    cases s with
    | nil => rfl
    | cons c s => exact List.dropWhile_cons_of_neg (by simp [hhead c rfl])
  unfold trimBy
  rw [hdrop, trimEnd_eq_rdropWhile, List.rdropWhile_eq_self_iff]
  intro hne hclass
  rw [hlast _ (List.getLast?_eq_some_getLast hne)] at hclass
  cases hclass

theorem trim_eq_self {s : List Char} (hhead : ∀ c, s.head? = some c → isBlank c = false)
    (hlast : ∀ c, s.getLast? = some c → isBlank c = false) : trim s = s :=
  trimBy_eq_self hhead hlast

theorem isBlank_getLast_trim {s : List Char} {c : Char} (h : (trim s).getLast? = some c) :
    isBlank c = false :=
  getLast_trimEnd h

end SectionTimes.Text
