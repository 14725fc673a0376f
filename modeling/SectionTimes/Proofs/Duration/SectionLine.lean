import SectionTimes.Proofs.Duration.Head

/-!
# Section lines

The form of a line that closes a section is given here by its parts, as it is written.  The
reader accepts a line just when its text, blanks around it aside, has such parts, and a text has
them in one way at most, whatever quotes, dashes and blanks the name of the section holds.
-/

namespace SectionTimes.Duration

open Text

/-- The parts of a line that closes a section. -/
@[ext]
structure SectionLine where
  /-- The blanks before the amount. -/
  gap : List Char
  /-- The time taken. -/
  amount : Amount
  /-- The section. -/
  name : List Char
  /-- The blanks behind the closing quote. -/
  endGap : List Char
  gap_isGap : IsGap gap
  amount_valid : amount.Valid
  name_oneLine : '\n' ∉ name
  endGap_isGap : IsGap endGap

/-- What stands behind the opening quote of a section line. -/
def sectionTail (name endGap : List Char) : List Char := name ++ '\'' :: endGap ++ rule 6

namespace SectionLine

/-- The line as it is written. -/
def text (l : SectionLine) : List Char :=
  rule 6 ++ l.gap ++ l.amount.text ++ "s was the duration of '".toList ++ l.name ++ ['\''] ++
    l.endGap ++ rule 6

/-- What the line tells. -/
def reading (l : SectionLine) : Reading := ⟨l.amount, l.name⟩

end SectionLine

/-! ## The tail -/

variable {s name endGap : List Char}

/-- The closing quote ends what is left once the rule and the blanks before it are taken off. -/
theorem trimEnd_quote (name : List Char) (h : IsGap endGap) :
    trimEnd isBlank (name ++ '\'' :: endGap) = name ++ ['\''] :=
  trimEnd_append_stop h.2 (by decide)

theorem readSectionTail_eq_some_iff :
    readSectionTail s = some name ↔
      ∃ endGap, IsGap endGap ∧ '\n' ∉ name ∧ s = sectionTail name endGap := by
  unfold readSectionTail
  simp only [Option.bind_eq_bind, Option.bind_eq_some_iff, before?_eq_some_iff]
  constructor
  · rintro ⟨s₁, hs, h⟩
    by_cases hgap : (trimEnd isBlank s₁).length = s₁.length
    · rw [if_pos hgap] at h
      cases h
    rw [if_neg hgap] at h
    obtain ⟨n, hquote, hname⟩ := Option.bind_eq_some_iff.1 h
    have hn : trimEnd isBlank s₁ = n ++ ['\''] := before?_eq_some_iff.1 hquote
    obtain ⟨w, hw, hs₁⟩ := exists_eq_trimEnd_append isBlank s₁
    by_cases hline : '\n' ∈ n
    · rw [if_pos hline] at hname
      cases hname
    rw [if_neg hline, Option.some.injEq] at hname
    subst hname
    refine ⟨w, ⟨fun hnil => hgap ?_, hw⟩, hline, ?_⟩
    · rw [hnil, List.append_nil] at hs₁
      exact congrArg List.length hs₁.symm
    · rw [hs, hs₁, hn]
      simp [sectionTail]
  · rintro ⟨w, hw, hline, rfl⟩
    -- There are blanks to take off, so that the reader does not stop at a missing gap.
    have hlength : ¬ (name ++ ['\'']).length = (name ++ '\'' :: w).length := by
      have := List.length_pos_of_ne_nil hw.1
      simp only [List.length_append, List.length_cons, List.length_nil]
      omega
    refine ⟨name ++ '\'' :: w, rfl, ?_⟩
    rw [trimEnd_quote name hw, if_neg hlength, before?_eq_some_iff.2 rfl, Option.bind_some,
      if_neg hline]

/-! ## The line -/

namespace SectionLine

variable (l : SectionLine)

theorem text_eq :
    l.text = headText 6 l.gap l.amount sectionWords ++ sectionTail l.name l.endGap := by
  unfold text headText sectionTail sectionWords
  simp only [List.append_assoc, List.cons_append, List.nil_append]

theorem text_head : l.text.head? = some '-' := by
  rw [text_eq]
  exact headText_head _

theorem text_getLast : l.text.getLast? = some '-' := by
  unfold text
  rw [List.getLast?_append]
  rfl

/-- The text of a section line has no blanks around it. -/
theorem trim_text : trim l.text = l.text := by
  refine trim_eq_self (fun c hc => ?_) (fun c hc => ?_)
  · rw [text_head, Option.some.injEq] at hc
    subst hc
    decide
  · rw [text_getLast, Option.some.injEq] at hc
    subst hc
    decide

theorem readHead_text :
    readHead 6 sectionWords l.text = some (l.amount, sectionTail l.name l.endGap) := by
  rw [text_eq]
  exact readHead_headText (by decide) (by decide) l.gap_isGap l.amount_valid _

theorem readSectionTail_tail : readSectionTail (sectionTail l.name l.endGap) = some l.name :=
  readSectionTail_eq_some_iff.2 ⟨l.endGap, l.endGap_isGap, l.name_oneLine, rfl⟩

/-- A text is that of one section line at most. -/
theorem text_injective : Function.Injective text := by
  intro l l' h
  have hhead : some (l.amount, sectionTail l.name l.endGap) =
      some (l'.amount, sectionTail l'.name l'.endGap) := by
    rw [← readHead_text, ← readHead_text, h]
  obtain ⟨hamount, htail⟩ := Prod.mk.inj (Option.some.inj hhead)
  have hname : l.name = l'.name := by
    have hread := l.readSectionTail_tail
    rw [htail, readSectionTail_tail] at hread
    exact (Option.some.inj hread).symm
  have hend : l.endGap = l'.endGap := by
    have hcut := htail
    unfold sectionTail at hcut
    rw [hname] at hcut
    exact (List.cons.inj (List.append_cancel_left (List.append_cancel_right hcut))).2
  have hgap : l.gap = l'.gap := by
    rw [text_eq, text_eq, hamount, htail] at h
    exact gap_eq_of_headText_append_eq h
  exact SectionLine.ext hgap hamount hname hend

end SectionLine

theorem readSection_eq_some_iff {line : List Char} {r : Reading} :
    readSection line = some r ↔ ∃ l : SectionLine, l.text = trim line ∧ l.reading = r := by
  unfold readSection
  simp only [Option.bind_eq_bind, Option.bind_eq_some_iff]
  constructor
  · rintro ⟨⟨a, tail⟩, hhead, name, htail, hr⟩
    obtain ⟨gap, hgap, ha, hs⟩ := exists_headText_of_readHead hhead
    obtain ⟨endGap, hend, hline, rfl⟩ := readSectionTail_eq_some_iff.1 htail
    let l : SectionLine := ⟨gap, a, name, endGap, hgap, ha, hline, hend⟩
    exact ⟨l, l.text_eq.trans hs.symm, Option.some.inj hr⟩
  · rintro ⟨l, hs, rfl⟩
    rw [← hs]
    exact ⟨_, l.readHead_text, l.name, l.readSectionTail_tail, rfl⟩

end SectionTimes.Duration
