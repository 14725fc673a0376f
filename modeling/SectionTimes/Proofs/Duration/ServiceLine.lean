import SectionTimes.Proofs.Duration.Head
import SectionTimes.Proofs.Text.Occurrence

/-!
# Service lines

The form of a line that closes a service, by its parts.  The words that end the name may come
again in what stands behind them, so that one text may be that of several service lines.  They
agree in all but the place where the name ends, and the reader takes the shortest name.
-/

namespace SectionTimes.Duration

open Text

/-- The parts of a line that closes a service. -/
structure ServiceLine where
  /-- The blanks before the amount. -/
  gap : List Char
  /-- The time taken. -/
  amount : Amount
  /-- The service. -/
  name : List Char
  /-- The time at which the service ended, as it is written. -/
  ending : List Char
  gap_isGap : IsGap gap
  amount_valid : amount.Valid
  name_ne_nil : name ≠ []
  name_oneLine : '\n' ∉ name
  ending_oneLine : '\n' ∉ ending

/-- What stands behind the words before the name of a service. -/
def serviceTail (name ending : List Char) : List Char := name ++ endingWords ++ ending

namespace ServiceLine

/-- The line as it is written. -/
def text (l : ServiceLine) : List Char :=
  rule 9 ++ l.gap ++ l.amount.text ++ "s was the duration of dumpsys ".toList ++ l.name ++
    ", ending at: ".toList ++ l.ending

/-- What the line tells. -/
def reading (l : ServiceLine) : Reading := ⟨l.amount, l.name⟩

/-- No line with the same text has a shorter name. -/
def IsShortest (l : ServiceLine) : Prop :=
  ∀ l' : ServiceLine, l'.text = l.text → l.name.length ≤ l'.name.length

end ServiceLine

/-! ## The tail -/

variable {s name ending : List Char}

/-- The ending words begin with a comma and hold no other. -/
theorem endingWords_eq : endingWords = ',' :: " ending at: ".toList := rfl

theorem serviceTail_ne_nil : serviceTail name ending ≠ [] := by
  rw [serviceTail, endingWords_eq]
  simp

theorem lineFeed_mem_serviceTail_iff :
    '\n' ∈ serviceTail name ending ↔ '\n' ∈ name ∨ '\n' ∈ ending := by
  have hwords : '\n' ∉ endingWords := by decide
  rw [serviceTail, List.mem_append, List.mem_append]
  simp only [hwords, or_false]

theorem cons_eq_serviceTail_iff {c : Char} :
    c :: s = serviceTail (c :: name) ending ↔ s = name ++ endingWords ++ ending := by
  rw [serviceTail, List.cons_append, List.cons_append, List.cons.injEq]
  simp

/-- The first character belongs to the name whatever it is; the name ends at the first ending
words behind it. -/
theorem readServiceTail_cons_eq_some_iff {c : Char} :
    readServiceTail (c :: s) = some name ↔
      '\n' ∉ c :: s ∧ ∃ n t, cutAt endingWords s = some (n, t) ∧ name = c :: n := by
  rw [readServiceTail]
  by_cases hline : '\n' ∈ c :: s
  · rw [if_pos hline]
    simp [hline]
  · rw [if_neg hline, Option.map_eq_some_iff]
    constructor
    · rintro ⟨⟨n, t⟩, hcut, rfl⟩
      exact ⟨hline, n, t, hcut, rfl⟩
    · rintro ⟨-, n, t, hcut, rfl⟩
      exact ⟨(n, t), hcut, rfl⟩

/-- A tail is read as the shortest name that is not empty and that the ending words follow. -/
theorem readServiceTail_eq_some_iff :
    readServiceTail s = some name ↔
      (∃ ending, name ≠ [] ∧ '\n' ∉ name ∧ '\n' ∉ ending ∧ s = serviceTail name ending) ∧
        ∀ name' ending', name' ≠ [] → s = serviceTail name' ending' →
          name.length ≤ name'.length := by
  -- The reader passes over the first character and looks for the ending words behind it, so that
  -- the names compared are those with this character taken off.
  cases s with
  | nil =>
    have hne : ∀ ending, [] ≠ serviceTail name ending := fun _ h => serviceTail_ne_nil h.symm
    simp [readServiceTail, hne]
  | cons c s =>
    rw [readServiceTail_cons_eq_some_iff]
    constructor
    · rintro ⟨hline, n, t, hcut, rfl⟩
      obtain ⟨hs, hfirst⟩ := cutAt_eq_some_iff.1 hcut
      have htail : c :: s = serviceTail (c :: n) t := cons_eq_serviceTail_iff.2 hs
      rw [htail, lineFeed_mem_serviceTail_iff, not_or] at hline
      refine ⟨⟨t, List.cons_ne_nil _ _, hline.1, hline.2, htail⟩, fun n' t' hne ht' => ?_⟩
      cases n' with
      | nil => exact absurd rfl hne
      | cons d n' =>
        obtain rfl : c = d := (List.cons.inj ht').1
        exact Nat.succ_le_succ (hfirst n' t' (cons_eq_serviceTail_iff.1 ht'))
    · rintro ⟨⟨t, hne, hname, hend, ht⟩, hleast⟩
      have hline : '\n' ∉ c :: s := by
        rw [ht, lineFeed_mem_serviceTail_iff, not_or]
        exact ⟨hname, hend⟩
      cases name with
      | nil => exact absurd rfl hne
      | cons d n =>
        obtain rfl : c = d := (List.cons.inj ht).1
        refine ⟨hline, n, t, cutAt_eq_some_iff.2 ⟨cons_eq_serviceTail_iff.1 ht, ?_⟩, rfl⟩
        intro n' t' hs
        exact Nat.le_of_succ_le_succ
          (hleast (c :: n') t' (List.cons_ne_nil _ _) (cons_eq_serviceTail_iff.2 hs))

/-- A tail without line feeds is read as soon as ending words stand behind its first character. -/
theorem exists_readServiceTail (hne : name ≠ []) (hname : '\n' ∉ name) (hend : '\n' ∉ ending) :
    ∃ n, readServiceTail (serviceTail name ending) = some n := by
  obtain ⟨c, n, rfl⟩ := List.exists_cons_of_ne_nil hne
  have hline : '\n' ∉ serviceTail (c :: n) ending := by
    rw [lineFeed_mem_serviceTail_iff, not_or]
    exact ⟨hname, hend⟩
  have hinfix : endingWords <:+: n ++ endingWords ++ ending := List.infix_append _ _ _
  cases hcut : cutAt endingWords (n ++ endingWords ++ ending) with
  | none => exact absurd hinfix (cutAt_eq_none_iff.1 hcut)
  | some found =>
    exact ⟨c :: found.1, readServiceTail_cons_eq_some_iff.2 ⟨hline, found.1, found.2, hcut, rfl⟩⟩

/-! ## The line -/

namespace ServiceLine

variable (l : ServiceLine)

theorem text_eq :
    l.text = headText 9 l.gap l.amount serviceWords ++ serviceTail l.name l.ending := by
  unfold text headText serviceTail serviceWords endingWords
  simp only [List.append_assoc]

theorem text_head : l.text.head? = some '-' := by
  rw [text_eq]
  exact headText_head _

theorem readHead_text :
    readHead 9 serviceWords l.text = some (l.amount, serviceTail l.name l.ending) := by
  rw [text_eq]
  exact readHead_headText (by decide) (by decide) l.gap_isGap l.amount_valid _

/-- Lines with the same text differ at most in where the name ends. -/
theorem tail_eq_of_text_eq {l l' : ServiceLine} (h : l.text = l'.text) :
    l.gap = l'.gap ∧ l.amount = l'.amount ∧
      serviceTail l.name l.ending = serviceTail l'.name l'.ending := by
  have hhead : some (l.amount, serviceTail l.name l.ending) =
      some (l'.amount, serviceTail l'.name l'.ending) := by
    rw [← readHead_text, ← readHead_text, h]
  obtain ⟨hamount, htail⟩ := Prod.mk.inj (Option.some.inj hhead)
  rw [text_eq, text_eq, hamount, htail] at h
  exact ⟨gap_eq_of_headText_append_eq h, hamount, htail⟩

/-- A name without ending words is the shortest. -/
theorem isShortest_of_not_infix (h : ¬ endingWords <:+: l.name) : l.IsShortest := by
  intro l' ht
  have hcut : cutAt endingWords (serviceTail l.name l.ending) = some (l.name, l.ending) := by
    rw [endingWords_eq] at h
    exact cutAt_append (by decide) h l.ending
  exact length_le_of_cutAt hcut (tail_eq_of_text_eq ht).2.2.symm

/-- The shortest name begins every other name that the text allows. -/
theorem IsShortest.isPrefix {l l' : ServiceLine} (hl : l.IsShortest) (h : l'.text = l.text) :
    l.name <+: l'.name := by
  have htail : serviceTail l'.name l'.ending = serviceTail l.name l.ending :=
    (tail_eq_of_text_eq h).2.2
  have hname : l.name <+: serviceTail l.name l.ending := ⟨_, (List.append_assoc _ _ _).symm⟩
  have hname' : l'.name <+: serviceTail l.name l.ending :=
    htail ▸ ⟨_, (List.append_assoc _ _ _).symm⟩
  exact List.prefix_of_prefix_length_le hname hname' (hl l' h)

theorem readServiceTail_eq_name_iff :
    readServiceTail (serviceTail l.name l.ending) = some l.name ↔ l.IsShortest := by
  rw [readServiceTail_eq_some_iff]
  constructor
  · rintro ⟨-, hleast⟩ l' ht
    exact hleast l'.name l'.ending l'.name_ne_nil (tail_eq_of_text_eq ht).2.2.symm
  · intro h
    refine ⟨⟨l.ending, l.name_ne_nil, l.name_oneLine, l.ending_oneLine, rfl⟩, ?_⟩
    intro n t hne ht
    have hline : '\n' ∉ serviceTail n t := by
      rw [← ht, lineFeed_mem_serviceTail_iff, not_or]
      exact ⟨l.name_oneLine, l.ending_oneLine⟩
    rw [lineFeed_mem_serviceTail_iff, not_or] at hline
    refine h ⟨l.gap, l.amount, n, t, l.gap_isGap, l.amount_valid, hne, hline.1, hline.2⟩ ?_
    rw [text_eq, text_eq]
    exact congrArg (headText 9 l.gap l.amount serviceWords ++ ·) ht.symm

/-- A trimmed line shows when the service ended. -/
theorem exists_not_isBlank_mem_ending {line : List Char} (h : l.text = trim line) :
    ∃ c ∈ l.ending, isBlank c = false := by
  have hlast : ∀ c, l.text.getLast? = some c → isBlank c = false := by
    rw [h]
    exact fun c hc => isBlank_getLast_trim hc
  unfold text at hlast
  cases hend : l.ending.getLast? with
  | some c =>
    refine ⟨c, List.mem_of_getLast? hend, hlast c ?_⟩
    rw [List.getLast?_append, hend]
    rfl
  | none =>
    -- Then the line ends with the blank of the ending words.
    have hblank := hlast ' ' (by
      rw [List.getLast?_append, hend, List.getLast?_append]
      rfl)
    exact absurd hblank (by decide)

/-- The text of a service line has no blanks around it if none stands at its end. -/
theorem trim_text {c : Char} (hend : l.ending.getLast? = some c) (hc : isBlank c = false) :
    trim l.text = l.text := by
  refine trim_eq_self (fun d hd => ?_) (fun d hd => ?_)
  · rw [text_head, Option.some.injEq] at hd
    subst hd
    decide
  · unfold text at hd
    rw [List.getLast?_append, hend] at hd
    obtain rfl : c = d := Option.some.inj hd
    exact hc

end ServiceLine

theorem readService_eq_some_iff {line : List Char} {r : Reading} :
    readService line = some r ↔
      ∃ l : ServiceLine, l.text = trim line ∧ l.IsShortest ∧ l.reading = r := by
  unfold readService
  simp only [Option.bind_eq_bind, Option.bind_eq_some_iff]
  constructor
  · rintro ⟨⟨a, tail⟩, hhead, name, htail, hr⟩
    obtain ⟨gap, hgap, ha, hs⟩ := exists_headText_of_readHead hhead
    obtain ⟨⟨ending, hne, hname, hend, rfl⟩, -⟩ := readServiceTail_eq_some_iff.1 htail
    let l : ServiceLine := ⟨gap, a, name, ending, hgap, ha, hne, hname, hend⟩
    exact ⟨l, l.text_eq.trans hs.symm, l.readServiceTail_eq_name_iff.1 htail, Option.some.inj hr⟩
  · rintro ⟨l, hs, hl, rfl⟩
    rw [← hs]
    exact ⟨_, l.readHead_text, l.name, l.readServiceTail_eq_name_iff.2 hl, rfl⟩

/-- A line is read as soon as its text is that of a service line. -/
theorem exists_readService {line : List Char} (l : ServiceLine) (h : l.text = trim line) :
    ∃ r, readService line = some r := by
  obtain ⟨name, hname⟩ :=
    exists_readServiceTail l.name_ne_nil l.name_oneLine l.ending_oneLine
  refine ⟨⟨l.amount, name⟩, ?_⟩
  unfold readService
  rw [← h, l.readHead_text, Option.bind_eq_bind, Option.bind_some]
  simp only [hname]
  rfl

end SectionTimes.Duration
