import SectionTimes.Proofs.Duration.Grammar
import SectionTimes.Proofs.Duration.Numeral

/-!
# The readers of a line agree

Three readers look at a line, each for itself: one gives the time, with minus one for a line that
tells none, one the name of a section and one the name of a service.  A metric can be put together
from what they say.  They never contradict each other: minus one stands for "no metric" and for
nothing else, and the time and the name of a metric come from the same form of line.
-/

namespace SectionTimes

open Text

namespace Binary64

/-- A number that is zero or more; an infinity may be, and the undefined number is not. -/
def IsNonnegative (x : Binary64) : Prop := zero.less x = true ∨ zero.same x = true

theorem IsNonnegative.ne_nan {x : Binary64} (h : x.IsNonnegative) : x ≠ .nan := by
  rintro rfl
  exact h.elim Bool.false_ne_true Bool.false_ne_true

theorem isNonnegative_finite (q : ℕ) : (finite false q).IsNonnegative := by
  rcases Nat.eq_zero_or_pos q with rfl | hq
  · exact Or.inr rfl
  · refine Or.inl (decide_eq_true ?_)
    simpa [signed] using hq

theorem isNonnegative_infinite : (infinite false).IsNonnegative := Or.inl rfl

theorem isNonnegative_ofQuanta (num den : ℕ) : (ofQuanta false num den).IsNonnegative := by
  unfold ofQuanta
  dsimp only
  split
  · exact isNonnegative_finite _
  · exact isNonnegative_infinite

/-- Digits without a minus before them denote no negative number. -/
theorem isNonnegative_ofDecimal (digits : ℕ) (exponent : ℤ) :
    (ofDecimal false digits exponent).IsNonnegative := by
  unfold ofDecimal
  dsimp only
  split_ifs
  · exact isNonnegative_finite 0
  · exact isNonnegative_infinite
  · exact isNonnegative_ofQuanta _ _
  · exact isNonnegative_ofQuanta _ _

/-- A number of the same value as one that is not negative is not negative either. -/
theorem IsNonnegative.of_same {x y : Binary64} (hx : x.IsNonnegative) (h : x.same y = true) :
    y.IsNonnegative := by
  cases x with
  | nan => exact absurd rfl hx.ne_nan
  | infinite s =>
    cases y with
    | infinite t => exact (beq_iff_eq.1 h) ▸ hx
    | nan | finite t b => cases h
  | finite s a =>
    cases y with
    | finite t b =>
      have hvalue : signed s a = signed t b := beq_iff_eq.1 h
      unfold IsNonnegative zero less same at hx ⊢
      dsimp only at hx ⊢
      rwa [← hvalue]
    | nan | infinite t => cases h

end Binary64

theorem Amount.isNonnegative_seconds (a : Amount) : a.seconds.IsNonnegative :=
  Binary64.isNonnegative_ofDecimal _ _

namespace Duration

/-! ## Minus one -/

/-- The time reported for a line that tells none is minus one. -/
theorem invalidSeconds_eq : invalidSeconds = .finite true Binary64.one := by decide +kernel

theorem same_invalidSeconds : invalidSeconds.same invalidSeconds = true := by
  rw [invalidSeconds_eq]
  exact beq_self_eq_true _

theorem not_isNonnegative_invalidSeconds : ¬ invalidSeconds.IsNonnegative := by
  rw [invalidSeconds_eq]
  rintro (h | h)
  · exact absurd h (by decide +kernel)
  · exact absurd h (by decide +kernel)

/-- No amount is taken for minus one. -/
theorem seconds_same_invalidSeconds (a : Amount) : a.seconds.same invalidSeconds = false :=
  Bool.eq_false_iff.2 fun h =>
    not_isNonnegative_invalidSeconds (a.isNonnegative_seconds.of_same h)

/-! ## The three kinds of lines -/

variable {line : String}

/-- A line closes a section or a service or neither. -/
theorem line_cases (line : String) :
    (∃ l : SectionLine, l.text = trim line.toList ∧
        readSection line.toList = some l.reading ∧ readService line.toList = none) ∨
      (∃ l : ServiceLine, l.text = trim line.toList ∧
        readSection line.toList = none ∧ readService line.toList = some l.reading) ∨
      readSection line.toList = none ∧ readService line.toList = none := by
  cases hsection : readSection line.toList with
  | some r =>
    obtain ⟨l, hl, rfl⟩ := readSection_eq_some_iff.1 hsection
    refine Or.inl ⟨l, hl, rfl, Option.eq_none_iff_forall_not_mem.2 fun r' hr' => ?_⟩
    obtain ⟨l', hl', -⟩ := readService_eq_some_iff.1 hr'
    exact l.text_ne l' (hl.trans hl'.symm)
  | none =>
    cases hservice : readService line.toList with
    | some r =>
      obtain ⟨l, hl, -, rfl⟩ := readService_eq_some_iff.1 hservice
      exact Or.inr (Or.inl ⟨l, hl, rfl, rfl⟩)
    | none => exact Or.inr (Or.inr ⟨rfl, rfl⟩)

/-- What a line of either form tells. -/
def reading? (line : String) : Option Reading :=
  (readSection line.toList).orElse fun _ => readService line.toList

theorem amount_valid_of_reading {r : Reading} (h : reading? line = some r) : r.amount.Valid := by
  unfold reading? at h
  rcases line_cases line with ⟨l, -, hsection, -⟩ | ⟨l, -, hsection, hservice⟩ |
    ⟨hsection, hservice⟩
  · rw [hsection] at h
    cases h
    exact l.amount_valid
  · rw [hsection, hservice] at h
    cases h
    exact l.amount_valid
  · rw [hsection, hservice] at h
    cases h

/-! ## The time and the metric of a line, put together -/

/-- The amount of a line, as it is written. -/
def amountText? (line : String) : Option (List Char) :=
  (reading? line).map fun r => r.amount.text

/-- The number that the written amount of a line denotes.  It is minus one where the line has no
amount, and would be where the amount is no number. -/
def numberOrInvalid (line : String) : Binary64 :=
  match amountText? line with
  | none => invalidSeconds
  | some text => (Numeral.readBinary text).getD invalidSeconds

/-- The metric of a line, put together from the time and from the two names, each of which is
read from the line anew. -/
def composed? (line : String) : Option Metric :=
  let seconds := numberOrInvalid line
  if seconds.same invalidSeconds then none
  else
    match sectionName? line with
    | some name => some ⟨Metric.sectionKey name, name, seconds, .dumpstate⟩
    | none =>
      match serviceName? line with
      | some name => some ⟨Metric.serviceKey name, name, seconds, .dumpsys⟩
      | none => none

/-- Every amount that a line has is the text of a number. -/
theorem exists_readBinary_of_amountText {text : List Char} (h : amountText? line = some text) :
    ∃ x, Numeral.readBinary text = some x := by
  obtain ⟨r, hr, rfl⟩ := Option.map_eq_some_iff.1 h
  exact ⟨_, (amount_valid_of_reading hr).readBinary_text⟩

theorem numberOrInvalid_eq (line : String) : numberOrInvalid line = secondsOrInvalid line := by
  have hseconds : seconds? line = (reading? line).map fun r => r.amount.seconds := rfl
  unfold numberOrInvalid amountText? secondsOrInvalid
  rw [hseconds]
  cases hr : reading? line with
  | none => simp only [Option.map_none, Option.getD_none]
  | some r =>
    simp only [Option.map_some, Option.getD_some, (amount_valid_of_reading hr).readBinary_text]

/-- What the readers say of a line that closes a section. -/
theorem sayings_of_section {r : Reading} (hsection : readSection line.toList = some r)
    (hservice : readService line.toList = none) :
    sectionName? line = some (String.ofList r.name) ∧ serviceName? line = none ∧
      secondsOrInvalid line = r.amount.seconds ∧
      Metric.ofLine? line = some (Metric.ofSection r) := by
  unfold sectionName? serviceName? secondsOrInvalid seconds? Metric.ofLine?
  rw [hsection, hservice]
  exact ⟨rfl, rfl, rfl, rfl⟩

/-- What the readers say of a line that closes a service. -/
theorem sayings_of_service {r : Reading} (hsection : readSection line.toList = none)
    (hservice : readService line.toList = some r) :
    sectionName? line = none ∧ serviceName? line = some (String.ofList r.name) ∧
      secondsOrInvalid line = r.amount.seconds ∧
      Metric.ofLine? line = some (Metric.ofService r) := by
  unfold sectionName? serviceName? secondsOrInvalid seconds? Metric.ofLine?
  rw [hsection, hservice]
  exact ⟨rfl, rfl, rfl, rfl⟩

/-- What the readers say of any other line. -/
theorem sayings_of_neither (hsection : readSection line.toList = none)
    (hservice : readService line.toList = none) :
    sectionName? line = none ∧ serviceName? line = none ∧
      secondsOrInvalid line = invalidSeconds ∧ Metric.ofLine? line = none := by
  unfold sectionName? serviceName? secondsOrInvalid seconds? Metric.ofLine?
  rw [hsection, hservice]
  exact ⟨rfl, rfl, Option.getD_none, rfl⟩

/-- A time that an amount tells is a number, and not minus one. -/
theorem secondsOrInvalid_of_amount {a : Amount} (h : secondsOrInvalid line = a.seconds) :
    (secondsOrInvalid line).same invalidSeconds = false ∧
      (secondsOrInvalid line).IsNonnegative ∧ secondsOrInvalid line ≠ .nan := by
  rw [h]
  have hnumber := a.isNonnegative_seconds
  exact ⟨seconds_same_invalidSeconds a, hnumber, hnumber.ne_nan⟩

theorem composed?_eq (line : String) : composed? line = Metric.ofLine? line := by
  unfold composed?
  rw [numberOrInvalid_eq]
  dsimp only
  rcases line_cases line with ⟨l, -, hsection, hservice⟩ | ⟨l, -, hsection, hservice⟩ |
    ⟨hsection, hservice⟩
  · obtain ⟨hname, -, hseconds, hmetric⟩ := sayings_of_section hsection hservice
    rw [hname, hseconds, hmetric, seconds_same_invalidSeconds]
    rfl
  · obtain ⟨hname, hname', hseconds, hmetric⟩ := sayings_of_service hsection hservice
    rw [hname, hname', hseconds, hmetric, seconds_same_invalidSeconds]
    rfl
  · obtain ⟨-, -, hseconds, hmetric⟩ := sayings_of_neither hsection hservice
    rw [hseconds, hmetric, if_pos same_invalidSeconds]

/-! ## Agreement -/

/-- The readers of a line agree.  At most one of them gives a name.  The time is minus one just
when there is no name, and otherwise it is a number that is not negative; the written amount of a
line always is a number.  A line tells no metric just when its time is minus one, and the time and
the name of a metric come from one form of line. -/
theorem readers_agree (line : String) :
    (sectionName? line = none ∨ serviceName? line = none) ∧
    ((secondsOrInvalid line).same invalidSeconds = true ↔
      sectionName? line = none ∧ serviceName? line = none) ∧
    ((secondsOrInvalid line).same invalidSeconds = false →
      (secondsOrInvalid line).IsNonnegative ∧ secondsOrInvalid line ≠ .nan) ∧
    (∀ text, amountText? line = some text → ∃ x, Numeral.readBinary text = some x) ∧
    numberOrInvalid line = secondsOrInvalid line ∧
    composed? line = Metric.ofLine? line ∧
    (Metric.ofLine? line = none ↔ (secondsOrInvalid line).same invalidSeconds = true) ∧
    ∀ m, Metric.ofLine? line = some m →
      m.seconds = secondsOrInvalid line ∧
      ((∃ l : SectionLine, l.text = trim line.toList ∧ m = l.metric ∧
          sectionName? line = some m.name) ∨
        ∃ l : ServiceLine, l.text = trim line.toList ∧ m = l.metric ∧
          serviceName? line = some m.name) := by
  have hamount : ∀ text, amountText? line = some text → ∃ x, Numeral.readBinary text = some x :=
    fun _ => exists_readBinary_of_amountText
  rcases line_cases line with ⟨l, hl, hsection, hservice⟩ | ⟨l, hl, hsection, hservice⟩ |
    ⟨hsection, hservice⟩
  · obtain ⟨hname, hname', hseconds, hmetric⟩ := sayings_of_section hsection hservice
    obtain ⟨hsame, hnumber⟩ := secondsOrInvalid_of_amount hseconds
    refine ⟨Or.inr hname', ?_, fun _ => hnumber, hamount, numberOrInvalid_eq line,
      composed?_eq line, ?_, ?_⟩
    · rw [hsame, hname]
      simp
    · rw [hsame, hmetric]
      simp
    · intro m hm
      obtain rfl := Option.some.inj (hmetric.symm.trans hm)
      exact ⟨hseconds.symm, Or.inl ⟨l, hl, ofSection_reading l, hname⟩⟩
  · obtain ⟨hname, hname', hseconds, hmetric⟩ := sayings_of_service hsection hservice
    obtain ⟨hsame, hnumber⟩ := secondsOrInvalid_of_amount hseconds
    refine ⟨Or.inl hname, ?_, fun _ => hnumber, hamount, numberOrInvalid_eq line,
      composed?_eq line, ?_, ?_⟩
    · rw [hsame, hname']
      simp
    · rw [hsame, hmetric]
      simp
    · intro m hm
      obtain rfl := Option.some.inj (hmetric.symm.trans hm)
      exact ⟨hseconds.symm, Or.inr ⟨l, hl, ofService_reading l, hname'⟩⟩
  · obtain ⟨hname, hname', hseconds, hmetric⟩ := sayings_of_neither hsection hservice
    rw [hseconds, same_invalidSeconds]
    refine ⟨Or.inl hname, iff_of_true rfl ⟨hname, hname'⟩, fun h => absurd h (by decide),
      hamount, (numberOrInvalid_eq line).trans hseconds, composed?_eq line,
      iff_of_true hmetric rfl, fun m hm => ?_⟩
    rw [hmetric] at hm
    cases hm

theorem readers_agree_on_foreign_digits :
    (secondsOrInvalid "------ ٣.٥s was the duration of 'A' ------").IsNonnegative ∧
      sectionName? "------ ٣.٥s was the duration of 'A' ------" = some "A" ∧
      serviceName? "------ ٣.٥s was the duration of 'A' ------" = none := by
  have hname : sectionName? "------ ٣.٥s was the duration of 'A' ------" = some "A" := by
    decide +kernel
  obtain ⟨hnames, -, hnumber, -⟩ :=
    readers_agree "------ ٣.٥s was the duration of 'A' ------"
  refine ⟨(hnumber (by decide +kernel)).1, hname, hnames.resolve_left ?_⟩
  rw [hname]
  exact Option.some_ne_none _

end Duration

end SectionTimes
