import SectionTimes.Proofs.Screen.Sighting
import SectionTimes.Proofs.Text.Pattern

/-!
# The pattern of the resumed activity

A search for a mark, a gap, a brace, the inside of a record, a blank and a word with a slash inside
it finds just what a scan finds that goes from mark to mark and from word to word and never back.
What may stand right before the mark makes no difference to either of them.
-/

namespace SectionTimes.Screen

open Text Pattern

variable {c : Char} {s w : List Char} {g : Option (List Char)}

/-! ## The pattern -/

/-- What may stand right before the mark. -/
def markStarts : List String := ["m", "top"]

/-- The mark, with one of some texts right before it or none. -/
def markPattern : List String → Pattern
  | [] => .text mark
  | start :: starts => .either (.text (start.toList ++ mark)) (markPattern starts)

/-- A character that is not a blank. -/
def isInk (c : Char) : Bool := !isBlank c

/-- A slash and characters behind it that are not blanks. -/
def namePattern : Pattern := .seq (.text ['/']) (.seq (.one isInk) (.many isInk))

/-- Characters that are not blanks, with a slash between them. -/
def componentPattern : Pattern := .seq (.one isInk) (.seq (.many isInk) namePattern)

/-- A blank and a component behind it. -/
def wordPattern : Pattern := .seq (.one isBlank) (.group componentPattern)

/-- The inside of a record, a blank and a component. -/
def recordPattern : Pattern := .seq (.few fun c => c ≠ '\x7d') wordPattern

/-- A gap, the brace behind it and the record. -/
def gapPattern : Pattern :=
  .seq (.many fun c => c ≠ '\x7b') (.seq (.text ['\x7b']) recordPattern)

/-- The pattern of the resumed activity, where some texts may stand right before the mark. -/
def resumedPattern (starts : List String) : Pattern := .seq (markPattern starts) gapPattern

/-! ## Components -/

theorem mem_dropLast_cons {t : List Char} :
    '/' ∈ (c :: t).dropLast ↔ t ≠ [] ∧ (c = '/' ∨ '/' ∈ t.dropLast) := by
  cases t with
  | nil => simp
  | cons d t => simp [eq_comm]

theorem first?_namePattern_cons (c : Char) (s : List Char) :
    namePattern.first? ⟨g, c :: s⟩ =
      if c = '/' ∧ s.takeWhile isInk ≠ [] then some ⟨g, s.dropWhile isInk⟩ else none := by
  unfold namePattern
  rw [first?_seq_text]
  by_cases hc : c = '/'
  · subst hc
    cases s with
    | nil => rfl
    | cons d s =>
      change (Pattern.seq (.one isInk) (.many isInk)).first? ⟨g, d :: s⟩ = _
      rw [first?_seq_one_cons, first?_many]
      by_cases hd : isInk d = true
      · simp [hd]
      · simp [hd]
  · have hnone : after? ['/'] (c :: s) = none := by simp [after?, Ne.symm hc]
    simp [hnone, hc]

/-- Behind the characters before a slash there is a slash with more behind it, or there is not. -/
theorem first?_seq_many_namePattern (s : List Char) :
    (Pattern.seq (.many isInk) namePattern).first? ⟨g, s⟩ =
      if '/' ∈ (s.takeWhile isInk).dropLast then some ⟨g, s.dropWhile isInk⟩ else none := by
  induction s with
  | nil => rfl
  | cons c s ih =>
    rw [first?_seq_many_cons, first?_namePattern_cons]
    by_cases hc : isInk c = true
    · rw [if_pos hc, ih, List.takeWhile_cons_of_pos hc, List.dropWhile_cons_of_pos hc]
      simp only [mem_dropLast_cons]
      by_cases hlater : '/' ∈ (s.takeWhile isInk).dropLast
      · have hne : s.takeWhile isInk ≠ [] := by
          intro hnil
          rw [hnil] at hlater
          cases hlater
        simp [hlater, hne]
      · simp [hlater, and_comm]
    · have hslash : c ≠ '/' := by
        rintro rfl
        exact hc (by decide)
      rw [if_neg hc, List.takeWhile_cons_of_neg hc]
      simp [hslash]

/-- A word is taken as a whole if it is a component, and not at all if it is none. -/
theorem first?_componentPattern (s : List Char) :
    componentPattern.first? ⟨g, s⟩ =
      if isComponent (s.takeWhile isInk) then some ⟨g, s.dropWhile isInk⟩ else none := by
  cases s with
  | nil => rfl
  | cons c s =>
    unfold componentPattern
    rw [first?_seq_one_cons, first?_seq_many_namePattern]
    unfold isComponent
    by_cases hc : isInk c = true
    · rw [if_pos hc, List.takeWhile_cons_of_pos hc, List.dropWhile_cons_of_pos hc]
      simp only [List.tail_cons, List.contains_iff_mem]
    · rw [if_neg hc, List.takeWhile_cons_of_neg hc]
      rfl

/-! ## Records -/

theorem first?_wordPattern_cons (c : Char) (s : List Char) :
    (wordPattern.first? ⟨g, c :: s⟩).map Reading.group =
      if isBlank c = true ∧ isComponent (s.takeWhile isInk) = true
      then some (some (s.takeWhile isInk)) else none := by
  unfold wordPattern
  rw [first?_seq_one_cons, first?_group, first?_componentPattern]
  by_cases hblank : isBlank c = true
  · by_cases hword : isComponent (s.takeWhile isInk) = true
    · simp [hblank, hword, take_length_sub_length_dropWhile]
    · simp [hblank, hword]
  · simp [hblank]

/-- The first component of a record is taken, or nothing if it has none. -/
theorem first?_recordPattern (s : List Char) :
    (recordPattern.first? ⟨g, s⟩).map Reading.group = (componentIn s).map some := by
  induction s with
  | nil => rfl
  | cons c s ih =>
    unfold recordPattern at ih ⊢
    rw [first?_seq_few_cons, Option.map_or, first?_wordPattern_cons, componentIn_cons]
    change _ = Option.map some (if isBlank c then if isComponent (s.takeWhile isInk) then
      some (s.takeWhile isInk) else componentIn s else if c = '\x7d' then none else componentIn s)
    by_cases hblank : isBlank c = true
    · have hbrace : c ≠ '\x7d' := by
        rintro rfl
        exact absurd hblank (by decide)
      by_cases hword : isComponent (s.takeWhile isInk) = true
      · simp [hblank, hword]
      · simpa [hblank, hword, hbrace] using ih
    · by_cases hbrace : c = '\x7d'
      · subst hbrace
        have hstop : isBlank '\x7d' = false := by decide
        simp [hstop]
      · simpa [hblank, hbrace] using ih

/-- What is taken behind a mark is what is found there. -/
theorem first?_gapPattern (s : List Char) :
    (gapPattern.first? ⟨g, s⟩).map Reading.group = (componentBehind s).map some := by
  have hgap : ∀ c s, decide (c ≠ '\x7b') = true →
      (Pattern.seq (.text ['\x7b']) recordPattern).first? ⟨g, c :: s⟩ = none := by
    intro c s hc
    have hnone : after? ['\x7b'] (c :: s) = none := by
      simp [after?, Ne.symm (of_decide_eq_true hc)]
    rw [first?_seq_text, hnone]
    rfl
  unfold gapPattern componentBehind
  rw [first?_seq_many hgap]
  cases hrest : s.dropWhile fun c => decide (c ≠ '\x7b') with
  | nil => rfl
  | cons c rest =>
    have hc : c = '\x7b' := by
      have hstop := List.head?_dropWhile_not (fun c => decide (c ≠ '\x7b')) s
      rw [hrest] at hstop
      simpa using hstop
    subst hc
    rw [first?_seq_text]
    exact first?_recordPattern rest

/-! ## Marks -/

theorem mark_eq_cons : mark = 'R' :: mark.tail := by decide

theorem cutAt_mark {front : List Char} (hfront : ¬ mark <:+: front) (s : List Char) :
    cutAt mark (front ++ mark ++ s) = some (front, s) := by
  have honce : 'R' ∉ mark.tail := by decide
  rw [mark_eq_cons] at hfront ⊢
  exact cutAt_append honce hfront s

/-- What stands before the first mark says nothing. -/
theorem findComponent_append_mark {front : List Char} (hfront : ¬ mark <:+: front)
    (s : List Char) : findComponent (front ++ (mark ++ s)) = findComponent (mark ++ s) := by
  induction front with
  | nil => rfl
  | cons c front ih =>
    have hcut := cutAt_mark hfront s
    have hnone : after? mark (c :: (front ++ (mark ++ s))) = none := by
      rw [Option.eq_none_iff_forall_ne_some]
      intro r hr
      have hlength := length_le_of_cutAt (b := []) (a := r) hcut <| by
        rw [List.append_assoc]
        exact after?_eq_some_iff.1 hr
      simp at hlength
    rw [List.cons_append, findComponent_cons, hnone, Option.bind_none, Option.none_or]
    exact ih fun h => hfront (h.trans (List.suffix_cons c front).isInfix)

variable {starts : List String}

/-- A search tries the mark behind each start, in their order, and then the mark alone. -/
theorem first?_resumedPattern (starts : List String) (s : List Char) :
    ((resumedPattern starts).first? ⟨none, s⟩).map Reading.group =
      ((starts.findSome? fun start => (after? (start.toList ++ mark) s).bind componentBehind).or
        ((after? mark s).bind componentBehind)).map some := by
  have hbehind : ∀ t : List Char,
      ((Pattern.seq (.text t) gapPattern).first? ⟨none, s⟩).map Reading.group =
        ((after? t s).bind componentBehind).map some := by
    intro t
    rw [first?_seq_text]
    cases after? t s with
    | none => rfl
    | some rest => exact first?_gapPattern rest
  induction starts with
  | nil => exact hbehind mark
  | cons start starts ih =>
    unfold resumedPattern at ih ⊢
    rw [markPattern, first?_seq_either, Option.map_or, hbehind, ih, ← Option.map_or,
      List.findSome?_cons]
    cases (after? (start.toList ++ mark) s).bind componentBehind <;> rfl

/-- What a search takes at the beginning of a text is what a scan finds in it. -/
theorem findComponent_of_first? (hstarts : ∀ start ∈ starts, ¬ mark <:+: start.toList)
    {r : Reading} (hr : (resumedPattern starts).first? ⟨none, s⟩ = some r) :
    r.group = findComponent s := by
  have hgroup := first?_resumedPattern starts s
  rw [hr, Option.map_some, eq_comm, Option.map_eq_some_iff] at hgroup
  obtain ⟨w, hw, hr⟩ := hgroup
  have hmark : ∀ rest, componentBehind rest = some w → findComponent (mark ++ rest) = some w := by
    intro rest hrest
    have hafter : after? mark (mark ++ rest) = some rest := after?_eq_some_iff.2 rfl
    obtain ⟨c, t, hcons⟩ := List.exists_cons_of_ne_nil
      (List.append_ne_nil_of_left_ne_nil mark_ne_nil rest)
    rw [hcons] at hafter ⊢
    rw [findComponent_cons, hafter, Option.bind_some, hrest]
    rfl
  rw [← hr]
  rcases Option.or_eq_some_iff.1 hw with hstart | ⟨-, hhere⟩
  · obtain ⟨start, hmem, hbind⟩ := List.exists_of_findSome?_eq_some hstart
    obtain ⟨rest, hrest, hfound⟩ := Option.bind_eq_some_iff.1 hbind
    rw [after?_eq_some_iff.1 hrest, List.append_assoc,
      findComponent_append_mark (hstarts start hmem), hmark rest hfound]
  · obtain ⟨rest, hrest, hfound⟩ := Option.bind_eq_some_iff.1 hhere
    rw [after?_eq_some_iff.1 hrest, hmark rest hfound]

/-- A search finds what a scan finds, whatever may stand right before the mark. -/
theorem search?_resumedPattern (hstarts : ∀ start ∈ starts, ¬ mark <:+: start.toList)
    (s : List Char) : (resumedPattern starts).search? s = findComponent s := by
  induction s with
  | nil =>
    rw [search?]
    cases hr : (resumedPattern starts).first? ⟨none, []⟩ with
    | none => rfl
    | some r => exact findComponent_of_first? hstarts hr
  | cons c s ih =>
    rw [search?]
    cases hr : (resumedPattern starts).first? ⟨none, c :: s⟩ with
    | some r => exact findComponent_of_first? hstarts hr
    | none =>
      have hgroup := first?_resumedPattern starts (c :: s)
      rw [hr, Option.map_none, eq_comm, Option.map_eq_none_iff, Option.or_eq_none_iff] at hgroup
      rw [findComponent_cons, hgroup.2, Option.none_or]
      exact ih

/-- The last character of the mark ends every occurrence of it. -/
theorem not_mark_infix_append {front start : List Char} (hfront : ¬ mark <:+: front)
    (hstart : 'y' ∉ start) : ¬ mark <:+: front ++ start := by
  intro hmark
  rcases List.infix_append_iff_ne_nil.1 hmark with h | h | ⟨l₁, l₂, -, hne, hl, -, hpre⟩
  · exact hfront h
  · exact hstart (h.subset (by decide))
  · have hlast : l₂.getLast hne = 'y' := by
      have h : (l₁ ++ l₂).getLast? = some 'y' := by
        rw [← hl]
        rfl
      rw [List.getLast?_append_of_ne_nil _ hne, List.getLast?_eq_some_getLast hne] at h
      exact Option.some.inj h
    exact hstart (hpre.subset (hlast ▸ List.getLast_mem hne))

theorem not_mark_infix_of_mem_markStarts {start : String} (hstart : start ∈ markStarts) :
    ¬ mark <:+: start.toList := by
  rw [← occurs_iff]
  have hall : ∀ start ∈ markStarts, ¬ occurs mark start.toList = true := by decide
  exact hall start hstart

theorem not_mem_of_mem_markStarts {start : String} (hstart : start ∈ markStarts) :
    'y' ∉ start.toList := by
  have hall : ∀ start ∈ markStarts, 'y' ∉ start.toList := by decide
  exact hall start hstart

/-- The component of the resumed activity is what a search for the pattern takes, with the starts
and without them, and it is the first component behind a mark: it has no blank in it and a slash
with something on either side of it.  There is none just when no mark has a component behind it.
A start put right before the first mark of a dump makes no difference. -/
theorem search_takes_first_component :
    (∀ dump : String,
      resumedComponent? dump =
        ((resumedPattern markStarts).search? dump.toList).map String.ofList ∧
      resumedComponent? dump = ((resumedPattern []).search? dump.toList).map String.ofList ∧
      (∀ component, resumedComponent? dump = some component ↔
        ∃ p : Sighting, p.IsFirst dump.toList ∧ String.ofList p.place.word = component) ∧
      (resumedComponent? dump = none ↔ ∀ p : Sighting, p.Names → p.text ≠ dump.toList) ∧
      ∀ component, resumedComponent? dump = some component →
        (∀ c ∈ component.toList, isBlank c = false) ∧ IsComponent component.toList) ∧
    ∀ (front behind : List Char), ¬ mark <:+: front → ∀ start ∈ markStarts,
      resumedComponent? (String.ofList (front ++ (start.toList ++ (mark ++ behind)))) =
        resumedComponent? (String.ofList (front ++ (mark ++ behind))) := by
  refine ⟨fun dump => ?_, fun front behind hfront start hstart => ?_⟩
  · have hsome : ∀ component, resumedComponent? dump = some component ↔
        ∃ p : Sighting, p.IsFirst dump.toList ∧ String.ofList p.place.word = component := by
      intro component
      unfold resumedComponent?
      rw [Option.map_eq_some_iff]
      constructor
      · rintro ⟨w, hw, rfl⟩
        obtain ⟨p, hp, rfl⟩ := findComponent_eq_some_iff.1 hw
        exact ⟨p, hp, rfl⟩
      · rintro ⟨p, hp, rfl⟩
        exact ⟨_, findComponent_eq_some_iff.2 ⟨p, hp, rfl⟩, rfl⟩
    refine ⟨?_, ?_, hsome, ?_, fun component hcomponent => ?_⟩
    · rw [search?_resumedPattern fun _ => not_mark_infix_of_mem_markStarts]
      rfl
    · rw [search?_resumedPattern fun _ h => absurd h List.not_mem_nil]
      rfl
    · unfold resumedComponent?
      rw [Option.map_eq_none_iff]
      exact findComponent_eq_none_iff
    · obtain ⟨p, hp, rfl⟩ := (hsome component).1 hcomponent
      rw [String.toList_ofList]
      exact ⟨hp.names.place.word, hp.names.place.component⟩
  · have hboth := not_mark_infix_append hfront (not_mem_of_mem_markStarts hstart)
    unfold resumedComponent?
    rw [String.toList_ofList, String.toList_ofList, ← List.append_assoc,
      findComponent_append_mark hboth, findComponent_append_mark hfront]

/-- What a dump says of a display before the mark. -/
def displayFront : List Char := "Display #0:\n  ".toList

/-- What a dump says of a display behind the mark. -/
def displayRecord : List Char := "=ActivityRecord\x7b1f u0 / com.a/.B t2\x7d".toList

theorem search_takes_component_of_display :
    ¬ mark <:+: displayFront ∧ "top" ∈ markStarts ∧
    resumedComponent? (String.ofList (displayFront ++ (mark ++ displayRecord))) =
      some "com.a/.B" ∧
    IsComponent "com.a/.B".toList ∧
    resumedComponent? (String.ofList (displayFront ++ ("top".toList ++ (mark ++ displayRecord)))) =
      some "com.a/.B" := by
  have hfront : ¬ mark <:+: displayFront := fun h => absurd (occurs_iff.2 h) (by decide)
  have htop : "top" ∈ markStarts := by decide
  have hfound : resumedComponent? (String.ofList (displayFront ++ (mark ++ displayRecord))) =
      some "com.a/.B" := by decide +kernel
  obtain ⟨-, -, -, -, hcomponent⟩ := search_takes_first_component.1
    (String.ofList (displayFront ++ (mark ++ displayRecord)))
  exact ⟨hfront, htop, hfound, (hcomponent _ hfound).2,
    (search_takes_first_component.2 displayFront displayRecord hfront "top" htop).trans hfound⟩

end SectionTimes.Screen
