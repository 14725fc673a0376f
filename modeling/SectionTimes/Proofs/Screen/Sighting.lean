import SectionTimes.Proofs.Screen.Record
import SectionTimes.Proofs.Text.Occurrence

/-!
# Components behind marks

What is found in a dump is the first component behind a mark.  Between the mark and the component
stand a gap without an opening brace, the brace, and what is inside the record before the component,
without a closing brace; nothing of it is kept to one line.  A component that is found in the first
lines of a dump is found whatever lines come behind them.
-/

namespace SectionTimes.Screen

open Text

variable {c : Char} {s w : List Char}

/-! ## Dumps -/

/-- A mark in a dump, with a component in the record that is opened next. -/
structure Sighting where
  before : List Char
  gap : List Char
  place : Place

namespace Sighting

variable {p q : Sighting}

/-- The dump around the component. -/
def text (p : Sighting) : List Char := p.before ++ (mark ++ (p.gap ++ '\x7b' :: p.place.text))

/-- The record behind the mark names the component. -/
structure Names (p : Sighting) : Prop where
  gap : '\x7b' ∉ p.gap
  place : p.place.Names

/-- The first component of the first mark that has one. -/
structure IsFirst (p : Sighting) (dump : List Char) : Prop where
  names : p.Names
  text_eq : p.text = dump
  first : ∀ q : Sighting, q.Names → q.text = dump →
    p.before.length < q.before.length ∨
      p.before.length = q.before.length ∧ p.place.inside.length ≤ q.place.inside.length

/-- The mark with one more character before it. -/
def behind (c : Char) (p : Sighting) : Sighting := { p with before := c :: p.before }

end Sighting

theorem dropWhile_gap {gap : List Char} (hgap : '\x7b' ∉ gap) (s : List Char) :
    (gap ++ '\x7b' :: s).dropWhile (· ≠ '\x7b') = '\x7b' :: s :=
  dropWhile_append_stop (fun _ hc => decide_eq_true fun h => hgap (h ▸ hc)) (by decide)

theorem componentBehind_gap {gap : List Char} (hgap : '\x7b' ∉ gap) (s : List Char) :
    componentBehind (gap ++ '\x7b' :: s) = componentIn s := by
  rw [componentBehind, dropWhile_gap hgap, List.tail_cons]

theorem componentBehind_of_not_mem (h : '\x7b' ∉ s) : componentBehind s = none := by
  have hdrop : s.dropWhile (· ≠ '\x7b') = [] := by
    rw [List.dropWhile_eq_nil_iff]
    exact fun c hc => decide_eq_true fun he => h (he ▸ hc)
  rw [componentBehind, hdrop]
  rfl

/-- What is found behind a mark stands in the record that is opened next. -/
theorem componentBehind_eq_some (h : componentBehind s = some w) :
    ∃ gap record, '\x7b' ∉ gap ∧ s = gap ++ '\x7b' :: record ∧ componentIn record = some w := by
  by_cases hbrace : '\x7b' ∈ s
  · obtain ⟨gap, record, rfl, hgap⟩ := List.eq_append_cons_of_mem hbrace
    exact ⟨gap, record, hgap, rfl, componentBehind_gap hgap record ▸ h⟩
  · rw [componentBehind_of_not_mem hbrace] at h
    cases h

theorem findComponent_cons (c : Char) (s : List Char) :
    findComponent (c :: s) =
      ((after? mark (c :: s)).bind componentBehind).or (findComponent s) := by
  rw [findComponent]
  cases (after? mark (c :: s)).bind componentBehind <;> rfl

theorem mark_ne_nil : mark ≠ [] := by decide

/-- The record that is opened first is one. -/
theorem eq_of_gap_eq {gap gap' r : List Char} (hgap : '\x7b' ∉ gap) (hgap' : '\x7b' ∉ gap')
    (h : gap' ++ '\x7b' :: r = gap ++ '\x7b' :: s) : r = s := by
  have hdrop := congrArg (List.dropWhile (· ≠ '\x7b')) h
  rw [dropWhile_gap hgap, dropWhile_gap hgap'] at hdrop
  exact (List.cons.inj hdrop).2

namespace Sighting

variable {p q : Sighting}

/-- The mark of a sighting is at the beginning of a dump or behind its first character. -/
theorem Names.eq_nil_or_behind (hp : p.Names) (htext : p.text = c :: s) :
    p.before = [] ∨ ∃ q : Sighting, q.Names ∧ q.text = s ∧ p = q.behind c := by
  obtain ⟨before, gap, place⟩ := p
  cases before with
  | nil => exact Or.inl rfl
  | cons d before =>
    obtain ⟨rfl, rfl⟩ := List.cons.inj htext
    exact Or.inr ⟨⟨before, gap, place⟩, ⟨hp.gap, hp.place⟩, rfl, rfl⟩

end Sighting

open Sighting

/-- What is found at the beginning of a dump is the first component behind a mark there. -/
theorem componentBehind_spec (s : List Char) :
    (∃ p : Sighting, p.Names ∧ p.text = s ∧ p.before = [] ∧
      (∀ q : Sighting, q.Names → q.text = s → q.before = [] →
        p.place.inside.length ≤ q.place.inside.length) ∧
      (after? mark s).bind componentBehind = some p.place.word) ∨
    (after? mark s).bind componentBehind = none ∧
      ∀ p : Sighting, p.Names → p.text = s → p.before ≠ [] := by
  have hafter : ∀ p : Sighting, p.text = s → p.before = [] →
      after? mark s = some (p.gap ++ '\x7b' :: p.place.text) := by
    intro p htext hbefore
    rw [after?_eq_some_iff, ← htext, Sighting.text, hbefore, List.nil_append]
  cases hr : after? mark s with
  | none =>
    refine Or.inr ⟨rfl, fun p _ htext hbefore => ?_⟩
    cases hr.symm.trans (hafter p htext hbefore)
  | some r =>
    have hs := after?_eq_some_iff.1 hr
    have hplace : ∀ p : Sighting, p.text = s → p.before = [] →
        p.gap ++ '\x7b' :: p.place.text = r :=
      fun p htext hbefore => Option.some.inj ((hafter p htext hbefore).symm.trans hr)
    rw [Option.bind_some]
    by_cases hbrace : '\x7b' ∈ r
    · obtain ⟨gap, t, rfl, hgap⟩ := List.eq_append_cons_of_mem hbrace
      have hrecord : ∀ p : Sighting, p.Names → p.text = s → p.before = [] → p.place.text = t :=
        fun p hp htext hbefore => eq_of_gap_eq hgap hp.gap (hplace p htext hbefore)
      rw [componentBehind_gap hgap]
      rcases componentIn_spec t with ⟨p, hp, hfound⟩ | ⟨hnone, hnames⟩
      · refine Or.inl ⟨⟨[], gap, p⟩, ⟨hgap, hp.names⟩, ?_, rfl, fun q hq htext hbefore => ?_,
          hfound⟩
        · rw [hs, ← hp.text_eq]
          rfl
        · exact hp.le q.place hq.place (hrecord q hq htext hbefore)
      · refine Or.inr ⟨hnone, fun p hp htext hbefore => ?_⟩
        exact hnames p.place hp.place (hrecord p hp htext hbefore)
    · refine Or.inr ⟨componentBehind_of_not_mem hbrace, fun p _ htext hbefore => hbrace ?_⟩
      rw [← hplace p htext hbefore]
      exact List.mem_append_right _ List.mem_cons_self

/-- What is found in a dump is the first component of the first mark that has one, and nothing is
found if no mark has one. -/
theorem findComponent_spec (dump : List Char) :
    (∃ p : Sighting, p.IsFirst dump ∧ findComponent dump = some p.place.word) ∨
      findComponent dump = none ∧ ∀ p : Sighting, p.Names → p.text ≠ dump := by
  induction dump with
  | nil =>
    refine Or.inr ⟨rfl, fun p _ htext => mark_ne_nil ?_⟩
    rw [Sighting.text, List.append_eq_nil_iff, List.append_eq_nil_iff] at htext
    exact htext.2.1
  | cons c s ih =>
    rw [findComponent_cons]
    rcases componentBehind_spec (c :: s) with ⟨p, hp, htext, hbefore, hle, hfound⟩ | ⟨hnone, hlater⟩
    · rw [hfound]
      refine Or.inl ⟨p, ⟨hp, htext, fun q hq hqtext => ?_⟩, rfl⟩
      rw [hbefore]
      by_cases hq' : q.before = []
      · exact Or.inr ⟨congrArg List.length hq'.symm, hle q hq hqtext hq'⟩
      · exact Or.inl (List.length_pos_iff.2 hq')
    · have hbehind : ∀ p : Sighting, p.Names → p.text = c :: s →
          ∃ q : Sighting, q.Names ∧ q.text = s ∧ p = q.behind c :=
        fun p hp htext => (hp.eq_nil_or_behind htext).resolve_left (hlater p hp htext)
      rw [hnone, Option.none_or]
      rcases ih with ⟨p, hp, hfound⟩ | ⟨hnone, hnames⟩
      · refine Or.inl ⟨p.behind c,
          ⟨⟨hp.names.gap, hp.names.place⟩, congrArg (c :: ·) hp.text_eq, ?_⟩, hfound⟩
        intro p' hp' htext
        obtain ⟨q, hq, hqtext, rfl⟩ := hbehind p' hp' htext
        rcases hp.first q hq hqtext with hlt | ⟨heq, hle⟩
        · exact Or.inl (Nat.succ_lt_succ hlt)
        · exact Or.inr ⟨congrArg Nat.succ heq, hle⟩
      · refine Or.inr ⟨hnone, fun p' hp' htext => ?_⟩
        obtain ⟨q, hq, hqtext, -⟩ := hbehind p' hp' htext
        exact hnames q hq hqtext

/-- A dump has one first component. -/
theorem Sighting.IsFirst.word_eq {p q : Sighting} {dump : List Char} (hp : p.IsFirst dump)
    (hq : q.IsFirst dump) : p.place.word = q.place.word := by
  have hpq := hp.first q hq.names hq.text_eq
  have hqp := hq.first p hp.names hp.text_eq
  obtain ⟨-, hmark⟩ := List.append_inj (hp.text_eq.trans hq.text_eq.symm)
    (show p.before.length = q.before.length by omega)
  have hrecord : p.place.text = q.place.text :=
    eq_of_gap_eq hq.names.gap hp.names.gap (List.append_cancel_left hmark)
  exact hp.names.place.word_eq hq.names.place hrecord (by omega)

theorem findComponent_eq_some_iff {dump : List Char} :
    findComponent dump = some w ↔ ∃ p : Sighting, p.IsFirst dump ∧ p.place.word = w := by
  rcases findComponent_spec dump with ⟨p, hp, hfound⟩ | ⟨hnone, hnames⟩
  · rw [hfound, Option.some.injEq]
    exact ⟨fun h => ⟨p, hp, h⟩, fun ⟨q, hq, hw⟩ => (hp.word_eq hq).trans hw⟩
  · rw [hnone]
    exact ⟨fun h => (Option.some_ne_none _ h.symm).elim,
      fun ⟨p, hp, _⟩ => absurd hp.text_eq (hnames p hp.names)⟩

theorem findComponent_eq_none_iff {dump : List Char} :
    findComponent dump = none ↔ ∀ p : Sighting, p.Names → p.text ≠ dump := by
  rcases findComponent_spec dump with ⟨p, hp, hfound⟩ | ⟨hnone, hnames⟩
  · rw [hfound]
    exact ⟨fun h => (Option.some_ne_none _ h).elim,
      fun h => absurd hp.text_eq (h p hp.names)⟩
  · exact iff_of_true hnone hnames

/-! ## Lines -/

theorem brace_not_mem_mark : '\x7b' ∉ mark := by decide

theorem lineFeed_not_mem_mark : '\n' ∉ mark := by decide

/-- A component that is found stands in a record. -/
theorem exists_record_of_findComponent (h : findComponent s = some w) :
    ∃ before record, s = before ++ '\x7b' :: record ∧ componentIn record = some w := by
  induction s with
  | nil => cases h
  | cons c s ih =>
    rw [findComponent_cons, Option.or_eq_some_iff] at h
    rcases h with h | ⟨-, h⟩
    · obtain ⟨r, hr, hw⟩ := Option.bind_eq_some_iff.1 h
      obtain ⟨gap, record, -, rfl, hrecord⟩ := componentBehind_eq_some hw
      exact ⟨mark ++ gap, record, by rw [after?_eq_some_iff.1 hr, List.append_assoc], hrecord⟩
    · obtain ⟨before, record, rfl, hrecord⟩ := ih h
      exact ⟨c :: before, record, rfl, hrecord⟩

/-- A record that is opened later ends the one that is opened first. -/
theorem suffix_of_gap_eq {gap before record r : List Char} (hgap : '\x7b' ∉ gap)
    (h : before ++ '\x7b' :: record = gap ++ '\x7b' :: r) : record <:+ r := by
  rcases List.append_eq_append_iff.1 h with ⟨x, hx, hrest⟩ | ⟨x, -, hrest⟩
  · cases x with
    | nil => rw [(List.cons.inj hrest).2]
    | cons c x =>
      obtain ⟨rfl, -⟩ := List.cons.inj hrest
      exact absurd (hx ▸ List.mem_append_right _ List.mem_cons_self) hgap
  · cases x with
    | nil => rw [(List.cons.inj hrest).2]
    | cons c x =>
      rw [(List.cons.inj hrest).2]
      exact (List.suffix_cons _ _).trans (List.suffix_append _ _)

/-- No brace is part of a mark. -/
theorem exists_before_brace {before record r : List Char}
    (h : mark ++ r = before ++ '\x7b' :: record) : ∃ x, r = x ++ '\x7b' :: record := by
  rcases List.append_eq_append_iff.1 h with ⟨x, -, hr⟩ | ⟨x, hmark, hr⟩
  · exact ⟨x, hr⟩
  · cases x with
    | nil => exact ⟨[], hr.symm⟩
    | cons c x =>
      obtain ⟨rfl, -⟩ := List.cons.inj hr
      exact absurd (hmark ▸ List.mem_append_right _ List.mem_cons_self) brace_not_mem_mark

/-- A mark does not reach over the end of a line. -/
theorem after?_mark_append {lines behind : List Char} (hbehind : ∀ c ∈ behind.head?, c = '\n') :
    after? mark (lines ++ behind) = (after? mark lines).map (· ++ behind) := by
  cases hlines : after? mark lines with
  | some r =>
    rw [after?_eq_some_iff.1 hlines, List.append_assoc]
    exact after?_eq_some_iff.2 rfl
  | none =>
    rw [Option.map_none, Option.eq_none_iff_forall_ne_some]
    intro r hr
    rcases List.append_eq_append_iff.1 (after?_eq_some_iff.1 hr) with
      ⟨x, hmark, hx⟩ | ⟨x, hx, -⟩
    · cases x with
      | nil =>
        have hmark' : lines = mark ++ [] := by rw [hmark, List.append_nil, List.append_nil]
        cases hlines.symm.trans (after?_eq_some_iff.2 hmark')
      | cons c x =>
        obtain rfl : c = '\n' := hbehind c (by rw [hx]; rfl)
        exact lineFeed_not_mem_mark (hmark ▸ List.mem_append_right _ List.mem_cons_self)
    · cases hlines.symm.trans (after?_eq_some_iff.2 hx)

/-- A component that is found in the first lines of a dump is found whatever lines come behind. -/
theorem findComponent_append {lines behind : List Char} (hfound : findComponent lines = some w)
    (hbehind : ∀ c ∈ behind.head?, c = '\n') : findComponent (lines ++ behind) = some w := by
  have hblank : ∀ c ∈ behind.head?, isBlank c = true := by
    intro c hc
    rw [hbehind c hc]
    decide
  induction lines with
  | nil => cases hfound
  | cons c s ih =>
    rw [findComponent_cons, Option.or_eq_some_iff] at hfound
    rw [List.cons_append, findComponent_cons, ← List.cons_append, after?_mark_append hbehind]
    cases hr : after? mark (c :: s) with
    | none =>
      rw [hr, Option.bind_none] at hfound
      exact ih (hfound.resolve_left (by simp)).2
    | some r =>
      rw [hr, Option.bind_some] at hfound
      rw [Option.map_some, Option.bind_some]
      rcases hfound with hhere | ⟨hnone, hlater⟩
      · obtain ⟨gap, record, hgap, rfl, hrecord⟩ := componentBehind_eq_some hhere
        rw [List.append_assoc, List.cons_append, componentBehind_gap hgap,
          componentIn_append hblank hrecord]
        rfl
      -- A later component stands in a record that begins at the next brace or behind it.
      · obtain ⟨before, record, hs, hrecord⟩ := exists_record_of_findComponent hlater
        have hcut : mark ++ r = c :: before ++ '\x7b' :: record := by
          rw [← after?_eq_some_iff.1 hr, hs]
          rfl
        obtain ⟨x, hx⟩ := exists_before_brace hcut
        have hbrace : '\x7b' ∈ r := hx ▸ List.mem_append_right _ List.mem_cons_self
        obtain ⟨gap, t, rfl, hgap⟩ := List.eq_append_cons_of_mem hbrace
        rw [componentBehind_gap hgap] at hnone
        have hclosed : componentIn (t ++ behind) = none := by
          refine (componentIn_append_eq_none_or hblank hnone).resolve_right fun hends => ?_
          cases (hends record (suffix_of_gap_eq hgap hx.symm)).symm.trans hrecord
        rw [List.append_assoc, List.cons_append, componentBehind_gap hgap, hclosed,
          Option.none_or]
        exact ih hlater

/-- Lines without a mark say nothing. -/
theorem findComponent_append_of_not_mark {front lines : List Char} (hfront : ¬ mark <:+: front)
    (hend : ∀ c ∈ front.getLast?, c = '\n') :
    findComponent (front ++ lines) = findComponent lines := by
  induction front with
  | nil => rfl
  | cons c front ih =>
    have hnone : after? mark (c :: front ++ lines) = none := by
      rw [Option.eq_none_iff_forall_ne_some]
      intro r hr
      rcases List.append_eq_append_iff.1 (after?_eq_some_iff.1 hr) with
        ⟨x, hmark, -⟩ | ⟨x, hx, -⟩
      · have hlast := List.getLast_mem (List.cons_ne_nil c front)
        rw [hend _ (List.getLast?_eq_some_getLast (List.cons_ne_nil c front))] at hlast
        exact lineFeed_not_mem_mark (hmark ▸ List.mem_append_left _ hlast)
      · exact hfront (hx ▸ (List.prefix_append mark x).isInfix)
    rw [List.cons_append] at hnone ⊢
    rw [findComponent_cons, hnone, Option.bind_none, Option.none_or]
    refine ih (fun h => hfront (h.trans (List.suffix_cons c front).isInfix)) fun d hd => ?_
    exact hend d (List.mem_getLast?_cons hd)

end SectionTimes.Screen
