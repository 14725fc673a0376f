import SectionTimes.Proofs.Text.Trim
import SectionTimes.Text.Search

/-!
# Patterns

A pattern is tried on a text part by part.  Where a part can take more or less, it is tried with
one length after the other until the parts behind it can go on, and of alternatives the first one
that lets them go on counts.  A search tries the pattern at each place of a text, from left to
right.

A run that what comes behind it cannot begin within is taken as a whole, and a run that is taken as
short as possible ends at the first place where what comes behind it can go on.
-/

namespace SectionTimes.Text

/-- A pattern. -/
inductive Pattern where
  /-- A text. -/
  | text (s : List Char)
  /-- One character of a class. -/
  | one (p : Char → Bool)
  /-- Characters of a class, as many as possible at first, and then fewer. -/
  | many (p : Char → Bool)
  /-- Characters of a class, as few as possible at first, and then more. -/
  | few (p : Char → Bool)
  /-- A pattern and another one behind it. -/
  | seq (first second : Pattern)
  /-- One of two patterns, the first if possible. -/
  | either (first second : Pattern)
  /-- A pattern that takes what is asked for. -/
  | group (inner : Pattern)

/-- A place that a pattern has come to. -/
structure Reading where
  /-- What was taken by the group, if it came before. -/
  group : Option (List Char)
  /-- What is still to be read. -/
  rest : List Char

namespace Pattern

/-- What runs of characters of a class leave of a text, the longest run first. -/
def restsOfMany (p : Char → Bool) : List Char → List (List Char)
  | [] => [[]]
  | c :: s => if p c then restsOfMany p s ++ [c :: s] else [c :: s]

/-- What runs of characters of a class leave of a text, the shortest run first. -/
def restsOfFew (p : Char → Bool) : List Char → List (List Char)
  | [] => [[]]
  | c :: s => (c :: s) :: if p c then restsOfFew p s else []

/-- The places that a pattern can come to from a place, in the order in which they are tried. -/
def tries : Pattern → Reading → List Reading
  | .text s, r => ((after? s r.rest).map (Reading.mk r.group)).toList
  | .one p, r =>
    match r.rest with
    | [] => []
    | c :: s => if p c then [⟨r.group, s⟩] else []
  | .many p, r => (restsOfMany p r.rest).map (Reading.mk r.group)
  | .few p, r => (restsOfFew p r.rest).map (Reading.mk r.group)
  | .seq first second, r => (first.tries r).flatMap second.tries
  | .either first second, r => first.tries r ++ second.tries r
  | .group inner, r =>
    (inner.tries r).map fun r' =>
      ⟨some (r.rest.take (r.rest.length - r'.rest.length)), r'.rest⟩

/-- The place that a pattern comes to from a place. -/
def first? (a : Pattern) (r : Reading) : Option Reading := (a.tries r).head?

/-- What the group takes at the first place of a text where a pattern fits. -/
def search? (a : Pattern) : List Char → Option (List Char)
  | [] => (a.first? ⟨none, []⟩).bind Reading.group
  | c :: s =>
    match a.first? ⟨none, c :: s⟩ with
    | some r => r.group
    | none => search? a s

variable {a b : Pattern} {p : Char → Bool} {c : Char} {s : List Char} {g : Option (List Char)}

/-! ## What is tried -/

theorem restsOfMany_cons (p : Char → Bool) (c : Char) (s : List Char) :
    restsOfMany p (c :: s) = if p c then restsOfMany p s ++ [c :: s] else [c :: s] := rfl

theorem restsOfFew_cons (p : Char → Bool) (c : Char) (s : List Char) :
    restsOfFew p (c :: s) = (c :: s) :: if p c then restsOfFew p s else [] := rfl

theorem tries_text (s : List Char) (r : Reading) :
    (text s).tries r = ((after? s r.rest).map (Reading.mk r.group)).toList := rfl

theorem tries_one_cons (p : Char → Bool) :
    (one p).tries ⟨g, c :: s⟩ = if p c then [⟨g, s⟩] else [] := rfl

theorem tries_many (p : Char → Bool) (r : Reading) :
    (many p).tries r = (restsOfMany p r.rest).map (Reading.mk r.group) := rfl

theorem tries_few (p : Char → Bool) (r : Reading) :
    (few p).tries r = (restsOfFew p r.rest).map (Reading.mk r.group) := rfl

/-! ## Parts one after the other -/

theorem first?_seq (a b : Pattern) (r : Reading) :
    (seq a b).first? r = (a.tries r).findSome? b.first? :=
  List.head?_flatMap

theorem first?_seq_either (a a' b : Pattern) (r : Reading) :
    (seq (either a a') b).first? r = ((seq a b).first? r).or ((seq a' b).first? r) := by
  rw [first?_seq, first?_seq, first?_seq]
  exact List.findSome?_append

theorem first?_seq_text (s : List Char) (b : Pattern) (r : Reading) :
    (seq (text s) b).first? r =
      (after? s r.rest).bind fun rest => b.first? ⟨r.group, rest⟩ := by
  rw [first?_seq, tries_text]
  cases after? s r.rest with
  | none => rfl
  | some rest => simp

theorem first?_seq_one_cons (p : Char → Bool) (b : Pattern) :
    (seq (one p) b).first? ⟨g, c :: s⟩ = if p c then b.first? ⟨g, s⟩ else none := by
  rw [first?_seq, tries_one_cons]
  by_cases hc : p c = true
  · simp [hc]
  · simp [hc]

theorem first?_group (a : Pattern) (r : Reading) :
    (group a).first? r = (a.first? r).map fun r' =>
      ⟨some (r.rest.take (r.rest.length - r'.rest.length)), r'.rest⟩ :=
  List.head?_map

/-! ## Runs -/

theorem first?_seq_many_cons (p : Char → Bool) (b : Pattern) :
    (seq (many p) b).first? ⟨g, c :: s⟩ =
      if p c then ((seq (many p) b).first? ⟨g, s⟩).or (b.first? ⟨g, c :: s⟩)
      else b.first? ⟨g, c :: s⟩ := by
  rw [first?_seq, first?_seq, tries_many, tries_many, restsOfMany_cons]
  by_cases hc : p c = true
  · simp [hc, List.findSome?_append]
  · simp [hc]

theorem first?_seq_few_cons (p : Char → Bool) (b : Pattern) :
    (seq (few p) b).first? ⟨g, c :: s⟩ =
      (b.first? ⟨g, c :: s⟩).or (if p c then (seq (few p) b).first? ⟨g, s⟩ else none) := by
  rw [first?_seq, first?_seq, tries_few, tries_few, restsOfFew_cons]
  cases hb : b.first? ⟨g, c :: s⟩ with
  | some r => simp [hb]
  | none =>
    by_cases hc : p c = true
    · simp [hb, hc]
    · simp [hb, hc]

/-- The longest run is the first that is tried. -/
theorem head?_restsOfMany (p : Char → Bool) (s : List Char) :
    (restsOfMany p s).head? = some (s.dropWhile p) := by
  induction s with
  | nil => rfl
  | cons c s ih =>
    rw [restsOfMany_cons]
    by_cases hc : p c = true
    · rw [if_pos hc, List.dropWhile_cons_of_pos hc, List.head?_append, ih, Option.some_or]
    · rw [if_neg hc, List.dropWhile_cons_of_neg hc]
      rfl

/-- A run alone is as long as it can be. -/
theorem first?_many (p : Char → Bool) (s : List Char) :
    (many p).first? ⟨g, s⟩ = some ⟨g, s.dropWhile p⟩ := by
  unfold first?
  rw [tries_many, List.head?_map, head?_restsOfMany]
  rfl

/-- A run is as long as it can be before what cannot begin within it. -/
theorem first?_seq_many (hb : ∀ c s, p c = true → b.first? ⟨g, c :: s⟩ = none)
    (s : List Char) : (seq (many p) b).first? ⟨g, s⟩ = b.first? ⟨g, s.dropWhile p⟩ := by
  induction s with
  | nil =>
    rw [first?_seq]
    exact List.findSome?_singleton
  | cons c s ih =>
    rw [first?_seq_many_cons]
    by_cases hc : p c = true
    · rw [if_pos hc, List.dropWhile_cons_of_pos hc, ih, hb c s hc, Option.or_none]
    · rw [if_neg hc, List.dropWhile_cons_of_neg hc]

theorem take_length_sub_length_dropWhile (p : Char → Bool) (s : List Char) :
    s.take (s.length - (s.dropWhile p).length) = s.takeWhile p := by
  have hlength := congrArg List.length (List.takeWhile_append_dropWhile (p := p) (l := s))
  rw [List.length_append] at hlength
  have hcount : s.length - (s.dropWhile p).length = (s.takeWhile p).length := by omega
  rw [hcount]
  exact List.prefix_iff_eq_take.1 (List.takeWhile_prefix p) |>.symm

end Pattern

end SectionTimes.Text
