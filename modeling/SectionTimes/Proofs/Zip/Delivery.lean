import SectionTimes.Proofs.Log
import SectionTimes.Zip.Member

/-!
# What a member delivers

The bytes that a member delivers are compared with its checksum when all of them are there.  So
whoever is given the bytes of a member is given all that it delivers, and they have its checksum.

A delivery is not broken off before its end: each portion takes packed data, makes bytes or drops
what was read and not taken, so that fewer portions come than bytes of either kind.
-/

namespace SectionTimes.Zip

open Unpacking (Outcome)

namespace Delivery

/-! ## Progress -/

theorem le_reach (o : Outcome Fault) (read upTo fuel place : Nat) :
    place ≤ reach o read upTo fuel place := by
  fun_induction reach o read upTo fuel place with
  | case1 => exact Nat.le_refl _
  | case2 fuel place h ih => omega
  | case3 => exact Nat.le_refl _

/-- What is reached can be made. -/
theorem reach_le (o : Outcome Fault) (read upTo fuel place : Nat) :
    reach o read upTo fuel place ≤ max place o.made.size := by
  fun_induction reach o read upTo fuel place with
  | case1 => omega
  | case2 fuel place h ih =>
    have hplace : place < o.made.size := by
      rw [Bool.and_eq_true] at h
      refine Nat.lt_of_not_le fun hsize => ?_
      rw [Array.getElem?_eq_none hsize] at h
      exact absurd h.2 (by simp)
    omega
  | case3 => omega

/-- Room grows by one unit at least. -/
theorem add_le_roomFor {n room : Nat} {growth : List Nat} (h : growth ≠ [] ∨ room < n)
    (hpos : ∀ more ∈ growth, 0 < more) : room + 1024 ≤ roomFor n growth room := by
  fun_induction roomFor n growth room with
  | case1 room =>
    have hlast : lastGrowth = 268435456 := rfl
    have hfew : room < n := h.resolve_left (by simp)
    have hrounds : 0 < (n - room + lastGrowth - 1) / lastGrowth :=
      Nat.div_pos (by omega) (by omega)
    have hgrowth := Nat.le_mul_of_pos_left lastGrowth hrounds
    omega
  | case2 more growth room hfits =>
    have hmore := hpos more List.mem_cons_self
    omega
  | case3 more growth room hfits ih =>
    have hmore := hpos more List.mem_cons_self
    have hrest := ih (Or.inr (by omega)) fun m hm => hpos m (List.mem_cons_of_mem _ hm)
    omega

/-- There is room for several bytes in every portion. -/
theorem made_add_one_lt_limit (p : Packing) (o : Outcome Fault) (d : Delivery) :
    d.made + 1 < d.limit p o := by
  have hleast : leastPortion = 4096 := rfl
  have hportion : portion = 8192 := rfl
  cases p with
  | plain | deflated =>
    show d.made + 1 < d.made + max d.wanted leastPortion
    omega
  | bzip2 =>
    have hroom : 0 + 1024 ≤
        roomFor (reach o (d.read - 1) o.made.size o.made.size d.made - d.made) growth 0 :=
      add_le_roomFor (Or.inl (by decide)) (by decide)
    show d.made + 1 < d.made + _
    omega
  | lzma =>
    show d.made + 1 < d.made + o.made.size + portion
    omega

/-- A bound for the portions to come, of which `present` bytes can be read. -/
def toCome (o : Outcome Fault) (present : Nat) (d : Delivery) : Nat :=
  present - d.read + (o.made.size - d.made) + if d.wanted ≤ d.read - d.taken then 1 else 0

/-- Data is read unless there is enough left over or none is to come. -/
theorem readMore_cases {size present : Nat} {d d' : Delivery}
    (h : d.readMore size present = .ok d') :
    (d.wanted ≤ d.read - d.taken ∨ size ≤ d.read) ∧ d' = d ∨
      d.read - d.taken < d.wanted ∧ d.read < d'.read ∧ d'.read ≤ present ∧
        d' = { d with read := d'.read } := by
  unfold readMore at h
  dsimp only at h
  split at h
  · rename_i henough
    simp only [Bool.or_eq_true, decide_eq_true_eq] at henough
    cases h
    exact Or.inl ⟨henough, rfl⟩
  · rename_i henough
    simp only [Bool.or_eq_true, decide_eq_true_eq, not_or, Nat.not_le] at henough
    split at h
    · cases h
    · rename_i hfound
      cases h
      refine Or.inr ⟨henough.1, ?_, ?_, rfl⟩
      · dsimp only
        omega
      · dsimp only
        omega

/-- A portion is full, or takes all that was read, or is the last. -/
theorem makePortion_cases {p : Packing} {o : Outcome Fault} {d d' : Delivery}
    (h : d.makePortion p o = .ok d') :
    d'.isOver = true ∨
      d'.read = d.read ∧ d'.isOver = d.isOver ∧ d.made ≤ d'.made ∧
        d'.made ≤ max d.made o.made.size ∧ (d.made + 1 < d'.made ∨ d'.taken = d.read) := by
  have hle := le_reach o d.read (d.limit p o) (d.limit p o - d.made) d.made
  have hsize := reach_le o d.read (d.limit p o) (d.limit p o - d.made) d.made
  have hlimit := made_add_one_lt_limit p o d
  unfold makePortion at h
  dsimp only at h
  -- the cases of a byte that waits, and of the end of what is made
  split at h
  · split at h
    · rename_i hfull
      simp only [Bool.and_eq_true, decide_eq_true_eq] at hfull
      cases h
      exact Or.inr ⟨rfl, rfl, hle, hsize, Or.inl (Nat.lt_of_lt_of_eq hlimit hfull.1.symm)⟩
    · cases h
      exact Or.inr ⟨rfl, rfl, hle, hsize, Or.inr rfl⟩
  · split at h
    · cases h
      exact Or.inr ⟨rfl, rfl, hle, hsize, Or.inr rfl⟩
    · split at h
      · cases h
        exact Or.inr ⟨rfl, rfl, hle, hsize, Or.inr rfl⟩
      · cases h
        exact Or.inl rfl
      · split at h
        · rename_i hfull
          simp only [Bool.and_eq_true, decide_eq_true_eq] at hfull
          cases h
          exact Or.inr ⟨rfl, rfl, hle, hsize, Or.inl (Nat.lt_of_lt_of_eq hlimit hfull.1.symm)⟩
        · cases h

/-- Nothing is changed where delivery goes on. -/
theorem flush_eq_self {p : Packing} {o : Outcome Fault} {size : Nat} {d : Delivery}
    (h : (d.flush p o size).isOver = false) :
    d.flush p o size = d ∧ d.isOver = false ∧ (size ≤ d.read → d.taken ≠ d.read) := by
  unfold flush at h ⊢
  split at h
  · cases p <;> cases h
  · rename_i hmore
    rw [if_neg hmore]
    simp only [h, Bool.not_false, Bool.true_and, Bool.and_eq_true, decide_eq_true_eq, not_and]
      at hmore
    exact ⟨rfl, h, hmore⟩

/-- Every portion but the last leaves less to come. -/
theorem toCome_lt {p : Packing} {o : Outcome Fault} {size present : Nat} {d d₁ d₂ : Delivery}
    (hread : d.readMore size present = .ok d₁) (hportion : d₁.makePortion p o = .ok d₂)
    (hover : (d₂.flush p o size).isOver = false) :
    ((d₂.flush p o size).giveOut d.made).toCome o present < d.toCome o present := by
  obtain ⟨hsame, hmore, hflush⟩ := flush_eq_self hover
  rw [hsame]
  rcases makePortion_cases hportion with hlast | ⟨hread₂, -, hle, hsize, hcases⟩
  · rw [hlast] at hmore
    cases hmore
  have hwanted := (d₂.giveOut d.made).wanted_pos
  change present - d₂.read + (o.made.size - d₂.made) +
    (if (d₂.giveOut d.made).wanted ≤ d₂.read - d₂.taken then 1 else 0) < d.toCome o present
  unfold toCome
  rcases readMore_cases hread with ⟨henough, rfl⟩ | ⟨hfew, hgrown, hpresent, hd⟩
  · rcases hcases with hfull | htaken
    · split <;> split <;> omega
    · -- what was read is dropped, and there was enough of it
      rw [if_neg (by omega), if_pos (by omega)]
      omega
  · have hmade : d₁.made = d.made := by rw [hd]
    rcases hcases with hfull | htaken
    · split <;> split <;> omega
    · rw [if_neg (by omega), if_neg (by omega)]
      omega

/-- A delivery comes to its end: nothing more comes, or there is as much as there should be. -/
theorem run_ended {p : Packing} {o : Outcome Fault} {size present length fuel : Nat}
    {d d' : Delivery} (h : d.run p o size present length fuel = .ok d')
    (hfuel : d.toCome o present < fuel) : d'.isOver = true ∨ length ≤ d'.made := by
  induction fuel generalizing d with
  | zero => omega
  | succ fuel ih =>
    rw [run] at h
    obtain ⟨d₁, hread, h⟩ := exists_of_bind h
    obtain ⟨d₂, hportion, h⟩ := exists_of_bind h
    dsimp only at h
    split at h
    · rename_i hend
      cases h
      simpa using hend
    · rename_i hend
      simp only [Bool.or_eq_true, decide_eq_true_eq, not_or, Bool.not_eq_true] at hend
      have hless := toCome_lt hread hportion hend.1
      exact ih h (by omega)

end Delivery

/-! ## Members -/

/-- What is delivered is what was made when the delivery ended. -/
theorem exists_ended_of_deliver {a : Archive} {before : List Entry} {e : Entry}
    {content : List UInt8} (h : a.deliver before e = .ok content) :
    ∃ (p : Packing) (packed : List UInt8) (d : Delivery),
      a.openEntry before e = .ok (p, packed) ∧
      content = (((p.outcome packed).made.toList.take d.made).take e.size).map
        Unpacking.Made.byte ∧
      (d.isOver = true ∨ e.size ≤ d.made) := by
  obtain ⟨⟨p, packed⟩, hopen, h⟩ := exists_of_bind h
  obtain ⟨d, hrun, h⟩ := exists_of_bind h
  cases h
  refine ⟨p, packed, d, hopen, rfl, Delivery.run_ended hrun ?_⟩
  unfold Delivery.toCome Delivery.start
  split <;> omega

end SectionTimes.Zip
