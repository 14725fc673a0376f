import SectionTimes.CommandLine.Durations
import SectionTimes.CommandLine.ScenarioRuns
import SectionTimes.Proofs.Log

/-!
# What a command line gives

Every value that is taken from a command line belongs to an option that there is, and is of the kind
that the option takes.
-/

namespace SectionTimes.CommandLine

/-- A value is of the kind that an option takes. -/
def Rule.Admits (o : Rule) (v : Value) : Prop :=
  match o.kind with
  | .switch => v = .bool true
  | .text => ∃ s, v = .text s
  | .choice names => ∃ s ∈ names, v = .text s
  | .integer => ∃ i, v = .int i

/-- All values are those of options that there are. -/
def Rules.Admits (r : Rules) (options : Table String Value) : Prop :=
  ∀ name v, options.find? name = some v → ∃ o ∈ r.options, o.name = name ∧ o.Admits v

/-- A word that names an option names one that there is. -/
def Rules.Knows (r : Rules) : Word → Prop
  | .option o _ => o ∈ r.options
  | _ => True

variable {r : Rules} {o : Rule} {t : Taken} {v : Value}

/-! ## Words -/

theorem knows_word (r : Rules) (name : String) (attached : Option String) :
    r.Knows (r.word name attached) := by
  unfold Rules.word
  cases h : r.options.find? fun o => o.name = name with
  | none => trivial
  | some o => exact List.mem_of_find?_eq_some h

theorem knows_wordOfOther (r : Rules) (word : String) : r.Knows (wordOfOther word) := by
  unfold wordOfOther
  split <;> trivial

theorem knows_of_longWord {word : String} {body : List Char} {w : Word}
    (h : r.longWord word body = .ok w) : r.Knows w := by
  unfold Rules.longWord at h
  dsimp only at h
  split at h
  · cases h
    exact knows_word _ _ _
  · split at h
    · cases h
      exact knows_word _ _ _
    · split at h
      · cases h
        exact knows_wordOfOther _ _
      · cases h
        exact knows_word _ _ _
      · cases h

theorem knows_of_classify {word : String} {w : Word} (h : r.classify word = .ok w) :
    r.Knows w := by
  unfold Rules.classify at h
  split at h
  · exact knows_of_longWord h
  · cases h
    trivial
  · cases h
    trivial
  · cases h
    exact knows_wordOfOther _ _
  · cases h
    trivial

theorem knows_of_classifyAll {words : List String} {ws : List Word}
    (h : r.classifyAll words = .ok ws) : ∀ w ∈ ws, r.Knows w := by
  fun_induction Rules.classifyAll r words generalizing ws with
  | case1 =>
    cases h
    exact fun w hw => absurd hw List.not_mem_nil
  | case2 words =>
    cases h
    intro w hw
    rcases List.mem_cons.1 hw with rfl | hw
    · trivial
    · obtain ⟨word, -, rfl⟩ := List.mem_map.1 hw
      trivial
  | case3 word words _ ih =>
    obtain ⟨w', hword, h⟩ := exists_of_bind h
    obtain ⟨ws', hwords, h⟩ := exists_of_bind h
    cases h
    intro w hw
    rcases List.mem_cons.1 hw with rfl | hw
    · exact knows_of_classify hword
    · exact ih hwords w hw

/-- What a command line asks for depends on what its words are. -/
theorem read_of_classifyAll {words : List String} {ws : List Word}
    (h : (r.classifyAll words).toOption = some ws) : r.read words = take (.nothing r) ws := by
  unfold Rules.read
  cases hwords : r.classifyAll words with
  | error c =>
    rw [hwords] at h
    cases h
  | ok ws' =>
    rw [hwords] at h
    cases h
    rfl

/-! ## Values -/

theorem admits_of_value {text : String} (h : o.value text = .ok v) : o.Admits v := by
  unfold Rule.value at h
  unfold Rule.Admits
  cases hkind : o.kind with
  | switch =>
    rw [hkind] at h
    cases h
  | text =>
    rw [hkind] at h
    cases h
    exact ⟨text, rfl⟩
  | choice names =>
    rw [hkind] at h
    dsimp only at h
    split at h
    · cases h
      exact ⟨text, ‹_›, rfl⟩
    · cases h
  | integer =>
    rw [hkind] at h
    dsimp only at h
    split at h
    · cases h
      exact ⟨_, rfl⟩
    · cases h

/-- Giving an option a value of its kind keeps all values those of options. -/
theorem admits_put (h : r.Admits t.options) (ho : o ∈ r.options) (hv : o.Admits v) :
    r.Admits (t.passOption.put o.name v).options := by
  intro name w hfound
  change (t.options.put o.name v).find? name = some w at hfound
  rw [Table.find?_put] at hfound
  split at hfound
  · rename_i hname
    cases hfound
    exact ⟨o, ho, hname.symm, hv⟩
  · exact h name w hfound

/-- Taking words keeps all values those of options. -/
theorem admits_of_take {ws : List Word} {a : Arguments} (ht : r.Admits t.options)
    (hws : ∀ w ∈ ws, r.Knows w) (h : take t ws = .ok (.work a)) : r.Admits a.options := by
  fun_induction take t ws with
  | case1 t => cases h; exact ht
  | case2 | case8 | case9 | case13 => cases h
  -- What names no option leaves the values as they are.
  | case3 t text words _ ih => exact ih ht (List.forall_mem_cons.1 hws).2 h
  | case4 t text words _ ih => exact ih ht (List.forall_mem_cons.1 hws).2 h
  | case5 t words _ ih => exact ih ht (List.forall_mem_cons.1 hws).2 h
  | case6 t words _ ih => exact ih ht (List.forall_mem_cons.1 hws).2 h
  | case7 t text words ih => exact ih ht (List.forall_mem_cons.1 hws).2 h
  | case10 t o text words ih =>
    obtain ⟨ho, hws⟩ := List.forall_mem_cons.1 hws
    obtain ⟨v, hv, h⟩ := exists_of_bind h
    exact ih v (admits_put ht ho (admits_of_value hv)) hws h
  | case11 t o words hkind ih =>
    obtain ⟨ho, hws⟩ := List.forall_mem_cons.1 hws
    have hv : o.Admits (.bool true) := by
      unfold Rule.Admits
      rw [hkind]
    exact ih (admits_put ht ho hv) hws h
  | case12 t o _ text words ih =>
    obtain ⟨ho, hws⟩ := List.forall_mem_cons.1 hws
    obtain ⟨v, hv, h⟩ := exists_of_bind h
    exact ih v (admits_put ht ho (admits_of_value hv)) (List.forall_mem_cons.1 hws).2 h

theorem admits_of_read {words : List String} {a : Arguments} (h : r.read words = .ok (.work a)) :
    r.Admits a.options := by
  obtain ⟨ws, hws, h⟩ := exists_of_bind h
  refine admits_of_take (fun name v hv => ?_) (knows_of_classifyAll hws) h
  cases hv

/-- An option takes texts. -/
def Rule.TakesTexts (o : Rule) : Prop := o.kind ≠ .switch ∧ o.kind ≠ .integer

instance : DecidablePred Rule.TakesTexts := fun o =>
  inferInstanceAs (Decidable (o.kind ≠ .switch ∧ o.kind ≠ .integer))

theorem Rule.Admits.exists_text (h : o.Admits v) (ho : o.TakesTexts) : ∃ s, v = .text s := by
  unfold Rule.Admits at h
  cases hkind : o.kind with
  | switch => exact absurd hkind ho.1
  | text => rwa [hkind] at h
  | choice names =>
    rw [hkind] at h
    obtain ⟨s, -, hs⟩ := h
    exact ⟨s, hs⟩
  | integer => exact absurd hkind ho.2

end SectionTimes.CommandLine
