import SectionTimes.Proofs.Json.Number
import SectionTimes.Proofs.Json.Strings

/-!
# Objects of numbers in JSON

An object whose members are numbers is read back from its text, whatever blanks its layout puts
between the parts: the names are read as strings, what stands behind the colon as numbers, and as
no two members have one name, every member is put behind those before it.
-/

namespace SectionTimes.Json

open Text

variable {layout : Layout} {c : Char} {gap s rest : List Char} {x : Binary64}

/-! ## Blanks -/

theorem skipBlanks_append (hgap : ∀ c ∈ gap, isBlank c = true) (hc : isBlank c = false)
    (s : List Char) : skipBlanks (gap ++ c :: s) = c :: s :=
  dropWhile_append_stop hgap hc

theorem skipBlanks_cons (hc : isBlank c = false) (s : List Char) : skipBlanks (c :: s) = c :: s :=
  skipBlanks_append (List.forall_mem_nil _) hc s

/-- The layout puts nothing but blanks between the parts. -/
structure Layout.IsBlank (layout : Layout) : Prop where
  gap : ∀ depth, ∀ c ∈ layout.gap depth, Json.isBlank c = true
  colonGap : ∀ c ∈ layout.colonGap, Json.isBlank c = true

theorem isBlank_indented : Layout.indented.IsBlank where
  gap depth := List.forall_mem_cons.2 ⟨rfl, fun c hc => by rw [List.eq_of_mem_replicate hc]; rfl⟩
  colonGap := List.forall_mem_singleton.2 rfl

/-! ## Values -/

/-- A number is read as a value, with blanks before it. -/
theorem readValue_floatText (hx : x.IsRepresentable) (hgap : ∀ c ∈ gap, isBlank c = true)
    (hc : EndsNumber c) (fuel : ℕ) (rest : List Char) :
    readValue (fuel + 1) (gap ++ floatText x ++ c :: rest) = some (.float x, c :: rest) := by
  have htext := isFloatText_floatText hx
  have hread := htext.readScalar_append hc rest
  obtain ⟨d, s, hd⟩ := List.exists_cons_of_ne_nil htext.ne_nil
  have hmem : d ∈ numberChars := htext.mem_numberChars d (hd ▸ List.mem_cons_self)
  have hfirst : ∀ d ∈ numberChars, isBlank d = false ∧ d ≠ '[' ∧ d ≠ '\x7b' :=
    List.all_iff_forall_prop.1 (by decide)
  obtain ⟨hblank, hlist, hobject⟩ := hfirst d hmem
  rw [hd] at hread ⊢
  rw [readValue, List.append_assoc, List.cons_append, skipBlanks_append hgap hblank]
  split
  · rename_i he
    exact absurd (List.cons.inj he).1 hlist
  · rename_i he
    exact absurd (List.cons.inj he).1 hobject
  · exact hread

/-! ## Members -/

/-- A number as a member of an object. -/
def member (entry : String × Binary64) : String × Json := (entry.1, .float entry.2)

/-- The text of a member that is a number. -/
def memberText (layout : Layout) (entry : String × Binary64) : List Char :=
  stringText entry.1.toList ++ ':' :: layout.colonGap ++ floatText entry.2

theorem memberTexts_map_member (layout : Layout) (depth : ℕ) (entries : List (String × Binary64)) :
    memberTexts layout depth (entries.map member) = entries.map (memberText layout) := by
  induction entries with
  | nil => rfl
  | cons entry entries ih =>
    obtain ⟨name, x⟩ := entry
    rw [List.map_cons, List.map_cons, ← ih]
    rfl

/-- A member with a new name is put behind the others. -/
theorem putMember_eq_append {done tail : List (String × Json)} {name : String} {value : Json}
    (h : ((done ++ (name, value) :: tail).map Prod.fst).Nodup) :
    putMember done name value = done ++ [(name, value)] := by
  have hany : (done.any fun m => m.1 == name) = false := by
    rw [List.map_append, List.nodup_append] at h
    rw [List.any_eq_false]
    intro m hm heq
    exact h.2.2 m.1 (List.mem_map_of_mem hm) name List.mem_cons_self (beq_iff_eq.1 heq)
  unfold putMember
  rw [hany]
  rfl

/-- One member is read, and what stands behind it decides how to go on. -/
theorem readMembers_memberText (hlayout : layout.IsBlank) (hgap : ∀ c ∈ gap, isBlank c = true)
    {entry : String × Binary64} (hx : entry.2.IsRepresentable) (hc : EndsNumber c) (fuel : ℕ)
    (done : List (String × Json)) (rest : List Char) :
    readMembers (fuel + 2) done (gap ++ memberText layout entry ++ c :: rest) =
      match skipBlanks (c :: rest) with
      | '\x7d' :: s => some (.object (putMember done entry.1 (.float entry.2)), s)
      | ',' :: s => readMembers (fuel + 1) (putMember done entry.1 (.float entry.2)) s
      | _ => none := by
  have htext : gap ++ memberText layout entry ++ c :: rest =
      gap ++ '"' :: (entry.1.toList.flatMap escaped ++
        '"' :: ':' :: (layout.colonGap ++ floatText entry.2 ++ c :: rest)) := by
    simp [memberText, stringText]
  rw [htext, readMembers, skipBlanks_append hgap rfl]
  simp only [readString_flatMap_escaped, Option.bind_eq_bind, Option.bind_some,
    skipBlanks_cons (show isBlank ':' = false from rfl), readValue_floatText hx hlayout.colonGap hc,
    List.reverse_nil, List.nil_append, String.ofList_toList]
  rfl

theorem endsNumber_of_isBlank (h : isBlank c = true) : EndsNumber c := by
  simp only [isBlank, Bool.or_eq_true, decide_eq_true_eq] at h
  rcases h with ((rfl | rfl) | rfl) | rfl <;> exact ⟨rfl, by decide, by decide, by decide⟩

/-- No number goes on with what closes an object, blanks before it included. -/
theorem exists_closing_eq {closing : List Char} (hclosing : ∀ c ∈ closing, isBlank c = true)
    (rest : List Char) : ∃ c s, closing ++ '\x7d' :: rest = c :: s ∧ EndsNumber c := by
  cases closing with
  | nil => exact ⟨'\x7d', rest, rfl, rfl, by decide, by decide, by decide⟩
  | cons c closing =>
    exact ⟨c, closing ++ '\x7d' :: rest, rfl,
      endsNumber_of_isBlank (hclosing c List.mem_cons_self)⟩

/-- The members of an object are read to its end, behind those that are done. -/
theorem readMembers_append (hlayout : layout.IsBlank) (hgap : ∀ c ∈ gap, isBlank c = true)
    {closing : List Char} (hclosing : ∀ c ∈ closing, isBlank c = true) (rest : List Char)
    {entries : List (String × Binary64)} (hnumbers : ∀ e ∈ entries, e.2.IsRepresentable)
    {first : List Char} (hfirst : ∀ c ∈ first, isBlank c = true) {entry : String × Binary64}
    (hx : entry.2.IsRepresentable) {done : List (String × Json)}
    (hnames : ((done ++ member entry :: entries.map member).map Prod.fst).Nodup) {fuel : ℕ}
    (hfuel : entries.length + 2 ≤ fuel) :
    readMembers fuel done (first ++ memberText layout entry ++
      ((entries.map (memberText layout)).flatMap (fun p => ',' :: gap ++ p) ++
        (closing ++ '\x7d' :: rest))) =
      some (.object (done ++ member entry :: entries.map member), rest) := by
  induction entries generalizing first entry done fuel with
  | nil =>
    obtain ⟨fuel, rfl⟩ : ∃ k, fuel = k + 2 := Nat.exists_eq_add_of_le' hfuel
    obtain ⟨c, s, hend, hc⟩ := exists_closing_eq hclosing rest
    rw [List.map_nil, List.flatMap_nil, List.nil_append, hend,
      readMembers_memberText hlayout hfirst hx hc, ← hend, skipBlanks_append hclosing rfl,
      putMember_eq_append hnames]
    rfl
  | cons next entries ih =>
    obtain ⟨hnext, hnumbers⟩ := List.forall_mem_cons.1 hnumbers
    obtain ⟨fuel, rfl⟩ := Nat.exists_eq_add_of_le' hfuel
    have hcomma : EndsNumber ',' := ⟨rfl, by decide, by decide, by decide⟩
    have hnames' : (((done ++ [member entry]) ++ member next :: entries.map member).map
        Prod.fst).Nodup := by
      rwa [List.append_assoc]
    have hread := ih hnumbers hgap hnext hnames' (Nat.le_add_left _ fuel)
    rw [List.append_assoc done] at hread
    rw [List.map_cons, List.flatMap_cons, List.append_assoc, List.cons_append, List.append_assoc,
      ← List.append_assoc first (memberText layout entry), List.cons_append, List.length_cons,
      show fuel + (entries.length + 1 + 2) = fuel + entries.length + 1 + 2 by ring,
      readMembers_memberText hlayout hfirst hx hcomma, skipBlanks_cons rfl,
      putMember_eq_append hnames]
    simp only [List.append_assoc, List.cons_append] at hread ⊢
    exact hread

/-! ## Objects -/

/-- An object of numbers with different names is read back from its text. -/
theorem readValue_object (hlayout : layout.IsBlank) {entries : List (String × Binary64)}
    (hnumbers : ∀ e ∈ entries, e.2.IsRepresentable) (hnames : (entries.map Prod.fst).Nodup)
    {fuel : ℕ} (hfuel : entries.length < fuel) (depth : ℕ) (rest : List Char) :
    readValue (fuel + 1) (textAt layout depth (.object (entries.map member)) ++ rest) =
      some (.object (entries.map member), rest) := by
  unfold textAt
  rw [memberTexts_map_member]
  cases entries with
  | nil => rfl
  | cons entry entries =>
    obtain ⟨hx, hnumbers⟩ := List.forall_mem_cons.1 hnumbers
    have hnames' : (([] ++ member entry :: entries.map member).map Prod.fst).Nodup := by
      rw [List.nil_append, ← List.map_cons, List.map_map]
      exact hnames
    have hread := readMembers_append hlayout (hlayout.gap (depth + 1)) (hlayout.gap depth) rest
      hnumbers (List.forall_mem_nil _) hx hnames' hfuel
    obtain ⟨inner, hinner⟩ : ∃ inner, memberText layout entry = '"' :: inner := ⟨_, rfl⟩
    have htext : bracketed layout depth '\x7b' '\x7d'
        ((entry :: entries).map (memberText layout)) ++ rest =
          '\x7b' :: (layout.gap (depth + 1) ++ '"' :: (inner ++
            ((entries.map (memberText layout)).flatMap
              (fun p => ',' :: layout.gap (depth + 1) ++ p) ++
                (layout.gap depth ++ '\x7d' :: rest)))) := by
      rw [List.map_cons, bracketed, hinner]
      simp
    rw [htext, readValue, skipBlanks_cons rfl]
    simp only [skipBlanks_append (hlayout.gap (depth + 1)) (show isBlank '"' = false from rfl)]
    rw [hinner] at hread
    exact hread

theorem length_le_length_flatMap (parts : List (List Char)) {f : List Char → List Char}
    (hf : ∀ p, 1 ≤ (f p).length) : parts.length ≤ (parts.flatMap f).length := by
  induction parts with
  | nil => exact Nat.zero_le _
  | cons p parts ih =>
    have hp := hf p
    rw [List.flatMap_cons, List.length_append, List.length_cons]
    omega

/-- An object has at least a character for each member. -/
theorem length_lt_length_textAt (layout : Layout) (depth : ℕ)
    (entries : List (String × Binary64)) :
    entries.length < (textAt layout depth (.object (entries.map member))).length := by
  unfold textAt
  rw [memberTexts_map_member]
  cases entries with
  | nil => exact Nat.zero_lt_succ _
  | cons entry entries =>
    have hparts := length_le_length_flatMap (f := fun p => ',' :: layout.gap (depth + 1) ++ p)
      (entries.map (memberText layout)) fun p => by simp
    rw [List.length_map] at hparts
    rw [List.map_cons, bracketed]
    simp only [List.length_append, List.length_cons, List.length_nil]
    omega

/-- An object of numbers with different names is what its text denotes. -/
theorem read?_object (hlayout : layout.IsBlank) {entries : List (String × Binary64)}
    (hnumbers : ∀ e ∈ entries, e.2.IsRepresentable) (hnames : (entries.map Prod.fst).Nodup) :
    read? (String.ofList (textAt layout 0 (.object (entries.map member)))) =
      some (.object (entries.map member)) := by
  have hread := readValue_object hlayout hnumbers hnames
    (length_lt_length_textAt layout 0 entries) 0 []
  rw [List.append_nil] at hread
  unfold read?
  rw [String.length_ofList, String.toList_ofList, hread]
  rfl

end SectionTimes.Json
