import SectionTimes.Data.Sorted

/-!
# Tables

A table gives each of its keys one value.  It remembers the order in which the keys first came;
writing a key again changes its value and not its place.
-/

namespace SectionTimes

/-- The entries with the value of `key` replaced, or with a new entry at the end. -/
def putEntry {κ ν : Type} [DecidableEq κ] (key : κ) (value : ν) : List (κ × ν) → List (κ × ν)
  | [] => [(key, value)]
  | e :: es => if e.1 = key then (key, value) :: es else e :: putEntry key value es

theorem keys_putEntry {κ ν : Type} [DecidableEq κ] (key : κ) (value : ν) (es : List (κ × ν)) :
    (putEntry key value es).map Prod.fst =
      if key ∈ es.map Prod.fst then es.map Prod.fst else es.map Prod.fst ++ [key] := by
  induction es with
  | nil => simp [putEntry]
  | cons e es ih =>
    unfold putEntry
    by_cases h : e.1 = key
    · simp [h]
    · have h' : ¬ key = e.1 := fun c => h c.symm
      by_cases hm : key ∈ es.map Prod.fst
      · rw [if_pos hm] at ih
        simp only [if_neg h, List.map_cons, ih]
        rw [if_pos (List.mem_cons_of_mem _ hm)]
      · rw [if_neg hm] at ih
        simp only [if_neg h, List.map_cons, ih]
        rw [if_neg (by rw [List.mem_cons]; exact fun c => c.elim h' hm)]
        rfl

/-- Keys with one value each, in the order in which the keys first came. -/
structure Table (κ ν : Type) where
  entries : List (κ × ν)
  nodup : (entries.map Prod.fst).Nodup

namespace Table

variable {κ ν : Type}

/-- The table without entries. -/
def empty : Table κ ν := ⟨[], List.nodup_nil⟩

instance : EmptyCollection (Table κ ν) := ⟨empty⟩
instance : Inhabited (Table κ ν) := ⟨empty⟩

/-- The keys, in the order in which they first came. -/
def keys (t : Table κ ν) : List κ := t.entries.map Prod.fst

variable [DecidableEq κ]

/-- Writes a value under a key. -/
def put (t : Table κ ν) (key : κ) (value : ν) : Table κ ν where
  entries := putEntry key value t.entries
  nodup := by
    rw [keys_putEntry]
    split
    · exact t.nodup
    · rename_i h
      exact List.nodup_append.2 ⟨t.nodup, by simp, by
        intro a ha b hb
        simp only [List.mem_singleton] at hb
        exact fun hab => h (hb ▸ hab ▸ ha)⟩

/-- The value under a key. -/
def find? (t : Table κ ν) (key : κ) : Option ν :=
  (t.entries.find? fun e => e.1 = key).map Prod.snd

/-- The table that a list of entries leaves when they are written one after the other. -/
def ofList (es : List (κ × ν)) : Table κ ν := es.foldl (fun t e => t.put e.1 e.2) empty

/-- The table without the keys of a class. -/
def without (t : Table κ ν) (p : κ → Bool) : Table κ ν where
  entries := t.entries.filter fun e => !p e.1
  nodup := t.nodup.sublist (List.filter_sublist.map Prod.fst)

/-- The entries of a table keyed by strings, in ascending order of the keys. -/
def sorted (t : Table String ν) : List (String × ν) :=
  sortedBy (fun a b => decide (a.1 < b.1)) t.entries

@[simp] theorem find?_empty (key : κ) : (empty : Table κ ν).find? key = none := rfl

theorem find?_putEntry (key k : κ) (value : ν) (es : List (κ × ν)) :
    ((putEntry key value es).find? fun e => e.1 = k).map Prod.snd =
      if k = key then some value else (es.find? fun e => e.1 = k).map Prod.snd := by
  induction es with
  | nil =>
    by_cases h : key = k
    · simp [putEntry, h]
    · simp [putEntry, h, Ne.symm h]
  | cons e es ih =>
    by_cases h : e.1 = key
    · simp only [putEntry, if_pos h]
      by_cases hk : key = k
      · simp [hk]
      · simp [hk, h, Ne.symm hk]
    · simp only [putEntry, if_neg h]
      by_cases hk : e.1 = k
      · have hne : ¬ k = key := fun c => h (hk.trans c)
        simp [hk, hne]
      · simp [hk, ih]

/-- A key that was written has the value written, and every other key keeps its own. -/
@[simp] theorem find?_put (t : Table κ ν) (key k : κ) (value : ν) :
    (t.put key value).find? k = if k = key then some value else t.find? k :=
  find?_putEntry key k value t.entries

end Table

end SectionTimes
