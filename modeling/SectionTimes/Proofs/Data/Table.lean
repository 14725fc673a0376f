import Mathlib.Data.List.Induction
import Mathlib.Data.List.Nodup
import SectionTimes.Data.Table
import SectionTimes.Proofs.Data.Sorted

/-!
# What a table gives

A table gives a value for a key just when it has the key.  A table that was written entry by entry
gives the value of the last entry with the key.  In a tally each key has a value that is made of
the elements with that key alone, and the keys stand in the order in which they first come.  Sorted
entries are the entries of the table in strictly ascending order of their keys.
-/

namespace SectionTimes.Table

variable {κ ν : Type} [DecidableEq κ]

theorem mem_keys_iff {t : Table κ ν} {k : κ} : k ∈ t.keys ↔ (t.find? k).isSome = true := by
  rw [keys, List.mem_map, find?, Option.isSome_map, List.find?_isSome]
  simp only [decide_eq_true_iff]

theorem ofList_concat (es : List (κ × ν)) (e : κ × ν) :
    ofList (es ++ [e]) = (ofList es).put e.1 e.2 := by
  rw [ofList, List.foldl_append]
  rfl

/-- Looking a key up is looking for it from the last entry written to the first. -/
theorem find?_ofList (es : List (κ × ν)) (k : κ) :
    (ofList es).find? k = (es.reverse.find? fun e => e.1 = k).map Prod.snd := by
  induction es using List.reverseRecOn with
  | nil => rfl
  | append_singleton es e ih =>
    rw [ofList_concat, find?_put, ih, List.reverse_append, List.reverse_singleton,
      List.singleton_append, List.find?_cons]
    by_cases hk : e.1 = k
    · rw [if_pos hk.symm, decide_eq_true hk]
      rfl
    · rw [if_neg (Ne.symm hk), decide_eq_false hk]

/-- The keys of a table are those that were written. -/
theorem mem_keys_ofList_iff {es : List (κ × ν)} {k : κ} :
    k ∈ (ofList es).keys ↔ ∃ e ∈ es, e.1 = k := by
  rw [mem_keys_iff, find?_ofList, Option.isSome_map, List.find?_isSome]
  simp only [List.mem_reverse, decide_eq_true_iff]

/-- A table gives the values of its entries. -/
theorem find?_eq_some_iff {t : Table κ ν} {k : κ} {v : ν} :
    t.find? k = some v ↔ (k, v) ∈ t.entries := by
  rw [find?, Option.map_eq_some_iff]
  constructor
  · rintro ⟨e, he, rfl⟩
    have hkey : e.1 = k := by simpa using List.find?_some he
    rw [← hkey]
    exact List.mem_of_find?_eq_some he
  · intro h
    have hfound : (t.entries.find? fun e => e.1 = k).isSome = true :=
      List.find?_isSome.2 ⟨(k, v), h, decide_eq_true rfl⟩
    obtain ⟨e, he⟩ := Option.isSome_iff_exists.1 hfound
    have hkey : e.1 = k := by simpa using List.find?_some he
    have hsame : e = (k, v) :=
      List.inj_on_of_nodup_map t.nodup (List.mem_of_find?_eq_some he) h hkey
    exact ⟨e, he, by rw [hsame]⟩

theorem find?_eq_none_iff {t : Table κ ν} {k : κ} : t.find? k = none ↔ k ∉ t.keys := by
  rw [mem_keys_iff, Bool.not_eq_true, Option.isSome_eq_false_iff, Option.isNone_iff_eq_none]

omit [DecidableEq κ] in
theorem pairwise_key_ne (t : Table κ ν) : t.entries.Pairwise fun e e' => e.1 ≠ e'.1 :=
  List.pairwise_map.1 t.nodup

/-- Tables that give the same values have the same entries. -/
theorem perm_entries {t t' : Table κ ν} (h : ∀ k, t'.find? k = t.find? k) :
    t'.entries.Perm t.entries := by
  refine (List.perm_ext_iff_of_nodup t'.nodup.of_map t.nodup.of_map).2 fun ⟨k, v⟩ => ?_
  rw [← find?_eq_some_iff, ← find?_eq_some_iff, h]

theorem putEntry_of_notMem {k : κ} {es : List (κ × ν)} (v : ν) (h : k ∉ es.map Prod.fst) :
    putEntry k v es = es ++ [(k, v)] := by
  induction es with
  | nil => rfl
  | cons e es ih =>
    rw [List.map_cons, List.mem_cons, not_or] at h
    rw [putEntry, if_neg (Ne.symm h.1), ih h.2, List.cons_append]

/-- A new key comes last. -/
theorem entries_put {t : Table κ ν} {k : κ} (v : ν) (h : t.find? k = none) :
    (t.put k v).entries = t.entries ++ [(k, v)] :=
  putEntry_of_notMem v (find?_eq_none_iff.1 h)

/-- A table with its values changed. -/
def mapValues {ν' : Type} (t : Table κ ν) (f : ν → ν') : Table κ ν' where
  entries := t.entries.map fun e => (e.1, f e.2)
  nodup := by
    rw [List.map_map]
    exact t.nodup

theorem find?_mapValues {ν' : Type} (t : Table κ ν) (f : ν → ν') (k : κ) :
    (t.mapValues f).find? k = (t.find? k).map f := by
  rw [find?, mapValues, List.find?_map, find?, Option.map_map, Option.map_map]
  rfl

/-! ## Tallies -/

theorem keys_put (t : Table κ ν) (k : κ) (v : ν) :
    (t.put k v).keys = if k ∈ t.keys then t.keys else t.keys ++ [k] :=
  keys_putEntry k v t.entries

section

variable {α : Type} (key : α → κ) (grow : ν → α → ν) (start : ν)

/-- The table that is made by working the elements of a list, one after the other, into the values
of their keys. -/
def tally (xs : List α) : Table κ ν :=
  xs.foldl (fun t x => t.put (key x) (grow ((t.find? (key x)).getD start) x)) empty

/-- What the elements with a key make of a value. -/
def worked (xs : List α) (k : κ) : ν := (xs.filter fun x => key x = k).foldl grow start

variable {key grow start} {xs : List α} {k : κ}

theorem tally_concat (xs : List α) (x : α) :
    tally key grow start (xs ++ [x]) =
      (tally key grow start xs).put (key x)
        (grow (((tally key grow start xs).find? (key x)).getD start) x) := by
  rw [tally, List.foldl_append]
  rfl

theorem worked_concat (xs : List α) (x : α) (k : κ) :
    worked key grow start (xs ++ [x]) k =
      if key x = k then grow (worked key grow start xs k) x else worked key grow start xs k := by
  unfold worked
  rw [List.filter_append, List.foldl_append]
  by_cases h : key x = k <;> simp [h]

theorem worked_of_notMem (h : k ∉ xs.map key) : worked key grow start xs k = start := by
  have hnil : (xs.filter fun x => key x = k) = [] :=
    List.filter_eq_nil_iff.2 fun x hx hkey =>
      h (of_decide_eq_true hkey ▸ List.mem_map_of_mem hx)
  rw [worked, hnil]
  rfl

/-- A key that comes has what its elements make of the first value; no other key is there. -/
theorem find?_tally (xs : List α) (k : κ) :
    (tally key grow start xs).find? k =
      if k ∈ xs.map key then some (worked key grow start xs k) else none := by
  induction xs using List.reverseRecOn generalizing k with
  | nil => rfl
  | append_singleton xs x ih =>
    have hvalue : ((tally key grow start xs).find? (key x)).getD start =
        worked key grow start xs (key x) := by
      rw [ih]
      split
      · rfl
      · rename_i h
        exact (worked_of_notMem h).symm
    rw [tally_concat, find?_put, hvalue, worked_concat, List.map_append, List.map_singleton]
    by_cases hk : k = key x
    · rw [if_pos hk, if_pos hk.symm, if_pos (by simp [hk]), hk]
    · rw [if_neg hk, if_neg (Ne.symm hk), ih]
      simp only [List.mem_append, List.mem_singleton, hk, or_false]

theorem mem_keys_tally_iff : k ∈ (tally key grow start xs).keys ↔ k ∈ xs.map key := by
  rw [mem_keys_iff, find?_tally]
  split <;> simp_all

theorem mem_entries_tally_iff {v : ν} :
    (k, v) ∈ (tally key grow start xs).entries ↔
      k ∈ xs.map key ∧ v = worked key grow start xs k := by
  rw [← find?_eq_some_iff, find?_tally]
  split <;> simp_all [eq_comm]

/-- The keys stand in the order in which they first come. -/
theorem pairwise_keys_tally (xs : List α) :
    (tally key grow start xs).keys.Pairwise
      fun k k' => (xs.map key).idxOf k < (xs.map key).idxOf k' := by
  induction xs using List.reverseRecOn with
  | nil => exact List.Pairwise.nil
  | append_singleton xs x ih =>
    have hold : ∀ k ∈ (tally key grow start xs).keys,
        (xs.map key ++ [key x]).idxOf k = (xs.map key).idxOf k := fun k hk =>
      List.idxOf_append_of_mem (mem_keys_tally_iff.1 hk)
    have hkept : (tally key grow start xs).keys.Pairwise fun k k' =>
        (xs.map key ++ [key x]).idxOf k < (xs.map key ++ [key x]).idxOf k' :=
      ih.imp_of_mem fun hk hk' hlt => by rwa [hold _ hk, hold _ hk']
    rw [tally_concat, keys_put, List.map_append, List.map_singleton]
    split
    · exact hkept
    · rename_i hnew
      refine List.pairwise_append.2 ⟨hkept, List.pairwise_singleton _ _, fun k hk k' hk' => ?_⟩
      rw [List.mem_singleton.1 hk', hold k hk]
      have hnew : key x ∉ xs.map key := mt mem_keys_tally_iff.2 hnew
      rw [List.idxOf_append_of_notMem hnew]
      exact Nat.lt_add_right _ (List.idxOf_lt_length_of_mem (mem_keys_tally_iff.1 hk))

end

/-! ## Sorted entries -/

section

variable {ν : Type} {t : Table String ν}

theorem sorted_perm (t : Table String ν) : t.sorted.Perm t.entries := sortedBy_perm _ t.entries

/-- Sorted entries are in strictly ascending order of their keys. -/
theorem pairwise_sorted (t : Table String ν) : t.sorted.Pairwise fun e e' => e.1 < e'.1 := by
  have hsorted : t.sorted.Pairwise (ByKey Prod.fst fun e e' => e.1 ≠ e'.1) :=
    pairwise_sortedBy (fun _ _ _ _ => decide_eq_true_iff) t.pairwise_key_ne
  refine hsorted.imp fun h => ?_
  rcases h with hlt | ⟨heq, hne⟩
  · exact hlt
  · exact absurd heq hne

theorem mem_keys_iff_exists_mem_sorted {k : String} : k ∈ t.keys ↔ ∃ v, (k, v) ∈ t.sorted := by
  rw [keys, List.mem_map]
  constructor
  · rintro ⟨⟨_, v⟩, he, rfl⟩
    exact ⟨v, (mem_sortedBy _).2 he⟩
  · rintro ⟨v, he⟩
    exact ⟨_, (mem_sortedBy _).1 he, rfl⟩

end

end SectionTimes.Table
