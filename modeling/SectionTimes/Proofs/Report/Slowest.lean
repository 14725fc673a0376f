import Mathlib.Data.Prod.Lex
import SectionTimes.Proofs.Data.Sorted
import SectionTimes.Proofs.Duration.MetricMap
import SectionTimes.Proofs.Number.Order
import SectionTimes.Report.Stats

/-!
# The slowest sections

The sections of a metric map have one ranking by their seconds, in which keys decide between equal
seconds.  The slowest sections are the beginning of it.  They depend on the last metric of each key
alone: neither earlier metrics of a key nor the order in which keys come make a difference.
-/

namespace SectionTimes.Stats

variable {metrics : List Metric} {map : MetricMap} {ranking : List (String × Binary64)}
  {a b : String × Binary64}

/-! ## Rankings -/

/-- A section stands before another: it is slower, or as slow and of a lesser key. -/
def Precedes (a b : String × Binary64) : Prop :=
  b.2.value < a.2.value ∨ b.2.value = a.2.value ∧ a.1 < b.1

theorem Precedes.value_le (h : Precedes a b) : b.2.value ≤ a.2.value :=
  h.elim le_of_lt fun h => h.1.le

theorem Precedes.not_precedes (h : Precedes a b) : ¬ Precedes b a := by
  rintro (hlt | ⟨heq, hlt⟩)
  · exact not_lt.2 h.value_le hlt
  · rcases h with hlt' | ⟨-, hlt'⟩
    · exact hlt'.ne heq.symm
    · exact lt_asymm hlt hlt'

/-- The sections of a metric map, each key once, as they precede one another. -/
structure IsRanking (map : MetricMap) (ranking : List (String × Binary64)) : Prop where
  perm : ranking.Perm map.entries
  nodup : (ranking.map Prod.fst).Nodup
  pairwise : ranking.Pairwise Precedes

/-- A metric map has one ranking only. -/
theorem IsRanking.unique {other : List (String × Binary64)} (h : IsRanking map ranking)
    (hother : IsRanking map other) : other = ranking :=
  List.Perm.eq_of_pairwise (fun _ _ _ _ hab hba => absurd hba hab.not_precedes) hother.pairwise
    h.pairwise (hother.perm.trans h.perm.symm)

/-! ## Sorting -/

/-- The key by which sections are sorted. -/
def rank (e : String × Binary64) : (WithBot (WithTop ℤ))ᵒᵈ ×ₗ String :=
  toLex (OrderDual.toDual e.2.value, e.1)

theorem rank_lt_rank_iff : rank a < rank b ↔ Precedes a b := by
  unfold rank
  rw [Prod.Lex.toLex_lt_toLex, OrderDual.toDual_lt_toDual, OrderDual.toDual_inj, eq_comm]
  rfl

theorem slower_iff (ha : a.2 ≠ .nan) (hb : b.2 ≠ .nan) :
    slower a b = true ↔ rank a < rank b := by
  rw [rank_lt_rank_iff, slower, Bool.or_eq_true, Bool.and_eq_true, decide_eq_true_iff,
    Binary64.less_iff_value_lt hb ha, Binary64.same_iff_value_eq ha hb, eq_comm]
  rfl

/-- Where all seconds are numbers, sorting gives the ranking. -/
theorem isRanking_ranked (h : ∀ e ∈ map.entries, e.2 ≠ .nan) : IsRanking map (ranked map) := by
  have hsorted : ranked map = sortedBy slower map.entries :=
    if_pos (List.all_eq_true.2 fun e he => Binary64.same_self (h e he))
  have hperm : (ranked map).Perm map.entries := hsorted ▸ sortedBy_perm slower map.entries
  refine ⟨hperm, (hperm.map Prod.fst).nodup_iff.2 map.nodup, ?_⟩
  have hkeys : (sortedBy slower map.entries).Pairwise (ByKey rank fun a b => a.1 ≠ b.1) :=
    pairwise_sortedBy (fun a ha b hb => slower_iff (h a ha) (h b hb)) map.pairwise_key_ne
  rw [hsorted]
  refine hkeys.imp fun hab => ?_
  rcases hab with hlt | ⟨heq, hne⟩
  · exact rank_lt_rank_iff.1 hlt
  · exact absurd (congrArg Prod.snd (toLex_inj.1 heq)) hne

/-! ## The last metrics of the keys -/

/-- The last metrics of the keys make the metric map. -/
theorem lastByKey_eq (metrics : List Metric) : lastByKey metrics = .ofMetrics metrics := by
  unfold lastByKey MetricMap.ofMetrics Table.ofList
  rw [List.foldl_map]

theorem slowest_ofMetrics (metrics : List Metric) (top : ℤ) :
    (ofMetrics metrics top).slowest = (ranked (.ofMetrics metrics)).take top.toNat := by
  change (if 0 < top then (ranked (lastByKey metrics)).take top.toNat else []) = _
  rw [lastByKey_eq]
  split
  · rfl
  · rw [Int.toNat_of_nonpos (by omega), List.take_zero]

/-- The seconds of the last metric with a key. -/
def lastSeconds? (metrics : List Metric) (key : String) : Option Binary64 :=
  (metrics.reverse.find? fun m => m.key = key).map Metric.seconds

theorem ne_nan_of_mem_entries (h : ∀ m ∈ metrics, m.seconds ≠ .nan) :
    ∀ e ∈ (MetricMap.ofMetrics metrics).entries, e.2 ≠ .nan := by
  rintro ⟨key, seconds⟩ he
  obtain ⟨before, m, behind, rfl, -, rfl, -⟩ :=
    MetricMap.find?_ofMetrics_eq_some_iff.1 (Table.find?_eq_some_iff.2 he)
  exact h m (by simp)

/-- The slowest sections, as many as are asked for, are the beginning of the one ranking of all
sections, each with the seconds of the last metric with its key.  They depend on these seconds
alone; asking for one more adds to the end of the list; no section that is left out is slower than
one that is listed, and nothing is left out if as many are asked for as there are keys. -/
theorem slowest_begin_ranking (metrics : List Metric)
    (hnumbers : ∀ m ∈ metrics, m.seconds ≠ .nan) :
    ∃ ranking, IsRanking (.ofMetrics metrics) ranking ∧
      (∀ other, IsRanking (.ofMetrics metrics) other → other = ranking) ∧
      (∀ key seconds, (key, seconds) ∈ ranking ↔ lastSeconds? metrics key = some seconds) ∧
      (∀ top, (ofMetrics metrics top).slowest = ranking.take (max top 0).toNat) ∧
      (∀ metrics', (∀ key, lastSeconds? metrics' key = lastSeconds? metrics key) →
        ∀ top, (ofMetrics metrics' top).slowest = (ofMetrics metrics top).slowest) ∧
      (∀ top, (ofMetrics metrics top).slowest <+: (ofMetrics metrics (top + 1)).slowest) ∧
      (∀ top, ∀ e ∈ (ofMetrics metrics top).slowest, ∀ e' ∈ ranking,
        e' ∉ (ofMetrics metrics top).slowest → e'.2.value ≤ e.2.value) ∧
      ∀ top : ℤ, (MetricMap.ofMetrics metrics).keys.length ≤ top →
        (ofMetrics metrics top).slowest = ranking := by
  have hmap := ne_nan_of_mem_entries hnumbers
  have hranking := isRanking_ranked hmap
  simp only [slowest_ofMetrics]
  refine ⟨ranked (.ofMetrics metrics), hranking, fun other => hranking.unique,
    fun key seconds => ?_, fun top => ?_, fun metrics' hlast top => ?_, fun top => ?_,
    fun top e he e' he' hout => ?_, fun top htop => ?_⟩
  · rw [hranking.perm.mem_iff, ← Table.find?_eq_some_iff, MetricMap.find?_ofMetrics]
    rfl
  · rw [show (max top 0).toNat = top.toNat by omega]
  · have hperm :
        (MetricMap.ofMetrics metrics').entries.Perm (MetricMap.ofMetrics metrics).entries :=
      Table.perm_entries fun key => by
        rw [MetricMap.find?_ofMetrics, MetricMap.find?_ofMetrics]
        exact hlast key
    have hranking' := isRanking_ranked fun e he => hmap e (hperm.mem_iff.1 he)
    have hsame : ranked (.ofMetrics metrics') = ranked (.ofMetrics metrics) :=
      hranking.unique ⟨hranking'.perm.trans hperm, hranking'.nodup, hranking'.pairwise⟩
    exact congrArg (List.take top.toNat) hsame
  · exact List.take_prefix_take_left (Int.toNat_le_toNat (by omega))
  · have hsplit := hranking.pairwise
    rw [← List.take_append_drop top.toNat (ranked _), List.pairwise_append] at hsplit
    rw [← List.take_append_drop top.toNat (ranked _), List.mem_append] at he'
    exact (hsplit.2.2 e he e' (he'.resolve_left hout)).value_le
  · refine List.take_of_length_le ?_
    rw [hranking.perm.length_eq, ← List.length_map Prod.fst]
    change (MetricMap.ofMetrics metrics).keys.length ≤ top.toNat
    omega

/-- Two services of the same time, and a third that is slow first and fast when it comes again. -/
def repeatedMetrics : List Metric :=
  [⟨"a", "a", .ofDecimal false 9 0, .dumpsys⟩, ⟨"c", "c", .ofDecimal false 5 0, .dumpsys⟩,
    ⟨"b", "b", .ofDecimal false 5 0, .dumpsys⟩, ⟨"a", "a", .ofDecimal false 1 0, .dumpsys⟩]

theorem repeated_ranked_by_last :
    (∀ m ∈ repeatedMetrics, m.seconds ≠ .nan) ∧
    IsRanking (.ofMetrics repeatedMetrics)
      [("b", .ofDecimal false 5 0), ("c", .ofDecimal false 5 0), ("a", .ofDecimal false 1 0)] ∧
    (ofMetrics repeatedMetrics 2).slowest =
      [("b", .ofDecimal false 5 0), ("c", .ofDecimal false 5 0)] ∧
    (ofMetrics repeatedMetrics (-1)).slowest = [] := by
  have hnumbers : ∀ m ∈ repeatedMetrics, m.seconds ≠ .nan := by decide +kernel
  have hall : (ofMetrics repeatedMetrics 3).slowest =
      [("b", .ofDecimal false 5 0), ("c", .ofDecimal false 5 0), ("a", .ofDecimal false 1 0)] := by
    decide +kernel
  obtain ⟨ranking, hranking, -, -, htake, -, -, -, hlisted⟩ :=
    slowest_begin_ranking repeatedMetrics hnumbers
  obtain rfl := (hlisted 3 (by decide +kernel)).symm.trans hall
  exact ⟨hnumbers, hranking, htake 2, htake (-1)⟩

end SectionTimes.Stats
