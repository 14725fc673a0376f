import Mathlib.Algebra.BigOperators.Group.List.Lemmas
import SectionTimes.Proofs.Data.Sorted
import SectionTimes.Proofs.Data.Table
import SectionTimes.Proofs.Number.Places
import SectionTimes.Report.Stats

/-!
# The numbers and times of kinds

Every metric counts for its kind and for no other.  The kinds with their numbers and the kinds with
their seconds are the same kinds, those of the metrics, in two orders, so that each line of the text
finds the seconds of its kind.
-/

namespace SectionTimes.Stats

variable {metrics : List Metric} {kind : Kind}

/-! ## One kind -/

/-- The metrics of a kind, in their order. -/
def ofKind (metrics : List Metric) (kind : Kind) : List Metric :=
  metrics.filter fun m => m.kind = kind

/-- The number of metrics of a kind. -/
def countOf (metrics : List Metric) (kind : Kind) : ℕ := (ofKind metrics kind).length

/-- The seconds of the metrics of a kind, summed in their order. -/
def sumOf (metrics : List Metric) (kind : Kind) : Binary64 :=
  ((ofKind metrics kind).map Metric.seconds).foldl (· + ·) .zero

/-- Some metric is of a kind. -/
def Occurs (metrics : List Metric) (kind : Kind) : Prop := ∃ m ∈ metrics, m.kind = kind

theorem occurs_iff_ofKind_ne_nil : Occurs metrics kind ↔ ofKind metrics kind ≠ [] := by
  unfold Occurs ofKind
  rw [Ne, List.filter_eq_nil_iff]
  simp

theorem mem_map_kind_iff : kind ∈ metrics.map Metric.kind ↔ Occurs metrics kind := List.mem_map

theorem countByKind_eq (metrics : List Metric) :
    countByKind metrics = .tally Metric.kind (fun n _ => n + 1) 0 metrics := rfl

theorem sumByKind_eq (metrics : List Metric) :
    sumByKind metrics = .tally Metric.kind (fun x m => x + m.seconds) .zero metrics := rfl

theorem mem_countByKind_iff {n : ℕ} :
    (kind, n) ∈ (countByKind metrics).entries ↔ Occurs metrics kind ∧ n = countOf metrics kind := by
  have hcount : Table.worked Metric.kind (fun n _ => n + 1) 0 metrics kind =
      countOf metrics kind := by
    unfold Table.worked countOf ofKind
    rw [List.foldl_add_const, Nat.one_mul, Nat.zero_add]
  rw [countByKind_eq, Table.mem_entries_tally_iff, mem_map_kind_iff, hcount]

theorem mem_sumByKind_iff {x : Binary64} :
    (kind, x) ∈ (sumByKind metrics).entries ↔ Occurs metrics kind ∧ x = sumOf metrics kind := by
  have hsum : Table.worked Metric.kind (fun x m => x + m.seconds) .zero metrics kind =
      sumOf metrics kind := by
    unfold Table.worked sumOf ofKind
    rw [List.foldl_map]
  rw [sumByKind_eq, Table.mem_entries_tally_iff, mem_map_kind_iff, hsum]

/-! ## All kinds -/

theorem mem_keys_countByKind_iff : kind ∈ (countByKind metrics).keys ↔ Occurs metrics kind := by
  rw [countByKind_eq, Table.mem_keys_tally_iff, mem_map_kind_iff]

/-- The numbers of all kinds make the number of metrics. -/
theorem sum_countByKind (metrics : List Metric) :
    ((countByKind metrics).entries.map Prod.snd).sum = metrics.length := by
  have hvalues : (countByKind metrics).entries.map Prod.snd =
      (countByKind metrics).keys.map ((metrics.map Metric.kind).count ·) := by
    rw [Table.keys, List.map_map]
    refine List.map_congr_left fun e he => ?_
    rw [(mem_countByKind_iff.1 he).2, countOf, ofKind, Function.comp_apply, List.count,
      List.countP_map, ← List.countP_eq_length_filter]
    exact List.countP_congr fun m _ => by simp
  have hkeys : (countByKind metrics).keys.Perm (metrics.map Metric.kind).dedup :=
    (List.perm_ext_iff_of_nodup (countByKind metrics).nodup (List.nodup_dedup _)).2 fun kind => by
      rw [List.mem_dedup, mem_map_kind_iff]
      exact mem_keys_countByKind_iff
  rw [hvalues, (hkeys.map _).sum_eq, List.sum_map_count_dedup_eq_length, List.length_map]

/-- The place at which a kind first occurs among metrics. -/
def firstPlace (metrics : List Metric) (kind : Kind) : ℕ := (metrics.map Metric.kind).idxOf kind

theorem pairwise_countByKind (metrics : List Metric) :
    (countByKind metrics).entries.Pairwise fun a b =>
      firstPlace metrics a.1 < firstPlace metrics b.1 := by
  have hkeys : (countByKind metrics).keys.Pairwise fun kind kind' =>
      firstPlace metrics kind < firstPlace metrics kind' := by
    rw [countByKind_eq]
    exact Table.pairwise_keys_tally metrics
  rwa [Table.keys, List.pairwise_map] at hkeys

/-- The largest kinds come first, and of two with the same number the one that occurs first. -/
theorem pairwise_counts (metrics : List Metric) (top : ℤ) :
    (ofMetrics metrics top).counts.Pairwise fun a b =>
      b.2 < a.2 ∨ b.2 = a.2 ∧ firstPlace metrics a.1 < firstPlace metrics b.1 := by
  have hsorted : (ofMetrics metrics top).counts.Pairwise (ByKey (fun e => OrderDual.toDual e.2)
      fun a b => firstPlace metrics a.1 < firstPlace metrics b.1) :=
    pairwise_sortedBy (fun _ _ _ _ => decide_eq_true_iff.trans OrderDual.toDual_lt_toDual.symm)
      (pairwise_countByKind metrics)
  exact hsorted.imp fun h => h.imp OrderDual.toDual_lt_toDual.1 fun h =>
    ⟨(OrderDual.toDual_inj.1 h.1).symm, h.2⟩

theorem pairwise_seconds (metrics : List Metric) (top : ℤ) :
    (ofMetrics metrics top).seconds.Pairwise fun a b => a.1.name < b.1.name := by
  have hsorted : (sortedBy (fun a b => decide (a.1.name < b.1.name))
      (sumByKind metrics).entries).Pairwise (ByKey (fun e => e.1.name) fun a b => a.1 ≠ b.1) :=
    pairwise_sortedBy (fun _ _ _ _ => decide_eq_true_iff) (sumByKind metrics).pairwise_key_ne
  refine List.pairwise_map.2 (hsorted.imp fun h => ?_)
  rcases h with hlt | ⟨hname, hne⟩
  · exact hlt
  · exact absurd (congrArg Kind.mk hname) hne

theorem mem_counts_iff {top : ℤ} {n : ℕ} :
    (kind, n) ∈ (ofMetrics metrics top).counts ↔
      Occurs metrics kind ∧ n = countOf metrics kind :=
  (mem_sortedBy _).trans mem_countByKind_iff

theorem mem_seconds_iff {top : ℤ} {x : Binary64} :
    (kind, x) ∈ (ofMetrics metrics top).seconds ↔
      Occurs metrics kind ∧ x = (sumOf metrics kind).roundPlaces 3 := by
  change (kind, x) ∈ (sortedBy _ (sumByKind metrics).entries).map _ ↔ _
  rw [List.mem_map]
  constructor
  · rintro ⟨⟨kind', y⟩, he, heq⟩
    obtain ⟨rfl, rfl⟩ := Prod.mk.inj heq
    obtain ⟨hoccurs, rfl⟩ := mem_sumByKind_iff.1 ((mem_sortedBy _).1 he)
    exact ⟨hoccurs, rfl⟩
  · rintro ⟨hoccurs, rfl⟩
    exact ⟨(kind, sumOf metrics kind), (mem_sortedBy _).2 (mem_sumByKind_iff.2 ⟨hoccurs, rfl⟩), rfl⟩

/-! ## The text -/

/-- The seconds of a kind that occurs are found. -/
theorem find?_seconds {top : ℤ} (h : Occurs metrics kind) :
    ((ofMetrics metrics top).seconds.find? fun e => e.1 = kind) =
      some (kind, (sumOf metrics kind).roundPlaces 3) := by
  have hfound : ((ofMetrics metrics top).seconds.find? fun e => e.1 = kind).isSome = true :=
    List.find?_isSome.2 ⟨_, mem_seconds_iff.2 ⟨h, rfl⟩, decide_eq_true rfl⟩
  obtain ⟨⟨kind', x⟩, he⟩ := Option.isSome_iff_exists.1 hfound
  obtain rfl : kind' = kind := by simpa using List.find?_some he
  rw [he, (mem_seconds_iff.1 (List.mem_of_find?_eq_some he)).2]

/-- The line that tells the number and the seconds of a kind. -/
def lineOf (kind : Kind) (count : ℕ) (seconds : Binary64) : String :=
  "  " ++ String.ofList (padEnd ' ' 10 kind.name.toList) ++ " " ++
    alignRight 5 (natDigits count) ++ "  " ++ alignRight 10 (seconds.fixed 3) ++ "s"

theorem kindLine_eq {top : ℤ} {e : Kind × ℕ} (h : e ∈ (ofMetrics metrics top).counts) :
    (ofMetrics metrics top).kindLine e.1 e.2 =
      lineOf e.1 e.2 ((sumOf metrics e.1).roundPlaces 3) := by
  have hseconds : (ofMetrics metrics top).secondsOf e.1 = (sumOf metrics e.1).roundPlaces 3 := by
    unfold secondsOf
    rw [find?_seconds (mem_counts_iff.1 h).1]
    rfl
  rw [← hseconds]
  rfl

/-- The lines that tell the slowest sections. -/
def slowLines (s : Stats) : List String :=
  if s.slowest.isEmpty then ["No duration sections."]
  else
    s!"Slowest sections ({s.slowest.length}):" ::
      s.slowest.map fun (key, seconds) => slowLine key seconds

/-- The text has the total, the lines of the kinds, and the slowest sections. -/
theorem plainText_eq (metrics : List Metric) (top : ℤ) :
    (ofMetrics metrics top).plainText =
      joined "\n" (["Total sections: " ++ toString metrics.length, "", "Sections by kind:"] ++
        ((ofMetrics metrics top).counts.map fun e =>
          lineOf e.1 e.2 ((sumOf metrics e.1).roundPlaces 3)) ++
        "" :: slowLines (ofMetrics metrics top)) := by
  have hlines : ((ofMetrics metrics top).counts.map fun e =>
      (ofMetrics metrics top).kindLine e.1 e.2) = (ofMetrics metrics top).counts.map fun e =>
        lineOf e.1 e.2 ((sumOf metrics e.1).roundPlaces 3) :=
    List.map_congr_left fun e he => kindLine_eq he
  have htotal : (ofMetrics metrics top).total = metrics.length := sum_countByKind metrics
  rw [← hlines, ← htotal, plainText, List.append_assoc _ [""]]
  rfl

/-- Every metric counts once, for its kind: the numbers of the kinds make the total.  The kinds that
occur, and no others, have their number, with the largest first and those that occur first before
others of the same number, and they have their seconds, in ascending order.  These are the seconds
of the metrics of the kind, summed in their order and rounded to three places, whatever there is of
other kinds.  The seconds of each kind that is counted are found, and stand in its line. -/
theorem kinds_counted_and_summed (metrics : List Metric) (top : ℤ) :
    (ofMetrics metrics top).total = metrics.length ∧
    ((ofMetrics metrics top).counts.map Prod.snd).sum = metrics.length ∧
    (∀ kind n, (kind, n) ∈ (ofMetrics metrics top).counts ↔
      Occurs metrics kind ∧ n = countOf metrics kind) ∧
    ((ofMetrics metrics top).counts.Pairwise fun a b =>
      b.2 < a.2 ∨ b.2 = a.2 ∧ firstPlace metrics a.1 < firstPlace metrics b.1) ∧
    (∀ kind x, (kind, x) ∈ (ofMetrics metrics top).seconds ↔
      Occurs metrics kind ∧ x = (sumOf metrics kind).roundPlaces 3) ∧
    ((ofMetrics metrics top).seconds.Pairwise fun a b => a.1.name < b.1.name) ∧
    (∀ kind x, (kind, x) ∈ (ofMetrics metrics top).seconds → (sumOf metrics kind).IsRoundedTo 3 x) ∧
    (∀ metrics' top' kind, ofKind metrics' kind = ofKind metrics kind → ∀ x,
      (kind, x) ∈ (ofMetrics metrics' top').seconds ↔
        (kind, x) ∈ (ofMetrics metrics top).seconds) ∧
    (∀ e ∈ (ofMetrics metrics top).counts,
      ((ofMetrics metrics top).seconds.find? fun t => t.1 = e.1) =
        some (e.1, (sumOf metrics e.1).roundPlaces 3)) ∧
    (ofMetrics metrics top).plainText =
      joined "\n" (["Total sections: " ++ toString metrics.length, "", "Sections by kind:"] ++
        ((ofMetrics metrics top).counts.map fun e =>
          lineOf e.1 e.2 ((sumOf metrics e.1).roundPlaces 3)) ++
        "" :: slowLines (ofMetrics metrics top)) := by
  have hcounts : ((ofMetrics metrics top).counts.map Prod.snd).sum = metrics.length :=
    ((sortedBy_perm _ (countByKind metrics).entries).map Prod.snd).sum_eq.trans
      (sum_countByKind metrics)
  refine ⟨sum_countByKind metrics, hcounts, fun _ _ => mem_counts_iff, pairwise_counts metrics top,
    fun _ _ => mem_seconds_iff, pairwise_seconds metrics top, fun kind x hmem => ?_,
    fun metrics' top' kind hsame x => ?_, fun e he => find?_seconds (mem_counts_iff.1 he).1,
    plainText_eq metrics top⟩
  · rw [(mem_seconds_iff.1 hmem).2]
    exact Binary64.isRoundedTo_roundPlaces 3 _
  · rw [mem_seconds_iff, mem_seconds_iff, occurs_iff_ofKind_ne_nil, occurs_iff_ofKind_ne_nil, sumOf,
      sumOf, hsame]

end SectionTimes.Stats
