import SectionTimes.Proofs.Duration.MetricMap
import SectionTimes.Proofs.Json.Members
import SectionTimes.Report.Format

/-!
# The JSON of a metric map

A metric map is written as one object, with a member on a line of its own for each key.  Whatever
characters the keys are made of, the object is read back: its members are the keys with their
seconds.  The seconds are written with the fewest digits that become them again, and every character
of the text is ASCII.
-/

namespace SectionTimes.Format

open Json

variable {metrics : MetricMap}

theorem toList_jsonText (metrics : MetricMap) :
    (jsonText metrics).toList =
      bracketed .indented 0 '\x7b' '\x7d' (metrics.sorted.map (memberText .indented)) := by
  have hmembers := memberTexts_map_member .indented 1 metrics.sorted
  unfold jsonText indented textAt
  rw [String.toList_ofList, ← hmembers]
  rfl

theorem forall_mem_sorted {P : String × Binary64 → Prop} (h : ∀ e ∈ metrics.entries, P e) :
    ∀ e ∈ metrics.sorted, P e :=
  fun e he => h e (metrics.sorted_perm.mem_iff.1 he)

theorem nodup_map_fst_sorted (metrics : MetricMap) : (metrics.sorted.map Prod.fst).Nodup :=
  (metrics.sorted_perm.map Prod.fst).nodup_iff.2 metrics.nodup

/-! ## ASCII -/

theorem isAscii_bracketed {layout : Layout} (hgap : ∀ depth, ∀ c ∈ layout.gap depth, c.toNat < 128)
    {parts : List (List Char)} (hparts : ∀ p ∈ parts, ∀ c ∈ p, c.toNat < 128) (depth : ℕ) :
    ∀ c ∈ bracketed layout depth '\x7b' '\x7d' parts, c.toNat < 128 := by
  cases parts with
  | nil => exact List.forall_mem_cons.2 ⟨by decide, List.forall_mem_singleton.2 (by decide)⟩
  | cons part parts =>
    obtain ⟨hpart, hparts⟩ := List.forall_mem_cons.1 hparts
    have hmore : ∀ c ∈ parts.flatMap (fun p => ',' :: layout.gap (depth + 1) ++ p),
        c.toNat < 128 := by
      intro c hc
      obtain ⟨p, hp, hc⟩ := List.mem_flatMap.1 hc
      rcases List.mem_append.1 hc with hc | hc
      · exact List.forall_mem_cons.2 ⟨by decide, hgap (depth + 1)⟩ c hc
      · exact hparts p hp c hc
    unfold bracketed
    simp only [List.forall_mem_append, List.forall_mem_cons]
    exact ⟨⟨⟨⟨⟨by decide, hgap (depth + 1)⟩, hpart⟩, hmore⟩, hgap depth⟩, by decide,
      List.forall_mem_nil _⟩

theorem isAscii_memberText {e : String × Binary64} (h : e.2.IsRepresentable) :
    ∀ c ∈ memberText .indented e, c.toNat < 128 := by
  have hnumber : ∀ c ∈ numberChars, c.toNat < 128 := List.all_iff_forall_prop.1 (by decide)
  have htext := (isFloatText_floatText h).mem_numberChars
  exact List.forall_mem_append.2 ⟨List.forall_mem_append.2 ⟨isAscii_stringText _,
    List.all_iff_forall_prop.1 (by decide)⟩, fun c hc => hnumber c (htext c hc)⟩

/-- The JSON of a metric map whose seconds are numbers of 64 bits is read back, whatever characters
the keys are made of: one object with a member for each key, in strictly ascending order of the
keys, with the seconds as its value.  Each member stands on a line of its own, with the text of its
seconds behind the key; an empty map is an empty object; and every character is ASCII. -/
theorem json_object_read_back (metrics : MetricMap)
    (hnumbers : ∀ e ∈ metrics.entries, e.2.IsRepresentable) :
    read? (render .json metrics) =
      some (.object (metrics.sorted.map fun e => (e.1, .float e.2))) ∧
    metrics.sorted.Perm metrics.entries ∧
    (metrics.sorted.Pairwise fun e e' => e.1 < e'.1) ∧
    (render .json metrics).toList =
      bracketed .indented 0 '\x7b' '\x7d' (metrics.sorted.map fun e =>
        stringText e.1.toList ++ ':' :: ' ' :: floatText e.2) ∧
    (∀ e ∈ metrics.sorted, IsFloatText e.2 (floatText e.2)) ∧
    (metrics.entries = [] → render .json metrics = "\x7b\x7d") ∧
    ∀ c ∈ (render .json metrics).toList, c.toNat < 128 := by
  have hsorted := forall_mem_sorted hnumbers
  refine ⟨read?_object isBlank_indented hsorted (nodup_map_fst_sorted metrics),
    metrics.sorted_perm, metrics.pairwise_sorted, ?_,
    fun e he => isFloatText_floatText (hsorted e he), ?_, ?_⟩
  · rw [show render .json metrics = jsonText metrics from rfl, toList_jsonText]
    congr 1
    refine List.map_congr_left fun e _ => ?_
    simp [memberText, Layout.indented]
  · intro hempty
    have hnil : metrics.sorted = [] := List.Perm.eq_nil (hempty ▸ metrics.sorted_perm)
    show jsonText metrics = _
    unfold jsonText
    rw [hnil]
    rfl
  · intro c hc
    rw [show render .json metrics = jsonText metrics from rfl, toList_jsonText] at hc
    refine isAscii_bracketed (fun depth => ?_) (fun p hp => ?_) 0 c hc
    · exact List.forall_mem_cons.2
        ⟨by decide, fun c hc => by rw [List.eq_of_mem_replicate hc]; decide⟩
    · obtain ⟨e, he, rfl⟩ := List.mem_map.1 hp
      exact isAscii_memberText (hsorted e he)

/-- A map whose keys hold a quote, a backslash, a line feed and a character of two units. -/
def escapedMetrics : MetricMap where
  entries := [("😀", .infinite false), ("\n", .nan), ("a\"\\", .finite true 5)]
  nodup := by decide

theorem json_object_read_back_escaped :
    (∀ e ∈ escapedMetrics.entries, e.2.IsRepresentable) ∧
    read? (render .json escapedMetrics) =
      some (.object [("\n", .float .nan), ("a\"\\", .float (.finite true 5)),
        ("😀", .float (.infinite false))]) := by
  have hfive : Binary64.IsRepresentable (.finite true 5) := by
    refine .finite ⟨5, 0, by decide, rfl⟩ ?_
    rw [Binary64.overflow_eq]
    generalize hn : 2098 = n
    exact lt_of_lt_of_le (by decide : 5 < 2 ^ 3) (Nat.pow_le_pow_right (by decide) (by omega))
  have hnumbers : ∀ e ∈ escapedMetrics.entries, e.2.IsRepresentable :=
    List.forall_mem_cons.2 ⟨.infinite false, List.forall_mem_cons.2 ⟨.nan,
      List.forall_mem_singleton.2 hfive⟩⟩
  have hsorted : escapedMetrics.sorted =
      [("\n", .nan), ("a\"\\", .finite true 5), ("😀", .infinite false)] := by
    decide +kernel
  refine ⟨hnumbers, (json_object_read_back escapedMetrics hnumbers).1.trans ?_⟩
  rw [hsorted]
  rfl

/-! ## Reports -/

/-- The seconds of a line are the nearest number to a decimal. -/
theorem isRepresentable_seconds {line : String} {m : Metric} (h : Metric.ofLine? line = some m) :
    m.seconds.IsRepresentable := by
  unfold Metric.ofLine? at h
  split at h
  · obtain rfl := Option.some.inj h
    exact Binary64.isRepresentable_ofDecimal _ _ _
  · obtain ⟨r, -, rfl⟩ := Option.map_eq_some_iff.1 h
    exact Binary64.isRepresentable_ofDecimal _ _ _

theorem isRepresentable_of_mem_ofReport {lines : List String} {e : String × Binary64}
    (h : e ∈ (MetricMap.ofReport lines).entries) : e.2.IsRepresentable := by
  obtain ⟨before, m, behind, hmetrics, -, hseconds, -⟩ :=
    MetricMap.find?_ofMetrics_eq_some_iff.1 (Table.find?_eq_some_iff.2 h)
  have hm : m ∈ Metric.ofReport lines := by
    rw [hmetrics]
    exact List.mem_append_right _ List.mem_cons_self
  obtain ⟨line, hline⟩ := Metric.exists_ofLine?_of_mem_ofReport hm
  rw [← hseconds]
  exact isRepresentable_seconds hline

/-- The metric map of a report, whatever its lines are, is read back from its JSON. -/
theorem read?_render_ofReport (lines : List String) :
    read? (render .json (.ofReport lines)) =
      some (.object ((MetricMap.ofReport lines).sorted.map fun e => (e.1, .float e.2))) :=
  read?_object isBlank_indented (forall_mem_sorted fun _ => isRepresentable_of_mem_ofReport)
    (nodup_map_fst_sorted _)

end SectionTimes.Format
