import CounterExport.Metric.Family
import CounterExport.Proofs.NameIndex
import Mathlib.Data.List.Induction
import Mathlib.Data.List.Perm.Basic

/-!
# Families group the samples by name

A family sink finds the family of a sample through its index, so everything rests on the index
staying exact (`FamilySink.Indexed`): each `emit` either adds a metric to the family the index
names, which keeps every name, or opens a family at the end and indexes it there, under a name
no family had (`emit_cases`).

Emitting samples `ss` one after another into an empty sink therefore groups them
(`FamilySink.Groups`, kept by each `emit`): one family per distinct name, in the order of each
name's first sample; each family with the help text and kind of that first sample and, as
metrics, the samples of its name in emission order. Grouping a list by key in first-seen order
is a permutation of it (`perm_flatMap_filter_eraseDups`), so the families' metrics, read one
family after another, are the samples rearranged with the order of each name kept, and there are
as many as samples were emitted (`emitAll_groups_by_name`).

A family takes its kind from its first sample and never checks the kind of a later one: a metric
of the other kind would be read as zero (`Family.reading`). So the guarantee that every metric of
a family has the family's kind comes from the samples: if the kind of every emitted sample is a
function `κ` of its name, every family has kind `κ` of its name and so does every metric in it
(`KindsFollow`).
-/

set_option autoImplicit false

namespace CounterExport
namespace Metric

theorem mem_modify_cases {α : Type} {xs : Array α} {i : Nat} {g : α → α} {x : α}
    (hx : x ∈ xs.modify i g) : ∃ j, ∃ h : j < xs.size, x = if i = j then g xs[j] else xs[j] := by
  obtain ⟨j, hj, rfl⟩ := Array.mem_iff_getElem.1 hx
  exact ⟨j, by simpa using hj, Array.getElem_modify _⟩

/-- Grouping a list by a key, the groups taken in the order of each key's first element, is a
    permutation of the list. -/
theorem perm_flatMap_filter_eraseDups {α β : Type} [BEq β] [LawfulBEq β] (k : α → β) :
    ∀ l : List α, (((l.map k).eraseDups).flatMap fun n => l.filter (k · == n)).Perm l
  | [] => by simp
  | a :: l => by
    -- the first group is `a` with the rest of its key; the later groups are those of the
    -- elements with another key, on which the statement holds by recursion
    have hlen : (l.filter (k · != k a)).length < (a :: l).length :=
      Nat.lt_succ_of_le (List.length_filter_le _ _)
    have ih := perm_flatMap_filter_eraseDups k (l.filter (k · != k a))
    have hrest : (l.map k).filter (fun b => !b == k a) = (l.filter (k · != k a)).map k := by
      rw [List.filter_map]
      rfl
    have hgroups : ∀ n ∈ ((l.filter (k · != k a)).map k).eraseDups,
        (a :: l).filter (k · == n) = (l.filter (k · != k a)).filter (k · == n) := by
      intro n hn
      have hne : k a ≠ n := by
        obtain ⟨x, hx, rfl⟩ := List.mem_map.1 (List.mem_eraseDups.1 hn)
        have := (List.mem_filter.1 hx).2
        simp only [bne_iff_ne, ne_eq] at this
        exact Ne.symm this
      rw [List.filter_filter, List.filter_cons_of_neg (by simpa using hne)]
      congr 1
      funext x
      by_cases hx : k x = n <;> simp [hx, hne.symm]
    rw [List.map_cons, List.eraseDups_cons, hrest, List.flatMap_cons,
      List.flatMap_congr hgroups, List.filter_cons_of_pos (by simp), List.cons_append]
    refine List.Perm.cons a ?_
    refine (List.Perm.append_left _ ih).trans ?_
    exact List.filter_append_perm (k · == k a) l
termination_by l => l.length
decreasing_by exact hlen

namespace FamilySink

/-! ## The index and one emission -/

/-- The index maps exactly the names of the families to their positions. -/
def Indexed (sink : FamilySink) : Prop := NameIndex (·.name) sink.index sink.families

theorem empty_indexed : empty.Indexed := NameIndex.empty

/-- While the index is exact, a sample either joins the family of its name, the only family
    with that name, or opens a family at the end when no family has its name. -/
theorem emit_cases {sink : FamilySink} (h : sink.Indexed) (s : Sample) :
    (∃ i, ∃ hi : i < sink.families.size, sink.families[i].name = s.fqName ∧
      sink.emit s = { sink with families := sink.families.modify i (Family.addPoint s.point) }) ∨
    ((∀ f ∈ sink.families, f.name ≠ s.fqName) ∧
      sink.emit s = ⟨sink.families.push ⟨s.fqName, s.descriptor.help, s.kind, #[s.point]⟩,
        sink.index.insert s.fqName sink.families.size⟩) := by
  cases hi : sink.index[s.fqName]? with
  | some i =>
    obtain ⟨hlt, hname⟩ := (h s.fqName i).1 hi
    exact .inl ⟨i, hlt, hname, by simp only [emit, hi]⟩
  | none => exact .inr ⟨NameIndex.getElem?_eq_none_iff h |>.1 hi, by simp only [emit, hi]⟩

theorem Indexed.emit {sink : FamilySink} (h : sink.Indexed) (s : Sample) : (sink.emit s).Indexed := by
  rcases emit_cases h s with ⟨i, -, -, he⟩ | ⟨hfree, he⟩
  · rw [he]
    exact NameIndex.modify h i fun _ => rfl
  · rw [he]
    exact NameIndex.push (y := ⟨s.fqName, s.descriptor.help, s.kind, #[s.point]⟩) h hfree

@[simp] theorem emitAll_nil (sink : FamilySink) : sink.emitAll [] = sink := rfl

@[simp] theorem emitAll_append_singleton (sink : FamilySink) (ss : List Sample) (s : Sample) :
    sink.emitAll (ss ++ [s]) = (sink.emitAll ss).emit s := by
  simp [emitAll, List.foldl_append]

theorem Indexed.emitAll {sink : FamilySink} (h : sink.Indexed) (ss : List Sample) :
    (sink.emitAll ss).Indexed := by
  induction ss using List.reverseRecOn with
  | nil => exact h
  | append_singleton ss s ih =>
    rw [emitAll_append_singleton]
    exact ih.emit s

/-- The number of samples received is the number of metrics, read family after family. -/
theorem sampleCount_eq (sink : FamilySink) :
    sink.sampleCount = (sink.families.toList.flatMap (·.points.toList)).length := by
  have hfold : ∀ (fs : List Family) (n : Nat),
      fs.foldl (fun n f => n + f.points.size) n = n + (fs.flatMap (·.points.toList)).length := by
    intro fs
    induction fs with
    | nil => simp
    | cons f fs ih =>
      intro n
      simp only [List.foldl_cons, ih, List.flatMap_cons, List.length_append, Array.length_toList]
      omega
  rw [sampleCount, ← Array.foldl_toList, hfold]
  simp

/-! ## Grouping -/

/-- What the sink holds once the samples `ss` were emitted into an empty one: the index is
    exact; the families are named by the samples' names, each once, in the order of each name's
    first sample; each family has the help text and kind of that first sample, and as metrics
    the samples of its name in emission order. -/
structure Groups (ss : List Sample) (sink : FamilySink) : Prop where
  indexed : sink.Indexed
  names : sink.families.toList.map (·.name) = (ss.map (·.fqName)).eraseDups
  opened : ∀ f ∈ sink.families, ∃ s, ss.find? (·.fqName == f.name) = some s ∧
    f.help = s.descriptor.help ∧ f.kind = s.kind
  points : ∀ f ∈ sink.families,
    f.points.toList = (ss.filter (·.fqName == f.name)).map Sample.point

theorem groups_empty : Groups [] empty where
  indexed := empty_indexed
  names := rfl
  opened := by simp [empty]
  points := by simp [empty]

theorem Groups.mem_names {ss : List Sample} {sink : FamilySink} (h : Groups ss sink) (n : String) :
    n ∈ ss.map (·.fqName) ↔ ∃ f ∈ sink.families, f.name = n := by
  rw [← List.mem_eraseDups, ← h.names]
  simp

theorem find?_append_of_find? {ss : List Sample} {n : String} {s first : Sample}
    (h : ss.find? (·.fqName == n) = some first) :
    (ss ++ [s]).find? (·.fqName == n) = some first := by
  simp [List.find?_append, h]

/-- A sample joining the family of its name. -/
theorem Groups.join {ss : List Sample} {sink : FamilySink} (h : Groups ss sink) {s : Sample}
    {i : Nat} (hlt : i < sink.families.size) (hname : sink.families[i].name = s.fqName) :
    Groups (ss ++ [s])
      { sink with families := sink.families.modify i (Family.addPoint s.point) } := by
  have hmem : s.fqName ∈ ss.map (·.fqName) :=
    (h.mem_names _).2 ⟨_, Array.getElem_mem hlt, hname⟩
  -- a family at another position has another name, since the index sends this one to `i`
  have hother : ∀ j (hj : j < sink.families.size), i ≠ j → sink.families[j].name ≠ s.fqName := by
    intro j hj hij hj_name
    have := ((h.indexed s.fqName j).2 ⟨hj, hj_name⟩).symm.trans
      ((h.indexed s.fqName i).2 ⟨hlt, hname⟩)
    exact hij (Option.some.inj this).symm
  refine ⟨NameIndex.modify h.indexed i fun _ => rfl, ?_, ?_, ?_⟩
  · -- names are untouched, and the sample's name was already a sample's
    have hmap : (sink.families.modify i (Family.addPoint s.point)).toList.map (·.name) =
        sink.families.toList.map (·.name) := by
      apply List.ext_getElem (by simp)
      intro j hj hj'
      simp only [List.getElem_map, Array.getElem_toList, Array.getElem_modify]
      split <;> rfl
    rw [hmap, h.names, List.map_append, List.eraseDups_append, List.map_singleton, List.removeAll,
      List.filter_cons_of_neg (by simpa using hmem)]
    simp
  · intro f hf
    obtain ⟨j, hj, rfl⟩ := mem_modify_cases hf
    obtain ⟨first, hfirst, hhelp, hkind⟩ := h.opened _ (Array.getElem_mem hj)
    split
    · exact ⟨first, find?_append_of_find? hfirst, hhelp, hkind⟩
    · exact ⟨first, find?_append_of_find? hfirst, hhelp, hkind⟩
  · intro f hf
    obtain ⟨j, hj, rfl⟩ := mem_modify_cases hf
    have hpts := h.points _ (Array.getElem_mem hj)
    split
    · -- the family of the sample's name gets it as its last metric
      rename_i hij
      subst hij
      simp only [Family.addPoint, Array.toList_push, hpts, List.filter_append, List.map_append]
      simp [hname]
    · -- any other family is unchanged, and the sample is not of its name
      rename_i hij
      have hne : (s.fqName == sink.families[j].name) = false := by
        simpa using (hother j hj hij).symm
      simp [hpts, List.filter_append, hne]

/-- A sample opening a family of a name no family had. -/
theorem Groups.open {ss : List Sample} {sink : FamilySink} (h : Groups ss sink) {s : Sample}
    (hfree : ∀ f ∈ sink.families, f.name ≠ s.fqName) :
    Groups (ss ++ [s]) ⟨sink.families.push ⟨s.fqName, s.descriptor.help, s.kind, #[s.point]⟩,
        sink.index.insert s.fqName sink.families.size⟩ := by
  -- no earlier sample has the name
  have hnew : ∀ t ∈ ss, t.fqName ≠ s.fqName := by
    intro t ht heq
    obtain ⟨f, hf, hfn⟩ := (h.mem_names _).1 (List.mem_map_of_mem ht)
    exact hfree f hf (hfn.trans heq)
  have hnone : ss.find? (·.fqName == s.fqName) = none := by
    simpa using hnew
  refine ⟨NameIndex.push (y := ⟨s.fqName, s.descriptor.help, s.kind, #[s.point]⟩) h.indexed hfree,
    ?_, ?_, ?_⟩
  · have hmem : s.fqName ∉ ss.map (·.fqName) := by simpa using hnew
    rw [Array.toList_push, List.map_append, h.names, List.map_append, List.eraseDups_append]
    simp only [List.map_cons, List.map_nil, List.removeAll]
    rw [List.filter_cons_of_pos (by simpa using hmem)]
    simp [List.eraseDups_cons]
  · intro f hf
    rcases Array.mem_push.1 hf with hf | rfl
    · obtain ⟨first, hfirst, hhelp, hkind⟩ := h.opened f hf
      exact ⟨first, find?_append_of_find? hfirst, hhelp, hkind⟩
    · exact ⟨s, by simp [List.find?_append, hnone], rfl, rfl⟩
  · intro f hf
    rcases Array.mem_push.1 hf with hf | rfl
    · have hne : (s.fqName == f.name) = false := by simpa using (hfree f hf).symm
      simp [h.points f hf, List.filter_append, hne]
    · have hnil : ss.filter (·.fqName == s.fqName) = [] := by simpa using hnew
      simp [List.filter_append, hnil]

theorem Groups.emit {ss : List Sample} {sink : FamilySink} (h : Groups ss sink) (s : Sample) :
    Groups (ss ++ [s]) (sink.emit s) := by
  rcases emit_cases h.indexed s with ⟨i, hlt, hname, he⟩ | ⟨hfree, he⟩
  · rw [he]
    exact h.join hlt hname
  · rw [he]
    exact h.open hfree

theorem groups_emitAll (ss : List Sample) : Groups ss (empty.emitAll ss) := by
  induction ss using List.reverseRecOn with
  | nil => exact groups_empty
  | append_singleton ss s ih =>
    rw [emitAll_append_singleton]
    exact ih.emit s

/-- Read family after family, the metrics are the samples rearranged, the order of each name
    kept. -/
theorem Groups.perm {ss : List Sample} {sink : FamilySink} (h : Groups ss sink) :
    (sink.families.toList.flatMap (·.points.toList)).Perm (ss.map Sample.point) := by
  have hflat : sink.families.toList.flatMap (·.points.toList) =
      ((ss.map (·.fqName)).eraseDups.flatMap fun n => ss.filter (·.fqName == n)).map
        Sample.point := by
    rw [← h.names, List.flatMap_map, List.map_flatMap]
    exact List.flatMap_congr fun f hf => h.points f (Array.mem_toList_iff.1 hf)
  rw [hflat]
  exact (perm_flatMap_filter_eraseDups (·.fqName) ss).map _

/-! ## Kinds -/

/-- Every family, and every metric in it, has the kind `κ` gives the family's name. -/
def KindsFollow (κ : String → Kind) (sink : FamilySink) : Prop :=
  ∀ f ∈ sink.families, f.kind = κ f.name ∧ ∀ p ∈ f.points, p.kind = κ f.name

theorem empty_kindsFollow (κ : String → Kind) : empty.KindsFollow κ := by
  intro f hf
  simp [empty] at hf

/-- One emission keeps the kinds following `κ` when the sample's kind does. -/
theorem emit_kindsFollow {κ : String → Kind} {sink : FamilySink} {s : Sample}
    (hi : sink.Indexed) (h : sink.KindsFollow κ) (hs : s.kind = κ s.fqName) :
    (sink.emit s).KindsFollow κ := by
  rcases emit_cases hi s with ⟨i, hlt, hname, he⟩ | ⟨-, he⟩
  · -- the family of the sample's name gets one more metric
    rw [he]
    intro f hf
    obtain ⟨j, hj, rfl⟩ := mem_modify_cases hf
    obtain ⟨hk, hp⟩ := h _ (Array.getElem_mem hj)
    split
    · rename_i hij
      subst hij
      refine ⟨hk, fun p hp' => ?_⟩
      rcases Array.mem_push.1 hp' with hp' | rfl
      · exact hp p hp'
      · show s.kind = κ sink.families[i].name
        rw [hname]
        exact hs
    · exact ⟨hk, hp⟩
  · -- a new family, opened by this sample
    rw [he]
    intro f hf
    rcases Array.mem_push.1 hf with hf | rfl
    · exact h f hf
    · refine ⟨hs, fun p hp => ?_⟩
      simp only [List.mem_toArray, List.mem_singleton] at hp
      subst hp
      exact hs

theorem emitAll_kindsFollow {κ : String → Kind} {ss : List Sample}
    (hss : ∀ s ∈ ss, s.kind = κ s.fqName) :
    ∀ {sink : FamilySink}, sink.Indexed → sink.KindsFollow κ → (sink.emitAll ss).KindsFollow κ := by
  induction ss with
  | nil =>
    intro sink _ h
    exact h
  | cons s ss ih =>
    intro sink hi h
    have hs := hss s (List.mem_cons_self ..)
    exact ih (fun t ht => hss t (List.mem_cons_of_mem _ ht)) (hi.emit s) (emit_kindsFollow hi h hs)

theorem emitAll_points_kind {κ : String → Kind} {ss : List Sample}
    (hss : ∀ s ∈ ss, s.kind = κ s.fqName) :
    ∀ f ∈ (empty.emitAll ss).families, ∀ p ∈ f.points, p.kind = f.kind := by
  intro f hf p hp
  obtain ⟨hf_kind, hpoints⟩ := emitAll_kindsFollow hss empty_indexed (empty_kindsFollow κ) f hf
  rw [hpoints p hp, hf_kind]

end FamilySink

/-- Samples emitted into an empty family sink, any two of one name being of one kind, come out
    grouped by name: one family per distinct name, in the order of each name's first sample,
    with that sample's kind and help text and, as metrics, every sample of the name in emission
    order, each with its label keys zipped with its values and its value held as one of its
    kind; the index sends each family's name to its position; the sample count is the number of
    samples; and the metrics, family after family, are the samples rearranged with the order of
    each name kept. -/
theorem emitAll_groups_by_name (ss : List Sample)
    (hkind : ∀ s ∈ ss, ∀ t ∈ ss, s.fqName = t.fqName → s.kind = t.kind) :
    (FamilySink.empty.emitAll ss).families.toList.map (·.name) = (ss.map (·.fqName)).eraseDups ∧
    (∀ f ∈ (FamilySink.empty.emitAll ss).families, ∃ s, ss.find? (·.fqName == f.name) = some s ∧
      f.kind = s.kind ∧ f.help = s.descriptor.help ∧
      f.points.toList = (ss.filter (·.fqName == f.name)).map (fun t =>
        { labels := t.descriptor.labelKeys.zip t.labelValues, kind := t.kind, value := t.value }) ∧
      ∀ p ∈ f.points, p.kind = f.kind ∧ f.reading p = p.value) ∧
    (FamilySink.empty.emitAll ss).sampleCount = ss.length ∧
    (∀ n i, (FamilySink.empty.emitAll ss).index[n]? = some i ↔
      ∃ h : i < (FamilySink.empty.emitAll ss).families.size,
        (FamilySink.empty.emitAll ss).families[i].name = n) ∧
    ((FamilySink.empty.emitAll ss).families.toList.flatMap (·.points.toList)).Perm
      (ss.map Sample.point) := by
  have hg := FamilySink.groups_emitAll ss
  refine ⟨hg.names, fun f hf => ?_, ?_, hg.indexed, hg.perm⟩
  · obtain ⟨s, hfirst, hhelp, hk⟩ := hg.opened f hf
    have hs : s ∈ ss := List.mem_of_find?_eq_some hfirst
    have hsname : s.fqName = f.name := by simpa using List.find?_some hfirst
    refine ⟨s, hfirst, hk, hhelp, hg.points f hf, fun p hp => ?_⟩
    -- a metric of the family is a sample of its name, so of the first sample's kind
    have hp' : p ∈ (ss.filter (·.fqName == f.name)).map Sample.point := by
      rw [← hg.points f hf]
      exact Array.mem_toList_iff.2 hp
    obtain ⟨t, ht, rfl⟩ := List.mem_map.1 hp'
    obtain ⟨ht, htname⟩ := List.mem_filter.1 ht
    have hkt : t.kind = f.kind := by
      rw [hk]
      exact hkind t ht s hs (by simpa [hsname] using htname)
    exact ⟨hkt, by simp [Family.reading, Sample.point, hkt]⟩
  · rw [FamilySink.sampleCount_eq, hg.perm.length_eq, List.length_map]

/-- Two gauges of one name around a counter of another. -/
def gaugeCounterGauge : List Sample :=
  [⟨⟨"wmi_exchange_poison_queue_len", "help text", ["name"]⟩, .gauge, Decimal.Binary64.ofNat 1,
      ["a"]⟩,
    ⟨⟨"wmi_exchange_ldap_read_time", "help text", ["name"]⟩, .counter, Decimal.Binary64.ofNat 2,
      ["a"]⟩,
    ⟨⟨"wmi_exchange_poison_queue_len", "help text", ["name"]⟩, .gauge, Decimal.Binary64.ofNat 3,
      ["b"]⟩]

theorem gaugeCounterGauge_grouped :
    (∀ s ∈ gaugeCounterGauge, ∀ t ∈ gaugeCounterGauge, s.fqName = t.fqName → s.kind = t.kind) ∧
    (FamilySink.empty.emitAll gaugeCounterGauge).families.toList.map (·.name) =
      (gaugeCounterGauge.map (·.fqName)).eraseDups ∧
    (∀ f ∈ (FamilySink.empty.emitAll gaugeCounterGauge).families, ∃ s,
      gaugeCounterGauge.find? (·.fqName == f.name) = some s ∧
      f.kind = s.kind ∧ f.help = s.descriptor.help ∧
      f.points.toList = (gaugeCounterGauge.filter (·.fqName == f.name)).map (fun t =>
        { labels := t.descriptor.labelKeys.zip t.labelValues, kind := t.kind, value := t.value }) ∧
      ∀ p ∈ f.points, p.kind = f.kind ∧ f.reading p = p.value) ∧
    (FamilySink.empty.emitAll gaugeCounterGauge).sampleCount = gaugeCounterGauge.length ∧
    (∀ n i, (FamilySink.empty.emitAll gaugeCounterGauge).index[n]? = some i ↔
      ∃ h : i < (FamilySink.empty.emitAll gaugeCounterGauge).families.size,
        (FamilySink.empty.emitAll gaugeCounterGauge).families[i].name = n) ∧
    ((FamilySink.empty.emitAll gaugeCounterGauge).families.toList.flatMap
      (·.points.toList)).Perm (gaugeCounterGauge.map Sample.point) :=
  have h : ∀ s ∈ gaugeCounterGauge, ∀ t ∈ gaugeCounterGauge,
      s.fqName = t.fqName → s.kind = t.kind := by decide
  ⟨h, emitAll_groups_by_name gaugeCounterGauge h⟩

end Metric
end CounterExport
