import CounterExport.Scrape.Exporter
import CounterExport.Metric.ClientCheck
import CounterExport.Proofs.Registry
import CounterExport.Proofs.Selection
import Mathlib.Data.List.Flatten
import Mathlib.Data.List.Perm.Subperm

/-!
# Building an exporter never trips the registry

`Exporter.build` registers, for each active collector in turn, one descriptor per field of its
table, and then possibly the two scrape metrics, all into one registry that refuses a descriptor
the client's check refuses and a name it already holds.

Whatever the check, a build that succeeds has registered exactly the descriptors of the active
fields and of the scrape metrics, in order (`registerFields_of_ok`, `buildAll_of_ok`,
`Exporter.eq_ofActive`): a registration appends the descriptor made of its arguments or fails.

Under a lawful check (`Validator.Lawful`) the build cannot fail, whichever collectors are active
and in whatever order: every field of the catalog makes a well-formed descriptor
(`CollectorId.fieldDescriptor_wellFormed`), and the full names of all catalog fields and of the
two scrape metrics are pairwise distinct (`names_nodup`), so the names of any active list
without repeats are distinct too (`descriptorNames_nodup`), and the active list never repeats a
collector (`Selection.resolve_nodup`). `registerFields_eq`, `build_eq` and `buildAll_eq` follow
the registration loop one field and one collector at a time, the registry growing by
`Registry.addAll` with its index kept exact (`Registry.Indexed`), and `Exporter.build_snd` says
exactly what `build` gives: the selection's refusal, or `Exporter.ofActive`.
-/

set_option autoImplicit false

namespace CounterExport

open CounterExport.Metric Collector Source

namespace Collector
namespace CollectorId

/-- The descriptor a collector registers for one of its fields: the field's name under the
    collector's subsystem, its help text, and the label keys of the collector's policy. -/
def fieldDescriptor (id : CollectorId) (f : FieldSpec) : Descriptor :=
  ⟨Metric.fqName exporterNamespace id.subsystem f.name, f.help, id.policy.labelKeys⟩

/-- A field bound to the descriptor the collector registers for it. -/
def fieldBinding (id : CollectorId) (f : FieldSpec) : Binding :=
  ⟨id.fieldDescriptor f, f.kind, f.field⟩

/-- The descriptors a collector registers, in field order. -/
def descriptors (id : CollectorId) : List Descriptor := id.fields.map id.fieldDescriptor

/-- The bindings of the collector `build` makes. -/
def bindings (id : CollectorId) : List Binding := id.fields.map id.fieldBinding

theorem mem_all (id : CollectorId) : id ∈ all := by
  cases id <;> simp [all]

theorem fieldDescriptor_wellFormed {id : CollectorId} {f : FieldSpec} (hf : f ∈ id.fields) :
    (id.fieldDescriptor f).WellFormed := by
  have hall : ∀ id ∈ all, ∀ f ∈ id.fields, (id.fieldDescriptor f).WellFormed := by
    decide +kernel
  exact hall id (mem_all id) f hf

theorem fieldDescriptor_eq {id : CollectorId} {f : FieldSpec} (hf : f ∈ id.fields) :
    id.fieldDescriptor f =
      ⟨"wmi_" ++ id.subsystem ++ "_" ++ f.name, f.help, id.policy.labelKeys⟩ := by
  have hne : ∀ id ∈ all, id.subsystem ≠ "" ∧ ∀ f ∈ id.fields, f.name ≠ "" := by decide
  obtain ⟨hsub, hname⟩ := hne id (mem_all id)
  rw [fieldDescriptor, fqName_eq (by decide) hsub (hname f hf)]
  rfl

end CollectorId
end Collector

namespace Scrape

/-- The scrape metrics as `ScrapeMetrics.register` makes them. -/
def ScrapeMetrics.standard : ScrapeMetrics :=
  ⟨⟨"wmi_exchange_collector_duration_seconds", "Duration of a collector run within a scrape",
      ["collector"]⟩,
    ⟨"wmi_exchange_collector_success", "Whether a collector run within a scrape succeeded",
      ["collector"]⟩⟩

/-- The descriptors of the scrape metrics, in registration order. -/
def ScrapeMetrics.descriptors (m : ScrapeMetrics) : List Descriptor := [m.duration, m.success]

theorem ScrapeMetrics.register_of_ok {v : Validator} {r r' : Registry} {m : ScrapeMetrics}
    (h : ScrapeMetrics.register v r = .ok (r', m)) :
    r' = r.addAll standard.descriptors ∧ m = standard := by
  simp only [register, bind, Except.bind] at h
  split at h
  · cases h
  · rename_i p1 h1
    obtain ⟨r1, duration⟩ := p1
    obtain ⟨rfl, rfl⟩ := Registry.eq_add_of_register h1
    split at h
    · cases h
    · rename_i p2 h2
      obtain ⟨r2, success⟩ := p2
      obtain ⟨rfl, rfl⟩ := Registry.eq_add_of_register h2
      simp only [pure, Except.pure, Except.ok.injEq, Prod.mk.injEq] at h
      obtain ⟨rfl, rfl⟩ := h
      exact ⟨rfl, rfl⟩

theorem ScrapeMetrics.register_eq_ok {v : Validator} (hv : v.Lawful) {r : Registry}
    (hr : r.Indexed) (hfree : ∀ d ∈ standard.descriptors, d.fqName ∉ r.fqNames) :
    ScrapeMetrics.register v r = .ok (r.addAll standard.descriptors, standard) := by
  have hdur := hfree standard.duration (by simp [descriptors])
  have hsucc := hfree standard.success (by simp [descriptors])
  have h1 : r.register v "exchange" "collector_duration_seconds"
      "Duration of a collector run within a scrape" ["collector"] =
      .ok (r.add standard.duration, standard.duration) :=
    Registry.register_eq_ok hr (hv.accepts ⟨_, _, _⟩ (by decide +kernel)) hdur
  -- the second name is free in the grown registry: it differs from the first
  have h2 : (r.add standard.duration).register v "exchange" "collector_success"
      "Whether a collector run within a scrape succeeded" ["collector"] =
      .ok ((r.add standard.duration).add standard.success, standard.success) := by
    refine Registry.register_eq_ok (hr.add hdur) (hv.accepts ⟨_, _, _⟩ (by decide +kernel)) ?_
    simp only [Registry.fqNames_add, List.mem_append, List.mem_singleton]
    rintro (h | h)
    · exact hsucc h
    · exact absurd h (by decide)
  simp only [register, h1, bind, Except.bind, h2, pure, Except.pure]
  rfl

end Scrape

namespace Collector
namespace CollectorId

theorem names_nodup :
    ((all.flatMap descriptors ++ Scrape.ScrapeMetrics.standard.descriptors).map
      (·.fqName)).Nodup := by
  decide +kernel

/-- For any list of collectors without repeats, the full names of their fields and of the
    scrape metrics are pairwise distinct. -/
theorem descriptorNames_nodup {ids : List CollectorId} (h : ids.Nodup) :
    ((ids.flatMap descriptors ++ Scrape.ScrapeMetrics.standard.descriptors).map
      (·.fqName)).Nodup := by
  -- `ids` is, up to order, a sublist of the catalog
  obtain ⟨l, hperm, hsub⟩ := h.subperm (fun id _ => mem_all id)
  have hsub' := ((hsub.flatMap descriptors).append_right
    Scrape.ScrapeMetrics.standard.descriptors).map (·.fqName)
  have hperm' := ((hperm.flatMap_right descriptors).append_right
    Scrape.ScrapeMetrics.standard.descriptors).map (·.fqName)
  exact hperm'.nodup_iff.1 (names_nodup.sublist hsub')

end CollectorId

/-! ## The registration loop -/

section Loop

variable {v : Validator}

theorem registerFields_of_ok (id : CollectorId) :
    ∀ (r : Registry) (fs : List FieldSpec) {r' : Registry} {bs : List Binding},
      registerFields v id.subsystem id.policy.labelKeys r fs = (r', .ok bs) →
        r' = r.addAll (fs.map id.fieldDescriptor) ∧ bs = fs.map id.fieldBinding
  | r, [], r', bs, h => by
    simp only [registerFields, Prod.mk.injEq, Except.ok.injEq] at h
    obtain ⟨rfl, rfl⟩ := h
    simp
  | r, f :: fs, r', bs, h => by
    rw [registerFields] at h
    cases hreg : r.register v id.subsystem f.name f.help id.policy.labelKeys with
    | error e => simp [hreg] at h
    | ok p =>
      obtain ⟨r1, d⟩ := p
      -- the field's descriptor is appended, then the rest are registered after it
      obtain ⟨hd, rfl⟩ := Registry.eq_add_of_register hreg
      replace hd : d = id.fieldDescriptor f := hd
      subst hd
      rcases hrf : registerFields v id.subsystem id.policy.labelKeys
        (r.add (id.fieldDescriptor f)) fs with ⟨r2, rest⟩
      simp only [hreg, hrf] at h
      cases rest with
      | error e => simp [Except.map] at h
      | ok bs' =>
        simp only [Except.map, Prod.mk.injEq, Except.ok.injEq] at h
        obtain ⟨rfl, rfl⟩ := h
        obtain ⟨rfl, rfl⟩ := registerFields_of_ok id (r.add (id.fieldDescriptor f)) fs hrf
        exact ⟨rfl, rfl⟩

theorem build_of_ok {id : CollectorId} {source : Source} {r r' : Registry}
    {col : ClassCollector} (h : build v id source r = (r', .ok col)) :
    r' = r.addAll id.descriptors ∧ col = ⟨id, source, id.bindings⟩ := by
  unfold build at h
  rcases hrf : registerFields v id.subsystem id.policy.labelKeys r id.fields with ⟨r1, bindings⟩
  simp only [hrf] at h
  cases bindings with
  | error e => simp [Except.map] at h
  | ok bs =>
    simp only [Except.map, Prod.mk.injEq, Except.ok.injEq] at h
    obtain ⟨rfl, rfl⟩ := h
    obtain ⟨rfl, rfl⟩ := registerFields_of_ok id r id.fields hrf
    exact ⟨rfl, rfl⟩

/-- Registering fields whose descriptors are well formed, under a lawful check and under names
    new to the registry and distinct, appends their descriptors in order and binds each field
    to its own. -/
theorem registerFields_eq (hv : v.Lawful) (id : CollectorId) :
    ∀ (r : Registry) (fs : List FieldSpec), r.Indexed → (∀ f ∈ fs, f ∈ id.fields) →
      (r.fqNames ++ (fs.map id.fieldDescriptor).map (·.fqName)).Nodup →
      registerFields v id.subsystem id.policy.labelKeys r fs =
        (r.addAll (fs.map id.fieldDescriptor), .ok (fs.map id.fieldBinding))
  | r, [], _, _, _ => by simp [registerFields]
  | r, f :: fs, hr, hfs, hnd => by
    have hf := hfs f (List.mem_cons_self ..)
    have hfree : (id.fieldDescriptor f).fqName ∉ r.fqNames := by
      rw [List.map_cons, List.map_cons] at hnd
      exact (List.nodup_middle.1 hnd |> List.nodup_cons.1).1 ∘ List.mem_append_left _
    have hreg : r.register v id.subsystem f.name f.help id.policy.labelKeys =
        .ok (r.add (id.fieldDescriptor f), id.fieldDescriptor f) :=
      Registry.register_eq_ok hr (hv.accepts _ (CollectorId.fieldDescriptor_wellFormed hf)) hfree
    -- the rest is registered into the grown registry, whose names are those of the old one
    -- followed by the new one
    have hrest := registerFields_eq hv id (r.add (id.fieldDescriptor f)) fs (hr.add hfree)
      (fun g hg => hfs g (List.mem_cons_of_mem _ hg))
      (by simpa [List.append_assoc] using hnd)
    rw [registerFields, hreg]
    dsimp only
    rw [hrest]
    simp [Except.map, CollectorId.fieldBinding]

theorem build_eq (hv : v.Lawful) (id : CollectorId) (source : Source) {r : Registry}
    (hr : r.Indexed) (hnd : (r.fqNames ++ id.descriptors.map (·.fqName)).Nodup) :
    build v id source r = (r.addAll id.descriptors, .ok ⟨id, source, id.bindings⟩) := by
  have h := registerFields_eq hv id r id.fields hr (fun _ hf => hf) hnd
  simp only [build, h]
  rfl

end Loop

end Collector

namespace Scrape

section Build

variable {v : Validator}

theorem buildAll_of_ok (source : Source) :
    ∀ (r : Registry) (ids : List CollectorId) {r' : Registry} {cols : List ClassCollector},
      buildAll v source r ids = .ok (r', cols) →
        r' = r.addAll (ids.flatMap CollectorId.descriptors) ∧
          cols = ids.map fun id => ⟨id, source, id.bindings⟩
  | r, [], r', cols, h => by
    simp only [buildAll, Except.ok.injEq, Prod.mk.injEq] at h
    obtain ⟨rfl, rfl⟩ := h
    simp
  | r, id :: ids, r', cols, h => by
    rw [buildAll] at h
    rcases hb : build v id source r with ⟨r1, e | col⟩
    · simp [hb] at h
    · obtain ⟨rfl, rfl⟩ := build_of_ok hb
      simp only [hb] at h
      cases hrest : buildAll v source (r.addAll id.descriptors) ids with
      | error e => simp [hrest, Except.map] at h
      | ok p =>
        obtain ⟨r2, cols'⟩ := p
        simp only [hrest, Except.map, Except.ok.injEq, Prod.mk.injEq] at h
        obtain ⟨rfl, rfl⟩ := h
        obtain ⟨rfl, rfl⟩ := buildAll_of_ok source (r.addAll id.descriptors) ids hrest
        simp [Registry.addAll_append]

/-- Under a lawful check, collectors whose names are all new and distinct are built in order,
    their descriptors appended in that order. -/
theorem buildAll_eq (hv : v.Lawful) (source : Source) :
    ∀ (r : Registry) (ids : List CollectorId), r.Indexed →
      (r.fqNames ++ (ids.flatMap CollectorId.descriptors).map (·.fqName)).Nodup →
      buildAll v source r ids =
        .ok (r.addAll (ids.flatMap CollectorId.descriptors),
          ids.map fun id => ⟨id, source, id.bindings⟩)
  | r, [], _, _ => by simp [buildAll]
  | r, id :: ids, hr, hnd => by
    rw [List.flatMap_cons, List.map_append, ← List.append_assoc] at hnd
    have hid := (List.nodup_append.1 hnd).1
    have hbuild := build_eq hv id source hr hid
    have hrest := buildAll_eq hv source (r.addAll id.descriptors) ids
      (hr.addAll (by simpa using hid)) (by simpa using hnd)
    simp [buildAll, hbuild, hrest, Except.map, Registry.addAll_append]

end Build

/-- What `build` makes of an active list: its collectors in order, each with its bindings,
    and a registry holding their descriptors, then the scrape metrics if asked for. -/
def Exporter.ofActive (source : Source) (opts : Options) (active : List CollectorId) :
    Exporter where
  active := active
  collectors := active.map fun id => ⟨id, source, id.bindings⟩
  registry := Registry.empty.addAll (active.flatMap CollectorId.descriptors ++
    if opts.scrapeMetrics then ScrapeMetrics.standard.descriptors else [])
  timeout := opts.timeout
  scrapeMetrics := if opts.scrapeMetrics then some ScrapeMetrics.standard else none

/-- Under a lawful check, `build` refuses exactly what the selection refuses, and otherwise
    builds `Exporter.ofActive` of the active list: no descriptor is ever refused. -/
theorem Exporter.build_snd {v : Validator} (hv : v.Lawful) (source : Source) (opts : Options) :
    (Exporter.build v source opts).2 =
      match opts.selection.resolve.2 with
      | .error e => .error (.selection e)
      | .ok active => .ok (Exporter.ofActive source opts active) := by
  unfold Exporter.build
  rcases hres : opts.selection.resolve with ⟨events, e | active⟩
  · rfl
  · have hnodup := CollectorId.descriptorNames_nodup
      (Selection.resolve_nodup (congrArg Prod.snd hres))
    rw [List.map_append, List.nodup_append] at hnodup
    obtain ⟨hfields, -, hdisj⟩ := hnodup
    have hnames : (Registry.empty.fqNames ++
        (active.flatMap CollectorId.descriptors).map (·.fqName)).Nodup := by
      simpa using hfields
    have hall : buildAll v source Registry.empty active =
        .ok (Registry.empty.addAll (active.flatMap CollectorId.descriptors),
          active.map fun id => ⟨id, source, id.bindings⟩) :=
      buildAll_eq hv source Registry.empty active Registry.empty_indexed hnames
    simp only [hall]
    cases hm : opts.scrapeMetrics
    · simp [Exporter.ofActive, hm]
    · -- the scrape metrics' names are not among the fields' names
      have hfree : ∀ d ∈ ScrapeMetrics.standard.descriptors, d.fqName ∉
          (Registry.empty.addAll (active.flatMap CollectorId.descriptors)).fqNames := by
        intro d hd hmem
        simp only [Registry.fqNames_addAll, Registry.fqNames_empty, List.nil_append] at hmem
        exact hdisj _ hmem _ (List.mem_map_of_mem hd) rfl
      simp [ScrapeMetrics.register_eq_ok hv (Registry.empty_indexed.addAll hnames) hfree,
        Exporter.ofActive, hm, Except.map, Registry.addAll_append]

/-- A built exporter, under any check, is `Exporter.ofActive` of its selection's active list. -/
theorem Exporter.eq_ofActive {v : Validator} {source : Source} {opts : Options} {ex : Exporter}
    (h : (Exporter.build v source opts).2 = .ok ex) :
    ∃ active, opts.selection.resolve.2 = .ok active ∧
      ex = Exporter.ofActive source opts active := by
  unfold Exporter.build at h
  rcases hres : opts.selection.resolve with ⟨events, e | active⟩
  · simp [hres] at h
  · simp only [hres] at h
    cases hall : buildAll v source Registry.empty active with
    | error e => simp [hall] at h
    | ok p =>
      obtain ⟨r, cols⟩ := p
      obtain ⟨rfl, rfl⟩ := buildAll_of_ok source Registry.empty active hall
      simp only [hall] at h
      refine ⟨active, rfl, ?_⟩
      -- the scrape metrics, when asked for, are appended after the fields
      cases hm : opts.scrapeMetrics
      · simp only [hm, Bool.false_eq_true, if_false, Except.ok.injEq] at h
        subst h
        simp [Exporter.ofActive, hm]
      · simp only [hm, if_true] at h
        cases hmeta : ScrapeMetrics.register v
            (Registry.empty.addAll (active.flatMap CollectorId.descriptors)) with
        | error e => simp [hmeta, Except.map] at h
        | ok q =>
          obtain ⟨r1, m⟩ := q
          obtain ⟨rfl, rfl⟩ := ScrapeMetrics.register_of_ok hmeta
          simp only [hmeta, Except.map, Except.ok.injEq] at h
          subst h
          simp [Exporter.ofActive, hm, Registry.addAll_append]

/-- The registry of an exporter over collectors without repeats never holds a full name
    twice. -/
theorem Exporter.ofActive_fqNames_nodup (source : Source) (opts : Options)
    {active : List CollectorId} (h : active.Nodup) :
    (Exporter.ofActive source opts active).registry.fqNames.Nodup := by
  have hnodup := CollectorId.descriptorNames_nodup h
  rw [List.map_append] at hnodup
  cases hm : opts.scrapeMetrics
  · simpa [Exporter.ofActive, hm] using (List.nodup_append.1 hnodup).1
  · simpa [Exporter.ofActive, hm] using hnodup

theorem Exporter.ofActive_indexed (source : Source) (opts : Options)
    {active : List CollectorId} (h : active.Nodup) :
    (Exporter.ofActive source opts active).registry.Indexed := by
  have hnodup := Exporter.ofActive_fqNames_nodup source opts h
  simp only [Exporter.ofActive, Registry.fqNames_addAll] at hnodup ⊢
  exact Registry.empty_indexed.addAll hnodup

/-! ## What a build gives -/

/-- Under a lawful check, building refuses exactly what the selection refuses and never refuses
    a descriptor. A built exporter runs the active collectors in order, and its registry holds,
    in order, each active collector's fields as `wmi_<subsystem>_<name>` with their help and the
    policy's label keys, then, when asked for, the two scrape metrics labelled by collector; no
    full name is held twice. -/
theorem build_registers_active_fields (v : Validator) (hv : v.Lawful) (source : Source)
    (opts : Options) :
    (∀ e, (Exporter.build v source opts).2 = .error (.selection e) ↔
      opts.selection.resolve.2 = .error e) ∧
    (∀ e, (Exporter.build v source opts).2 ≠ .error (.descriptor e)) ∧
    ∀ active, opts.selection.resolve.2 = .ok active →
      ∃ ex, (Exporter.build v source opts).2 = .ok ex ∧ ex.active = active ∧
        ex.collectors.map (fun col => (col.id, col.id.counterClass.className)) =
          active.map (fun id => (id, id.className)) ∧
        ex.registry.descriptors.toList =
          active.flatMap (fun id => id.fields.map fun f =>
            (⟨"wmi_" ++ id.subsystem ++ "_" ++ f.name, f.help, id.policy.labelKeys⟩ :
              Descriptor)) ++
          (if opts.scrapeMetrics then
            [⟨"wmi_exchange_collector_duration_seconds",
                "Duration of a collector run within a scrape", ["collector"]⟩,
              ⟨"wmi_exchange_collector_success",
                "Whether a collector run within a scrape succeeded", ["collector"]⟩]
          else []) ∧
        ex.registry.fqNames.Nodup := by
  rw [Exporter.build_snd hv]
  refine ⟨fun e => ?_, fun e => ?_, fun active h => ?_⟩
  · cases opts.selection.resolve.2 <;> simp
  · cases opts.selection.resolve.2 <;> simp
  · rw [h]
    refine ⟨_, rfl, rfl, ?_, ?_, ?_⟩
    · simp [Exporter.ofActive, CollectorId.className]
    · -- each field's descriptor, spelled out
      simp only [Exporter.ofActive, Registry.toList_descriptors_addAll,
        Registry.toList_descriptors_empty, List.nil_append]
      congr 1
      apply List.flatMap_congr
      intro id _
      exact List.map_congr_left fun f hf => CollectorId.fieldDescriptor_eq hf
    · exact Exporter.ofActive_fqNames_nodup source opts (Selection.resolve_nodup h)

theorem client_check_builds_catalog :
    clientCheck.Lawful ∧
    (∀ e, (Exporter.build clientCheck (Source.empty 0) ⟨Selection.default, true, none⟩).2 =
        .error (.selection e) ↔ Selection.default.resolve.2 = .error e) ∧
    (∀ e, (Exporter.build clientCheck (Source.empty 0) ⟨Selection.default, true, none⟩).2 ≠
      .error (.descriptor e)) ∧
    ∀ active, Selection.default.resolve.2 = .ok active →
      ∃ ex, (Exporter.build clientCheck (Source.empty 0) ⟨Selection.default, true, none⟩).2 =
          .ok ex ∧ ex.active = active ∧
        ex.collectors.map (fun col => (col.id, col.id.counterClass.className)) =
          active.map (fun id => (id, id.className)) ∧
        ex.registry.descriptors.toList =
          active.flatMap (fun id => id.fields.map fun f =>
            (⟨"wmi_" ++ id.subsystem ++ "_" ++ f.name, f.help, id.policy.labelKeys⟩ :
              Descriptor)) ++
          (if true then
            [⟨"wmi_exchange_collector_duration_seconds",
                "Duration of a collector run within a scrape", ["collector"]⟩,
              ⟨"wmi_exchange_collector_success",
                "Whether a collector run within a scrape succeeded", ["collector"]⟩]
          else []) ∧
        ex.registry.fqNames.Nodup :=
  ⟨clientCheck_lawful,
    build_registers_active_fields clientCheck clientCheck_lawful (Source.empty 0)
      ⟨Selection.default, true, none⟩⟩

end Scrape

end CounterExport
