import CounterExport.Proofs.Dispatch

/-!
# The scrapes of a built exporter

A built exporter is `Exporter.ofActive` of its active list (`Exporter.eq_ofActive`), and what it
builds is coherent: each collector's descriptors carry its policy's label keys, and the scrape
metrics have one key each. So the general account of a scrape (`dispatch_runs_prefix`) applies to
every built exporter, under every schedule of cancellation:

* `scrape_runs_collector_prefix`: a scrape runs a prefix of the active collectors in order, each
  under what its source's check found; the summary names them with their classes and says
  cancelled exactly when one was left out, and the sink holds each run collector's samples
  followed by its scrape metric samples;
* `built_scrapes_fit_registry`: every sample a scrape emits fits the registry (`Exporter.Fits`):
  its descriptor is the one registered under its full name, it has one label value per key, and
  its kind is the one bound to its name at build time (`Exporter.kindOf`). Nothing in a scrape
  can then fail fatally, no gathered scrape is discarded, and every family keeps one kind.

The fit rests on the names being distinct: a field's descriptor is found by its name because no
other descriptor has it, and the kind of a name is well defined for the same reason.
-/

set_option autoImplicit false

namespace CounterExport

open CounterExport.Metric Collector Source Decimal

namespace Scrape

/-- The bindings of all the exporter's collectors, in order. -/
def Exporter.bindings (ex : Exporter) : List Binding := ex.collectors.flatMap (·.bindings)

/-- The kind an exporter binds to a full name at build time: that of the first binding with the
    name, and gauge for any other name, such as those of the scrape metrics. -/
def Exporter.kindOf (ex : Exporter) (fq : String) : Kind :=
  match ex.bindings.find? (·.descriptor.fqName == fq) with
  | some b => b.kind
  | none => .gauge

/-- A sample as the exporter's registry describes it. -/
structure Exporter.Fits (ex : Exporter) (s : Sample) : Prop where
  /-- The registry holds the sample's descriptor under the sample's full name. -/
  registered : ex.registry.get? s.fqName = some s.descriptor
  /-- One label value per label key of the descriptor. -/
  labelCount : s.labelValues.length = s.descriptor.labelKeys.length
  /-- The kind bound to the sample's full name. -/
  kind_eq : s.kind = ex.kindOf s.fqName

/-! ## The kind of a name -/

section KindOf

variable {ex : Exporter}

theorem Exporter.kindOf_binding
    (hnd : (ex.bindings.map (·.descriptor.fqName)).Nodup)
    {b : Binding} (hb : b ∈ ex.bindings) :
    ex.kindOf b.descriptor.fqName = b.kind := by
  unfold kindOf
  cases hf : ex.bindings.find? (·.descriptor.fqName == b.descriptor.fqName) with
  | none =>
    rw [List.find?_eq_none] at hf
    exact absurd (beq_self_eq_true b.descriptor.fqName) (hf b hb)
  | some b' =>
    have hname : b'.descriptor.fqName = b.descriptor.fqName := by simpa using List.find?_some hf
    rw [List.inj_on_of_nodup_map hnd (List.mem_of_find?_eq_some hf) hb hname]

theorem Exporter.kindOf_unbound {fq : String}
    (h : ∀ b ∈ ex.bindings, b.descriptor.fqName ≠ fq) :
    ex.kindOf fq = .gauge := by
  unfold kindOf
  have hnone : ex.bindings.find? (·.descriptor.fqName == fq) = none := by
    rw [List.find?_eq_none]
    intro b hb
    simpa using h b hb
  rw [hnone]

end KindOf

/-! ## What a built exporter holds -/

section OfActive

variable (source : Source) (opts : Options) (active : List CollectorId)

theorem Exporter.ofActive_coherent :
    ∀ col ∈ (Exporter.ofActive source opts active).collectors, col.Coherent := by
  intro col hcol
  simp only [Exporter.ofActive, List.mem_map] at hcol
  obtain ⟨id, -, rfl⟩ := hcol
  exact CollectorId.coherent id source

theorem Exporter.ofActive_metrics_eq_some {m : ScrapeMetrics}
    (hm : (Exporter.ofActive source opts active).scrapeMetrics = some m) :
    opts.scrapeMetrics = true ∧ m = ScrapeMetrics.standard := by
  simp only [Exporter.ofActive] at hm
  split at hm
  · cases hm
    exact ⟨by assumption, rfl⟩
  · cases hm

theorem Exporter.ofActive_metrics_coherent :
    ∀ m, (Exporter.ofActive source opts active).scrapeMetrics = some m → m.Coherent := by
  intro m hm
  obtain ⟨-, rfl⟩ := Exporter.ofActive_metrics_eq_some source opts active hm
  exact standard_coherent

@[simp] theorem Exporter.ofActive_collectors_length :
    (Exporter.ofActive source opts active).collectors.length = active.length := by
  simp [Exporter.ofActive]

theorem Exporter.ofActive_ids :
    (Exporter.ofActive source opts active).collectors.map (·.id) = active := by
  simp [Exporter.ofActive, Function.comp_def]

theorem Exporter.ofActive_descriptors :
    (Exporter.ofActive source opts active).registry.descriptors.toList =
      active.flatMap CollectorId.descriptors ++
        if opts.scrapeMetrics then ScrapeMetrics.standard.descriptors else [] := by
  simp [Exporter.ofActive]

theorem Exporter.ofActive_binding_descriptors :
    (Exporter.ofActive source opts active).bindings.map (·.descriptor) =
      active.flatMap CollectorId.descriptors := by
  simp only [Exporter.ofActive, List.map_flatMap, List.flatMap_map, CollectorId.bindings,
    Exporter.bindings, List.map_map]
  -- a field's binding carries the field's descriptor
  rfl

end OfActive

/-! ## Scrapes of coherent collectors -/

/-- A scrape from fresh logs and an empty sink, over coherent collectors and scrape metrics:
    the account of `dispatch_runs_prefix` with nothing run yet. -/
theorem Exporter.scrape_prefix {ex : Exporter} (hc : ∀ col ∈ ex.collectors, col.Coherent)
    (hm : ∀ m, ex.scrapeMetrics = some m → m.Coherent) (stop : Check → List Sample → Bool)
    (logs : Logs) :
    ∃ runs : List Ran, runs.map (·.col) = ex.collectors.take runs.length ∧
      (∀ i (hi : i < runs.length),
        stop (.collector i) (emittedBy ex.scrapeMetrics (runs.take i)) = false ∧
          stop (.query i) (emittedBy ex.scrapeMetrics (runs.take i)) = runs[i].cancelled) ∧
      (runs.length < ex.collectors.length →
        stop (.collector runs.length) (emittedBy ex.scrapeMetrics runs) = true) ∧
      (dispatch stop ex.scrapeMetrics ex.collectors.length ⟨logs, [], [], []⟩
        ex.collectors).logs = logsAfter logs runs ∧
      (dispatch stop ex.scrapeMetrics ex.collectors.length ⟨logs, [], [], []⟩
        ex.collectors).emitted = emittedBy ex.scrapeMetrics runs ∧
      (dispatch stop ex.scrapeMetrics ex.collectors.length ⟨logs, [], [], []⟩
        ex.collectors).result =
        .ok ⟨runs.map Ran.outcome, decide (runs.length < ex.collectors.length)⟩ := by
  obtain ⟨runs, hcols, hchecks, hat, hlogs, hemitted, hresult⟩ :=
    dispatch_runs_prefix stop hm ex.collectors.length ⟨logs, [], [], []⟩ ex.collectors hc
  -- nothing has run yet: no outcome is counted and the sink is empty
  refine ⟨runs, hcols, fun i hi => ?_, fun hlt => ?_, hlogs, ?_, ?_⟩
  · simpa using hchecks i hi
  · simpa using hat hlt
  · simpa using hemitted
  · simpa using hresult

/-- Gathering makes its own context and scrapes under it; a scrape that succeeded is kept and
    grouped into families. -/
theorem Exporter.gather_eq_some {ex : Exporter} {logs : Logs} {now : Instant}
    {clock : Check → Instant} {r : ScrapeResult} {families : List Family}
    (h : ex.gather logs now clock = some (r, families))
    (hok : ∀ ctx tl, ∃ summary, (ex.collect logs ctx tl).result = .ok summary) :
    (∃ ctx, r = ex.collect logs ctx ⟨fun _ _ => (Context.background #[]).1, clock⟩) ∧
      (∃ summary, r.result = .ok summary) ∧
      families = (FamilySink.empty.emitAll r.emitted).families.toList := by
  simp only [Exporter.gather, Option.map_eq_some_iff] at h
  obtain ⟨ctx, -, hr⟩ := h
  obtain ⟨summary, hsummary⟩ := hok ctx ⟨fun _ _ => (Context.background #[]).1, clock⟩
  simp only [hsummary, Prod.mk.injEq] at hr
  obtain ⟨rfl, rfl⟩ := hr
  exact ⟨⟨ctx, rfl⟩, ⟨summary, hsummary⟩, by simp [ScrapeResult.families, hsummary]⟩

/-! ## Every emitted sample fits -/

section Fits

variable {source : Source} {opts : Options} {active : List CollectorId}

/-- Over collectors without repeats, the bound names are distinct and are not those of the
    scrape metrics. -/
theorem Exporter.ofActive_binding_names (h : active.Nodup) :
    ((Exporter.ofActive source opts active).bindings.map (·.descriptor.fqName)).Nodup ∧
      ∀ b ∈ (Exporter.ofActive source opts active).bindings,
        ∀ d ∈ ScrapeMetrics.standard.descriptors, b.descriptor.fqName ≠ d.fqName := by
  have hnames := CollectorId.descriptorNames_nodup h
  rw [List.map_append, List.nodup_append] at hnames
  obtain ⟨hfields, -, hdisj⟩ := hnames
  have hmap : (Exporter.ofActive source opts active).bindings.map (·.descriptor.fqName) =
      (active.flatMap CollectorId.descriptors).map (·.fqName) := by
    rw [← Exporter.ofActive_binding_descriptors source opts active, List.map_map]
    rfl
  refine ⟨hmap ▸ hfields, fun b hb d hd => ?_⟩
  have hmem : b.descriptor.fqName ∈ (active.flatMap CollectorId.descriptors).map (·.fqName) :=
    hmap ▸ List.mem_map_of_mem hb
  exact hdisj _ hmem _ (List.mem_map_of_mem hd)

/-- A sample made by one of the collectors fits the registry. -/
theorem Exporter.ofActive_fits_of_makes (h : active.Nodup) {col : ClassCollector}
    (hcol : col ∈ (Exporter.ofActive source opts active).collectors) {s : Sample}
    (hs : col.Makes s) : (Exporter.ofActive source opts active).Fits s := by
  obtain ⟨⟨b, hb, hdesc, hkind⟩, hlabels⟩ := hs
  have hbind : b ∈ (Exporter.ofActive source opts active).bindings :=
    List.mem_flatMap.2 ⟨col, hcol, hb⟩
  -- the binding's descriptor is one of the active fields', so it is registered
  have hreg :
      b.descriptor ∈ (Exporter.ofActive source opts active).registry.descriptors.toList := by
    rw [Exporter.ofActive_descriptors, ← Exporter.ofActive_binding_descriptors source opts active]
    exact List.mem_append_left _ (List.mem_map_of_mem hbind)
  refine ⟨?_, ?_, ?_⟩
  · rw [Sample.fqName, hdesc]
    exact (Exporter.ofActive_indexed source opts h).get?_of_mem hreg
  · rw [hlabels, hdesc, Exporter.ofActive_coherent source opts active col hcol b hb]
  · rw [Sample.fqName, hdesc, hkind]
    exact (Exporter.kindOf_binding (Exporter.ofActive_binding_names h).1 hbind).symm

/-- A scrape metric sample fits the registry of an exporter that registered the scrape
    metrics. -/
theorem Exporter.ofActive_fits_written (h : active.Nodup) (hm : opts.scrapeMetrics = true)
    (o : Outcome) {s : Sample} (hs : s ∈ ScrapeMetrics.standard.written o) :
    (Exporter.ofActive source opts active).Fits s := by
  have hd : s.descriptor ∈ ScrapeMetrics.standard.descriptors ∧ s.labelValues = [o.id.name] ∧
      s.kind = .gauge := by
    simp only [ScrapeMetrics.written, List.mem_cons, List.not_mem_nil, or_false] at hs
    rcases hs with rfl | rfl <;> simp [ScrapeMetrics.descriptors]
  obtain ⟨hdesc, hlabels, hkind⟩ := hd
  have hreg :
      s.descriptor ∈ (Exporter.ofActive source opts active).registry.descriptors.toList := by
    rw [Exporter.ofActive_descriptors, hm, if_pos rfl]
    exact List.mem_append_right _ hdesc
  refine ⟨?_, ?_, ?_⟩
  · exact (Exporter.ofActive_indexed source opts h).get?_of_mem hreg
  · -- both scrape metric descriptors have the one key `collector`
    simp only [ScrapeMetrics.standard, ScrapeMetrics.descriptors, List.mem_cons,
      List.not_mem_nil, or_false] at hdesc
    rcases hdesc with hdesc | hdesc <;> rw [hlabels, hdesc] <;> rfl
  · rw [hkind, Exporter.kindOf_unbound]
    intro b hb
    exact (Exporter.ofActive_binding_names h).2 b hb _ hdesc

/-- Every sample that runs of the exporter's collectors emit fits the registry. -/
theorem Exporter.ofActive_emitted_fit (h : active.Nodup) {runs : List Ran}
    (hruns : ∀ r ∈ runs, r.col ∈ (Exporter.ofActive source opts active).collectors) :
    ∀ s ∈ emittedBy (Exporter.ofActive source opts active).scrapeMetrics runs,
      (Exporter.ofActive source opts active).Fits s := by
  intro s hs
  obtain ⟨r, hr, hs | ⟨m, hm, hs⟩⟩ := mem_emittedBy hs
  · have hcol := hruns r hr
    exact Exporter.ofActive_fits_of_makes h hcol
      (ClassCollector.written_makes (Exporter.ofActive_coherent source opts active _ hcol)
        r.cancelled s hs)
  · obtain ⟨hon, rfl⟩ := Exporter.ofActive_metrics_eq_some source opts active hm
    exact Exporter.ofActive_fits_written h hon r.outcome hs

end Fits

/-! ## Built exporters -/

/-- Every sample a scrape emits fits the registry, under any schedule of cancellation. -/
theorem Exporter.ofActive_scrape_fits (source : Source) (opts : Options)
    {active : List CollectorId} (h : active.Nodup) (stop : Check → List Sample → Bool)
    (logs : Logs) :
    ∀ s ∈ (dispatch stop (Exporter.ofActive source opts active).scrapeMetrics
      (Exporter.ofActive source opts active).collectors.length ⟨logs, [], [], []⟩
      (Exporter.ofActive source opts active).collectors).emitted,
      (Exporter.ofActive source opts active).Fits s := by
  obtain ⟨runs, hcols, -, -, -, hemitted, -⟩ :=
    Exporter.scrape_prefix (Exporter.ofActive_coherent source opts active)
      (Exporter.ofActive_metrics_coherent source opts active) stop logs
  rw [hemitted]
  exact Exporter.ofActive_emitted_fit h fun r hr => col_mem_of_runs hcols hr

/-- A scrape of a built exporter, under any context and whatever happens to it while the
    scrape runs, runs the active collectors before the first dispatcher check that finds the
    context cancelled, and only those, each under what its source's check found. The summary
    lists them in order with their classes, each with what it gave on its own under that
    verdict, and says cancelled exactly when a collector was left out; the sink receives, for
    each collector run, what it writes on its own, then its duration and success samples when
    scrape metrics are on. No two registered descriptors share a full name. -/
theorem scrape_runs_collector_prefix {v : Validator} {source : Source} {opts : Options}
    {ex : Exporter}
    (h : (Exporter.build v source opts).2 = .ok ex) (logs : Logs) (ctx : Context)
    (tl : Timeline) :
    ex.collectors.map (·.id) = ex.active ∧
    ex.scrapeMetrics = (if opts.scrapeMetrics then some ScrapeMetrics.standard else none) ∧
    ex.registry.fqNames.Nodup ∧
    ∃ runs : List Ran, runs.map (·.col) = ex.collectors.take runs.length ∧
      ∃ summary : Summary, (ex.collect logs ctx tl).result = .ok summary ∧
      summary.outcomes = runs.map Ran.outcome ∧
      summary.outcomes.map (fun o => (o.id, o.className)) =
        (ex.active.take runs.length).map (fun id => (id, id.className)) ∧
      (summary.cancelled = true ↔ runs.length < ex.active.length) ∧
      (∀ i (hi : i < runs.length),
        tl.cancelledAt ctx (.collector i) (emittedBy ex.scrapeMetrics (runs.take i)) = false ∧
          tl.cancelledAt ctx (.query i) (emittedBy ex.scrapeMetrics (runs.take i)) =
            runs[i].cancelled) ∧
      (runs.length < ex.active.length →
        tl.cancelledAt ctx (.collector runs.length) (emittedBy ex.scrapeMetrics runs) = true) ∧
      (ex.collect logs ctx tl).emitted = emittedBy ex.scrapeMetrics runs := by
  obtain ⟨active, hres, rfl⟩ := Exporter.eq_ofActive h
  have hlen := Exporter.ofActive_collectors_length source opts active
  obtain ⟨runs, hcols, hchecks, hat, -, hemitted, hresult⟩ :=
    Exporter.scrape_prefix (Exporter.ofActive_coherent source opts active)
      (Exporter.ofActive_metrics_coherent source opts active) (tl.cancelledAt ctx) logs
  rw [hlen] at hat
  have hcancel : decide (runs.length < (Exporter.ofActive source opts active).collectors.length) =
      true ↔ runs.length < (Exporter.ofActive source opts active).active.length := by
    rw [decide_eq_true_iff, hlen]
    rfl
  refine ⟨Exporter.ofActive_ids source opts active, rfl,
    Exporter.ofActive_fqNames_nodup source opts (Selection.resolve_nodup hres), runs, hcols, _,
    hresult, rfl, ?_, hcancel, hchecks, hat, hemitted⟩
  -- each outcome names its collector and the collector's class
  have hids := congrArg (List.map fun col => (col.id, col.id.counterClass.className)) hcols
  simp only [List.map_map, Function.comp_def] at hids
  simp only [List.map_map, Function.comp_def, Ran.outcome, ClassCollector.outcome_id,
    ClassCollector.outcome_className]
  rw [hids]
  simp [Exporter.ofActive, List.map_take, Function.comp_def, CollectorId.className]

/-- The exporter of the OWA and Autodiscover collectors over an empty source, with scrape
    metrics. -/
def owaAutodiscover : Exporter :=
  Exporter.ofActive (Source.empty 0) ⟨⟨["owa", "auto_discover"], [], false⟩, true, none⟩
    [.owa, .autoDiscover]

theorem build_owaAutodiscover :
    (Exporter.build clientCheck (Source.empty 0)
      ⟨⟨["owa", "auto_discover"], [], false⟩, true, none⟩).2 = .ok owaAutodiscover := by
  rw [Exporter.build_snd clientCheck_lawful]
  rfl

/-- A context with its own flag and a deadline one second after the clock's origin. -/
def oneSecondContext : Context := ⟨0, some ⟨1000000000, by decide, by decide⟩⟩

/-- A scrape during which nothing sets the flag and the clock stands at its origin, except at
    the query of the first collector, which it reads two seconds later: the deadline of
    `oneSecondContext` passes between the dispatcher's first check and the source's. -/
def lateFirstQuery : Timeline :=
  ⟨fun _ _ => #[false], fun
    | .query 0 => ⟨2000000000, by decide, by decide⟩
    | _ => Instant.origin⟩

theorem owa_scrape_cancelled_after_first :
    (Exporter.build clientCheck (Source.empty 0)
        ⟨⟨["owa", "auto_discover"], [], false⟩, true, none⟩).2 =
        .ok owaAutodiscover ∧
      owaAutodiscover.collectors.map (·.id) = owaAutodiscover.active ∧
      owaAutodiscover.scrapeMetrics = some ScrapeMetrics.standard ∧
      owaAutodiscover.registry.fqNames.Nodup ∧
      ∃ runs : List Ran, runs.map (·.col) = owaAutodiscover.collectors.take runs.length ∧
        ∃ summary : Summary,
          (owaAutodiscover.collect #[#[]] oneSecondContext lateFirstQuery).result = .ok summary ∧
        summary.outcomes = runs.map Ran.outcome ∧
        summary.outcomes.map (fun o => (o.id, o.className)) =
          (owaAutodiscover.active.take runs.length).map (fun id => (id, id.className)) ∧
        (summary.cancelled = true ↔ runs.length < owaAutodiscover.active.length) ∧
        (∀ i (hi : i < runs.length),
          lateFirstQuery.cancelledAt oneSecondContext (.collector i)
              (emittedBy owaAutodiscover.scrapeMetrics (runs.take i)) = false ∧
            lateFirstQuery.cancelledAt oneSecondContext (.query i)
              (emittedBy owaAutodiscover.scrapeMetrics (runs.take i)) = runs[i].cancelled) ∧
        (runs.length < owaAutodiscover.active.length →
          lateFirstQuery.cancelledAt oneSecondContext (.collector runs.length)
            (emittedBy owaAutodiscover.scrapeMetrics runs) = true) ∧
        (owaAutodiscover.collect #[#[]] oneSecondContext lateFirstQuery).emitted =
          emittedBy owaAutodiscover.scrapeMetrics runs :=
  ⟨build_owaAutodiscover,
    scrape_runs_collector_prefix build_owaAutodiscover #[#[]] oneSecondContext lateFirstQuery⟩

/-- A built exporter is well formed. Its collectors never report a broken invariant and its
    scrape metric samples are always made; so every scrape, under any schedule of cancellation,
    succeeds, and every sample it emits fits the registry. A gathered scrape is never
    discarded: it is a scrape under the context gathering made, and every metric of every
    family it gives has the family's kind. -/
theorem built_scrapes_fit_registry {v : Validator} {source : Source} {opts : Options}
    {ex : Exporter}
    (h : (Exporter.build v source opts).2 = .ok ex) :
    (∀ col ∈ ex.collectors, ∀ logs cancelled e,
      (col.run logs cancelled).result ≠ .error (.invariantViolation e)) ∧
    (∀ m, ex.scrapeMetrics = some m → ∀ o e, m.samples o ≠ .error e) ∧
    (∀ stop logs,
      (∃ summary, (dispatch stop ex.scrapeMetrics ex.collectors.length ⟨logs, [], [], []⟩
        ex.collectors).result = .ok summary) ∧
      ∀ s ∈ (dispatch stop ex.scrapeMetrics ex.collectors.length ⟨logs, [], [], []⟩
        ex.collectors).emitted, ex.Fits s) ∧
    ∀ logs now clock r families, ex.gather logs now clock = some (r, families) →
      (∃ ctx, r = ex.collect logs ctx ⟨fun _ _ => (Context.background #[]).1, clock⟩) ∧
      (∃ summary, r.result = .ok summary) ∧
      families = (FamilySink.empty.emitAll r.emitted).families.toList ∧
      ∀ f ∈ families, ∀ p ∈ f.points, p.kind = f.kind := by
  obtain ⟨active, hres, rfl⟩ := Exporter.eq_ofActive h
  have hnd : active.Nodup := Selection.resolve_nodup hres
  have hc := Exporter.ofActive_coherent source opts active
  have hm := Exporter.ofActive_metrics_coherent source opts active
  -- every scrape succeeds, whatever its checks find
  have hok : ∀ stop logs, ∃ summary,
      (dispatch stop (Exporter.ofActive source opts active).scrapeMetrics
        (Exporter.ofActive source opts active).collectors.length ⟨logs, [], [], []⟩
        (Exporter.ofActive source opts active).collectors).result = .ok summary := by
    intro stop logs
    obtain ⟨runs, -, -, -, -, -, hresult⟩ := Exporter.scrape_prefix hc hm stop logs
    exact ⟨_, hresult⟩
  refine ⟨?_, ?_, fun stop logs => ⟨hok stop logs,
    Exporter.ofActive_scrape_fits source opts hnd stop logs⟩, ?_⟩
  · -- a coherent collector never fails fatally
    intro col hcol logs cancelled e hrun
    have hfatal := ClassCollector.run_not_fatal (hc col hcol) hrun
    cases hfatal
  · intro m hsome o e hsamples
    rw [ScrapeMetrics.samples_eq_ok (hm m hsome)] at hsamples
    cases hsamples
  · intro logs now clock r families hg
    obtain ⟨⟨ctx, rfl⟩, hsummary, hfamilies⟩ :=
      Exporter.gather_eq_some hg fun ctx tl => hok (tl.cancelledAt ctx) logs
    refine ⟨⟨ctx, rfl⟩, hsummary, hfamilies, ?_⟩
    intro f hf
    rw [hfamilies] at hf
    exact FamilySink.emitAll_points_kind
      (fun s hs => (Exporter.ofActive_scrape_fits source opts hnd _ logs s hs).kind_eq) f
      (Array.mem_toList_iff.1 hf)

theorem owaAutodiscover_fits_registry :
    (Exporter.build clientCheck (Source.empty 0)
        ⟨⟨["owa", "auto_discover"], [], false⟩, true, none⟩).2 =
        .ok owaAutodiscover ∧
      (∀ col ∈ owaAutodiscover.collectors, ∀ logs cancelled e,
        (col.run logs cancelled).result ≠ .error (.invariantViolation e)) ∧
      (∀ m, owaAutodiscover.scrapeMetrics = some m → ∀ o e, m.samples o ≠ .error e) ∧
      (∀ stop logs,
        (∃ summary, (dispatch stop owaAutodiscover.scrapeMetrics 2 ⟨logs, [], [], []⟩
          owaAutodiscover.collectors).result = .ok summary) ∧
        ∀ s ∈ (dispatch stop owaAutodiscover.scrapeMetrics 2 ⟨logs, [], [], []⟩
          owaAutodiscover.collectors).emitted, owaAutodiscover.Fits s) ∧
      ∀ logs now clock r families, owaAutodiscover.gather logs now clock = some (r, families) →
        (∃ ctx, r = owaAutodiscover.collect logs ctx
          ⟨fun _ _ => (Context.background #[]).1, clock⟩) ∧
        (∃ summary, r.result = .ok summary) ∧
        families = (FamilySink.empty.emitAll r.emitted).families.toList ∧
        ∀ f ∈ families, ∀ p ∈ f.points, p.kind = f.kind :=
  ⟨build_owaAutodiscover, built_scrapes_fit_registry build_owaAutodiscover⟩

end Scrape

end CounterExport
