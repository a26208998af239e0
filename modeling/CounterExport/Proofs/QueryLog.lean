import CounterExport.Proofs.Exporter

/-!
# What a scrape records in the query log

Cancellation is checked twice on the way to a query: by the dispatcher before each collector, and
by the source before it issues the query. The second check may find the context cancelled when
the first did not, since another holder of its flag or the clock may cancel it in between. A query
under a cancelled context is not issued: it records nothing and fails as cancelled. A query under
a live context is recorded in the source's log.

What a scrape leaves in the logs is then told by its runs (`Ran`): the log the collectors share
holds, past where it stood, one `SELECT * FROM <class>` for each run whose source found the
context live, in dispatch order (`queriesOf`), and every other log is as it was
(`entries_logsAfter`, one query at a time). For a built exporter, whose collectors all read the
source it was built with, this gives `scrape_records_run_queries`.

A scrape whose context counts as cancelled at its first check runs nothing: no query, no
outcome, no sample. It reports itself cancelled only when there was a collector to skip; with
none active, the dispatcher never checks the context (`Exporter.collect_cancelled_at_start`).
-/

set_option autoImplicit false

namespace CounterExport

open CounterExport.Metric Collector Source Counter

/-! ## The logs, one query at a time -/

namespace Source

@[simp] theorem Logs.size_record (logs : Logs) (i : Nat) (q : String) :
    (logs.record i q).size = logs.size := by
  simp [Logs.record]

theorem Logs.entries_record {logs : Logs} {i : Nat} (h : i < logs.size) (q : String)
    (j : Nat) :
    (logs.record i q).entries j = logs.entries j ++ if j = i then [q] else [] := by
  by_cases hj : j = i
  · subst hj
    simp [Logs.record, Logs.entries, Array.getElem_modify_self, h]
  · simp [Logs.record, Logs.entries, Array.getElem?_modify, Ne.symm hj, hj]

end Source

namespace Collector

theorem Source.query_fst (s : Source) (logs : Logs) (cancelled : Bool) (c : CounterClass) :
    (s.query logs cancelled c).1 = if cancelled then logs else logs.record s.log c.queryString :=
  Source.issue_fst logs s cancelled c _

theorem ClassCollector.run_logs (col : ClassCollector) (logs : Logs) (cancelled : Bool) :
    (col.run logs cancelled).logs = (col.source.query logs cancelled col.id.counterClass).1 := by
  unfold ClassCollector.run
  dsimp only
  rcases col.source.query logs cancelled col.id.counterClass with ⟨logs', e | rows⟩
  · rfl
  · rcases samplesOf col rows with ⟨events, result⟩
    rfl

end Collector

/-! ## The logs follow the runs -/

namespace Scrape

/-- The queries some runs record: `SELECT * FROM <class>` for each run whose source found the
    context live, in order. -/
def queriesOf (runs : List Ran) : List String :=
  (runs.filter (!·.cancelled)).map fun r => "SELECT * FROM " ++ r.col.id.className

/-- The queries of runs whose collectors all read log `n`: past where the logs stood, log `n`
    gains the queries of the runs whose source found the context live, and no other log
    changes. -/
theorem entries_logsAfter {n : Nat} :
    ∀ {logs : Logs} {runs : List Ran}, n < logs.size →
      (∀ r ∈ runs, r.col.source.log = n) →
      ∀ j, (logsAfter logs runs).entries j =
        logs.entries j ++ if j = n then queriesOf runs else []
  | logs, [], _, _, j => by simp [queriesOf]
  | logs, r :: runs, hn, hlog, j => by
    have hrest := hlog
    rw [logsAfter_cons, ClassCollector.run_logs, Source.query_fst, hlog r (List.mem_cons_self ..)]
    cases hc : r.cancelled with
    | true =>
      -- the source found the context cancelled: nothing is recorded
      rw [if_pos rfl, entries_logsAfter hn (fun r' hr' => hrest r' (List.mem_cons_of_mem _ hr'))]
      simp [queriesOf, hc]
    | false =>
      -- the query is recorded in log `n`, before those of the later runs
      rw [if_neg (by simp), entries_logsAfter (by rwa [Logs.size_record])
        (fun r' hr' => hrest r' (List.mem_cons_of_mem _ hr')), Logs.entries_record hn]
      by_cases hj : j = n
      · simp [hj, queriesOf, hc, CounterClass.queryString, CollectorId.className]
      · simp [hj]

/-! ## Scrapes of a built exporter -/

theorem Exporter.ofActive_sources (source : Source) (opts : Options) (active : List CollectorId) :
    ∀ col ∈ (Exporter.ofActive source opts active).collectors, col.source = source := by
  intro col hcol
  simp only [Exporter.ofActive, List.mem_map] at hcol
  obtain ⟨id, -, rfl⟩ := hcol
  rfl

/-- A scrape whose context counts as cancelled at the dispatcher's first check runs no
    collector: nothing is recorded or emitted, and the scrape says cancelled exactly when there
    was a collector to skip. -/
theorem Exporter.collect_cancelled_at_start (ex : Exporter) (logs : Logs) {ctx : Context}
    {tl : Timeline} (h : tl.cancelledAt ctx (.collector 0) [] = true) :
    (ex.collect logs ctx tl).logs = logs ∧ (ex.collect logs ctx tl).emitted = [] ∧
      (ex.collect logs ctx tl).result = .ok ⟨[], decide (ex.collectors ≠ [])⟩ := by
  unfold Exporter.collect
  cases ex.collectors with
  | nil => exact ⟨rfl, rfl, rfl⟩
  | cons col rest => simp [dispatch, h]

/-- A scrape of a built exporter, under any context and whatever happens to it while the
    scrape runs, records in the log its collectors share, past where the log stood,
    `SELECT * FROM <class>` for each collector it runs whose source found the context live, in
    dispatch order, and nothing else anywhere. A collector whose source found the context
    cancelled records nothing and fails with a cancelled query. A scrape whose context counts as
    cancelled at its first check records no query, has no outcome, emits nothing, and says
    cancelled exactly when some collector is active. -/
theorem scrape_records_run_queries {v : Validator} {source : Source} {opts : Options}
    {ex : Exporter}
    (h : (Exporter.build v source opts).2 = .ok ex) {logs : Logs}
    (hlog : source.log < logs.size)
    (ctx : Context) (tl : Timeline) :
    ∃ runs : List Ran, runs.map (·.col) = ex.collectors.take runs.length ∧
      (∀ i (hi : i < runs.length),
        tl.cancelledAt ctx (.query i) (emittedBy ex.scrapeMetrics (runs.take i)) =
          runs[i].cancelled) ∧
      (ex.collect logs ctx tl).result =
        .ok ⟨runs.map Ran.outcome, decide (runs.length < ex.active.length)⟩ ∧
      (∀ j, (ex.collect logs ctx tl).logs.entries j =
        logs.entries j ++ if j = source.log then
          (runs.filter (!·.cancelled)).map (fun r => "SELECT * FROM " ++ r.col.id.className)
        else []) ∧
      (∀ r ∈ runs, r.cancelled = true →
        r.outcome = ⟨r.col.id, r.col.id.className, 0,
          some (.query ⟨r.col.id.counterClass, .cancelled⟩)⟩) ∧
      (tl.cancelledAt ctx (.collector 0) [] = true →
        (ex.collect logs ctx tl).logs = logs ∧ (ex.collect logs ctx tl).emitted = [] ∧
        (ex.collect logs ctx tl).result = .ok ⟨[], decide (ex.active ≠ [])⟩) := by
  obtain ⟨active, -, rfl⟩ := Exporter.eq_ofActive h
  obtain ⟨runs, hcols, hchecks, -, hlogs, -, hresult⟩ :=
    Exporter.scrape_prefix (Exporter.ofActive_coherent source opts active)
      (Exporter.ofActive_metrics_coherent source opts active) (tl.cancelledAt ctx) logs
  have hact : (Exporter.ofActive source opts active).active.length =
      (Exporter.ofActive source opts active).collectors.length :=
    (Exporter.ofActive_collectors_length source opts active).symm
  refine ⟨runs, hcols, fun i hi => (hchecks i hi).2, by rw [hact]; exact hresult,
    fun j => ?_, fun r _ hr => ?_, fun hstart => ?_⟩
  · -- every collector of the scrape reads the exporter's source
    have hsrc : ∀ r ∈ runs, r.col.source.log = source.log := fun r hr => by
      rw [Exporter.ofActive_sources source opts active _ (col_mem_of_runs hcols hr)]
    exact hlogs ▸ entries_logsAfter hlog hsrc j
  · rw [Ran.outcome, hr]
    exact (ClassCollector.outcome_true r.col).2
  · obtain ⟨hl, he, hres⟩ :=
      Exporter.collect_cancelled_at_start (Exporter.ofActive source opts active) logs hstart
    -- a built exporter has one collector per active id
    have hne : ((Exporter.ofActive source opts active).collectors ≠ []) =
        ((Exporter.ofActive source opts active).active ≠ []) := by
      simp [Exporter.ofActive]
    exact ⟨hl, he, by simp only [hres, hne]⟩

theorem owa_scrape_records_first_query :
    (Exporter.build clientCheck (Source.empty 0)
        ⟨⟨["owa", "auto_discover"], [], false⟩, true, none⟩).2 =
        .ok owaAutodiscover ∧
      (Source.empty 0).log < (#[#[]] : Logs).size ∧
      ∃ runs : List Ran, runs.map (·.col) = owaAutodiscover.collectors.take runs.length ∧
        (∀ i (hi : i < runs.length),
          lateFirstQuery.cancelledAt oneSecondContext (.query i)
            (emittedBy owaAutodiscover.scrapeMetrics (runs.take i)) = runs[i].cancelled) ∧
        (owaAutodiscover.collect #[#[]] oneSecondContext lateFirstQuery).result =
          .ok ⟨runs.map Ran.outcome, decide (runs.length < owaAutodiscover.active.length)⟩ ∧
        (∀ j, (owaAutodiscover.collect #[#[]] oneSecondContext lateFirstQuery).logs.entries j =
          Logs.entries #[#[]] j ++ if j = (Source.empty 0).log then
            (runs.filter (!·.cancelled)).map (fun r => "SELECT * FROM " ++ r.col.id.className)
          else []) ∧
        (∀ r ∈ runs, r.cancelled = true →
          r.outcome = ⟨r.col.id, r.col.id.className, 0,
            some (.query ⟨r.col.id.counterClass, .cancelled⟩)⟩) ∧
        (lateFirstQuery.cancelledAt oneSecondContext (.collector 0) [] = true →
          (owaAutodiscover.collect #[#[]] oneSecondContext lateFirstQuery).logs = #[#[]] ∧
          (owaAutodiscover.collect #[#[]] oneSecondContext lateFirstQuery).emitted = [] ∧
          (owaAutodiscover.collect #[#[]] oneSecondContext lateFirstQuery).result =
            .ok ⟨[], decide (owaAutodiscover.active ≠ [])⟩) :=
  have hlog : (Source.empty 0).log < (#[#[]] : Logs).size := by decide
  ⟨build_owaAutodiscover, hlog,
    scrape_records_run_queries build_owaAutodiscover hlog oneSecondContext lateFirstQuery⟩

/-- With no collector active, a scrape whose context is cancelled from the start does not say
    it was cancelled: there was no collector before which to check. -/
theorem cancelled_scrape_of_nothing_not_cancelled :
    (Exporter.build clientCheck (Source.empty 0) ⟨⟨[], [], false⟩, false, none⟩).2 =
        .ok ⟨[], [], Registry.empty, none, none⟩ ∧
      (⟨fun _ _ => #[true], fun _ => Instant.origin⟩ : Timeline).cancelledAt ⟨0, none⟩
        (.collector 0) [] = true ∧
      ((⟨[], [], Registry.empty, none, none⟩ : Exporter).collect #[#[]] ⟨0, none⟩
        ⟨fun _ _ => #[true], fun _ => Instant.origin⟩).result = .ok ⟨[], false⟩ :=
  ⟨rfl, rfl, rfl⟩

end Scrape

end CounterExport
