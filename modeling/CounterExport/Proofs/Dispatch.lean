import CounterExport.Proofs.Collect
import CounterExport.Proofs.Family

/-!
# A scrape is a prefix of isolated collector runs

`dispatch` interleaves five things: the dispatcher's cancellation check before each collector,
the source's check before the collector's query, the collector's run, the split of its failure
into fatal or contained, and the scrape metrics emitted after it. The two checks need not agree:
between them another holder of the context's flag may cancel it, or the clock may pass its
deadline. So a scrape is told by its runs (`Ran`): the collectors it ran, each with what its
source's check found.

For coherent collectors (`ClassCollector.Coherent`) and scrape metrics with one label key each
(`ScrapeMetrics.Coherent`) the fatal branch is never taken, and a scrape reads as a plain
composition:

* each run contributes a `Ran.block` to the sink: what its collector writes when run on its own
  under the same verdict (`ClassCollector.written`, nothing when it fails, as it does when its
  source finds the context cancelled), then its two scrape metric samples when they are on;
* the scrape runs the collectors before the first dispatcher check that finds the context
  cancelled, and only those (`dispatch_runs_prefix`): the sink then holds their blocks in order,
  the summary holds their outcomes (`ClassCollector.outcome`) and says cancelled exactly when a
  collector was left out, and the logs are those their queries leave (`logsAfter`).

One step of the scrape is `dispatch_cons`: a collector the dispatcher lets through adds its block
and its outcome under its source's verdict, whatever else it does. `dispatch_runs_prefix` is the
induction over the collectors that strings those steps together.
-/

set_option autoImplicit false

namespace CounterExport

open CounterExport.Metric Collector Source Decimal Scrape

namespace Collector
namespace ClassCollector

/-- A collector's run on its own, from fresh logs, under a context that its source finds
    cancelled or not. -/
def alone (col : ClassCollector) (cancelled : Bool) : Except CollectError (List Sample) :=
  (col.run #[] cancelled).result

/-- What a collector writes to the sink when run on its own: its samples, or nothing when it
    fails. -/
def written (col : ClassCollector) (cancelled : Bool) : List Sample :=
  match col.alone cancelled with
  | .ok ss => ss
  | .error _ => []

/-- The outcome a scrape records for a collector: its id and class, and its sample count or
    its failure. -/
def outcome (col : ClassCollector) (cancelled : Bool) : Outcome :=
  match col.alone cancelled with
  | .ok ss => ⟨col.id, col.id.counterClass.className, ss.length, none⟩
  | .error e => ⟨col.id, col.id.counterClass.className, 0, some e⟩

@[simp] theorem outcome_id (col : ClassCollector) (cancelled : Bool) :
    (col.outcome cancelled).id = col.id := by
  unfold outcome
  split <;> rfl

@[simp] theorem outcome_className (col : ClassCollector) (cancelled : Bool) :
    (col.outcome cancelled).className = col.id.counterClass.className := by
  unfold outcome
  split <;> rfl

theorem outcome_true (col : ClassCollector) :
    col.written true = [] ∧
      col.outcome true = ⟨col.id, col.id.counterClass.className, 0,
        some (.query ⟨col.id.counterClass, .cancelled⟩)⟩ :=
  ⟨rfl, rfl⟩

/-- What a coherent collector writes on its own is made by its bindings. -/
theorem written_makes {col : ClassCollector} (hc : col.Coherent) (cancelled : Bool) :
    ∀ s ∈ col.written cancelled, col.Makes s := by
  unfold written
  cases h : col.alone cancelled with
  | ok ss => exact run_makes hc h
  | error e =>
    intro s hs
    cases hs

end ClassCollector
end Collector

namespace Scrape

/-- A collector as a scrape ran it: the collector, and whether its source found the context
    cancelled when it checked before the query. -/
structure Ran where
  col : ClassCollector
  cancelled : Bool

/-- The outcome of a run. -/
def Ran.outcome (r : Ran) : Outcome := r.col.outcome r.cancelled

/-- Scrape metric descriptors with one label key each, as the collector label needs. -/
def ScrapeMetrics.Coherent (m : ScrapeMetrics) : Prop :=
  m.duration.labelKeys.length = 1 ∧ m.success.labelKeys.length = 1

/-- The scrape metric samples of an outcome: the duration (zero, durations are not measured)
    and whether the collector succeeded, both labelled with the collector's id. -/
def ScrapeMetrics.written (m : ScrapeMetrics) (o : Outcome) : List Sample :=
  [⟨m.duration, .gauge, Binary64.zero, [o.id.name]⟩,
    ⟨m.success, .gauge, if o.isSuccess then Binary64.one else Binary64.zero, [o.id.name]⟩]

/-- What the sink receives for one run: the collector's own samples, then its scrape metrics
    when they are on. -/
def Ran.block (metrics : Option ScrapeMetrics) (r : Ran) : List Sample :=
  r.col.written r.cancelled ++ (metrics.map (·.written r.outcome)).getD []

/-- What the sink holds after some runs. -/
def emittedBy (metrics : Option ScrapeMetrics) (runs : List Ran) : List Sample :=
  (runs.map (Ran.block metrics)).flatten

/-- The logs after the queries of some runs, in order. -/
def logsAfter (logs : Logs) (runs : List Ran) : Logs :=
  runs.foldl (fun logs r => (r.col.run logs r.cancelled).logs) logs

@[simp] theorem emittedBy_nil (metrics : Option ScrapeMetrics) : emittedBy metrics [] = [] := rfl

@[simp] theorem emittedBy_cons (metrics : Option ScrapeMetrics) (r : Ran) (runs : List Ran) :
    emittedBy metrics (r :: runs) = r.block metrics ++ emittedBy metrics runs := by
  simp [emittedBy]

@[simp] theorem logsAfter_nil (logs : Logs) : logsAfter logs [] = logs := rfl

@[simp] theorem logsAfter_cons (logs : Logs) (r : Ran) (runs : List Ran) :
    logsAfter logs (r :: runs) = logsAfter (r.col.run logs r.cancelled).logs runs := rfl

/-- A sample emitted by some runs comes from one of them: its collector wrote it on its own,
    or it is one of its scrape metric samples. -/
theorem mem_emittedBy {metrics : Option ScrapeMetrics} {runs : List Ran} {s : Sample}
    (hs : s ∈ emittedBy metrics runs) :
    ∃ r ∈ runs, s ∈ r.col.written r.cancelled ∨
      ∃ m, metrics = some m ∧ s ∈ m.written r.outcome := by
  simp only [emittedBy, List.mem_flatten, List.mem_map] at hs
  obtain ⟨_, ⟨r, hr, rfl⟩, hs⟩ := hs
  refine ⟨r, hr, ?_⟩
  rcases List.mem_append.1 hs with hs | hs
  · exact .inl hs
  · cases metrics with
    | none => cases hs
    | some m => exact .inr ⟨m, rfl, hs⟩

theorem col_mem_of_runs {runs : List Ran} {cols : List ClassCollector}
    (h : runs.map (·.col) = cols.take runs.length) {r : Ran} (hr : r ∈ runs) : r.col ∈ cols :=
  List.mem_of_mem_take (h ▸ List.mem_map_of_mem hr)

theorem standard_coherent : ScrapeMetrics.standard.Coherent := ⟨rfl, rfl⟩

theorem ScrapeMetrics.samples_eq_ok {m : ScrapeMetrics} (hm : m.Coherent) (o : Outcome) :
    m.samples o = .ok (m.written o) := by
  obtain ⟨hdur, hsucc⟩ := hm
  simp [samples, written, Sample.make, hdur, hsucc, bind, Except.bind, pure, Except.pure]

theorem Progress.close_eq {metrics : Option ScrapeMetrics}
    (hm : ∀ m, metrics = some m → m.Coherent) (p : Progress) (o : Outcome) :
    p.close metrics o =
      .ok { p with emitted := p.emitted ++ (metrics.map (·.written o)).getD [],
                   outcomes := p.outcomes ++ [o] } := by
  cases metrics with
  | none => simp [Progress.close]
  | some m =>
    simp [Progress.close, ScrapeMetrics.samples_eq_ok (hm m rfl)]

/-! ## One step, and the whole scrape -/

section Dispatch

variable (stop : Check → List Sample → Bool) {metrics : Option ScrapeMetrics}

/-- A collector that the dispatcher's check lets run, and whose source's check finds the
    context as `cancelled` says, adds its block under that verdict to the sink and its outcome
    to the summary, leaves the logs as its query does, and the scrape goes on with the next
    one. -/
theorem dispatch_cons (hm : ∀ m, metrics = some m → m.Coherent) (total : Nat) {p : Progress}
    {col : ClassCollector} (hc : col.Coherent) (rest : List ClassCollector)
    (hs : stop (.collector p.outcomes.length) p.emitted = false) {cancelled : Bool}
    (hq : stop (.query p.outcomes.length) p.emitted = cancelled) :
    ∃ q : Progress, q.emitted = p.emitted ++ Ran.block metrics ⟨col, cancelled⟩ ∧
      q.outcomes = p.outcomes ++ [col.outcome cancelled] ∧
      q.logs = (col.run p.logs cancelled).logs ∧
      dispatch stop metrics total p (col :: rest) = dispatch stop metrics total q rest := by
  have halone := col.run_result_logs p.logs #[] cancelled
  rw [dispatch, if_neg (by simp [hs]), hq]
  dsimp only
  cases hr : (col.run p.logs cancelled).result with
  | ok ss =>
    -- the run succeeds: its samples are what it writes on its own
    have hw : col.alone cancelled = .ok ss := by rw [ClassCollector.alone, ← halone, hr]
    simp only [Progress.close_eq hm]
    refine ⟨_, ?_, ?_, rfl, rfl⟩
    · simp [Ran.block, Ran.outcome, ClassCollector.written, ClassCollector.outcome, hw]
    · simp [ClassCollector.outcome, hw]
  | error e =>
    -- the run fails, never fatally: nothing of it reaches the sink
    have hw : col.alone cancelled = .error e := by rw [ClassCollector.alone, ← halone, hr]
    have hfatal := ClassCollector.run_not_fatal hc hr
    simp only [hfatal, Bool.false_eq_true, if_false, Progress.close_eq hm]
    refine ⟨_, ?_, ?_, rfl, rfl⟩
    · simp [Ran.block, Ran.outcome, ClassCollector.written, ClassCollector.outcome, hw]
    · simp [ClassCollector.outcome, hw]

/-- A scrape over coherent collectors runs those before the first dispatcher check that finds
    the context cancelled, and only those, each under what its source's check found: the sink
    receives their blocks in order, the logs are those their queries leave, and the summary
    lists their outcomes and says cancelled exactly when a collector was left out. -/
theorem dispatch_runs_prefix (hm : ∀ m, metrics = some m → m.Coherent) (total : Nat) :
    ∀ (p : Progress) (cols : List ClassCollector), (∀ col ∈ cols, col.Coherent) →
      ∃ runs : List Ran, runs.map (·.col) = cols.take runs.length ∧
        (∀ i (hi : i < runs.length),
          stop (.collector (p.outcomes.length + i))
              (p.emitted ++ emittedBy metrics (runs.take i)) = false ∧
            stop (.query (p.outcomes.length + i))
              (p.emitted ++ emittedBy metrics (runs.take i)) = runs[i].cancelled) ∧
        (runs.length < cols.length →
          stop (.collector (p.outcomes.length + runs.length))
            (p.emitted ++ emittedBy metrics runs) = true) ∧
        (dispatch stop metrics total p cols).logs = logsAfter p.logs runs ∧
        (dispatch stop metrics total p cols).emitted = p.emitted ++ emittedBy metrics runs ∧
        (dispatch stop metrics total p cols).result =
          .ok ⟨p.outcomes ++ runs.map Ran.outcome, decide (runs.length < cols.length)⟩
  | p, [], _ => ⟨[], rfl, by simp, by simp, rfl, by simp [dispatch], by simp [dispatch]⟩
  | p, col :: rest, hcols => by
    cases hs : stop (.collector p.outcomes.length) p.emitted with
    | true =>
      -- cancelled before this collector: nothing more runs
      refine ⟨[], rfl, by simp, fun _ => by simpa using hs, ?_, ?_, ?_⟩ <;> simp [dispatch, hs]
    | false =>
      -- this collector runs; the rest of the scrape starts from the progress it leaves
      obtain ⟨q, hqe, hqo, hql, hstep⟩ :=
        dispatch_cons stop hm total (hcols col (List.mem_cons_self ..)) rest hs rfl
      obtain ⟨runs, hcols', hchecks, hat, hlogs, hemitted, hresult⟩ :=
        dispatch_runs_prefix hm total q rest fun c hc => hcols c (List.mem_cons_of_mem _ hc)
      have hlen : q.outcomes.length = p.outcomes.length + 1 := by simp [hqo]
      refine ⟨⟨col, stop (.query p.outcomes.length) p.emitted⟩ :: runs, by simp [hcols'],
        fun i hi => ?_, fun hlt => ?_, ?_, ?_, ?_⟩
      · cases i with
        | zero => simp [hs]
        | succ j =>
          -- the later checks are those of the rest of the scrape, shifted by this run
          have h := hchecks j (by simpa using hi)
          rw [hlen, hqe, List.append_assoc] at h
          simpa [Nat.add_right_comm, Nat.add_assoc] using h
      · have h := hat (by simpa using hlt)
        rw [hlen, hqe, List.append_assoc] at h
        simpa [Nat.add_right_comm, Nat.add_assoc] using h
      · rw [hstep, hlogs, hql]
        rfl
      · rw [hstep, hemitted, hqe, emittedBy_cons, List.append_assoc]
      · rw [hstep, hresult, hqo]
        simp [Ran.outcome]

end Dispatch

end Scrape

end CounterExport
