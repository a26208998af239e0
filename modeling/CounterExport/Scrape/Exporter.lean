import CounterExport.Collector.Run
import CounterExport.Collector.Selection
import CounterExport.Metric.Family
import CounterExport.Scrape.Context

/-!
# The exporter

An exporter is built once from a source and options, under the metrics client's descriptor
check: the selection is resolved, the active collectors are built in order into one registry,
and, when asked for, the two scrape metrics (`collector_duration_seconds`, `collector_success`,
labelled by collector) are registered after them.

A scrape runs the collectors in order into a sink. The context is checked at two points for
each collector (`Check`): by the dispatcher before the collector, which skips the rest when the
context counts as cancelled, and by the collector's source before its query, which then fails as
cancelled. A collector's failure is logged and recorded, and the scrape goes on; only a fatal
failure ends it. After each collector, failed or not, the scrape metrics of that collector are
emitted when enabled.

What the checks see is not up to the scrape (`Timeline`): any holder of a context sharing the
flag, or the sink itself, may set the flag between two checks, and the clock moves on, so a
deadline may pass at any check. Durations are not measured: the duration samples are zero.
-/

set_option autoImplicit false

namespace CounterExport.Scrape

open Collector CounterExport.Metric Source Decimal

/-- The descriptors of the scrape metrics. -/
structure ScrapeMetrics where
  duration : Descriptor
  success : Descriptor
  deriving DecidableEq, Repr

/-- Registers the scrape metrics. -/
def ScrapeMetrics.register (v : Validator) (r : Registry) :
    Except DescriptorError (Registry × ScrapeMetrics) := do
  let (r1, duration) ← r.register v "exchange" "collector_duration_seconds"
    "Duration of a collector run within a scrape" ["collector"]
  let (r2, success) ← r1.register v "exchange" "collector_success"
    "Whether a collector run within a scrape succeeded" ["collector"]
  pure (r2, ⟨duration, success⟩)

/-- Why an exporter could not be built. -/
inductive BuildError
  | selection (e : SelectionError)
  | descriptor (e : DescriptorError)
  deriving DecidableEq, Repr

def BuildError.message : BuildError → String
  | .selection e => "invalid collector selection: " ++ e.message
  | .descriptor e => "invalid metric descriptor: " ++ e.message

/-- What an exporter is built from, besides its source. -/
structure Options where
  selection : Selection
  scrapeMetrics : Bool
  /-- The scrape timeout in nanoseconds, if any. -/
  timeout : Option Nat
  deriving DecidableEq, Repr

/-- A built exporter. -/
structure Exporter where
  active : List CollectorId
  collectors : List ClassCollector
  registry : Registry
  timeout : Option Nat
  scrapeMetrics : Option ScrapeMetrics
  deriving Repr

/-- Builds the collectors of the ids in order into one registry. -/
def buildAll (v : Validator) (source : Source) : Registry → List CollectorId →
    Except DescriptorError (Registry × List ClassCollector)
  | r, [] => .ok (r, [])
  | r, id :: ids =>
    match build v id source r with
    | (_, .error e) => .error e
    | (r1, .ok col) => (buildAll v source r1 ids).map fun (r2, cols) => (r2, col :: cols)

/-- Builds an exporter under the descriptor check `v`, with the events logged on the way. -/
def Exporter.build (v : Validator) (source : Source) (opts : Options) :
    List Log.Event × Except BuildError Exporter :=
  let (events, resolved) := opts.selection.resolve
  match resolved with
  | .error e => (events, .error (.selection e))
  | .ok active =>
    match buildAll v source Registry.empty active with
    | .error e => (events, .error (.descriptor e))
    | .ok (r, cols) =>
      let withMeta : Except DescriptorError (Registry × Option ScrapeMetrics) :=
        if opts.scrapeMetrics then (ScrapeMetrics.register v r).map fun (r1, m) => (r1, some m)
        else .ok (r, none)
      match withMeta with
      | .error e => (events, .error (.descriptor e))
      | .ok (r1, metrics) =>
        (events ++ [⟨.info, "exchange collectors enabled",
          [("collectors", .shown (",".intercalate (active.map (·.name)))),
           ("descriptors", .nat r1.size)]⟩],
         .ok ⟨active, cols, r1, opts.timeout, metrics⟩)

/-- The result of one collector within a scrape. -/
structure Outcome where
  id : CollectorId
  className : String
  /-- Samples of the collector itself, scrape metrics not counted. -/
  samples : Nat
  error : Option CollectError
  deriving DecidableEq, Repr

def Outcome.isSuccess (o : Outcome) : Bool := o.error.isNone

/-- What happened in a scrape. -/
structure Summary where
  outcomes : List Outcome
  /-- The context was cancelled before every collector ran. -/
  cancelled : Bool
  deriving DecidableEq, Repr

namespace Summary

def samples (s : Summary) : Nat := s.outcomes.foldl (fun n o => n + o.samples) 0

def failed (s : Summary) : List Outcome := s.outcomes.filter (!·.isSuccess)

/-- The outcome of a collector, if it ran. -/
def outcome? (s : Summary) (id : CollectorId) : Option Outcome := s.outcomes.find? (·.id == id)

end Summary

/-- The scrape metric samples of one outcome: its duration (zero) and its success. -/
def ScrapeMetrics.samples (m : ScrapeMetrics) (o : Outcome) : Except LabelMismatch (List Sample) := do
  let d ← Sample.make m.duration .gauge Binary64.zero [o.id.name]
  let s ← Sample.make m.success .gauge (if o.isSuccess then Binary64.one else Binary64.zero)
    [o.id.name]
  pure [d, s]

/-- The state of a scrape between collectors. -/
structure Progress where
  logs : Logs
  events : List Log.Event
  /-- Every sample the sink received, in order. -/
  emitted : List Sample
  outcomes : List Outcome

/-- What a scrape gives. -/
structure ScrapeResult where
  logs : Logs
  events : List Log.Event
  emitted : List Sample
  result : Except CollectError Summary

/-- Records an outcome and emits its scrape metrics. -/
def Progress.close (p : Progress) (metrics : Option ScrapeMetrics) (o : Outcome) :
    Except CollectError Progress :=
  match metrics with
  | none => .ok { p with outcomes := p.outcomes ++ [o] }
  | some m =>
    match m.samples o with
    | .error e => .error (.invariantViolation e)
    | .ok ss => .ok { p with emitted := p.emitted ++ ss, outcomes := p.outcomes ++ [o] }

/-- The points of a scrape at which its context is checked: by the dispatcher before it runs the
`i`-th collector, and by the source of that collector before it issues the query. -/
inductive Check
  | collector (i : Nat)
  | query (i : Nat)
  deriving DecidableEq, Repr

/-- Runs the collectors in order. `stop` tells whether the context counts as cancelled at a
check, given the samples emitted by then; `total` is the number of collectors of the scrape. -/
def dispatch (stop : Check → List Sample → Bool) (metrics : Option ScrapeMetrics) (total : Nat) :
    Progress → List ClassCollector → ScrapeResult
  | p, [] => ⟨p.logs, p.events, p.emitted, .ok ⟨p.outcomes, false⟩⟩
  | p, col :: rest =>
    if stop (.collector p.outcomes.length) p.emitted then
      ⟨p.logs, p.events ++ [⟨.info, "scrape cancelled, skipping remaining collectors",
        [("remaining", .nat (total - p.outcomes.length))]⟩], p.emitted, .ok ⟨p.outcomes, true⟩⟩
    else
      let run := col.run p.logs (stop (.query p.outcomes.length) p.emitted)
      let cls := col.id.counterClass.className
      match run.result with
      | .ok ss =>
        let p1 : Progress := ⟨run.logs, p.events ++ run.events ++ [⟨.debug, "collector finished",
          [("collector", .text col.id.name), ("samples", .nat ss.length),
           ("elapsed_ms", .nat 0)]⟩], p.emitted ++ ss, p.outcomes⟩
        match p1.close metrics ⟨col.id, cls, ss.length, none⟩ with
        | .error e => ⟨p1.logs, p1.events, p1.emitted, .error e⟩
        | .ok p2 => dispatch stop metrics total p2 rest
      | .error e =>
        if e.isFatal then
          ⟨run.logs, p.events ++ run.events ++ [⟨.error, "scrape aborted",
            [("collector", .text col.id.name), ("class", .text cls),
             ("error", .shown e.message)]⟩], p.emitted, .error e⟩
        else
          let p1 : Progress := ⟨run.logs, p.events ++ run.events ++ [⟨.warn, "collector failed",
            [("collector", .text col.id.name), ("class", .text cls),
             ("error", .shown e.message)]⟩], p.emitted, p.outcomes⟩
          match p1.close metrics ⟨col.id, cls, 0, some e⟩ with
          | .error e2 => ⟨p1.logs, p1.events, p1.emitted, .error e2⟩
          | .ok p2 => dispatch stop metrics total p2 rest

/-- The context a scrape runs under, made at clock reading `now` from `parent`: a child of
`parent` with the scrape timeout as its deadline, or `parent` itself (a clone of it) when no
timeout is set. `none` when the deadline lies past every instant the clock represents: making
the context then panics. -/
def Exporter.scrapeContextFrom (ex : Exporter) (now : Instant) (parent : Context) :
    Option Context :=
  match ex.timeout with
  | some nanos => parent.child now nanos
  | none => some parent

/-- What happens around a scrape as its checks see it: the cancel flags at each check, given
the samples the sink has received by then, and the clock reading at each check. -/
structure Timeline where
  flags : Check → List Sample → Flags
  clock : Check → Instant

/-- Whether `ctx` counts as cancelled at a check: its flag is set or its deadline has passed. -/
def Timeline.cancelledAt (tl : Timeline) (ctx : Context) (c : Check) (emitted : List Sample) :
    Bool :=
  ctx.isCancelled (tl.flags c emitted) (tl.clock c)

/-- Runs one scrape under `ctx` into a sink. -/
def Exporter.collect (logs : Logs) (ctx : Context) (tl : Timeline) (ex : Exporter) :
    ScrapeResult :=
  dispatch (tl.cancelledAt ctx) ex.scrapeMetrics ex.collectors.length ⟨logs, [], [], []⟩
    ex.collectors

/-- The families of a scrape's samples; an aborted scrape has none. -/
def ScrapeResult.families (r : ScrapeResult) : List Family :=
  match r.result with
  | .ok _ => (FamilySink.empty.emitAll r.emitted).families.toList
  | .error _ => []

/-- One scrape grouped into families, as the exporter gathers it: under a context of its own,
made at `now` with a flag nobody else holds, the clock reading `clock` at each check. An aborted
scrape is logged and gives no family; `none` when making the context panics. -/
def Exporter.gather (logs : Logs) (now : Instant) (clock : Check → Instant) (ex : Exporter) :
    Option (ScrapeResult × List Family) :=
  let bg := Context.background #[]
  (ex.scrapeContextFrom now bg.2).map fun ctx =>
    let r := ex.collect logs ctx ⟨fun _ _ => bg.1, clock⟩
    match r.result with
    | .ok _ => (r, r.families)
    | .error e =>
      ({ r with events := r.events ++
          [⟨.error, "discarding scrape", [("error", .shown e.message)]⟩] }, [])

end CounterExport.Scrape
