import CounterExport.Collector.Fields
import CounterExport.Collector.Label
import CounterExport.Metric.Registry
import CounterExport.Source.Mock
import CounterExport.Log.Event

/-!
# Running a collector

A collector is built by registering one descriptor per field of its table (under its subsystem,
with its policy's label keys), stopping at the first descriptor the registry refuses. It keeps
the source it was built with.

A run queries the collector's class and turns the rows into samples by the collector's policy:

* `singleton` — the first row, no labels; with no row the run fails with no data;
* `perInstance` — each row whose instance name gives a label (`Label.instanceLabel`), labelled
  with it; other rows are skipped;
* `perProcess` — each row with an instance name other than `_Total`, labelled with the name as
  it is and the process id in decimal; with no row at all the run fails with no data.

Each kept row gives one sample per field, in field order. A run either fails and gives no
sample, or gives all its samples at once.
-/

set_option autoImplicit false

namespace CounterExport.Collector

open CounterExport.Metric Source Counter

/-- A field bound to its registered descriptor. -/
structure Binding where
  descriptor : Descriptor
  kind : Kind
  field : String
  deriving DecidableEq, Repr

/-- A built collector. -/
structure ClassCollector where
  id : CollectorId
  source : Source
  bindings : List Binding
  deriving DecidableEq, Repr

/-- Why a run failed. -/
inductive CollectError
  /-- The class could not be queried. -/
  | query (e : QueryError)
  /-- A class that needs a row returned none. -/
  | noData (c : CounterClass)
  /-- A sample did not match its descriptor; this ends the whole scrape. -/
  | invariantViolation (e : LabelMismatch)
  deriving DecidableEq, Repr

namespace CollectError

def message : CollectError → String
  | .query e => e.message
  | .noData c => "WMI query returned zero-length response (Class: " ++ c.className ++ ")"
  | .invariantViolation e => "label mismatch: " ++ e.message

/-- Whether the error ends the whole scrape. -/
def isFatal : CollectError → Bool
  | .invariantViolation _ => true
  | _ => false

/-- The class the error is about. -/
def className? : CollectError → Option String
  | .query e => some e.counterClass.className
  | .noData c => some c.className
  | .invariantViolation _ => none

def kindName : CollectError → String
  | .query _ => "Query"
  | .noData _ => "NoData"
  | .invariantViolation _ => "InvariantViolation"

/-- The kind of source failure behind a query error. -/
def causeName? : CollectError → Option String
  | .query e => some e.cause.kindName
  | _ => none

/-- The messages of the errors that caused this one, outermost first. -/
def sourceChain : CollectError → List String
  | .query e => [e.message, e.cause.message]
  | .noData _ => []
  | .invariantViolation e => [e.message]

end CollectError

/-- Registers the fields in order; gives the registry as far as it got, and the bindings or
the first refusal. -/
def registerFields (v : Validator) (subsystem : String) (keys : List String) :
    Registry → List FieldSpec → Registry × Except DescriptorError (List Binding)
  | r, [] => (r, .ok [])
  | r, f :: fs =>
    match r.register v subsystem f.name f.help keys with
    | .error e => (r, .error e)
    | .ok (r1, d) =>
      let (r2, rest) := registerFields v subsystem keys r1 fs
      (r2, rest.map (⟨d, f.kind, f.field⟩ :: ·))

/-- Builds the collector of `id` reading `source`, registering its descriptors under the check
`v`. -/
def build (v : Validator) (id : CollectorId) (source : Source) (r : Registry) :
    Registry × Except DescriptorError ClassCollector :=
  let (r1, bindings) := registerFields v id.subsystem id.policy.labelKeys r id.fields
  (r1, bindings.map (⟨id, source, ·⟩))

/-- The samples of one row: one per binding, in order. -/
def project (bindings : List Binding) (row : Row) (labels : List String) :
    Except LabelMismatch (List Sample) :=
  bindings.mapM fun b => Sample.ofRaw b.descriptor b.kind (row.count b.field) labels

/-- The event logged before a query is issued. -/
def queryEvent (c : CounterClass) : Log.Event :=
  ⟨.debug, "issuing WMI query", [("class", .text c.className), ("query", .shown c.queryString)]⟩

/-- The debugging text of an optional instance name. -/
def optionText : Option String → String
  | some s => "Some(" ++ Text.debugQuote s ++ ")"
  | none => "None"

/-- The samples of the rows a per-instance collector keeps, with the events of skipped rows. -/
def perInstanceSamples (c : CounterClass) (bindings : List Binding) :
    List Row → List Log.Event × Except LabelMismatch (List Sample)
  | [] => ([], .ok [])
  | row :: rows =>
    let (events, rest) := perInstanceSamples c bindings rows
    match (row.instanceName c).bind Label.instanceLabel with
    | none =>
      (⟨.trace, "row skipped",
        [("class", .text c.className), ("name", .shown (optionText (row.instanceName c)))]⟩ ::
        events, rest)
    | some label =>
      match project bindings row [label] with
      | .error e => ([], .error e)
      | .ok ss => (events, rest.map (ss ++ ·))

/-- The samples of the rows a per-process collector keeps. -/
def perProcessSamples (c : CounterClass) (bindings : List Binding) :
    List Row → Except LabelMismatch (List Sample)
  | [] => .ok []
  | row :: rows =>
    match row.instanceName c with
    | none => perProcessSamples c bindings rows
    | some name =>
      if name = Label.totalInstance then perProcessSamples c bindings rows
      else do
        let ss ← project bindings row [name, toString ((row.processId c).getD 0)]
        let rest ← perProcessSamples c bindings rows
        pure (ss ++ rest)

/-- The samples of the rows a query returned, by the collector's policy. -/
def samplesOf (col : ClassCollector) (rows : List Row) :
    List Log.Event × Except CollectError (List Sample) :=
  let c := col.id.counterClass
  match col.id.policy with
  | .singleton =>
    match rows with
    | [] => ([], .error (.noData c))
    | row :: rest =>
      let events := if rest.isEmpty then [] else
        [⟨.debug, "singleton class returned several rows, using the first",
          [("class", .text c.className), ("rows", .nat rows.length)]⟩]
      (events, (project col.bindings row []).mapError .invariantViolation)
  | .perInstance =>
    let (events, result) := perInstanceSamples c col.bindings rows
    (events, result.mapError .invariantViolation)
  | .perProcess =>
    if rows.isEmpty then ([], .error (.noData c))
    else ([], (perProcessSamples c col.bindings rows).mapError .invariantViolation)

/-- What a run gives: the query logs after it, the events it logged, and its samples or
error. -/
structure RunResult where
  logs : Logs
  events : List Log.Event
  result : Except CollectError (List Sample)

/-- Runs a collector under a context that is cancelled or not. -/
def ClassCollector.run (logs : Logs) (cancelled : Bool) (col : ClassCollector) : RunResult :=
  let c := col.id.counterClass
  let (logs, answer) := col.source.query logs cancelled c
  match answer with
  | .error e => ⟨logs, [queryEvent c], .error (.query ⟨c, e⟩)⟩
  | .ok rows =>
    let (events, result) := samplesOf col rows
    ⟨logs, queryEvent c :: events, result⟩

end CounterExport.Collector
