import CounterExport.Service.Metrics
import CounterExport.Service.Rows
import CounterExport.Service.Catalog
import CounterExport.Scrape.Exporter

/-!
# Answers about runs and scrapes

The answer objects of collector runs and scrapes: a collector error, the outcome of each
collector, the scrape summary, and the samples a sink received (written by `sampleJson`, so a
duration sample has no value).

With `detail`, an error also carries the messages of the errors behind it (`source_chain`), and
the summary says for every catalog collector whether it ran and succeeded (`lookup`).
-/

set_option autoImplicit false

namespace CounterExport.Service

open Collector Scrape Source CounterExport.Metric

/-- A collector error as an answer object. -/
def collectErrorJson (detail : Bool) (e : CollectError) : Json :=
  Json.ofMembers <|
    [("kind", .string e.kindName), ("cause", Json.optStr e.causeName?),
     ("message", .string e.message), ("class", Json.optStr e.className?),
     ("fatal", .bool e.isFatal)] ++
    (if detail then [("source_chain", Json.strs e.sourceChain)] else [])

/-- The outcome of one collector. -/
def outcomeJson (detail : Bool) (o : Outcome) : Json :=
  Json.ofMembers [("id", .string o.id.name), ("class", .string o.className),
    ("samples", Json.nat o.samples), ("success", .bool o.isSuccess),
    ("error", (o.error.map (collectErrorJson detail)).getD .null)]

/-- A scrape summary. -/
def summaryJson (detail : Bool) (s : Summary) : Json :=
  Json.ofMembers <|
    [("cancelled", .bool s.cancelled), ("samples", Json.nat s.samples),
     ("failed", Json.strs (s.failed.map (·.id.name))),
     ("outcomes", .array (s.outcomes.map (outcomeJson detail)))] ++
    (if detail then
      [("lookup", .array (CollectorId.all.map fun id =>
        .array [.string id.name, ((s.outcome? id).map (.bool ·.isSuccess)).getD .null]))]
     else [])

/-- The result of a collector run: the sample count or the error. -/
def runResultJson (result : Except CollectError (List Sample)) : Json :=
  match result with
  | .ok ss => Json.ofMembers [("count", Json.nat ss.length)]
  | .error e => collectErrorJson false e

/-- The samples of a run, none when it failed. -/
def runSamplesJson (result : Except CollectError (List Sample)) : Json :=
  .array ((match result with | .ok ss => ss | .error _ => []).map sampleJson)

/-- The error object of a failed query. -/
def queryFailure (detail : Bool) (e : QueryError) : Failure :=
  ⟨"QueryError", e.message,
    [("class", .string e.counterClass.className), ("cause", .string e.cause.message)] ++
    (if detail then [("source_chain", Json.strs [e.cause.message])] else [])⟩

end CounterExport.Service
