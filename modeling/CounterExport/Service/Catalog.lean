import CounterExport.Service.Basic
import CounterExport.Collector.Catalog

/-!
# Catalog requests

`collector_id` looks an id up in the catalog both ways the library offers (the lookup that
reports the older spelling, and the parse that refuses an unknown id); `catalog` lists every
collector.
-/

set_option autoImplicit false

namespace CounterExport.Service

open Collector

/-- A collector as an answer object. -/
def collectorJson (id : CollectorId) : Json :=
  Json.ofMembers [("id", .string id.name), ("display", .string id.name),
    ("class_name", .string id.className), ("subsystem", .string id.subsystem),
    ("description", .string id.description), ("ordinal", Json.nat id.ordinal)]

/-- The error object of an unknown collector. -/
def selectionFailure (e : SelectionError) (extra : List (String × Json)) : Failure :=
  ⟨"UnknownCollector", e.message, extra⟩

/-- `{"op":"collector_id","id":S}`. -/
def collectorIdRequest (req : Json) : Reply := do
  let s ← reqString req "id"
  let lookup := match CollectorId.lookup s with
    | some (id, legacy) => Json.ofMembers [("collector", collectorJson id), ("legacy", .bool legacy)]
    | none => .null
  let parse := match CollectorId.parse s with
    | .ok id => .string id.name
    | .error e => (selectionFailure e []).toJson
  pure (Json.ofMembers [("lookup", lookup), ("parse", parse)])

/-- `{"op":"catalog"}`. -/
def catalogRequest : Reply := pure (.array (CollectorId.all.map collectorJson))

end CounterExport.Service
