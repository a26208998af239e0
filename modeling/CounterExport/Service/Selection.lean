import CounterExport.Service.Catalog
import CounterExport.Collector.Selection

/-!
# Selection requests

A selection is given in one of two forms. With `enabled` or `disabled` present it is given
as lists used as they are (`enabled` absent or `null`: the whole catalog); otherwise by the
flag values `enable` and `disable`, split and trimmed as the command line does.
-/

set_option autoImplicit false

namespace CounterExport.Service

open Collector

/-- The selection a request describes. -/
def readSelection (j : Json) : Except Failure Selection := do
  let listOnly ← optBool j "list_only"
  if (j.field? "enabled").isSome || (j.field? "disabled").isSome then
    let enabled ← match j.field? "enabled" with
      | some (.array xs) => stringsOf "enabled" xs
      | some .null | none => pure Selection.default.enabled
      | _ => throw (.badInput "field enabled must hold strings")
    let disabled ← optStrings j "disabled"
    pure ⟨enabled, disabled, listOnly⟩
  else
    let enable ← optString j "enable"
    let disable ← optString j "disable"
    pure (Selection.ofFlags enable disable listOnly)

/-- Collector ids as a list of strings. -/
def idsJson (ids : List CollectorId) : Json := Json.strs (ids.map (·.name))

/-- `{"op":"selection",...}`. -/
def selectionRequest (req : Json) : Reply := do
  let sel ← readSelection req
  let detail ← optBool req "detail"
  let resolve := match sel.resolve.2 with
    | .error e => (selectionFailure e []).toJson
    | .ok ids =>
      Json.ofMembers <|
        [("ids", idsJson ids), ("len", Json.nat ids.length), ("is_empty", .bool ids.isEmpty)] ++
        (if detail then
          [("contains", idsJson (CollectorId.all.filter (· ∈ ids))),
           ("listing_text", .string sel.listing)]
         else [])
  pure <| Json.ofMembers [
    ("enabled", Json.strs sel.enabled), ("disabled", Json.strs sel.disabled),
    ("list_only", .bool sel.listOnly), ("is_default", .bool (sel == Selection.default)),
    ("resolve", resolve),
    ("is_enabled", idsJson (CollectorId.all.filter sel.isEnabled)),
    ("listing", .string sel.listing)]

end CounterExport.Service
