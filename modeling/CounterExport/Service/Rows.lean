import CounterExport.Service.Basic
import CounterExport.Counter.Decode

/-!
# Row requests

`parse_row` reads one row of a named counter class and answers the row as an object of record
keys: the instance name under `name` for the named classes, every counter, and the derived
`instance_name` and `process_id`. A row that cannot be read is refused with the kind
`RowParse`.
-/

set_option autoImplicit false

namespace CounterExport.Service

open Counter

/-- A row as an answer object. -/
def rowJson (c : CounterClass) (r : Row) : Json :=
  Json.ofMembers <|
    (if c.named then [("name", Json.optStr r.name)] else []) ++
    r.counts.map (fun (k, v) => (k, Json.nat v)) ++
    [("instance_name", Json.optStr (r.instanceName c)),
     ("process_id", Json.optNat (r.processId c))]

/-- The error object of a row that could not be read. -/
def rowFailure (e : RowError) (extra : List (String × Json)) : Failure :=
  ⟨"RowParse", e.message, extra⟩

/-- The `class` field of a request. -/
def readClass (j : Json) : Except Failure CounterClass := do
  let k ← reqString j "class"
  match CounterClass.ofTypeName? k with
  | some c => pure c
  | none => throw (.badInput s!"unknown class {k}")

/-- `{"op":"parse_row","class":K,"row":V}`. -/
def parseRowRequest (req : Json) : Reply := do
  let c ← readClass req
  match decodeRow c ((req.field? "row").getD .null) with
  | .error e => throw (rowFailure e [])
  | .ok r =>
    let detail ← optBool req "detail"
    pure <| Json.ofMembers <|
      [("class_name", .string c.className), ("row", rowJson c r)] ++
      (if detail then
        [("class_name_fn", .string c.className), ("query_string", .string c.queryString)]
       else [])

end CounterExport.Service
