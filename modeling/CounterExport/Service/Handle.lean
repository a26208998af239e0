import CounterExport.Service.Labels
import CounterExport.Service.Metrics
import CounterExport.Service.Rows
import CounterExport.Service.Catalog
import CounterExport.Service.Selection
import CounterExport.Service.Session
import CounterExport.Service.Context
import CounterExport.Service.Cli
import CounterExport.Json.Reader
import CounterExport.Json.Writer

/-!
# Answering a request line

`answerLine` reads one request line and gives the answer line; a blank line has none. The
operation named in `op` picks the handler.
-/

set_option autoImplicit false

namespace CounterExport.Service

/-- A line without its line break (a line feed, or a carriage return and a line feed). -/
def stripLineEnd (line : String) : String :=
  let cs := line.toList
  let cs := if cs.getLast? = some '\n' then cs.dropLast else cs
  let cs := if cs.getLast? = some '\r' then cs.dropLast else cs
  String.ofList cs

/-- The reply to one request. -/
def handle (req : Json) : Reply :=
  match req.field? "op" with
  | some (.string "label") => labelRequest req
  | some (.string "fq_name") => fqNameRequest req
  | some (.string "descriptor") => descriptorRequest req
  | some (.string "registry") => registryRequest req
  | some (.string "sample") => sampleRequest req
  | some (.string "family") => familyRequest req
  | some (.string "collector_id") => collectorIdRequest req
  | some (.string "catalog") => catalogRequest
  | some (.string "parse_row") => parseRowRequest req
  | some (.string "selection") => selectionRequest req
  | some (.string "session") => sessionRequest req
  | some (.string "context") => contextRequest req
  | some (.string "cli") => cliRequest req
  | some (.string op) => .error (.badInput s!"unknown op {op}")
  | _ => .error (.badInput "unknown op ")

/-- The answer line to a request line, or `none` for a blank line. -/
def answerLine (line : String) : Option String :=
  if line.toList.all Char.isWhitespace then none
  else
    let reply : Reply := match Json.parse (stripLineEnd line) with
      | .ok req => handle req
      | .error e => .error (.badInput ("invalid JSON: " ++ e))
    some (Json.render reply.toJson)

end CounterExport.Service
