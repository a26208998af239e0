import CounterExport.Service.Outcomes
import CounterExport.Service.Selection
import CounterExport.Source.Scenario
import CounterExport.Service.Context

/-!
# Sessions

A session runs steps against one state: the current source (empty at first), the query logs,
possibly a built exporter, and a registry with the collectors built into it by `collector`
steps. Each step answers on its own; a failing step answers its error object and the session
goes on.

The exporter and each collector keep a copy of the source they were built from: later changes
to the current source's tables do not reach them, but their queries go to the same log. A new
scenario starts a fresh log.
-/

set_option autoImplicit false

namespace CounterExport.Service

open Collector Scrape Source CounterExport.Metric Counter

/-- The state of a session. -/
structure Session where
  logs : Logs
  source : Source
  exporter : Option Exporter
  registry : Registry
  collectors : List ClassCollector

/-- The state before the first step. -/
def Session.initial : Session := ⟨#[#[]], Source.empty 0, none, Registry.empty, []⟩

/-- The answer of a step that changes the source. -/
def sourceJson (s : Source) : Json := Json.ofMembers [("source", .string s.debugText)]

/-- A step's new state and answer. -/
abbrev StepResult := Session × Reply

/-- `scenario`: replaces the source, with a fresh log. -/
def scenarioStep (st : Session) (step : Json) : StepResult :=
  match reqString step "name" with
  | .error f => (st, .error f)
  | .ok name =>
    let (logs, log) := st.logs.fresh
    let made : Option Source := match name with
      | "typical" => some (typicalServer log)
      | "plain" => some (plainHost log)
      | "empty" => some (Source.empty log)
      | _ => none
    match made with
    | none => (st, .error (.badInput s!"unknown scenario {name}"))
    | some s => ({ st with logs, source := s }, .ok (sourceJson s))

/-- `set_rows` and `with_rows`: replaces the rows of a class, unless a row cannot be read. -/
def setRowsStep (st : Session) (step : Json) : StepResult :=
  match readClass step with
  | .error f => (st, .error f)
  | .ok c =>
    match step.field? "rows" with
    | some (.array items) =>
      match decodeRows c items with
      | .error (i, e) => (st, .error (rowFailure e [("row", Json.nat i)]))
      | .ok rows =>
        let s := st.source.setRows c rows
        ({ st with source := s }, .ok (sourceJson s))
    | _ => (st, .error (.badInput "rows must be an array"))

/-- The failure of a `set_failure` step. -/
def readSourceError (step : Json) : Except Failure SourceError := do
  let e := (step.field? "error").getD .null
  let message := (← optString e "message").getD ""
  match e.field? "kind" with
  | some (.string "Cancelled") => pure .cancelled
  | some (.string "Transport") => pure (.transport message)
  | some (.string "Parse") => pure (.parse message)
  | _ => throw (.badInput "error.kind must be Cancelled, Transport or Parse")

/-- `set_failure`: every query of the class fails. -/
def setFailureStep (st : Session) (step : Json) : StepResult :=
  match readClass step, readSourceError step with
  | .error f, _ => (st, .error f)
  | _, .error f => (st, .error f)
  | .ok c, .ok e =>
    let s := st.source.setFailure c e
    ({ st with source := s }, .ok (sourceJson s))

/-- `remove_class`. -/
def removeClassStep (st : Session) (step : Json) : StepResult :=
  match readClass step with
  | .error f => (st, .error f)
  | .ok c =>
    let s := st.source.removeClass c
    ({ st with source := s }, .ok (sourceJson s))

/-- `query`: every row of a class from the current source. -/
def queryStep (st : Session) (step : Json) : StepResult :=
  match readClass step, optBool step "cancelled", optBool step "detail" with
  | .error f, _, _ => (st, .error f)
  | _, .error f, _ => (st, .error f)
  | _, _, .error f => (st, .error f)
  | .ok c, .ok cancelled, .ok detail =>
    let (logs, answer) := st.source.query st.logs cancelled c
    let st := { st with logs }
    match answer with
    | .ok rows => (st, .ok (Json.ofMembers [("rows", .array (rows.map (rowJson c)))]))
    | .error e => (st, .error (queryFailure detail ⟨c, e⟩))

/-- A timeout in seconds as nanoseconds. -/
def readTimeout (j : Json) (k : String) : Except Failure (Option Nat) :=
  match j.field? k with
  | some (.number n) =>
    match nanosOfSeconds n.toBinary64 with
    | .ok ns => .ok (some ns)
    | .error e => .error (.badInput e.message)
  | some .null | none => .ok none
  | _ => .error (.badInput s!"{k} must be a number")

/-- The error object of an exporter that could not be built. -/
def buildFailure (detail : Bool) : BuildError → Failure
  | e@(.selection se) =>
    ⟨"UnknownCollector", e.message,
      if detail then [("source_chain", Json.strs [se.message])] else []⟩
  | e@(.descriptor de) =>
    let base := descriptorFailure de
    ⟨base.kind, e.message, if detail then [("source_chain", Json.strs [de.message])] else []⟩

/-- `build`: an exporter over a copy of the current source. -/
def buildStep (st : Session) (step : Json) : StepResult :=
  let opts : Except Failure Options := do
    let selection ← match step.field? "selection" with
      | some .null | none => pure Selection.default
      | some j => readSelection j
    let scrapeMetrics ← optBool step "scrape_metrics"
    let timeout ← readTimeout step "scrape_timeout_secs"
    pure ⟨selection, scrapeMetrics, timeout⟩
  match opts with
  | .error f => (st, .error f)
  | .ok o =>
    match (Exporter.build clientCheck st.source o).2 with
    | .error e =>
      let st := { st with exporter := none }
      match optBool step "detail" with
      | .error f => (st, .error f)
      | .ok detail => (st, .error (buildFailure detail e))
    | .ok ex =>
      ({ st with exporter := some ex }, .ok (Json.ofMembers [
        ("active", idsJson ex.active),
        ("descriptors", .array (ex.registry.descriptors.toList.map descriptorJson)),
        ("descs", Json.strs ex.registry.fqNames)]))

/-- The timeline of a `scrape` step: the clock stands still, the context may be cancelled before
the scrape, and the sink cancels it once it has received its `n`-th sample. -/
def scrapeTimeline (ctx : Context) (flags : Flags) (cancelled : Bool) (cancelAfter : Option Nat) :
    Timeline :=
  let flags := if cancelled then ctx.cancel flags else flags
  ⟨fun _ emitted => match cancelAfter with
    | some n => if emitted.length ≥ max n 1 then ctx.cancel flags else flags
    | none => flags, fun _ => requestClock⟩

/-- `scrape`: one scrape of the exporter into a recording sink. -/
def scrapeStep (st : Session) (step : Json) : StepResult :=
  match st.exporter with
  | none => (st, .error (.badInput "no exporter built"))
  | some ex =>
    match optBool step "cancelled" with
    | .error f => (st, .error f)
    | .ok cancelled =>
      let bg := Context.background #[]
      match ex.scrapeContextFrom requestClock bg.2 with
      | none => (st, .error deadlineOverflow)
      | some ctx =>
        let r := ex.collect st.logs ctx
          (scrapeTimeline ctx bg.1 cancelled (optNat step "cancel_after_emits"))
        let st := { st with logs := r.logs }
        match r.result with
        | .error e => (st, .error ⟨e.kindName, e.message, []⟩)
        | .ok summary =>
          match optBool step "detail" with
          | .error f => (st, .error f)
          | .ok detail =>
            (st, .ok (Json.ofMembers [
              ("summary", summaryJson detail summary),
              ("samples", .array (r.emitted.map sampleJson)),
              ("exposition", familiesJson (FamilySink.empty.emitAll r.emitted))]))

/-- `gather`: the families of one scrape. -/
def gatherStep (st : Session) : StepResult :=
  match st.exporter with
  | none => (st, .error (.badInput "no exporter built"))
  | some ex =>
    match ex.gather st.logs requestClock fun _ => requestClock with
    | none => (st, .error deadlineOverflow)
    | some (r, families) =>
      ({ st with logs := r.logs }, .ok (Json.ofMembers [
        ("names", Json.strs (families.map (·.name))),
        ("text", .string (exposition families))]))

/-- `collector`: builds a collector into the session registry and runs it once. -/
def collectorStep (st : Session) (step : Json) : StepResult :=
  match reqString step "id" with
  | .error f => (st, .error f)
  | .ok s =>
    match CollectorId.parse s with
    | .error e => (st, .error (selectionFailure e []))
    | .ok id =>
      let (r, built) := build clientCheck id st.source st.registry
      let st := { st with registry := r }
      match built, optBool step "cancelled" with
      | .error e, _ => (st, .error (descriptorFailure e))
      | _, .error f => (st, .error f)
      | .ok col, .ok cancelled =>
        let run := col.run st.logs cancelled
        ({ st with logs := run.logs, collectors := st.collectors ++ [col] }, .ok (Json.ofMembers [
          ("id", .string id.name), ("class_name", .string id.className),
          ("registry_len", Json.nat r.size), ("result", runResultJson run.result),
          ("samples", runSamplesJson run.result)]))

/-- `rerun`: runs a built collector again. -/
def rerunStep (st : Session) (step : Json) : StepResult :=
  match reqNat step "index", optBool step "cancelled" with
  | .error f, _ => (st, .error f)
  | _, .error f => (st, .error f)
  | .ok i, .ok cancelled =>
    match st.collectors[i]? with
    | none => (st, .error (.badInput "collector index out of range"))
    | some col =>
      let run := col.run st.logs cancelled
      ({ st with logs := run.logs }, .ok (Json.ofMembers [
        ("id", .string col.id.name), ("result", runResultJson run.result),
        ("samples", runSamplesJson run.result)]))

/-- One step. -/
def sessionStep (st : Session) (step : Json) : StepResult :=
  match step.field? "op" with
  | some (.string "scenario") => scenarioStep st step
  | some (.string "set_rows") => setRowsStep st step
  | some (.string "with_rows") => setRowsStep st step
  | some (.string "set_failure") => setFailureStep st step
  | some (.string "remove_class") => removeClassStep st step
  | some (.string "queries") => (st, .ok (Json.strs (st.logs.entries st.source.log)))
  | some (.string "query") => queryStep st step
  | some (.string "build") => buildStep st step
  | some (.string "scrape") => scrapeStep st step
  | some (.string "gather") => gatherStep st
  | some (.string "collector") => collectorStep st step
  | some (.string "rerun") => rerunStep st step
  | some (.string op) => (st, .error (.badInput s!"unknown session op {op}"))
  | _ => (st, .error (.badInput "unknown session op "))

/-- Runs steps in order, answering each. -/
def sessionSteps : Session → List Json → List Json
  | _, [] => []
  | st, step :: rest =>
    let (st1, reply) := sessionStep st step
    reply.inline :: sessionSteps st1 rest

/-- `{"op":"session","steps":[step...]}`. -/
def sessionRequest (req : Json) : Reply := do
  let steps ← reqArray req "steps"
  pure (.array (sessionSteps Session.initial steps))

end CounterExport.Service
