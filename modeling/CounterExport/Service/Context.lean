import CounterExport.Service.Basic
import CounterExport.Scrape.Context
import CounterExport.Scrape.Timeout

/-!
# Context requests

`context` makes and cancels scrape contexts step by step and, after each successful step,
reports every context made so far: whether it counts as cancelled, and the time left before
its deadline (`null` without a deadline, `"0"` once it has passed, `"positive"` before).

The clock stands still at its origin (`requestClock`): a deadline made with a zero timeout has
passed at once, and every other deadline lies ahead.
-/

set_option autoImplicit false

namespace CounterExport.Service

open Scrape

/-- The contexts made so far and their flags. -/
structure Contexts where
  flags : Flags
  made : List Context

/-- The clock reading at which contexts are made and read. -/
def requestClock : Instant := Instant.origin

/-- The failure of a step whose deadline the clock cannot represent. -/
def deadlineOverflow : Failure := ⟨"Panic", "overflow when adding duration to instant", []⟩

/-- One context as an answer object. -/
def contextJson (flags : Flags) (ctx : Context) : Json :=
  Json.ofMembers [("is_cancelled", .bool (ctx.isCancelled flags requestClock)),
    ("remaining", match ctx.remaining requestClock with
      | none => .null
      | some 0 => .string "0"
      | some _ => .string "positive")]

/-- The `secs` of a step as nanoseconds. -/
def readSecs (step : Json) : Except Failure Nat :=
  match step.field? "secs" with
  | some (.number n) => (nanosOfSeconds n.toBinary64).mapError fun e => .badInput e.message
  | _ => .error (.badInput "missing secs")

/-- The context a step names by index. -/
def readContext (cs : Contexts) (step : Json) (k : String) : Except Failure Context := do
  let i ← reqNat step k
  match cs.made[i]? with
  | some ctx => pure ctx
  | none => throw (.badInput "context index out of range")

/-- One step: the new contexts, or why the step failed. -/
def contextStep (cs : Contexts) (step : Json) : Except Failure Contexts :=
  match step.field? "op" with
  | some (.string "background") | some (.string "default") =>
    let (flags, ctx) := Context.background cs.flags
    .ok ⟨flags, cs.made ++ [ctx]⟩
  | some (.string "with_timeout") => do
    let ns ← readSecs step
    match Context.withTimeout requestClock cs.flags ns with
    | some (flags, ctx) => pure ⟨flags, cs.made ++ [ctx]⟩
    | none => throw deadlineOverflow
  | some (.string "child") => do
    let parent ← readContext cs step "of"
    let ns ← readSecs step
    match parent.child requestClock ns with
    | some ctx => pure ⟨cs.flags, cs.made ++ [ctx]⟩
    | none => throw deadlineOverflow
  | some (.string "clone") => do
    let ctx ← readContext cs step "of"
    pure ⟨cs.flags, cs.made ++ [ctx]⟩
  | some (.string "cancel") => do
    let ctx ← readContext cs step "ctx"
    pure ⟨ctx.cancel cs.flags, cs.made⟩
  | some (.string op) => .error (.badInput s!"unknown context op {op}")
  | _ => .error (.badInput "unknown context op ")

/-- Runs steps in order, answering each. -/
def contextSteps : Contexts → List Json → List Json
  | _, [] => []
  | cs, step :: rest =>
    match contextStep cs step with
    | .error f => f.toJson :: contextSteps cs rest
    | .ok cs1 =>
      Json.ofMembers [("contexts", .array (cs1.made.map (contextJson cs1.flags)))] ::
        contextSteps cs1 rest

/-- `{"op":"context","steps":[step...]}`. -/
def contextRequest (req : Json) : Reply := do
  let steps ← reqArray req "steps"
  pure (.array (contextSteps ⟨#[], []⟩ steps))

end CounterExport.Service
