import CounterExport.Decimal.Layout
import CounterExport.Text.Debug

/-!
# Log events

The library reports what it does as log events: a level, a message and named field values.
Producing an event is part of a function's result (the functions that log return their events
next to their value), and whoever runs them decides which levels are shown and how.

A line shows the level, the message and then each field as `name=value`. A text value is
quoted (`debugQuote`) unless it is shown as it is; a double is written by `Layout.field`.
-/

set_option autoImplicit false

namespace CounterExport.Log

open Decimal

/-- Severity, most severe first. -/
inductive Level
  | error
  | warn
  | info
  | debug
  | trace
  deriving DecidableEq, Repr

/-- The rank of a level: a smaller rank is more severe. -/
def Level.rank : Level → Nat
  | .error => 0
  | .warn => 1
  | .info => 2
  | .debug => 3
  | .trace => 4

def Level.name : Level → String
  | .error => "ERROR"
  | .warn => "WARN"
  | .info => "INFO"
  | .debug => "DEBUG"
  | .trace => "TRACE"

/-- Whether an event of level `l` passes a filter that shows up to `limit`. -/
def Level.shownUnder (l limit : Level) : Bool := l.rank ≤ limit.rank

/-- A field value. -/
inductive Value
  /-- Text, quoted. -/
  | text (s : String)
  /-- Text shown as it is. -/
  | shown (s : String)
  | nat (n : Nat)
  | bool (b : Bool)
  | float (x : Binary64)
  deriving DecidableEq, Repr

def Value.render : Value → String
  | .text s => Text.debugQuote s
  | .shown s => s
  | .nat n => toString n
  | .bool b => toString b
  | .float x => Layout.field.render x

/-- One log event. -/
structure Event where
  level : Level
  message : String
  fields : List (String × Value)
  deriving DecidableEq, Repr

/-- The text of an event: level, message, fields. -/
def Event.line (e : Event) : String :=
  String.intercalate " "
    ([e.level.name, e.message] ++ e.fields.map fun (k, v) => k ++ "=" ++ v.render)

end CounterExport.Log
