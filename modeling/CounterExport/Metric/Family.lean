import CounterExport.Metric.Sample
import Std.Data.HashMap

/-!
# Metric families

`FamilySink` groups emitted samples by full name. Families appear in the order in which their
first sample was emitted; a family takes its help text and kind from that first sample, and its
metrics are the samples of that name in emission order, each with its label pairs, kind and
value. Beside the families the sink keeps an index from each name to the position of its family,
through which a sample finds the family it joins. A family reads each metric's value as one of
its own kind: a metric of the other kind holds no such value and reads as zero.
-/

set_option autoImplicit false

namespace CounterExport.Metric

open Decimal

/-- One sample inside a family: label pairs, kind and value. -/
structure Point where
  labels : List (String × String)
  kind : Kind
  value : Binary64
  deriving DecidableEq, Repr

/-- The samples of one full name. -/
structure Family where
  name : String
  help : String
  kind : Kind
  points : Array Point
  deriving Repr

/-- A sample as a metric of its family: the label pairs, the kind and the value. -/
def Sample.point (s : Sample) : Point := ⟨s.labels, s.kind, s.value⟩

/-- A family with one more metric. -/
def Family.addPoint (p : Point) (f : Family) : Family := { f with points := f.points.push p }

/-- Families in first-emission order, and the position of each by name. -/
structure FamilySink where
  families : Array Family := #[]
  index : Std.HashMap String Nat := {}
  deriving Repr

namespace FamilySink

def empty : FamilySink := {}

/-- Adds a sample to the family the index gives its name, or opens that family at the end and
indexes it there. -/
def emit (sink : FamilySink) (s : Sample) : FamilySink :=
  match sink.index[s.fqName]? with
  | some i => { sink with families := sink.families.modify i (Family.addPoint s.point) }
  | none =>
    ⟨sink.families.push ⟨s.fqName, s.descriptor.help, s.kind, #[s.point]⟩,
      sink.index.insert s.fqName sink.families.size⟩

/-- Emits every sample in order. -/
def emitAll (sink : FamilySink) (ss : List Sample) : FamilySink := ss.foldl emit sink

/-- The number of samples received. -/
def sampleCount (sink : FamilySink) : Nat :=
  sink.families.foldl (fun n f => n + f.points.size) 0

end FamilySink

/-- The value the family reads from one of its metrics: the metric's value when it has the
family's kind, zero otherwise. -/
def Family.reading (f : Family) (p : Point) : Binary64 :=
  if p.kind = f.kind then p.value else Binary64.zero

end CounterExport.Metric
