import CounterExport.Metric.Descriptor
import CounterExport.Decimal.Binary64

/-!
# Samples

A sample is one value of one metric: the descriptor, the kind (counter or gauge), the value as a
double and one value per label key. `Sample.make` refuses label values whose count differs from
the descriptor's key count; `Sample.ofRaw` widens a raw unsigned counter reading to the nearest
double first (so `2^53 + 1` is sampled as `2^53`).
-/

set_option autoImplicit false

namespace CounterExport.Metric

open Decimal

/-- Counter or gauge. -/
inductive Kind
  | counter
  | gauge
  deriving DecidableEq, Repr

/-- The name of a kind in the exposition format. -/
def Kind.name : Kind → String
  | .counter => "counter"
  | .gauge => "gauge"

/-- One metric value. -/
structure Sample where
  descriptor : Descriptor
  kind : Kind
  value : Binary64
  labelValues : List String
  deriving DecidableEq, Repr

/-- Label values that do not match the descriptor's keys in number. -/
structure LabelMismatch where
  fqName : String
  expected : Nat
  actual : Nat
  deriving DecidableEq, Repr

def LabelMismatch.message (e : LabelMismatch) : String :=
  e.fqName ++ ": expected " ++ toString e.expected ++ " label values, got " ++ toString e.actual

namespace Sample

/-- A sample, if there is one label value per label key. -/
def make (d : Descriptor) (kind : Kind) (value : Binary64) (labelValues : List String) :
    Except LabelMismatch Sample :=
  if labelValues.length = d.labelKeys.length then .ok ⟨d, kind, value, labelValues⟩
  else .error ⟨d.fqName, d.labelKeys.length, labelValues.length⟩

/-- A sample of a raw unsigned reading, widened to the nearest double. -/
def ofRaw (d : Descriptor) (kind : Kind) (raw : Nat) (labelValues : List String) :
    Except LabelMismatch Sample :=
  make d kind (Binary64.ofNat raw) labelValues

def fqName (s : Sample) : String := s.descriptor.fqName

/-- The label pairs, key with value, in key order. -/
def labels (s : Sample) : List (String × String) := s.descriptor.labelKeys.zip s.labelValues

end Sample

end CounterExport.Metric
