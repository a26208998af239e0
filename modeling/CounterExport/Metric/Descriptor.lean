import CounterExport.Metric.Name

/-!
# Metric descriptors

A descriptor names a metric (`wmi_<subsystem>_<name>`), carries its help text and the keys of
its labels in order. The metrics client checks a descriptor when it is made; the check is not
this library's, so it is a parameter (`Validator`) of everything that makes descriptors. What
the client documents of it is `Validator.Lawful`: a descriptor the exposition format admits
(`Descriptor.WellFormed`) is accepted.
-/

set_option autoImplicit false

namespace CounterExport.Metric

/-- A metric descriptor. -/
structure Descriptor where
  fqName : String
  help : String
  labelKeys : List String
  deriving DecidableEq, Repr

/-- A descriptor check, as the metrics client makes it: given the full name, the help text and
the label keys, the cause of refusing the descriptor, or none when it is accepted. -/
abbrev Validator := String → String → List String → Option String

/-- A descriptor the exposition format admits: help text, a valid metric name, and distinct
valid label names. -/
structure Descriptor.WellFormed (d : Descriptor) : Prop where
  help_ne : d.help ≠ ""
  metricName : isMetricName d.fqName = true
  labelNames : ∀ k ∈ d.labelKeys, isLabelName k = true
  nodup : d.labelKeys.Nodup

instance (d : Descriptor) : Decidable d.WellFormed :=
  decidable_of_iff (d.help ≠ "" ∧ isMetricName d.fqName = true ∧
      (∀ k ∈ d.labelKeys, isLabelName k = true) ∧ d.labelKeys.Nodup)
    ⟨fun ⟨h₁, h₂, h₃, h₄⟩ => ⟨h₁, h₂, h₃, h₄⟩,
      fun ⟨h₁, h₂, h₃, h₄⟩ => ⟨h₁, h₂, h₃, h₄⟩⟩

/-- What the metrics client documents of its check. -/
structure Validator.Lawful (v : Validator) : Prop where
  /-- A well-formed descriptor is accepted. -/
  accepts : ∀ d : Descriptor, d.WellFormed → v d.fqName d.help d.labelKeys = none

/-- Why a descriptor was not made or not registered. -/
inductive DescriptorError
  | invalid (fqName cause : String)
  | duplicate (fqName : String)
  deriving DecidableEq, Repr

def DescriptorError.message : DescriptorError → String
  | .invalid fq cause => "invalid descriptor " ++ fq ++ ": " ++ cause
  | .duplicate fq => "descriptor " ++ fq ++ " registered twice"

/-- The descriptor `wmi_<subsystem>_<name>` with the given help and label keys, if the check
accepts it. -/
def Descriptor.make (v : Validator) (subsystem name help : String) (keys : List String) :
    Except DescriptorError Descriptor :=
  let fq := Metric.fqName exporterNamespace subsystem name
  match v fq help keys with
  | some cause => .error (.invalid fq cause)
  | none => .ok ⟨fq, help, keys⟩

end CounterExport.Metric
