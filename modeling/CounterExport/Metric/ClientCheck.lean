import CounterExport.Metric.Descriptor

/-!
# The metrics client's descriptor check

The check the service and the program run with, as their answers show it. In this order, it
stops at the first fault:

1. the help text is not empty (a single blank is fine);
2. the full name is a valid metric name;
3. each label key in turn is a valid label name and does not repeat an earlier key.

It keeps the rule the client documents (`clientCheck_lawful`), so every result proved for a
lawful check holds of it.
-/

set_option autoImplicit false

namespace CounterExport.Metric

/-- What is wrong with a descriptor. -/
inductive DescriptorFault
  | emptyHelp
  | invalidMetricName (name : String)
  | invalidLabelName (key : String)
  | duplicateLabel (key : String)
  deriving DecidableEq, Repr

def DescriptorFault.message : DescriptorFault → String
  | .emptyHelp => "empty help string"
  | .invalidMetricName n => "'" ++ n ++ "' is not a valid metric name"
  | .invalidLabelName k => "'" ++ k ++ "' is not a valid label name"
  | .duplicateLabel k => "duplicate variable label name " ++ k

/-- The first fault among the label keys, given the keys already seen. -/
def labelFault (seen : List String) : List String → Option DescriptorFault
  | [] => none
  | k :: ks =>
    if !isLabelName k then some (.invalidLabelName k)
    else if k ∈ seen then some (.duplicateLabel k)
    else labelFault (k :: seen) ks

/-- The first fault of a descriptor with this full name, help and keys. -/
def descriptorFault (fq help : String) (keys : List String) : Option DescriptorFault :=
  if help.isEmpty then some .emptyHelp
  else if !isMetricName fq then some (.invalidMetricName fq)
  else labelFault [] keys

/-- The client's check: the message of the first fault. -/
def clientCheck : Validator := fun fq help keys =>
  (descriptorFault fq help keys).map fun f => "Error: " ++ f.message

/-- Valid keys that repeat neither each other nor a key already seen have no fault. -/
theorem labelFault_eq_none :
    ∀ {seen keys : List String}, (∀ k ∈ keys, isLabelName k = true) →
      (seen ++ keys).Nodup → labelFault seen keys = none
  | _, [], _, _ => rfl
  | seen, k :: ks, hvalid, hnd => by
    have hk : k ∉ seen := fun hmem =>
      (List.nodup_append.1 hnd).2.2 k hmem k (List.mem_cons_self ..) rfl
    have hrest : ((k :: seen) ++ ks).Nodup :=
      (List.perm_middle.nodup_iff).1 hnd
    simp only [labelFault, hvalid k (List.mem_cons_self ..), Bool.not_true, Bool.false_eq_true,
      if_false, hk]
    exact labelFault_eq_none (fun k' hk' => hvalid k' (List.mem_cons_of_mem _ hk')) hrest

theorem clientCheck_lawful : clientCheck.Lawful := by
  refine ⟨fun d hd => ?_⟩
  have hhelp : d.help.isEmpty = false := by
    simpa [String.isEmpty_iff] using hd.help_ne
  have hkeys : labelFault [] d.labelKeys = none :=
    labelFault_eq_none hd.labelNames (by simpa using hd.nodup)
  simp [clientCheck, descriptorFault, hhelp, hd.metricName, hkeys]

end CounterExport.Metric
