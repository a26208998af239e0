import CounterExport.Service.Basic
import CounterExport.Metric.Registry
import CounterExport.Metric.ClientCheck
import CounterExport.Metric.Exposition

/-!
# Metric requests

`fq_name`, `descriptor`, `registry`, `sample` and `family` exercise the metric layer: full
names, descriptor validation, the registry, samples and the exposition text. A descriptor in a
request is given by `subsystem`, `name`, `help` and `label_keys`; a sample by `kind`,
`label_values` and either `raw` (an unsigned reading) or `value` (any number).

The answers' shapes are shared with the scrape answers: `descriptorJson`, `sampleJson` and
`familiesJson` are the one place each is written.
-/

set_option autoImplicit false

namespace CounterExport.Service

open CounterExport.Metric Decimal

/-- A descriptor as an answer object. -/
def descriptorJson (d : Descriptor) : Json :=
  Json.ofMembers [("fq_name", .string d.fqName), ("help", .string d.help),
    ("label_keys", Json.strs d.labelKeys)]

/-- The error object of a descriptor that was refused. -/
def descriptorFailure : DescriptorError → Failure
  | e@(.invalid _ _) => ⟨"DescriptorInvalid", e.message, []⟩
  | e@(.duplicate _) => ⟨"DescriptorDuplicate", e.message, []⟩

/-- The error object of label values that do not match the keys. -/
def mismatchFailure (e : LabelMismatch) : Failure := ⟨"LabelMismatch", e.message, []⟩

/-- The descriptor fields of a request: subsystem, name, help and label keys. -/
structure DescriptorSpec where
  subsystem : String
  name : String
  help : String
  labelKeys : List String

def readDescriptorSpec (j : Json) : Except Failure DescriptorSpec := do
  let subsystem ← reqString j "subsystem"
  let name ← reqString j "name"
  let help ← reqString j "help"
  let labelKeys ← optStrings j "label_keys"
  pure ⟨subsystem, name, help, labelKeys⟩

/-- The descriptor a request describes, or why it was refused. -/
def makeDescriptor (j : Json) : Except Failure Descriptor := do
  let spec ← readDescriptorSpec j
  (Descriptor.make clientCheck spec.subsystem spec.name spec.help spec.labelKeys).mapError
    descriptorFailure

/-- The `kind` field of a sample. -/
def readKind (j : Json) : Except Failure Kind :=
  match j.field? "kind" with
  | some (.string "counter") => .ok .counter
  | some (.string "gauge") => .ok .gauge
  | _ => .error (.badInput "kind must be \"counter\" or \"gauge\"")

/-- The sample described by a request for a descriptor: `raw` widens an unsigned reading,
`value` takes any number. -/
def makeSample (d : Descriptor) (j : Json) : Except Failure Sample := do
  let kind ← readKind j
  let labelValues ← optStrings j "label_values"
  let made ← match j.field? "raw", j.field? "value" with
    | some (.number (.unsigned raw)), _ => pure (Sample.ofRaw d kind raw labelValues)
    | some _, _ => throw (.badInput "raw must be a u64")
    | none, some (.number n) => pure (Sample.make d kind n.toBinary64 labelValues)
    | none, _ => throw (.badInput "value must be a number")
  made.mapError mismatchFailure

/-- Label pairs as a list of two-element lists. -/
def labelsJson (labels : List (String × String)) : Json :=
  .array (labels.map fun (k, v) => Json.strs [k, v])

/-- The full name of the scrape duration metric. Its readings are times taken, which no
answer compares, so a sample of that name is answered without its value. -/
def durationName : String := "wmi_exchange_collector_duration_seconds"

/-- A sample as an answer object, its value written as `Layout.plain` text, or `null` for a
sample named `durationName`. -/
def sampleJson (s : Sample) : Json :=
  Json.ofMembers [("fq_name", .string s.fqName), ("kind", .string s.kind.name),
    ("value", if s.fqName = durationName then .null else .string (Layout.plain.render s.value)),
    ("labels", labelsJson s.labels)]

/-- Families as an answer object: each family's points, the sample count and the text. -/
def familiesJson (sink : FamilySink) : Json :=
  let families := sink.families.toList
  Json.ofMembers [
    ("families", .array (families.map fun f => Json.ofMembers [
      ("name", .string f.name), ("help", .string f.help), ("type", .string f.kind.name),
      ("metrics", .array (f.points.toList.map fun p => Json.ofMembers [
        ("labels", labelsJson p.labels), ("value", .string (Layout.plain.render (f.reading p)))]))])),
    ("sample_count", Json.nat sink.sampleCount),
    ("text", .string (exposition families))]

/-- `{"op":"fq_name","namespace":A,"subsystem":B,"name":C}`. -/
def fqNameRequest (req : Json) : Reply := do
  let ns ← reqString req "namespace"
  let subsystem ← reqString req "subsystem"
  let name ← reqString req "name"
  pure (.string (Metric.fqName ns subsystem name))

/-- `{"op":"descriptor",...}`. -/
def descriptorRequest (req : Json) : Reply := descriptorJson <$> makeDescriptor req

/-- One registry step: the registry after it and its result. -/
def registryStep (r : Registry) (step : Json) : Registry × Reply :=
  match step.field? "op" with
  | some (.string "register") =>
    match readDescriptorSpec step with
    | .error f => (r, .error f)
    | .ok spec =>
      match r.register clientCheck spec.subsystem spec.name spec.help spec.labelKeys with
      | .ok (r2, d) => (r2, .ok (descriptorJson d))
      | .error e => (r, .error (descriptorFailure e))
  | some (.string "get") =>
    match reqString step "fq_name" with
    | .error f => (r, .error f)
    | .ok fq => (r, .ok ((r.get? fq).elim .null descriptorJson))
  | _ => (r, .error (.badInput "registry op must be register or get"))

/-- Runs registry steps in order, giving each step's answer. -/
def registrySteps : Registry → List Json → Registry × List Json
  | r, [] => (r, [])
  | r, step :: rest =>
    let (r1, reply) := registryStep r step
    let (r2, answers) := registrySteps r1 rest
    (r2, Json.ofMembers [("result", reply.inline), ("len", Json.nat r1.size),
      ("is_empty", .bool (r1.size == 0))] :: answers)

/-- `{"op":"registry","ops":[step...]}`. -/
def registryRequest (req : Json) : Reply := do
  let steps ← reqArray req "ops"
  let (r, answers) := registrySteps Registry.empty steps
  pure (Json.ofMembers [("steps", .array answers), ("fq_names", Json.strs r.fqNames)])

/-- `{"op":"sample",...}`. -/
def sampleRequest (req : Json) : Reply := do
  let d ← makeDescriptor req
  sampleJson <$> makeSample d req

/-- The samples of a `family` request, each naming its descriptor by index. -/
def familySamples (ds : List Descriptor) : List Json → Except Failure (List Sample)
  | [] => .ok []
  | j :: rest => do
    let i ← reqNat j "d"
    let d ← match ds[i]? with
      | some d => pure d
      | none => throw (.badInput "descriptor index out of range")
    let s ← makeSample d j
    let ss ← familySamples ds rest
    pure (s :: ss)

/-- `{"op":"family","descriptors":[...],"samples":[...]}`. -/
def familyRequest (req : Json) : Reply := do
  let ds ← (← reqArray req "descriptors").mapM makeDescriptor
  let ss ← familySamples ds (← reqArray req "samples")
  pure (familiesJson (FamilySink.empty.emitAll ss))

end CounterExport.Service
