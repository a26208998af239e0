import CounterExport.Service.Basic
import CounterExport.Collector.Label

/-!
# Label requests

`label` derives from an instance name its label name, whether it carries an index suffix, and
the label of its row (`null` when the row is skipped).
-/

set_option autoImplicit false

namespace CounterExport.Service

/-- `{"op":"label","name":S}`. -/
def labelRequest (req : Json) : Reply := do
  let name ← reqString req "name"
  pure <| Json.ofMembers [
    ("label_name", .string (Label.labelName name)),
    ("index_suffix", .bool (Label.hasIndexSuffix name)),
    ("instance_label", Json.optStr (Label.instanceLabel name))]

end CounterExport.Service
