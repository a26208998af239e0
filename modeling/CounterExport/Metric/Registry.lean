import CounterExport.Metric.Descriptor
import Std.Data.HashMap

/-!
# The descriptor registry

The registry keeps descriptors in registration order and, beside them, an index from each full
name to the position of its descriptor. `register` first makes the descriptor under the
client's check (so one the check refuses is refused as invalid whether or not its name is
taken), then refuses a name the index already holds, and otherwise indexes the new descriptor
under its name at the position it is appended at. `get?` finds a descriptor through the index.
-/

set_option autoImplicit false

namespace CounterExport.Metric

/-- Registered descriptors, in registration order, and the position of each by full name. -/
structure Registry where
  descriptors : Array Descriptor := #[]
  byFqName : Std.HashMap String Nat := {}
  deriving Repr

namespace Registry

def empty : Registry := {}

/-- The descriptor registered under a full name, looked up through the index. -/
def get? (r : Registry) (fq : String) : Option Descriptor :=
  r.byFqName[fq]?.bind fun i => r.descriptors[i]?

def size (r : Registry) : Nat := r.descriptors.size

/-- Appends a descriptor, indexed under its full name at the position it takes. -/
def add (r : Registry) (d : Descriptor) : Registry :=
  ⟨r.descriptors.push d, r.byFqName.insert d.fqName r.descriptors.size⟩

/-- Registers `wmi_<subsystem>_<name>`: the grown registry and the new descriptor, or why not. -/
def register (v : Validator) (r : Registry) (subsystem name help : String) (keys : List String) :
    Except DescriptorError (Registry × Descriptor) := do
  let d ← Descriptor.make v subsystem name help keys
  if r.byFqName.contains d.fqName then throw (.duplicate d.fqName)
  pure (r.add d, d)

/-- Full names in registration order. -/
def fqNames (r : Registry) : List String := r.descriptors.toList.map (·.fqName)

end Registry

end CounterExport.Metric
