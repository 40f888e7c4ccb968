import DesiredState.Fault
import DesiredState.Json.Basic

/-!
# Faults as JSON

**Form.** A fault is an object with its kind, its message, the option and the layer
to blame and the advice; the layer is null when there is none.
-/

namespace DesiredState

/-- The label of a layer that may be missing, as JSON. -/
def Layer.labelJson : Option Layer → Json
  | none => .null
  | some layer => .string layer.label

/-- The fault as JSON. -/
def Fault.toJson (fault : Fault) : Json :=
  .object [("category", .string fault.category), ("message", .string fault.message),
    ("option", .string fault.option), ("layer", Layer.labelJson fault.layer?),
    ("advice", .string fault.advice)]

end DesiredState
