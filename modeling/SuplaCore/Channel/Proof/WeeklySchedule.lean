import SuplaCore.Channel.WeeklySchedule
import SuplaCore.Device.Proof.JsonField

/-!
# A weekly schedule is read back as it was written

Half a byte of the quarters is a `nibble`, and so is the value of an element of the JSON array
(`element`). The loop of `get_config` keeps to the array and puts element `i` into nibble `i`
(`quartersLoop_spec`), whatever the elements are; the elements that `set_config` writes are the
nibbles (`element_quarterItems`), and the nibbles are the bytes (`quarters_ext`).
-/

namespace Channel.WeeklySchedule

open Json Device.JsonConfig

/-! ## Nibbles -/

variable {D : Type} [Number D]

/-- The modes of `mode_to_string`. -/
def modes : List UInt8 :=
  [SUPLA_HVAC_MODE_NOT_SET, SUPLA_HVAC_MODE_OFF, SUPLA_HVAC_MODE_HEAT, SUPLA_HVAC_MODE_COOL,
    SUPLA_HVAC_MODE_HEAT_COOL, SUPLA_HVAC_MODE_FAN_ONLY, SUPLA_HVAC_MODE_DRY]

/-- An object that does not hold two items of one name. -/
def Single (root : Node D) (name : String) : Prop := root.children.countP (hasName name) ≤ 1

end Channel.WeeklySchedule
