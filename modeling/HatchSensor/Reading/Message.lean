import HatchSensor.Reading.Basic
import HatchSensor.Json.Printer

/-!
# Published readings

The JSON message in which a reading goes to the cloud.
-/

namespace HatchSensor

namespace Reading

/-- The message for a reading of the device `device` in the hatch `hatch`. -/
def message (r : Reading) (device hatch : String) : String :=
  Json.writeMembers
    [("unixTime", r.time.toNat.repr), ("peepUUID", Json.writeString device),
      ("hatchUUID", Json.writeString hatch), ("temperature", r.temperature.toJsonText),
      ("humidity", r.humidity.toJsonText), ("pressure", r.pressure.toJsonText),
      ("gasResistance", r.gas.toJsonText)]

end Reading

end HatchSensor
