import HatchSensor.Board.Platform
import HatchSensor.Device.Surroundings

/-!
# The sensor of the board

The sensor is set up when it is read for the first time, so that a broken sensor does not keep the
device from being provisioned.
-/

namespace HatchSensor

namespace BoardSensor

def busSpeed : Nat := 100000

/-- Open the bus of the sensor. -/
def openBus : Program Platform (Attempt Unit) := do
  match ← Platform.call (.openBus busSpeed false false) with
  | .error reason => return .error ⟨"Failed to start I2C driver: " ++ reason.text⟩
  | .ok () => return .ok ()

/-- Set the sensor up, unless that has been done. -/
def setUp (ready : Bool) : Program Platform (Attempt Unit) := do
  if ready then return .ok ()
  else
    match ← Platform.call .initSensor with
    | .error reason => return .error ⟨"Failed to init bme280: " ++ reason⟩
    | .ok () => return .ok ()

/-- The climate that the sensor measures; it knows nothing of gas. -/
def climate (temperature humidity pressure : Single) : Climate where
  temperature := temperature
  humidity := humidity
  pressure := pressure
  gas := .zero

/-- Read the sensor.  The second component tells whether the sensor is set up afterwards. -/
def read (ready : Bool) : Program Platform (Attempt Climate × Bool) := do
  match ← setUp ready with
  | .error reason => return (.error reason, false)
  | .ok () =>
    match ← Platform.call .measure with
    | .error reason => return (.error ⟨"Failed to read bme280 sensor: " ++ reason⟩, true)
    | .ok (temperature, humidity, pressure) =>
      return (.ok (climate temperature humidity pressure), true)

end BoardSensor

end HatchSensor
