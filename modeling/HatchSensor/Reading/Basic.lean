import HatchSensor.Number.Single
import HatchSensor.Bytes

/-!
# Readings

What the sensor measures, what the device makes of it, and the 20-byte record in which a reading
is kept until it is published.
-/

namespace HatchSensor

/-- What the sensor measures. -/
structure Climate where
  /-- Temperature in degrees Celsius. -/
  temperature : Single
  /-- Relative humidity in percent. -/
  humidity : Single
  /-- Air pressure in pascals. -/
  pressure : Single
  /-- Gas resistance in ohms. -/
  gas : Single
deriving DecidableEq, Inhabited

/-- One reading with its time. -/
structure Reading where
  /-- Seconds since 1970. -/
  time : UInt32
  /-- Corrected temperature. -/
  temperature : Single
  /-- Relative humidity. -/
  humidity : Single
  /-- Air pressure. -/
  pressure : Single
  /-- Gas resistance. -/
  gas : Single
deriving DecidableEq, Inhabited

namespace Reading

/-- Bytes of a record. -/
def recordSize : Nat := 20

/-- The words of a record. -/
def words (r : Reading) : List UInt32 :=
  [r.time, r.temperature.bits, r.humidity.bits, r.pressure.bits, r.gas.bits]

/-- The stored form. -/
def encode (r : Reading) : Bytes :=
  r.words.flatMap Bytes.ofWord

/-- The readings whose words are given, five each; words left over belong to no reading. -/
def ofWords : List UInt32 → List Reading
  | time :: temperature :: humidity :: pressure :: gas :: rest =>
    ⟨time, ⟨temperature⟩, ⟨humidity⟩, ⟨pressure⟩, ⟨gas⟩⟩ :: ofWords rest
  | _ => []

/-- The reading whose stored form is given. -/
def decode (bytes : Bytes) : Option Reading :=
  if bytes.length = recordSize then (ofWords (Bytes.toWords bytes)).head? else none

end Reading

end HatchSensor
