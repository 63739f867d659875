import HatchSensor.Number.Layout
import HatchSensor.Bytes

/-!
# The hatch configuration

What the cloud tells the device about the hatch it watches, and the counters that decide when the
buffered readings are published.

A reading is counted by `HatchConfig.record`, and `HatchConfig.publishReason` names the first
reason to publish, if there is one.
-/

namespace HatchSensor

/-- The configuration of a hatch together with its publish counters. -/
structure HatchConfig where
  /-- The identity of the hatch. -/
  uuid : String
  /-- Seconds between two readings. -/
  interval : UInt32
  /-- The time at which the hatch is over. -/
  endTime : UInt32
  /-- Lower bound of the temperature band. -/
  low : Single
  /-- Upper bound of the temperature band. -/
  high : Single
  /-- Added to every temperature the sensor reads. -/
  offset : Single
  /-- Readings below the band in a row. -/
  lowRun : UInt32
  /-- Readings above the band in a row. -/
  highRun : UInt32
  /-- Low readings in a row that are reason to publish. -/
  lowRunLimit : UInt32
  /-- High readings in a row that are reason to publish. -/
  highRunLimit : UInt32
  /-- Readings since the last publication. -/
  unpublished : UInt32
  /-- Readings that are reason to publish. -/
  publishAfter : UInt32
deriving DecidableEq

/-- Why a reading leads to a publication. -/
inductive PublishReason where
  /-- Enough readings have gathered. -/
  | threshold
  /-- It has been too warm for too long. -/
  | high
  /-- It has been too cold for too long. -/
  | low
  /-- The hatch is over. -/
  | ended
deriving DecidableEq

/-- Why a configuration is refused. -/
inductive ConfigError where
  /-- The identity of the hatch is empty or too long. -/
  | uuidSize (size : Nat)
  /-- There is no time between two readings. -/
  | noInterval
  /-- No temperature lies in the band. -/
  | emptyBand (low high : Single)
  /-- The offset is not a finite number. -/
  | offset
deriving DecidableEq

namespace HatchConfig

/-- The longest identity of a hatch, in bytes. -/
def uuidLimit : Nat := 36

/-- The configuration of a device that has never heard of a hatch. -/
def default : HatchConfig where
  uuid := ""
  interval := 900
  endTime := 0x7fffffff
  low := ⟨0x4212aa99⟩
  high := ⟨0x421dc711⟩
  offset := .zero
  lowRun := 0
  highRun := 0
  lowRunLimit := 8
  highRunLimit := 1
  unpublished := 0
  publishAfter := 48

instance : Inhabited HatchConfig := ⟨default⟩

/-- Check what the cloud may overwrite; the first fault found is reported. -/
def validate (c : HatchConfig) : Except ConfigError Unit :=
  let size := Bytes.textSize c.uuid
  if size = 0 ∨ uuidLimit < size then .error (.uuidSize size)
  else if c.interval = 0 then .error .noInterval
  else if !c.low.less c.high then .error (.emptyBand c.low c.high)
  else if !c.offset.isFinite then .error .offset
  else .ok ()

/-- The temperature of the hatch when the sensor reads `raw`. -/
def corrected (c : HatchConfig) (raw : Single) : Single :=
  raw + c.offset

/-- One more, up to the largest word. -/
def countUp (n : UInt32) : UInt32 :=
  if n = 0xffffffff then n else n + 1

/-- Count a reading. -/
def record (c : HatchConfig) (temperature : Single) : HatchConfig :=
  let c := { c with unpublished := countUp c.unpublished }
  if c.high.less temperature then { c with highRun := countUp c.highRun, lowRun := 0 }
  else if temperature.less c.low then { c with lowRun := countUp c.lowRun, highRun := 0 }
  else { c with lowRun := 0, highRun := 0 }

/-- Whether the hatch is over. -/
def ended (c : HatchConfig) (now : UInt32) : Bool :=
  decide (c.endTime ≤ now)

/-- The first reason to publish. -/
def publishReason (c : HatchConfig) (now : UInt32) : Option PublishReason :=
  if c.publishAfter ≤ c.unpublished then some .threshold
  else if c.highRunLimit ≤ c.highRun then some .high
  else if c.lowRunLimit ≤ c.lowRun then some .low
  else if c.ended now then some .ended
  else none

/-- Start counting anew, after everything has been published. -/
def resetCounters (c : HatchConfig) : HatchConfig :=
  { c with unpublished := 0, lowRun := 0, highRun := 0 }

end HatchConfig

namespace ConfigError

/-- The wording of the error. -/
def message : ConfigError → String
  | uuidSize size =>
    "Hatch UUID must be 1-" ++ HatchConfig.uuidLimit.repr ++ " bytes, got " ++ size.repr
  | noInterval => "Measure interval must be at least one second"
  | emptyBand low high =>
    "Temperature band is empty: low " ++ low.toText ++ " >= high " ++ high.toText
  | offset => "Temperature offset must be finite"

end ConfigError

end HatchSensor
