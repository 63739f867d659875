import HatchSensor.Hatch.Config

/-!
# Local threshold updates

A client beside the device may change the publish threshold, the interval and the band without the
cloud.  What it leaves out keeps its value, and an update that would leave no interval or no band
is refused as a whole.
-/

namespace HatchSensor

/-- The values a local client may set. -/
structure ThresholdUpdate where
  /-- Readings that are reason to publish. -/
  publishAfter : Option UInt32
  /-- Seconds between two readings. -/
  interval : Option UInt32
  /-- Lower bound of the band. -/
  low : Option Single
  /-- Upper bound of the band. -/
  high : Option Single
deriving DecidableEq

/-- Why an update is refused. -/
inductive ThresholdError where
  /-- There is no time between two readings. -/
  | noInterval
  /-- No temperature lies in the band. -/
  | emptyBand
deriving DecidableEq

namespace ThresholdError

/-- The wording of the error. -/
def message : ThresholdError → String
  | noInterval => "Measure interval must be at least one second"
  | emptyBand => "Temperature band is empty"

end ThresholdError

namespace ThresholdUpdate

/-- The configuration with the given values in place. -/
def merge (u : ThresholdUpdate) (c : HatchConfig) : HatchConfig :=
  { c with
    publishAfter := u.publishAfter.getD c.publishAfter
    interval := u.interval.getD c.interval
    low := u.low.getD c.low
    high := u.high.getD c.high }

/-- The updated configuration. -/
def apply (u : ThresholdUpdate) (c : HatchConfig) : Except ThresholdError HatchConfig :=
  let updated := u.merge c
  if updated.interval = 0 then .error .noInterval
  else if !updated.low.less updated.high then .error .emptyBand
  else .ok updated

end ThresholdUpdate

end HatchSensor
