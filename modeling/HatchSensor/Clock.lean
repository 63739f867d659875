/-!
# Clock arithmetic

The device keeps two clocks: a calendar clock in whole seconds, which counts as set once it shows
2016 or later, and a millisecond counter that starts over after its largest value.
-/

namespace HatchSensor

/-- The start of 2016, in seconds since 1970. -/
def earliestValidTime : UInt32 := 1451606400

/-- Whether a calendar time can be believed. -/
def isValidTime (time : UInt32) : Bool :=
  decide (earliestValidTime ≤ time)

/-- The ticks between two samples of the counter.  After the counter has started over, the step
from its largest value to zero is not counted. -/
def tickDuration (previous current : UInt32) : UInt32 :=
  if previous ≤ current then current - previous else (0xffffffff - previous) + current

end HatchSensor
