import HatchSensor.Board.Platform
import HatchSensor.Calendar
import HatchSensor.Device.Surroundings

/-!
# The clock of the board

The calendar clock goes on while the board sleeps.  It is set by hand or from the network; the
network service is started once.
-/

namespace HatchSensor

namespace BoardClock

/-- The calendar clock. -/
def time : Program Platform UInt32 := do
  let seconds ← Platform.call .clock
  return if seconds < 0 then 0 else UInt32.ofNat seconds.toNat

/-- Milliseconds since the board woke up, counted round and round. -/
def ticks : Program Platform UInt32 := do
  let microseconds ← Platform.call .uptime
  return UInt32.ofInt (microseconds.tdiv 1000)

/-- Set the calendar clock. -/
def setTime (time : UInt32) : Program Platform (Attempt Unit) := do
  let code ← Platform.call (.setClock time.toNat 0)
  if code ≠ 0 then return .error ⟨"settimeofday failed: " ++ code.repr⟩
  else
    Platform.report ("🕐 Clock set to " ++ (CalendarTime.ofSeconds time.toNat).toText)
    return .ok ()

/-- Start to set the calendar clock from the network, unless that has been done.  The second
component tells whether it has been done afterwards. -/
def startSync (started : Bool) : Program Platform (Attempt Unit × Bool) := do
  if started then return (.ok (), true)
  else
    match ← Platform.call .startTimeService with
    | .error reason => return (.error ⟨"Failed to start SNTP: " ++ reason.text⟩, false)
    | .ok () => return (.ok (), true)

end BoardClock

end HatchSensor
