import HatchSensor.Board.Power
import HatchSensor.Board.Startup

/-!
# The button of the board

The button pulls its pin down while it is held.  A timer of the chip samples it, so that presses
are seen even while the device waits for the network.
-/

namespace HatchSensor

namespace BoardButton

/-- Make the pin of the button an input that is pulled up.  The part of the chip that does not
sleep may still hold the pin, because it watched the pin during the sleep. -/
def configure : Startup Unit := do
  let _ ← Startup.perform (Platform.call (.releasePin BoardPower.buttonPin))
  Startup.expect "Failed to configure reset button GPIO" (Platform.call .openInput)
  Startup.expect "Failed to set reset button pull-up" (Platform.call .pullUp)

/-- Start to sample the button, given the cause of the wake-up.  The button is looked at once even
if the timer cannot be started. -/
def startMonitor (cause : WakeCause) : Startup Unit := do
  Startup.perform (Platform.watchButton cause)
  Startup.expect "Failed to create timer service" (Platform.call .openTimerService)
  Startup.expect "Failed to create button timer" (Platform.call .createTimer)
  Startup.expect "Failed to start button timer" (Platform.call (.startTimer debounceInterval))

end BoardButton

end HatchSensor
