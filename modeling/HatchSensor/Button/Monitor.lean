import HatchSensor.Button.Detector
import HatchSensor.Signals.Register

/-!
# The button monitor

The monitor samples the button and owns its two signal bits.  Every edge clears one of them and
raises the other; a long press raises the reset bit, which the monitor never clears.
-/

namespace HatchSensor

/-- Why the device woke up. -/
inductive WakeCause where
  /-- Power was applied. -/
  | powerOn
  /-- The sleep was over. -/
  | timer
  /-- The button was pressed. -/
  | button
deriving DecidableEq, Inhabited

namespace ButtonMonitor

/-- Start monitoring.  A button that is down, or that caused the wake-up, counts as pressed at
once. -/
def start (register : SignalRegister) (cause : WakeCause) (level : Bool) (now : Nat) :
    ButtonDetector × SignalRegister :=
  let pressed := cause == .button || level
  let register :=
    if pressed then (register.clear .buttonReleased).set .buttonPressed else register
  (ButtonDetector.start pressed now, register)

/-- What an event does to the register; tells whether a parked waiter was woken. -/
def publish (register : SignalRegister) : ButtonEvent → SignalRegister × Bool
  | .pressed => (register.clear .buttonReleased).setFromInterrupt .buttonPressed
  | .released _ => (register.clear .buttonPressed).setFromInterrupt .buttonReleased
  | .resetRequested => register.setFromInterrupt .resetRequested
  | .resetReleased => (register.clear .buttonPressed).setFromInterrupt .buttonReleased

/-- Take one sample of the button. -/
def poll (detector : ButtonDetector) (register : SignalRegister) (level : Bool) (now : Nat) :
    ButtonDetector × SignalRegister × Bool :=
  match detector.sample level now with
  | (next, none) => (next, register, false)
  | (next, some event) => (next, publish register event)

end ButtonMonitor

end HatchSensor
