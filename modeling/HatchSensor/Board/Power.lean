import HatchSensor.Board.Platform

/-!
# Waking up, sleeping, and the name of the board

The board sleeps until its timer or its button wakes it up.  Its name is made of the address it
was made with.
-/

namespace HatchSensor

namespace BoardPower

def buttonPin : Nat := 0

/-- The cause of the wake-up that a code stands for. -/
def causeOfCode (code : Int) : WakeCause :=
  if code = 4 then .timer else if code = 2 then .button else .powerOn

/-- Why the board woke up. -/
def wakeCause : Program Platform WakeCause := do
  return causeOfCode (← Platform.call .wakeCause)

/-- Sleep for some seconds, or until the button is pressed. -/
def sleep (seconds : UInt32) : Program Platform Unit := do
  let _ ← Platform.call (.armTimer (seconds.toNat * 1000000))
  let _ ← Platform.call (.armPin buttonPin 0)
  Platform.call .startSleep

end BoardPower

namespace BoardName

/-- Bytes as capital hexadecimal digits. -/
def capitals (bytes : Bytes) : String :=
  String.ofList ((bytes.flatMap Bytes.hexPair).map Char.toUpper)

/-- The name of the device while it has no stored identity. -/
def device : Program Platform String := do
  return "peep-" ++ Bytes.toHex (← Platform.call .macAddress)

/-- The name under which the device advertises. -/
def advertised : Program Platform String := do
  return "Peep-" ++ capitals ((← Platform.call .macAddress).drop 3)

end BoardName

end HatchSensor
