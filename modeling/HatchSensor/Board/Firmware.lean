import HatchSensor.Board.Assembly
import HatchSensor.Board.Button
import HatchSensor.Board.FlashStore
import HatchSensor.Device.Lifecycle

/-!
# The firmware

When the board wakes up, the firmware takes the parts of the chip one after the other, starts to
watch the button, and hands over to the life of the device.  The first part that is missing stops
it.

The blobs lie in flash memory, the client of a provisioning session writes to them through the
attribute server, and the cloud is entered with the identity that is stored there.
-/

namespace HatchSensor

namespace Firmware

/-! ## Starting -/

/-- What the firmware knows once it has started. -/
structure Setup where
  /-- The name of the device while it has no stored identity. -/
  fallbackName : String
  /-- The name under which it advertises. -/
  advertisedName : String
deriving DecidableEq, Inhabited

/-- Take the parts of the chip that everything else needs. -/
def takeChip : Startup Unit := do
  Startup.perform (Platform.call .linkPatches)
  Startup.expect "Failed to take peripherals" (Platform.call .takePeripherals)
  Startup.expect "Failed to take system event loop" (Platform.call .takeEventLoop)
  Startup.expect "Failed to take NVS partition" (Platform.call .takePartition)

/-- Start the firmware. -/
def setUp : Startup Setup := do
  takeChip
  let fallbackName ← Startup.perform BoardName.device
  Startup.expect "Failed to open NVS store" (Platform.call (.openStore FlashStore.area true))
  let cause ← Startup.perform BoardPower.wakeCause
  BoardButton.configure
  BoardButton.startMonitor cause
  Startup.require BoardSensor.openBus
  let advertisedName ← Startup.perform BoardName.advertised
  let _ ← Startup.perform (FlashStore.run (cloudName fallbackName))
  return { fallbackName, advertisedName }

def Setup.device (s : Setup) : DeviceSettings where
  fallbackName := s.fallbackName
  timing := .standard

/-! ## Between the life of the device and the drivers -/

/-- Write a payload to a session.  A client that has finished is signalled. -/
def writeTo (session : Session) (payload : Bytes) : Program Platform (Session × Option Bytes) := do
  let (effect, session) ← FlashStore.run (session.write payload)
  if effect.finished then Platform.raise .credentialsReady
  match effect.refused with
  | some reason => Platform.report (Notice.credentialsLost reason).message
  | none => pure ()
  return (session, effect.reply.map fun reply => Bytes.encodeUtf8 reply.toText)

/-- Read the identity from a session. -/
def readFrom (session : Session) : Program Platform Bytes := do
  return Bytes.encodeUtf8 (← FlashStore.run session.read)

/-- Provisioning sessions as the attribute server sees them. -/
def client : GattClient Session := ⟨writeTo, readFrom⟩

/-- A stored part of the identity. -/
def stored (item : IdentityItem) : Program Platform (Option String) :=
  FlashStore.run item.load

/-- Take the time that the client of the session that was closed last asked to set. -/
def takeRequestedTime : Board.Task Session (Option UInt32) := fun b =>
  match b.closed with
  | none => pure (none, b)
  | some session =>
    let (time, session) := session.takeTime
    pure (time, { b with closed := some session })

/-- The line about a device that cannot go on. -/
def haltLine (reason : String) : String :=
  "❌ Halted: " ++ reason

end Firmware

end HatchSensor
