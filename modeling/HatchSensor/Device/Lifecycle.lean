import HatchSensor.Device.Cycle
import HatchSensor.Device.Phase

/-!
# The life of the device

Whenever the device wakes up it runs the stored phase, possibly several phases in a row, until one
of them asks for sleep.  A requested factory reset comes first.  Before it sleeps the device waits
for the button to be released, because a held button would wake it at once.

`Stage` is a position in this course of events and `Stage.advance` the next piece of it, so that
the life of a device is `advance` applied over and over.
-/

namespace HatchSensor

namespace Lifecycle

/-- Seconds of sleep after nobody has provisioned the device. -/
def retryInterval : UInt32 := 3600

/-- Seconds of sleep between two phases that must not share the radio. -/
def handOff : UInt32 := 1

/-- Seconds of the shortest sleep. -/
def shortestSleep : Nat := 1

/-- The least time the device waits for the button to be released. -/
def shortestRelease : Nat := 10000000

/-! ## Phases

A phase ends with the seconds of sleep it asks for; zero asks for the next phase. -/

/-- Give up the hatch and the credentials and start over.  The readings and the identity stay. -/
def factoryReset : DeviceProgram UInt32 := do
  DeviceProgram.store .store HatchConfig.clear
  DeviceProgram.store .store Credentials.clear
  DeviceProgram.store .store (Phase.save .provisioning)
  DeviceProgram.ask (Surroundings.clear .resetRequested)
  return handOff

/-- Set the clock to the time the client asked for, if it asked. -/
def setRequestedTime : Program Surroundings Unit := do
  match ← Surroundings.takeRequestedTime with
  | none => return ()
  | some time =>
    let _ ← Surroundings.setTime time
    return ()

/-- Let a client provision the device. -/
def provision (device : DeviceSettings) : DeviceProgram UInt32 := do
  DeviceProgram.ask (Surroundings.clear .credentialsReady)
  match ← DeviceProgram.ask
      (Surroundings.openProvisioning (Session.start device.fallbackName)) with
  | .error reason =>
    DeviceProgram.ask (Surroundings.report (.provisioningUnavailable reason))
    return retryInterval
  | .ok () =>
    let bits ← DeviceProgram.ask (awaitSignal .credentialsReady device.timing.provisioningWindow)
    let _ ← DeviceProgram.ask (Surroundings.closeProvisioning)
    DeviceProgram.ask setRequestedTime
    if bits.contains .resetRequested then return 0
    else if !bits.contains .credentialsReady then return retryInterval
    else
      match ← DeviceProgram.ask (onBlobs Credentials.load) with
      | none => return retryInterval
      | some _ =>
        DeviceProgram.ask (Surroundings.clear .credentialsReady)
        DeviceProgram.store .store (Phase.save .configuring)
        return handOff

/-- Go online and ask the cloud for a hatch. -/
def askForHatch (device : DeviceSettings) (current : HatchConfig) :
    Program Surroundings (Option ShadowOutcome) := do
  let outcome ←
    match ← bringUp device.timing with
    | .up => fetchShadow device current
    | .down => pure none
    | .resetRequested => pure (some .resetRequested)
  Surroundings.leave
  return outcome

/-- Ask the cloud for a hatch and start to watch it. -/
def configure (device : DeviceSettings) : DeviceProgram UInt32 := do
  let current ← DeviceProgram.ask (onBlobs HatchConfig.load)
  match ← DeviceProgram.ask (askForHatch device current) with
  | some (.updated config) =>
    let now ← DeviceProgram.ask (Surroundings.time)
    if config.ended now then return Cycle.fallbackInterval
    else
      DeviceProgram.store .configNotStored config.resetCounters.save
      DeviceProgram.store .store (Phase.save .measuring)
      return 0
  | some .resetRequested => return 0
  | some .notReceived => return Cycle.fallbackInterval
  | none => return Cycle.fallbackInterval

/-- Take a reading. -/
def measure (device : DeviceSettings) : DeviceProgram UInt32 := do
  match ← Cycle.run device with
  | .sleep seconds => return seconds
  | .hatchEnded =>
    DeviceProgram.store .store (Phase.save .configuring)
    return 0
  | .resetRequested => return 0

/-- Run the stored phase, or a factory reset if one is requested. -/
def step (device : DeviceSettings) : DeviceProgram UInt32 := do
  let bits ← DeviceProgram.ask (Surroundings.signals)
  if bits.contains .resetRequested then factoryReset
  else
    match ← DeviceProgram.ask (onBlobs Phase.load) with
    | .unknown =>
      DeviceProgram.store .store (Phase.save .provisioning)
      return 0
    | .provisioning => provision device
    | .configuring => configure device
    | .measuring => measure device

/-! ## Stages -/

/-- Where the device is between waking up and sleeping. -/
inductive Stage where
  /-- About to run a phase. -/
  | awake
  /-- About to sleep: the seconds last asked for and the milliseconds left of them. -/
  | settling (requested : UInt32) (remaining : Nat)
  /-- Asleep for the given seconds. -/
  | asleep (seconds : UInt32)
  /-- Unable to go on. -/
  | failed (reason : DeviceError)
deriving DecidableEq

namespace Stage

/-- The stage that a phase leads to. -/
def afterStep : Except DeviceError UInt32 → Stage
  | .error reason => failed reason
  | .ok seconds => if seconds = 0 then awake else settling seconds (seconds.toNat * 1000)

/-- The seconds to sleep for the milliseconds that are left: rounded up, at least one. -/
def sleepSeconds (remaining : Nat) : UInt32 :=
  UInt32.ofNat (max (min ((remaining + 999) / 1000) 0xffffffff) shortestSleep)

/-- Go to sleep for the milliseconds that are left. -/
def fallAsleep (remaining : Nat) : Program Surroundings Stage := do
  let seconds := sleepSeconds remaining
  Surroundings.sleep seconds
  return asleep seconds

/-- Wait for the button to be released, if it is held, and go to sleep.  A reset that is requested
meanwhile is carried out, and its own sleep takes the place of the one asked for before. -/
def settle (requested : UInt32) (remaining : Nat) : Program Surroundings Stage := do
  let bits ← Surroundings.signals
  if !bits.contains .buttonPressed then fallAsleep remaining
  else
    let started ← Surroundings.ticks
    let bits ← awaitSignal .buttonReleased (max (requested.toNat * 1000000) shortestRelease)
    let ended ← Surroundings.ticks
    if bits.contains .resetRequested then return afterStep (← factoryReset.run)
    else fallAsleep (remaining - (tickDuration started ended).toNat)

/-- The next piece of the life of the device. -/
def advance (device : DeviceSettings) : Stage → Program Surroundings Stage
  | awake => do return afterStep (← (step device).run)
  | settling requested remaining => settle requested remaining
  | stage => .done stage

/-- Whether nothing more happens before the device is woken up. -/
def isOver : Stage → Bool
  | asleep _ => true
  | failed _ => true
  | _ => false

/-- At most `rounds` pieces of the life of the device. -/
def advanceMany (device : DeviceSettings) : Nat → Stage → Program Surroundings Stage
  | 0, stage => .done stage
  | rounds + 1, stage =>
    if stage.isOver then .done stage
    else do advanceMany device rounds (← advance device stage)

end Stage

/-- One waking period of at most `rounds` pieces. -/
def boot (device : DeviceSettings) (rounds : Nat) : Program Surroundings Stage :=
  Stage.advanceMany device rounds .awake

/-- At most `periods` waking periods, one after the other, until something fails. -/
def live (device : DeviceSettings) (rounds : Nat) : Nat → Program Surroundings Stage
  | 0 => .done .awake
  | periods + 1 => do
    match ← boot device rounds with
    | .failed reason => return .failed reason
    | _ => live device rounds periods

end Lifecycle

end HatchSensor
