import HatchSensor.Device.Link
import HatchSensor.Reading.Log
import HatchSensor.Reading.Message

/-!
# The measurement cycle

One reading: take it, count it, and either add it to the log or go online and publish the whole
log with it.  The log is given up only after every reading in it has been published.
-/

namespace HatchSensor

/-- Why the device cannot go on. -/
inductive DeviceError where
  /-- The phase could not be stored, or something could not be forgotten. -/
  | store (reason : StoreError)
  /-- The configuration could not be stored. -/
  | configNotStored (reason : StoreError)
  /-- The log could not be forgotten. -/
  | logNotCleared (reason : StoreError)
deriving DecidableEq

namespace DeviceError

/-- The wording of the error. -/
def message : DeviceError → String
  | store reason => reason.message
  | configNotStored reason => "Failed to save hatch config: " ++ reason.message
  | logNotCleared reason => "Failed to clear measurement log: " ++ reason.message

end DeviceError

/-- A phase that may fail. -/
abbrev DeviceProgram (α : Type) := ExceptT DeviceError (Program Surroundings) α

def DeviceProgram.ask {α : Type} (p : Program Surroundings α) : DeviceProgram α :=
  ExceptT.mk do return .ok (← p)

/-- Carry out a store operation and explain its failure. -/
def DeviceProgram.store {α : Type} (explain : StoreError → DeviceError) (p : BlobProgram α) :
    DeviceProgram α :=
  ExceptT.mk do
    match ← onBlobs p.run with
    | .ok a => return .ok a
    | .error e => return .error (explain e)

/-- What follows a cycle. -/
inductive CycleOutcome where
  /-- Sleep and measure again. -/
  | sleep (seconds : UInt32)
  /-- The hatch is over. -/
  | hatchEnded
  /-- A reset was requested meanwhile. -/
  | resetRequested
deriving DecidableEq

/-- How publishing went. -/
inductive PublishOutcome where
  /-- Everything is published. -/
  | published
  /-- Something could not be published. -/
  | failed
  /-- The cloud could not be reached. -/
  | offline
  /-- A reset was requested meanwhile. -/
  | resetRequested
deriving DecidableEq

namespace Cycle

/-- The topic readings are published under. -/
def topic : String := "hatchtrack/data/put"

/-- How long publishing one reading may take. -/
def publishTimeout : Nat := 10000000

/-- Seconds of sleep after the cloud could not be reached. -/
def fallbackInterval : UInt32 := 900

/-- Add a reading to the log.  A failure is reported, and the cycle goes on. -/
def buffer (r : Reading) : Program Surroundings Unit := do
  match ← onBlobs (ReadingLog.append r).run with
  | .ok () => return ()
  | .error e => Surroundings.report (.readingLost r.time e)

/-- Publish readings in order, up to the first that fails. -/
def publishAll (name hatch : String) : List Reading → Program Surroundings PublishOutcome
  | [] => .done .published
  | r :: rest => do
    let payload := Bytes.encodeUtf8 (r.message name hatch)
    match ← Surroundings.publish topic payload publishTimeout with
    | .ok () => publishAll name hatch rest
    | .error _ => return .failed

/-- Publish the log and the current reading in one session. -/
def publishLog (device : DeviceSettings) (hatch : String) (current : Reading) :
    Program Surroundings PublishOutcome := do
  match ← onBlobs ReadingLog.readAll.run with
  | .error _ => return .failed
  | .ok readings =>
    let name ← onBlobs (cloudName device.fallbackName)
    match ← Surroundings.connect name ShadowExchange.connectTimeout with
    | .error _ => return .offline
    | .ok () =>
      let outcome ← publishAll name hatch (readings ++ [current])
      Surroundings.disconnect
      return outcome

/-- Go online, refresh the configuration and publish.  The second component is the configuration
in force afterwards. -/
def publishOnline (device : DeviceSettings) (config : HatchConfig) (current : Reading) :
    Program Surroundings (PublishOutcome × HatchConfig) := do
  match ← bringUp device.timing with
  | .down => return (.offline, config)
  | .resetRequested => return (.resetRequested, config)
  | .up =>
    match ← fetchShadow device config with
    | none => return (.offline, config)
    | some .resetRequested => return (.resetRequested, config)
    | some .notReceived => return (← publishLog device config.uuid current, config)
    | some (.updated refreshed) =>
      return (← publishLog device refreshed.uuid current, refreshed)

/-- Publish and leave the network. -/
def publish (device : DeviceSettings) (config : HatchConfig) (current : Reading) :
    Program Surroundings (PublishOutcome × HatchConfig) := do
  let outcome ← publishOnline device config current
  Surroundings.leave
  return outcome

/-- The reading that the sensor's values make at a time. -/
def readingOf (config : HatchConfig) (climate : Climate) (now : UInt32) : Reading where
  time := now
  temperature := config.corrected climate.temperature
  humidity := climate.humidity
  pressure := climate.pressure
  gas := climate.gas

/-- Log or publish a reading that has been counted; the result is how publishing went, if it was
tried, and the configuration in force afterwards. -/
def deliver (device : DeviceSettings) (config : HatchConfig) (current : Reading) :
    DeviceProgram (Option PublishOutcome × HatchConfig) :=
  match config.publishReason current.time with
  | none => do
    DeviceProgram.ask (buffer current)
    return (none, config)
  | some _ => do
    let (outcome, config) ← DeviceProgram.ask (publish device config current)
    match outcome with
    | .published =>
      DeviceProgram.store .logNotCleared ReadingLog.clear
      return (some outcome, config.resetCounters)
    | _ =>
      DeviceProgram.ask (buffer current)
      return (some outcome, config)

/-- What follows, given how publishing went and the stored configuration. -/
def outcome (config : HatchConfig) (now : UInt32) (published : Option PublishOutcome) :
    CycleOutcome :=
  if published = some .resetRequested then .resetRequested
  else if config.ended now then .hatchEnded
  else if published = some .offline then .sleep fallbackInterval
  else .sleep config.interval

/-- One cycle. -/
def run (device : DeviceSettings) : DeviceProgram CycleOutcome := do
  let config ← DeviceProgram.ask (onBlobs HatchConfig.load)
  match ← DeviceProgram.ask (Surroundings.sense) with
  | .error _ => return .sleep config.interval
  | .ok climate =>
    let now ← DeviceProgram.ask (Surroundings.time)
    let current := readingOf config climate now
    let (published, config) ← deliver device (config.record current.temperature) current
    DeviceProgram.store .configNotStored config.save
    return outcome config now published

end Cycle

end HatchSensor
