import HatchSensor.Shadow.Exchange
import HatchSensor.Clock

/-!
# Going online

Joining the stored network and getting a believable clock, and the shadow exchange of this device.
Whoever brings the link up takes it down again.
-/

namespace HatchSensor

/-- How long the device waits for what. -/
structure DeviceTiming where
  /-- How long a provisioning session is open. -/
  provisioningWindow : Nat
  /-- How long joining a network may take. -/
  linkTimeout : Nat
  /-- How often the clock is looked at after the synchronisation was started. -/
  syncRetries : Nat
  /-- The time between two looks at the clock. -/
  syncInterval : Nat
  /-- The pace of the shadow exchange. -/
  shadow : PumpSchedule
deriving DecidableEq, Inhabited

/-- The timing of a device in the field. -/
def DeviceTiming.standard : DeviceTiming where
  provisioningWindow := 600000000
  linkTimeout := 30000000
  syncRetries := 10
  syncInterval := 2000000
  shadow := ⟨500000, 500000, 60⟩

/-- What is fixed about a device. -/
structure DeviceSettings where
  /-- The name of the device while it has no stored identity. -/
  fallbackName : String
  timing : DeviceTiming
deriving DecidableEq, Inhabited

/-- The outcome of going online. -/
inductive LinkStatus where
  /-- The link is up and the clock is set. -/
  | up
  /-- There is no link, or no clock. -/
  | down
  /-- A reset was requested meanwhile. -/
  | resetRequested
deriving DecidableEq

/-- Look at the clock after each interval until it can be believed. -/
def awaitTime (interval : Nat) : Nat → Program Surroundings Bool
  | 0 => .done false
  | retries + 1 => do
    let bits ← awaitSignal .none interval
    if bits.contains .resetRequested then return false
    else
      let now ← Surroundings.time
      if isValidTime now then return true
      else awaitTime interval retries

/-- Get a believable clock, from the network if need be. -/
def syncTime (timing : DeviceTiming) : Program Surroundings Bool := do
  let now ← Surroundings.time
  if isValidTime now then return true
  else
    match ← Surroundings.startTimeSync with
    | .error _ => return false
    | .ok () => awaitTime timing.syncInterval timing.syncRetries

/-- Join the stored network and get a believable clock. -/
def bringUp (timing : DeviceTiming) : Program Surroundings LinkStatus := do
  match ← onBlobs Credentials.load with
  | none => return .down
  | some credentials =>
    Surroundings.clear (SignalBits.linkUp.union .linkDown)
    match ← Surroundings.join credentials timing.linkTimeout with
    | .error _ => return .down
    | .ok () =>
      let bits ← awaitSignal .linkUp timing.linkTimeout
      if bits.contains .resetRequested then return .resetRequested
      else if !bits.contains .linkUp then return .down
      else
        if ← syncTime timing then return .up
        else
          let bits ← Surroundings.signals
          if bits.contains .resetRequested then return .resetRequested else return .down

/-- The shadow exchange of this device; nothing if it failed. -/
def fetchShadow (device : DeviceSettings) (current : HatchConfig) :
    Program Surroundings (Option ShadowOutcome) := do
  let name ← onBlobs (cloudName device.fallbackName)
  match ← ShadowExchange.fetch device.timing.shadow name current with
  | .ok outcome => return some outcome
  | .error _ => return none

end HatchSensor
