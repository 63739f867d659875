import HatchSensor.Blob.Store
import HatchSensor.Signals.Register
import HatchSensor.Reading.Basic
import HatchSensor.Provisioning.Session

/-!
# The surroundings of the device

Everything a phase of the device can ask of its surroundings: the blob store, the signal register,
the sensor, the clocks, the network link, the cloud, the provisioning transport and the power
supply.  A phase is a program over this signature, so that nothing is assumed about the
surroundings beyond the types of their answers.

Durations and instants are microseconds.
-/

namespace HatchSensor

/-- What a part of the surroundings says when it fails. -/
structure Fault where
  /-- The wording of the failure. -/
  text : String
deriving DecidableEq, Inhabited

/-- The outcome of asking a part of the surroundings for something. -/
abbrev Attempt (α : Type) := Except Fault α

/-- Why a parked wait goes on. -/
inductive Wake where
  /-- A bit of its mask is set; these are all bits of the register. -/
  | signalled (bits : SignalBits)
  /-- The wait has lasted as long as it may. -/
  | expired
  /-- The timer beside the wait has run out. -/
  | elapsed
deriving DecidableEq

/-- What one step of the cloud session brings. -/
structure Pumped where
  /-- The shadow documents that arrived, in order. -/
  documents : List Bytes
  /-- How the step ended. -/
  outcome : Attempt Unit
deriving Inhabited

/-- Something worth telling the operator. -/
inductive Notice where
  /-- A reading could not be added to the log. -/
  | readingLost (time : UInt32) (reason : StoreError)
  /-- Acceptable credentials could not be stored. -/
  | credentialsLost (reason : CommandError)
  /-- The provisioning transport could not be opened. -/
  | provisioningUnavailable (reason : Fault)
deriving DecidableEq

namespace Notice

/-- The wording of the notice. -/
def message : Notice → String
  | readingLost time reason =>
    "❌ Failed to buffer measurement at " ++ time.toNat.repr ++ ": " ++ reason.message
  | credentialsLost reason => "❌ Failed to store BLE credentials: " ++ reason.message
  | provisioningUnavailable reason => "❌ Failed to start BLE provisioning: " ++ reason.text

end Notice

/-- A request of a phase to its surroundings. -/
inductive DeviceRequest where
  /-- A request to the blob store. -/
  | blob (request : BlobRequest)
  /-- The bits that are set. -/
  | signals
  /-- Set bits. -/
  | raise (bits : SignalBits)
  | clear (bits : SignalBits)
  /-- The identity of a new wait. -/
  | openWait
  /-- Look at the register on behalf of a wait, which is parked if none of its bits is set. -/
  | look (id : UInt32) (mask : SignalBits)
  /-- Stay parked until a bit of the mask is set, the deadline is over, or the timer has run
  out. -/
  | park (id : UInt32) (mask : SignalBits) (deadline : Nat) (timer : Option Nat)
  /-- End a wait. -/
  | closeWait (id : UInt32)
  /-- The present instant. -/
  | instant
  /-- Read the sensor. -/
  | sense
  /-- The calendar clock, set or not. -/
  | time
  /-- The millisecond counter. -/
  | ticks
  /-- Set the calendar clock. -/
  | setTime (time : UInt32)
  /-- Start to set the calendar clock from the network. -/
  | startTimeSync
  /-- Join a network, taking at most the given time. -/
  | join (credentials : Credentials) (timeout : Nat)
  /-- Leave the network. -/
  | leave
  /-- Open a session with the cloud under a name. -/
  | connect (client : String) (timeout : Nat)
  /-- Ask the cloud for the shadow of a thing. -/
  | requestShadow (thing : String)
  /-- Let the cloud session work for a while. -/
  | pump (timeout : Nat)
  /-- Publish a payload and wait until the cloud has it. -/
  | publish (topic : String) (payload : Bytes) (timeout : Nat)
  /-- Close the session with the cloud. -/
  | disconnect
  /-- Open the provisioning transport for a session. -/
  | openProvisioning (session : Session)
  /-- Close the provisioning transport. -/
  | closeProvisioning
  /-- Take the time that the client of the last session asked to set. -/
  | takeRequestedTime
  | sleep (seconds : UInt32)
  /-- Tell the operator something. -/
  | report (notice : Notice)

/-- What the surroundings answer. -/
def DeviceRequest.Answer : DeviceRequest → Type
  | blob request => request.Answer
  | signals => SignalBits
  | raise _ => Unit
  | clear _ => Unit
  | openWait => UInt32
  | look _ _ => Option SignalBits
  | park _ _ _ _ => Wake
  | closeWait _ => Unit
  | instant => Nat
  | sense => Attempt Climate
  | time => UInt32
  | ticks => UInt32
  | setTime _ => Attempt Unit
  | startTimeSync => Attempt Unit
  | join _ _ => Attempt Unit
  | leave => Unit
  | connect _ _ => Attempt Unit
  | requestShadow _ => Attempt Unit
  | pump _ => Pumped
  | publish _ _ _ => Attempt Unit
  | disconnect => Unit
  | openProvisioning _ => Attempt Unit
  | closeProvisioning => Attempt Unit
  | takeRequestedTime => Option UInt32
  | sleep _ => Unit
  | report _ => Unit

/-- The surroundings of a phase. -/
def Surroundings : Signature := ⟨DeviceRequest, DeviceRequest.Answer⟩

def Surroundings.ask (request : DeviceRequest) : Program Surroundings request.Answer :=
  Program.request (S := Surroundings) request

namespace Surroundings

/-- The bits that are set. -/
def signals : Program Surroundings SignalBits := ask .signals

/-- Set bits. -/
def raise (bits : SignalBits) : Program Surroundings Unit := ask (.raise bits)

def clear (bits : SignalBits) : Program Surroundings Unit := ask (.clear bits)

/-- The identity of a new wait. -/
def openWait : Program Surroundings UInt32 := ask .openWait

/-- Look at the register on behalf of a wait. -/
def look (id : UInt32) (mask : SignalBits) : Program Surroundings (Option SignalBits) :=
  ask (.look id mask)

/-- Stay parked. -/
def park (id : UInt32) (mask : SignalBits) (deadline : Nat) (timer : Option Nat) :
    Program Surroundings Wake :=
  ask (.park id mask deadline timer)

/-- End a wait. -/
def closeWait (id : UInt32) : Program Surroundings Unit := ask (.closeWait id)

/-- The present instant. -/
def instant : Program Surroundings Nat := ask .instant

/-- Read the sensor. -/
def sense : Program Surroundings (Attempt Climate) := ask .sense

/-- The calendar clock. -/
def time : Program Surroundings UInt32 := ask .time

/-- The millisecond counter. -/
def ticks : Program Surroundings UInt32 := ask .ticks

/-- Set the calendar clock. -/
def setTime (time : UInt32) : Program Surroundings (Attempt Unit) := ask (.setTime time)

/-- Start to set the calendar clock from the network. -/
def startTimeSync : Program Surroundings (Attempt Unit) := ask .startTimeSync

/-- Join a network. -/
def join (credentials : Credentials) (timeout : Nat) : Program Surroundings (Attempt Unit) :=
  ask (.join credentials timeout)

/-- Leave the network. -/
def leave : Program Surroundings Unit := ask .leave

/-- Open a session with the cloud. -/
def connect (client : String) (timeout : Nat) : Program Surroundings (Attempt Unit) :=
  ask (.connect client timeout)

/-- Ask the cloud for the shadow of a thing. -/
def requestShadow (thing : String) : Program Surroundings (Attempt Unit) :=
  ask (.requestShadow thing)

/-- Let the cloud session work for a while. -/
def pump (timeout : Nat) : Program Surroundings Pumped := ask (.pump timeout)

def publish (topic : String) (payload : Bytes) (timeout : Nat) :
    Program Surroundings (Attempt Unit) :=
  ask (.publish topic payload timeout)

/-- Close the session with the cloud. -/
def disconnect : Program Surroundings Unit := ask .disconnect

/-- Open the provisioning transport. -/
def openProvisioning (session : Session) : Program Surroundings (Attempt Unit) :=
  ask (.openProvisioning session)

/-- Close the provisioning transport. -/
def closeProvisioning : Program Surroundings (Attempt Unit) := ask .closeProvisioning

/-- Take the time that the client of the last session asked to set. -/
def takeRequestedTime : Program Surroundings (Option UInt32) := ask .takeRequestedTime

def sleep (seconds : UInt32) : Program Surroundings Unit := ask (.sleep seconds)

/-- Tell the operator something. -/
def report (notice : Notice) : Program Surroundings Unit := ask (.report notice)

end Surroundings

/-- A program over the blob store, as part of a phase. -/
def onBlobs {α : Type} (p : Program Blobs α) : Program Surroundings α :=
  p.expand fun request => Surroundings.ask (.blob request)

/-! ## Waiting -/

/-- Wait until one of the bits is set, a reset is requested, or the time is over.  The result is
the whole register at that moment. -/
def awaitSignal (mask : SignalBits) (timeout : Nat) : Program Surroundings SignalBits := do
  let mask := SignalRegister.waitMask mask
  let id ← Surroundings.openWait
  let start ← Surroundings.instant
  let bits ←
    match ← Surroundings.look id mask with
    | some bits => pure bits
    | none =>
      match ← Surroundings.park id mask (start + timeout) none with
      | .signalled bits => pure bits
      | _ => Surroundings.signals
  Surroundings.closeWait id
  return bits

end HatchSensor
