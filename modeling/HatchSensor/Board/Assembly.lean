import HatchSensor.Board.Broker
import HatchSensor.Board.Clock
import HatchSensor.Board.Sensor
import HatchSensor.Board.Transport

/-!
# The assembled board

What the drivers of one board remember between two calls, and each of them as a task on the whole
board.  As in the attribute server, provisioning sessions have a type `η` of their own.
-/

namespace HatchSensor

/-- The memory of the drivers of a board. -/
structure Board (η : Type) where
  /-- Whether the sensor has been set up. -/
  sensorReady : Bool
  /-- Whether the network service for the time has been started. -/
  syncing : Bool
  /-- The radio and the attribute server on it. -/
  wireless : Wireless η
  broker : Option BrokerSession
  /-- The provisioning session that was closed last. -/
  closed : Option η
deriving Inhabited

namespace Board

variable {η : Type}

/-- The memory of drivers that have done nothing yet. -/
def start : Board η := ⟨false, false, .start, none, none⟩

/-- A piece of work of the drivers. -/
abbrev Task (η α : Type) := StateT (Board η) (Program Platform) α

/-! ## Sensor and clock -/

/-- Open the bus of a sensor that takes the place of the one before it. -/
def openSensor : Task η (Attempt Unit) := fun b => do
  match ← BoardSensor.openBus with
  | .error reason => return (.error reason, b)
  | .ok () => return (.ok (), { b with sensorReady := false })

/-- Read the sensor. -/
def sense : Task η (Attempt Climate) := fun b => do
  let (result, sensorReady) ← BoardSensor.read b.sensorReady
  return (result, { b with sensorReady })

/-- Start to set the calendar clock from the network. -/
def startTimeSync : Task η (Attempt Unit) := fun b => do
  let (result, syncing) ← BoardClock.startSync b.syncing
  return (result, { b with syncing })

/-! ## Wireless network -/

/-- Join a network. -/
def join (credentials : Credentials) (timeout : Nat) : Task η (Attempt Unit) := fun b => do
  let (result, radio) ← (Wifi.join credentials timeout).run b.wireless.radio
  return (result, { b with wireless := { b.wireless with radio } })

/-- Leave the network. -/
def leave : Task η Unit := fun b => do
  let radio ← Wifi.leave b.wireless.radio
  return ((), { b with wireless := { b.wireless with radio } })

/-! ## Cloud -/

/-- Open a session with the cloud, with the stored identity. -/
def connect (stored : IdentityItem → Program Platform (Option String)) (client : String)
    (timeout : Nat) : Task η (Attempt Unit) := fun b => do
  let (result, broker) ← Broker.connect stored client timeout b.broker
  return (result, { b with broker })

/-- Ask for the shadow of a thing. -/
def requestShadow (thing : String) : Task η (Attempt Unit) := fun b => do
  let (result, broker) ← Broker.requestShadow thing b.broker
  return (result, { b with broker })

/-- Let the session with the cloud work. -/
def pump (timeout : Nat) : Task η Pumped := fun b => do
  return (← Broker.pump timeout b.broker, b)

def publish (topic : String) (payload : Bytes) (timeout : Nat) : Task η (Attempt Unit) :=
  fun b => do
    return (← Broker.publish topic payload timeout b.broker, b)

/-- Close the session with the cloud. -/
def disconnect : Task η Unit := fun b => do
  Broker.disconnect b.broker
  return ((), { b with broker := none })

/-! ## Provisioning -/

/-- Open the provisioning transport for a session. -/
def openProvisioning (name : String) (session : η) : Task η (Attempt Unit) := fun b => do
  let (result, wireless) ← b.wireless.enable name session
  return (result, { b with wireless })

/-- Close the provisioning transport. -/
def closeProvisioning : Task η (Attempt Unit) := fun b => do
  let (result, wireless) ← b.wireless.disable
  return (result, { b with wireless, closed := b.wireless.gatt.session })

/-- Go through an event of the attribute server. -/
def attend (client : GattClient η) (interface : Nat) (event : GattEvent) : Task η Unit :=
  fun b => do
    let (_, gatt) ← Gatt.handle client interface event b.wireless.gatt
    return ((), { b with wireless := { b.wireless with gatt } })

/-- Go through an event of the advertising. -/
def advertise (event : AdvertisingEvent) : Task η Unit := fun b => do
  b.wireless.gatt.handleAdvertising event
  return ((), b)

/-! ## Shutting down -/

/-- Give up every driver that exists. -/
def dispose (b : Board η) : Program Platform Unit := do
  if b.wireless.radio.wifi.hasDriver then Platform.call .dropWifi
  Broker.disconnect b.broker
  if b.wireless.radio.transport.hasDriver then Platform.call .dropBluetooth

end Board

end HatchSensor
