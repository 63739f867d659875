import HatchSensor.Board.Platform

/-!
# The attribute server of the board

The client of a provisioning session talks to one attribute of one service.  It reads the identity
from it and writes its messages to it, whole or in prepared chunks that are put together and then
executed.  Replies go out as notifications.

The server does not know what a session is: sessions have a type `η` of their own, and a `Client`
says what writing to one and reading from one means.  The server goes through its events even
while no session is open, and then writes are dropped and reads are empty.
-/

namespace HatchSensor

/-- What the server does with a session. -/
structure GattClient (η : Type) where
  /-- Write a payload; the session afterwards and the reply. -/
  write : η → Bytes → Program Platform (η × Option Bytes)
  /-- Read the identity. -/
  read : η → Program Platform Bytes

/-- The state of the server. -/
structure Gatt (η : Type) where
  /-- The session that is open. -/
  session : Option η
  /-- The chunks that are prepared so far, put together. -/
  prepared : Bytes
  /-- The interface of the application, zero if there is none. -/
  interface : Nat
  /-- The handle of the attribute, zero if there is none. -/
  characteristic : Nat
  /-- The last connection. -/
  connection : Nat
  /-- Whether the last connection is open. -/
  connected : Bool
  /-- Whether the device may advertise. -/
  advertising : Bool
deriving Inhabited

structure ReadRequest where
  /-- The connection it comes over. -/
  connection : Nat
  /-- The number of the request. -/
  transaction : Nat
  /-- The attribute. -/
  handle : Nat
  /-- Where in the attribute to start. -/
  offset : Nat
  /-- Whether a response is wanted. -/
  needsResponse : Bool
deriving DecidableEq, Inhabited

structure WriteRequest extends ReadRequest where
  /-- Whether the value is only a chunk to be kept for later. -/
  isPrepared : Bool
  value : Bytes
deriving DecidableEq, Inhabited

/-- An event of the server. -/
inductive GattEvent where
  /-- The application is registered. -/
  | registered
  | serviceCreated (service : Nat)
  | attributeAdded (handle service : Nat)
  /-- A client has connected. -/
  | connected (connection : Nat)
  /-- The client has disconnected. -/
  | disconnected
  /-- A client reads. -/
  | read (request : ReadRequest)
  /-- A client writes. -/
  | write (request : WriteRequest)
  /-- A client executes what it has prepared, or cancels it. -/
  | execute (connection transaction : Nat) (cancelled : Bool)
  /-- Anything else. -/
  | other
deriving DecidableEq, Inhabited

inductive AdvertisingEvent where
  /-- What advertisements say is set. -/
  | dataSet
  /-- Anything else. -/
  | other
deriving DecidableEq, Inhabited

namespace Gatt

variable {η : Type}

/-- The server of a board that has just been switched on. -/
def start : Gatt η := ⟨none, [], 0, 0, 0, false, false⟩

/-! ## Constants -/

/-- The application. -/
def app : Nat := 0

def serviceUuid : Nat := 0x00ff

def attributeUuid : Nat := 0xff01

/-- The descriptor that turns notifications on. -/
def descriptorUuid : Nat := 0x2902

def serviceHandles : Nat := 4

/-- Permission to read and to write. -/
def readWrite : Nat := 1 ||| 16

/-- The attribute can be read, written, and notified. -/
def properties : Nat := 2 ||| 8 ||| 16

/-- The longest payload that can be prepared. -/
def writeLimit : Nat := 4096

/-- The longest value of a response. -/
def responseLimit : Nat := 600

/-- The service, in the form advertisements use. -/
def advertisedService : Bytes :=
  [0xfb, 0x34, 0x9b, 0x5f, 0x80, 0x00, 0x00, 0x80, 0x00, 0x10, 0x00, 0x00, 0xff, 0x00, 0x00, 0x00]

/-- Advertise every 20 to 40 milliseconds on all channels, to everybody. -/
def advertisingParameters : AdvertisingParameters where
  shortest := 0x20
  longest := 0x40
  kind := 0
  ownAddress := 0
  peer := [0, 0, 0, 0, 0, 0]
  peerAddress := 0
  channels := 7
  filter := 0

/-- Advertise the name and the service of a device that is always discoverable. -/
def advertisingData : AdvertisingData where
  isScanResponse := false
  includesName := true
  includesPower := false
  shortest := 6
  longest := 16
  appearance := 0
  service := advertisedService
  flags := 2 ||| 4

/-! ## Calls -/

/-- A piece of the server. -/
abbrev Server (η α : Type) := StateT (Gatt η) (Program Platform) α

/-- The wording of a call that failed with a code. -/
def failureText (what : String) (code : Int) : String :=
  what ++ " failed: esp_err " ++ code.repr

/-- Tell the operator if a call failed. -/
def logCode (what : String) (code : Int) : Program Platform Unit :=
  if code = 0 then pure () else Platform.report ("❌ " ++ failureText what code)

/-- Start to advertise, if the device may. -/
def startAdvertising (g : Gatt η) : Program Platform Unit := do
  if g.advertising then
    logCode "Advertising start" (← Platform.call (.startAdvertising advertisingParameters))

/-- Send a response, cut off at its limit. -/
def respond (interface connection transaction handle offset : Nat) (value : Bytes) :
    Program Platform Unit := do
  let value := value.take responseLimit
  logCode "GATT response"
    (← Platform.call (.respond ⟨interface, connection, transaction, handle, offset, value⟩))

/-- Notify the client of a reply, if there is one. -/
def notify (g : Gatt η) (payload : Bytes) : Program Platform Unit := do
  if g.characteristic ≠ 0 ∧ g.connected then
    logCode "Reply notification"
      (← Platform.call (.notify g.interface g.connection g.characteristic payload))

/-! ## Events -/

/-- Put a chunk at its place.  Bytes that are missing before it are zero.  A payload that gets too
long is dropped. -/
def prepare (prepared : Bytes) (offset : Nat) (chunk : Bytes) : Bytes :=
  let last := offset + chunk.length
  if writeLimit < last then []
  else
    let filled := prepared ++ List.replicate (last - prepared.length) 0
    filled.take offset ++ chunk ++ filled.drop last

/-- Write a payload to the session and notify the client of the reply. -/
def deliver (client : GattClient η) (payload : Bytes) : Server η Unit := fun g =>
  match g.session with
  | none => pure ((), g)
  | some session => do
    let (session, reply) ← client.write session payload
    let g := { g with session := some session }
    match reply with
    | none => return ((), g)
    | some reply =>
      g.notify reply
      return ((), g)

/-- Read from the session. -/
def identity (client : GattClient η) (g : Gatt η) : Program Platform Bytes :=
  match g.session with
  | none => pure []
  | some session => client.read session

def handleRead (client : GattClient η) (interface : Nat) (r : ReadRequest) : Server η Unit := do
  let g ← get
  if r.needsResponse then
    let value ← if r.handle = g.characteristic then identity client g else pure []
    respond interface r.connection r.transaction r.handle r.offset (value.drop r.offset)

/-- A client writes.  A chunk is sent back to it; a whole value is acknowledged before it is
delivered. -/
def handleWrite (client : GattClient η) (interface : Nat) (r : WriteRequest) :
    Server η Unit := do
  let isConfig := r.handle == (← get).characteristic
  if r.isPrepared then
    if isConfig then modify fun g => { g with prepared := prepare g.prepared r.offset r.value }
    if r.needsResponse then
      respond interface r.connection r.transaction r.handle r.offset r.value
  else
    if r.needsResponse then
      respond interface r.connection r.transaction r.handle r.offset []
    if isConfig then deliver client r.value

/-- A client executes what it has prepared, or cancels it. -/
def handleExecute (client : GattClient η) (interface connection transaction : Nat)
    (cancelled : Bool) : Server η Unit := do
  respond interface connection transaction 0 0 []
  let payload := (← get).prepared
  modify fun g => { g with prepared := [] }
  if !cancelled && !payload.isEmpty then deliver client payload

/-- Go through an event that comes over an interface. -/
def handle (client : GattClient η) (interface : Nat) : GattEvent → Server η Unit
  | .registered => do
    modify fun g => { g with interface }
    logCode "Advertising data configuration"
      (← Platform.call (.setAdvertisingData advertisingData))
    logCode "GATT service creation"
      (← Platform.call (.createService interface serviceUuid serviceHandles))
  | .serviceCreated service => do
    logCode "GATT service start" (← Platform.call (.startService service))
    logCode "Config characteristic creation"
      (← Platform.call (.addCharacteristic service attributeUuid readWrite properties))
  | .attributeAdded handle service => do
    modify fun g => { g with characteristic := handle }
    logCode "Notification descriptor creation"
      (← Platform.call (.addDescriptor service descriptorUuid readWrite))
  | .connected connection =>
    modify fun g => { g with connection, connected := true, prepared := [] }
  | .disconnected => do
    modify fun g => { g with connected := false }
    startAdvertising (← get)
  | .read request => handleRead client interface request
  | .write request => handleWrite client interface request
  | .execute connection transaction cancelled =>
    handleExecute client interface connection transaction cancelled
  | .other => pure ()

/-- Go through an event of the advertising. -/
def handleAdvertising (g : Gatt η) : AdvertisingEvent → Program Platform Unit
  | .dataSet => g.startAdvertising
  | .other => pure ()

end Gatt

end HatchSensor
