import HatchSensor.Program
import HatchSensor.Bytes
import HatchSensor.Number.Single
import HatchSensor.Signals.Bits
import HatchSensor.Button.Monitor

/-!
# The platform of the board

Everything the drivers of the board ask of the world: calls to the chip and its system services,
changes of the signal register, and lines for the operator.  A driver is a program over this
signature, so that it can be run against a chip whose calls fail in any combination.

Timeouts are microseconds.
-/

namespace HatchSensor

/-- The code of a call that failed. -/
structure ChipError where
  code : Int
deriving DecidableEq, Inhabited

/-- The wording of a failed call. -/
def ChipError.text (e : ChipError) : String :=
  "EspError(" ++ e.code.repr ++ ")"

/-- The outcome of a call that may fail. -/
abbrev Tried (α : Type) := Except ChipError α

/-! ## Arguments of calls -/

/-- How advertisements are sent. -/
structure AdvertisingParameters where
  /-- The shortest interval, in units of 0.625 ms. -/
  shortest : Nat
  /-- The longest interval, in units of 0.625 ms. -/
  longest : Nat
  /-- The kind of advertisement. -/
  kind : Nat
  /-- The kind of the device's own address. -/
  ownAddress : Nat
  /-- The address of the peer. -/
  peer : List Nat
  /-- The kind of the peer's address. -/
  peerAddress : Nat
  /-- The channels, one bit each. -/
  channels : Nat
  /-- Who may scan and connect. -/
  filter : Nat
deriving DecidableEq

/-- What advertisements say. -/
structure AdvertisingData where
  /-- Whether this is the answer to a scan. -/
  isScanResponse : Bool
  /-- Whether the name of the device is included. -/
  includesName : Bool
  /-- Whether the transmission power is included. -/
  includesPower : Bool
  /-- The shortest connection interval, in units of 1.25 ms. -/
  shortest : Nat
  /-- The longest connection interval, in units of 1.25 ms. -/
  longest : Nat
  /-- What the device looks like. -/
  appearance : Nat
  /-- The service that is offered. -/
  service : Bytes
  /-- The capabilities, one bit each. -/
  flags : Nat
deriving DecidableEq

/-- How a session with the broker is opened. -/
structure BrokerSettings where
  /-- The address of the broker. -/
  address : String
  /-- The name of the client. -/
  client : String
  /-- The certificate of the client. -/
  certificate : String
  /-- The private key of the client. -/
  privateKey : String
  /-- The certificate of the authority; without one the built-in authorities are trusted. -/
  rootCa : Option String
  /-- The seconds between two signs of life. -/
  keepAlive : Nat
  /-- How long the network may take. -/
  timeout : Nat
  /-- The size of the message buffer. -/
  bufferSize : Nat
  /-- Whether the broker keeps the state of earlier sessions. -/
  keepsState : Bool
deriving DecidableEq

/-- A response to a client of the provisioning service. -/
structure AttributeResponse where
  /-- The interface it is sent on. -/
  interface : Nat
  /-- The connection it is sent over. -/
  connection : Nat
  /-- The request it answers. -/
  transaction : Nat
  /-- The attribute. -/
  handle : Nat
  /-- Where in the attribute the value starts. -/
  offset : Nat
  value : Bytes
deriving DecidableEq

/-- What becomes of a session with the broker. -/
inductive BrokerEvent where
  /-- The session is open. -/
  | connected
  /-- The session is lost. -/
  | disconnected
  /-- A subscription is in force. -/
  | subscribed (id : Nat)
  /-- A message has been taken by the broker. -/
  | published (id : Nat)
  /-- A message has arrived. -/
  | received (topic : String) (data : Bytes)
  /-- Something went wrong. -/
  | failure (reason : ChipError)
deriving DecidableEq

/-- The outcome of waiting for an event of the session. -/
inductive Arrival where
  /-- An event has come. -/
  | event (event : BrokerEvent)
  /-- None has come in time. -/
  | timeout
  /-- None will ever come. -/
  | closed
deriving DecidableEq

/-! ## Calls -/

/-- A call to the chip or one of its system services. -/
inductive ChipCall where
  /-- Make the patches of the runtime take part. -/
  | linkPatches
  | takePeripherals
  /-- Take the system event loop. -/
  | takeEventLoop
  /-- Take the partition of the blob store. -/
  | takePartition
  /-- Open a part of the blob store. -/
  | openStore (area : String) (writable : Bool)
  /-- The length of a blob, if it exists. -/
  | blobLength (name : String)
  /-- The content of a blob, if it exists, into a buffer of the given size. -/
  | blobContent (name : String) (size : Nat)
  /-- Replace a blob. -/
  | setBlob (name : String) (content : Bytes)
  /-- Delete a blob; tells whether it existed. -/
  | removeBlob (name : String)
  /-- The code of the cause of the wake-up. -/
  | wakeCause
  /-- Let a timer wake the chip up after some microseconds. -/
  | armTimer (duration : Nat)
  /-- Let a pin wake the chip up at a level. -/
  | armPin (pin level : Nat)
  /-- Sleep until something wakes the chip up. -/
  | startSleep
  /-- Take a pin back from the part of the chip that does not sleep. -/
  | releasePin (pin : Nat)
  /-- Microseconds since the chip woke up. -/
  | uptime
  /-- Set the calendar clock. -/
  | setClock (seconds microseconds : Nat)
  /-- The calendar clock. -/
  | clock
  /-- Start to set the calendar clock from the network. -/
  | startTimeService
  /-- The address that the chip was made with. -/
  | macAddress
  /-- Make the pin of the button an input. -/
  | openInput
  /-- Pull the pin of the button up. -/
  | pullUp
  | openTimerService
  /-- Make a timer. -/
  | createTimer
  /-- Let the timer fire periodically. -/
  | startTimer (period : Nat)
  /-- Open the bus of the sensor. -/
  | openBus (baud : Nat) (dataPullUp clockPullUp : Bool)
  /-- Set the sensor up. -/
  | initSensor
  /-- Measure temperature, humidity and pressure. -/
  | measure
  /-- Make a driver for the wireless network. -/
  | createWifi
  /-- Make the driver wait for its events. -/
  | wrapWifi
  /-- Configure the network to join; without a password it is open. -/
  | configureWifi (ssid password : String) (isOpen : Bool)
  /-- Start the wireless network. -/
  | startWifi
  /-- Join the network. -/
  | joinWifi
  /-- Wait until the interface is up. -/
  | awaitAddress (timeout : Nat)
  /-- The address of the interface. -/
  | readAddress
  /-- Whether the chip has joined a network. -/
  | isJoined
  /-- Leave the network. -/
  | leaveWifi
  /-- Stop the wireless network. -/
  | stopWifi
  /-- Give the driver of the wireless network up. -/
  | dropWifi
  /-- Make a driver for short range radio. -/
  | createBluetooth
  /-- Give the driver of the short range radio up. -/
  | dropBluetooth
  /-- Register the handler of the events of the attribute server. -/
  | registerServerHandler
  /-- Register the handler of the events of the advertising. -/
  | registerAdvertisingHandler
  | setDeviceName (name : String)
  /-- Register an application of the attribute server. -/
  | registerApp (app : Nat)
  /-- Remove the application of an interface. -/
  | unregisterApp (interface : Nat)
  | closeConnection (interface connection : Nat)
  | stopAdvertising
  | startAdvertising (parameters : AdvertisingParameters)
  /-- Set what advertisements say. -/
  | setAdvertisingData (data : AdvertisingData)
  /-- Create a primary service with room for some handles. -/
  | createService (interface uuid handles : Nat)
  | startService (service : Nat)
  | addCharacteristic (service uuid permissions properties : Nat)
  | addDescriptor (service uuid permissions : Nat)
  /-- Notify a client. -/
  | notify (interface connection handle : Nat) (payload : Bytes)
  /-- Respond to a client. -/
  | respond (response : AttributeResponse)
  /-- Open a session with the broker. -/
  | openBroker (settings : BrokerSettings)
  /-- Subscribe to a topic; the answer is the number of the message. -/
  | subscribe (topic : String)
  /-- Publish a payload; the answer is the number of the message. -/
  | publish (topic : String) (payload : Bytes)
  /-- Put a payload into the outbox; the answer is the number of the message. -/
  | enqueue (topic : String) (payload : Bytes)
  /-- Wait for an event of the session. -/
  | receive (timeout : Nat)
  /-- Close the session with the broker. -/
  | dropBroker

/-- The answer to a call.  Calls that answer with a bare code answer zero if they succeed. -/
@[reducible] def ChipCall.Answer : ChipCall → Type
  | linkPatches => Unit
  | takePeripherals => Tried Unit
  | takeEventLoop => Tried Unit
  | takePartition => Tried Unit
  | openStore _ _ => Tried Unit
  | blobLength _ => Tried (Option Nat)
  | blobContent _ _ => Tried (Option Bytes)
  | setBlob _ _ => Tried Unit
  | removeBlob _ => Tried Bool
  | wakeCause => Int
  | armTimer _ => Int
  | armPin _ _ => Int
  | startSleep => Unit
  | releasePin _ => Int
  | uptime => Int
  | setClock _ _ => Int
  | clock => Int
  | startTimeService => Tried Unit
  | macAddress => Bytes
  | openInput => Tried Unit
  | pullUp => Tried Unit
  | openTimerService => Tried Unit
  | createTimer => Tried Unit
  | startTimer _ => Tried Unit
  | openBus _ _ _ => Tried Unit
  | initSensor => Except String Unit
  | measure => Except String (Single × Single × Single)
  | createWifi => Tried Unit
  | wrapWifi => Tried Unit
  | configureWifi _ _ _ => Tried Unit
  | startWifi => Tried Unit
  | joinWifi => Tried Unit
  | awaitAddress _ => Tried Unit
  | readAddress => Tried Unit
  | isJoined => Tried Bool
  | leaveWifi => Tried Unit
  | stopWifi => Tried Unit
  | dropWifi => Unit
  | createBluetooth => Tried Unit
  | dropBluetooth => Unit
  | registerServerHandler => Int
  | registerAdvertisingHandler => Int
  | setDeviceName _ => Int
  | registerApp _ => Int
  | unregisterApp _ => Int
  | closeConnection _ _ => Int
  | stopAdvertising => Int
  | startAdvertising _ => Int
  | setAdvertisingData _ => Int
  | createService _ _ _ => Int
  | startService _ => Int
  | addCharacteristic _ _ _ _ => Int
  | addDescriptor _ _ _ => Int
  | notify _ _ _ _ => Int
  | respond _ => Int
  | openBroker _ => Tried Unit
  | subscribe _ => Tried Nat
  | publish _ _ => Tried Nat
  | enqueue _ _ => Tried Nat
  | receive _ => Arrival
  | dropBroker => Unit

/-! ## The signature -/

/-- A request of a driver to the world. -/
inductive PlatformRequest where
  | chip (call : ChipCall)
  /-- Set signal bits. -/
  | raise (bits : SignalBits)
  | clear (bits : SignalBits)
  /-- Start to watch the button, given the cause of the wake-up. -/
  | watchButton (cause : WakeCause)
  /-- Show a payload to whoever watches the client. -/
  | display (payload : Bytes)
  /-- Tell the operator something. -/
  | report (line : String)

/-- The answer to a request. -/
@[reducible] def PlatformRequest.Answer : PlatformRequest → Type
  | chip call => call.Answer
  | raise _ => Unit
  | clear _ => Unit
  | watchButton _ => Unit
  | display _ => Unit
  | report _ => Unit

/-- The world of the drivers. -/
def Platform : Signature := ⟨PlatformRequest, PlatformRequest.Answer⟩

namespace Platform

/-- Make a request. -/
def ask (request : PlatformRequest) : Program Platform request.Answer :=
  Program.request (S := Platform) request

def call (c : ChipCall) : Program Platform c.Answer := ask (.chip c)

/-- Set signal bits. -/
def raise (bits : SignalBits) : Program Platform Unit := ask (.raise bits)

def clear (bits : SignalBits) : Program Platform Unit := ask (.clear bits)

/-- Start to watch the button. -/
def watchButton (cause : WakeCause) : Program Platform Unit := ask (.watchButton cause)

/-- Show a payload to whoever watches the client. -/
def display (payload : Bytes) : Program Platform Unit := ask (.display payload)

/-- Tell the operator something. -/
def report (line : String) : Program Platform Unit := ask (.report line)

end Platform

end HatchSensor
