import HatchSensor.Blob.Map
import HatchSensor.Button.Monitor
import HatchSensor.Stand.Script
import HatchSensor.Stand.Transcript

/-!
# A board on the test stand

The stand takes the place of the chip and of everything outside the board.  It keeps a map of
blobs, a calendar clock, the level of the button, the state of the wireless network and the events
of one session with the broker; it notes every call and lets a script decide how the call ends.  A
call that fails has no effect.
-/

namespace HatchSensor

/-- The session with the broker, seen from the stand. -/
structure StandSession where
  /-- The message that is being put together. -/
  inbox : Inbox
  /-- The events that the board has not taken yet. -/
  queue : List BrokerEvent
  /-- Whether no more events will come. -/
  isClosed : Bool
deriving DecidableEq

namespace StandSession

/-- A session without events. -/
def start : StandSession := ⟨.empty, [], false⟩

/-- Events happen to a session, and nothing else does if it closes.  A session that is closed has
no more events. -/
def deliver (s : StandSession) (events : List ClientEvent) (closes : Bool) : StandSession :=
  if s.isClosed then s
  else
    let (inbox, passed) := s.inbox.takeAll events
    { inbox, queue := s.queue ++ passed, isClosed := closes }

/-- The next event of a session. -/
def next (s : StandSession) : Arrival × StandSession :=
  match s.queue with
  | event :: later => (.event event, { s with queue := later })
  | [] => (if s.isClosed then .closed else .timeout, s)

end StandSession

/-- A test stand. -/
structure Stand where
  /-- The responses to come. -/
  script : Script
  /-- What has been noted. -/
  entries : Array StandEntry
  /-- The lines for the operator. -/
  lines : Array String
  blobs : BlobMap
  /-- The calendar clock, in seconds. -/
  wall : Int
  /-- Whether the button is held. -/
  pressed : Bool
  /-- Whether the board has joined a network. -/
  joined : Bool
  /-- The session with the broker. -/
  session : Option StandSession
  /-- The number of the next message. -/
  nextMessage : Nat
  register : SignalRegister
  /-- The detector of the next timer that is started. -/
  watched : Option ButtonDetector
  /-- The detector that the running timer feeds with samples. -/
  sampled : Option ButtonDetector

namespace Stand

/-- A stand with blobs and a time on which nothing has happened. -/
def start (blobs : BlobMap) (wall : Int) : Stand where
  script := .empty
  entries := #[]
  lines := #[]
  blobs := blobs
  wall := wall
  pressed := false
  joined := false
  session := none
  nextMessage := 1
  register := .empty
  watched := none
  sampled := none

/-! ## Outside events -/

/-- Put more responses at the end of the script. -/
def prepare (s : Stand) (more : List (String × List Response)) : Stand :=
  { s with script := s.script.add more }

/-- Events happen to the session with the broker, if there is one. -/
def deliver (s : Stand) (events : List ClientEvent) (closes : Bool) : Stand :=
  { s with session := s.session.map fun session => session.deliver events closes }

/-- The button is sampled at an instant, if its timer runs. -/
def sample (s : Stand) (now : Nat) : Stand :=
  match s.sampled with
  | some detector =>
    let (detector, register, _) := ButtonMonitor.poll detector s.register s.pressed now
    { s with sampled := some detector, register }
  | none => s

/-- The timer of the button is stopped. -/
def stopSampling (s : Stand) : Stand := { s with sampled := none }

/-- The timer of the detector that waits for one is started.  It takes the place of the timer
before it. -/
def startSampling (s : Stand) : Stand := { s with watched := none, sampled := s.watched }

/-! ## Calls -/

/-- A piece of the answer of the stand to a call. -/
abbrev Step (α : Type) := StateM Stand α

namespace Step

def update (change : Stand → Stand) : Step Unit := modify change

/-- Note something. -/
def note (entry : StandEntry) : Step Unit :=
  update fun s => { s with entries := s.entries.push entry }

/-- Note something and look its response up. -/
def respond (entry : StandEntry) : Step Response := do
  note entry
  let (response, script) := (← get).script.next entry.name
  update fun s => { s with script }
  return response

/-- Answer a call that may fail; unless it does, `effect` makes its answer of the response. -/
def attempt {α : Type} (c : ChipCall) (effect : Response → Step α) : Step (Tried α) := do
  let response ← respond (.call c)
  match response.failure? with
  | some reason => return .error reason
  | none => return .ok (← effect response)

/-- Answer a call that changes the stand, unless it fails. -/
def change (c : ChipCall) (effect : Stand → Stand) : Step (Tried Unit) :=
  attempt c fun _ => update effect

/-- Answer a call that has no effect on the stand. -/
def accept (c : ChipCall) : Step (Tried Unit) := change c id

/-- Answer a call with a bare code. -/
def code (c : ChipCall) : Step Int := do
  return (← respond (.call c)).bareCode

/-- Answer the question for the blob of a name. -/
def lookUp (c : ChipCall) (name : String) : Step (Tried (Option Bytes)) :=
  attempt c fun response => do
    match response with
    | .gone => return none
    | _ => return (← get).blobs.get? name

/-- Delete a blob. -/
def removeBlob (c : ChipCall) (name : String) : Step (Tried Bool) :=
  attempt c fun _ => do
    let existed := ((← get).blobs.get? name).isSome
    update fun s => { s with blobs := s.blobs.erase name }
    return existed

/-- The time since the chip woke up. -/
def uptime (c : ChipCall) : Step Int := do
  match ← respond (.call c) with
  | .uptime microseconds => return microseconds
  | _ => return 0

/-- Set the calendar clock by hand. -/
def setClock (c : ChipCall) (seconds : Nat) : Step Int := do
  let code ← code c
  if code = 0 then update fun s => { s with wall := seconds }
  return code

/-- Set the calendar clock from the network. -/
def startTimeService (c : ChipCall) : Step (Tried Unit) :=
  attempt c fun response =>
    match response with
    | .networkTime seconds => update fun s => { s with wall := seconds }
    | _ => pure ()

/-- The address that a chip on the stand usually has. -/
def usualAddress : Bytes := [0xa0, 0xb1, 0xc2, 0xd3, 0xe4, 0xf5]

def address (c : ChipCall) : Step Bytes := do
  match ← respond (.call c) with
  | .text digits => return (Bytes.ofHex? digits).getD usualAddress
  | _ => return usualAddress

/-- Set the sensor up. -/
def initSensor (c : ChipCall) : Step (Except String Unit) := do
  match ← respond (.call c) with
  | .text reason => return .error reason
  | _ => return .ok ()

/-- The temperature that is usually measured, 37.8 °C. -/
def usualTemperature : Single := .ofQuotient 378 10

def measure (c : ChipCall) : Step (Except String (Single × Single × Single)) := do
  match ← respond (.call c) with
  | .text reason => return .error reason
  | .climate temperature humidity pressure => return .ok (temperature, humidity, pressure)
  | _ => return .ok (usualTemperature, .ofNat 55, .ofNat 101325)

/-- The code of a wait that took too long. -/
def timeout : ChipError := ⟨263⟩

/-- Look at the interface a number of times, until it is up. -/
def awaitInterface : Nat → Step (Tried Unit)
  | 0 => return .error timeout
  | looks + 1 => do
    match ← respond .lookAtInterface with
    | .flag false => awaitInterface looks
    | response =>
      match response.failure? with
      | some reason => return .error reason
      | none => return .ok ()

/-- Wait for an address. -/
def awaitAddress (c : ChipCall) : Step (Tried Unit) := do
  match ← accept c with
  | .error reason => return .error reason
  | .ok () => awaitInterface 5

/-- Whether the board has joined a network. -/
def isJoined (c : ChipCall) : Step (Tried Bool) :=
  attempt c fun response => do
    match response with
    | .flag joined => return joined
    | _ => return (← get).joined

/-- Open a session with the broker. -/
def openBroker (c : ChipCall) : Step (Tried Unit) :=
  attempt c fun response =>
    let (events, closes) := match response with
      | .events _ events closes => (events, closes)
      | _ => ([.connected], false)
    update fun s => { s with session := some (StandSession.start.deliver events closes) }

/-- Number a message and let happen what follows it: the events that the script gives, or the
usual ones. -/
def sendMessage (c : ChipCall) (usual : Nat → List ClientEvent) : Step (Tried Nat) :=
  attempt c fun response => do
    let (number, events, closes) := match response with
      | .events number events closes => (number, some events, closes)
      | _ => (none, none, false)
    let fresh := (← get).nextMessage
    if number.isNone then update fun s => { s with nextMessage := fresh + 1 }
    let number := number.getD fresh
    update fun s => s.deliver (events.getD (usual number)) closes
    return number

/-- The next event of the session with the broker. -/
def receive : Step Arrival := do
  match (← get).session with
  | none => return .closed
  | some session =>
    let (arrival, session) := session.next
    update fun s => { s with session := some session }
    return arrival

/-- Answer a call that cannot fail. -/
def obey (c : ChipCall) (effect : Stand → Stand) : Step Unit := do
  note (.call c)
  update effect

end Step

open Step in
def answerCall : (c : ChipCall) → Step c.Answer
  | .linkPatches => obey .linkPatches id
  | .takePeripherals => accept .takePeripherals
  | .takeEventLoop => accept .takeEventLoop
  | .takePartition => accept .takePartition
  | .openStore area writable => accept (.openStore area writable)
  | .blobLength name => do
    return (← lookUp (.blobLength name) name).map fun content => content.map List.length
  | .blobContent name size => lookUp (.blobContent name size) name
  | .setBlob name content =>
    change (.setBlob name content) fun s => { s with blobs := s.blobs.put name content }
  | .removeBlob name => removeBlob (.removeBlob name) name
  | .wakeCause => code .wakeCause
  | .armTimer duration => code (.armTimer duration)
  | .armPin pin level => code (.armPin pin level)
  | .startSleep => obey .startSleep id
  | .releasePin pin => code (.releasePin pin)
  | .uptime => uptime .uptime
  | .setClock seconds microseconds => setClock (.setClock seconds microseconds) seconds
  | .clock => do return (← get).wall
  | .startTimeService => startTimeService .startTimeService
  | .macAddress => address .macAddress
  | .openInput => accept .openInput
  | .pullUp => accept .pullUp
  | .openTimerService => accept .openTimerService
  | .createTimer => accept .createTimer
  | .startTimer period => change (.startTimer period) startSampling
  | .openBus baud dataPullUp clockPullUp => accept (.openBus baud dataPullUp clockPullUp)
  | .initSensor => initSensor .initSensor
  | .measure => measure .measure
  | .createWifi => accept .createWifi
  | .wrapWifi => accept .wrapWifi
  | .configureWifi ssid password isOpen => accept (.configureWifi ssid password isOpen)
  | .startWifi => accept .startWifi
  | .joinWifi => change .joinWifi fun s => { s with joined := true }
  | .awaitAddress timeout => awaitAddress (.awaitAddress timeout)
  | .readAddress => accept .readAddress
  | .isJoined => isJoined .isJoined
  | .leaveWifi => change .leaveWifi fun s => { s with joined := false }
  | .stopWifi => accept .stopWifi
  | .dropWifi => obey .dropWifi fun s => { s with joined := false }
  | .createBluetooth => accept .createBluetooth
  | .dropBluetooth => obey .dropBluetooth id
  | .registerServerHandler => do return 0
  | .registerAdvertisingHandler => do return 0
  | .setDeviceName name => code (.setDeviceName name)
  | .registerApp app => code (.registerApp app)
  | .unregisterApp interface => code (.unregisterApp interface)
  | .closeConnection interface connection => code (.closeConnection interface connection)
  | .stopAdvertising => code .stopAdvertising
  | .startAdvertising parameters => code (.startAdvertising parameters)
  | .setAdvertisingData data => code (.setAdvertisingData data)
  | .createService interface uuid handles => code (.createService interface uuid handles)
  | .startService service => code (.startService service)
  | .addCharacteristic service uuid permissions properties =>
    code (.addCharacteristic service uuid permissions properties)
  | .addDescriptor service uuid permissions =>
    code (.addDescriptor service uuid permissions)
  | .notify interface connection handle payload =>
    code (.notify interface connection handle payload)
  | .respond response => code (.respond response)
  | .openBroker settings => openBroker (.openBroker settings)
  | .subscribe topic => sendMessage (.subscribe topic) fun id => [.subscribed id]
  | .publish topic payload =>
    sendMessage (.publish topic payload) fun id => [.published id]
  | .enqueue topic payload => sendMessage (.enqueue topic payload) fun _ => []
  | .receive _ => receive
  | .dropBroker => obey .dropBroker fun s => { s with session := none }

/-! ## Requests -/

/-- The button is watched from an instant on.  The timer that samples it is not started yet, and
the timer before it still runs. -/
def watchButton (s : Stand) (now : Nat) (cause : WakeCause) : Stand :=
  let (detector, register) := ButtonMonitor.start s.register cause s.pressed now
  { s with watched := some detector, register }

/-- Answer a request at an instant. -/
def answer (now : Nat) :
    (request : PlatformRequest) → Step request.Answer
  | .chip call => answerCall call
  | .raise bits => Step.update fun s => { s with register := s.register.set bits }
  | .clear bits => Step.update fun s => { s with register := s.register.clear bits }
  | .watchButton cause => Step.update fun s => s.watchButton now cause
  | .display payload => Step.note (.display payload)
  | .report line => Step.update fun s => { s with lines := s.lines.push line }

/-- Run a program of a driver at an instant. -/
def run {α : Type} (now : Nat) (p : Program Platform α) :
    Step α :=
  Program.run (m := StateM Stand) (answer now) p

end Stand

end HatchSensor
