import HatchSensor.Bench.Clock
import HatchSensor.Bench.Link
import HatchSensor.Bench.Cloud
import HatchSensor.Bench.Sensor
import HatchSensor.Bench.Transport
import HatchSensor.Blob.Map

/-!
# The bench

The bench is a complete set of surroundings in memory: a register, a blob store, clocks, a network,
a cloud, a power supply, a provisioning transport, a sensor and a button.  Faults can be put into
each of them; a fault comes before the part itself is asked.

The sensor is a parameter, since benches differ in it.
-/

namespace HatchSensor

/-- What was seen at an instant. -/
inductive Sighting where
  /-- The bits of the register. -/
  | bits (bits : SignalBits)
  /-- The reply to something the client did. -/
  | reply (text : Option String)
  /-- The client found no session. -/
  | noSession
deriving Inhabited

/-- The state of a bench whose sensor has states in `ρ`. -/
structure Bench (ρ : Type) where
  register : SignalRegister
  store : MemoryBlobs
  /-- The requests to the store that fail: what they do, and to which blob. -/
  storeFaults : List (String × String)
  clock : BenchClock
  /-- While set, setting the clock fails. -/
  refusesTime : Bool
  /-- While set, synchronising the clock fails. -/
  refusesSync : Bool
  /-- The network link. -/
  link : BenchLink
  cloud : BenchCloud
  /-- How much virtual time a step of the cloud session takes. -/
  pumpTime : Nat
  /-- The power supply. -/
  power : BenchPower
  /-- The provisioning transport. -/
  transport : BenchTransport
  sensor : ρ
  /-- Whether the button is held. -/
  level : Bool
  /-- The monitor of the button, while it runs. -/
  monitor : Option ButtonDetector
  /-- What was seen, and when. -/
  trace : List (Nat × Sighting)

namespace Bench

variable {ρ : Type}

/-- A bench on which nothing has happened. -/
def start (time : UInt32) (sensor : ρ) : Bench ρ where
  register := .empty
  store := ⟨.empty, false⟩
  storeFaults := []
  clock := .start time
  refusesTime := false
  refusesSync := false
  link := .start
  cloud := .start
  pumpTime := 0
  power := .start
  transport := .start
  sensor := sensor
  level := false
  monitor := none
  trace := []

/-! ## The blob store -/

/-- The failure that was put into a request, if there is one. -/
def storeFault (b : Bench ρ) (request : BlobRequest) : Option StoreError :=
  if b.storeFaults.contains (request.verb, request.name) then
    some (.backend ("injected " ++ request.verb ++ " failure on '" ++ request.name ++ "'"))
  else none

/-- Let requests fail, or no longer. -/
def setStoreFault (b : Bench ρ) (verb name : String) (on : Bool) : Bench ρ :=
  let others := b.storeFaults.filter fun f => f != (verb, name)
  { b with storeFaults := if on then (verb, name) :: others else others }

/-- Answer a request to the blob store. -/
def answerBlob (b : Bench ρ) (request : BlobRequest) : Bench ρ × request.Answer :=
  match b.storeFault request with
  | some reason => (b, request.failed reason)
  | none =>
    let (store, answer) := b.store.answer request
    ({ b with store }, answer)

/-- Run a program over the blob store. -/
def runBlobs {α : Type} (b : Bench ρ) (p : Program Blobs α) : Bench ρ × α :=
  let answer (request : BlobRequest) : StateM (Bench ρ) request.Answer := fun b =>
    let (b, a) := b.answerBlob request
    (a, b)
  let (a, b) := Id.run ((Program.run (m := StateM (Bench ρ)) answer p).run b)
  (b, a)

/-! ## Sessions -/

/-- Write to a session that uses this bench. -/
def writeTo (b : Bench ρ) (session : Session) (payload : Bytes) :
    Bench ρ × Session × Option String :=
  let (b, effect, session) := b.runBlobs (session.write payload)
  let register := if effect.finished then b.register.set .credentialsReady else b.register
  ({ b with register }, session, effect.reply.map Reply.toText)

/-- Write to the session that is open. -/
def clientWrite (b : Bench ρ) (payload : Bytes) : Bench ρ × Sighting :=
  match b.transport.enabled, b.transport.session with
  | true, some session =>
    let (b, session, reply) := b.writeTo session payload
    ({ b with transport := { b.transport with session := some session } }, .reply reply)
  | _, _ => (b, .noSession)

/-- Read from the session that is open. -/
def clientRead (b : Bench ρ) : Bench ρ × Sighting :=
  match b.transport.enabled, b.transport.session with
  | true, some session =>
    let (b, text) := b.runBlobs session.read
    (b, .reply (some text))
  | _, _ => (b, .noSession)

/-- Deliver queued writes to a session and keep the replies. -/
def deliver (b : Bench ρ) (session : Session) : List Bytes → Bench ρ × Session
  | [] => (b, session)
  | payload :: rest =>
    let (b, session, reply) := b.writeTo session payload
    let replies := b.transport.replies ++ reply.toList
    { b with transport := { b.transport with replies } }.deliver session rest

/-- Open the transport for a session and deliver what is queued. -/
def openTransport (b : Bench ρ) (session : Session) : Bench ρ × Attempt Unit :=
  if b.transport.refusesOpening then (b, .error ⟨"injected enable failure"⟩)
  else
    let queued := b.transport.queued
    let transport := { b.transport with enabled := true, queued := [] }
    let (b, session) := { b with transport }.deliver session queued
    ({ b with transport := { b.transport with session := some session } }, .ok ())

/-! ## Everything else -/

/-- Set the calendar clock. -/
def setTime (b : Bench ρ) (time : UInt32) : Bench ρ × Attempt Unit :=
  if b.refusesTime then (b, .error ⟨"injected set failure"⟩)
  else ({ b with clock := { b.clock with time } }, .ok ())

/-- Synchronise the calendar clock. -/
def synchronise (b : Bench ρ) : Bench ρ × Attempt Unit :=
  if b.refusesSync then (b, .error ⟨"injected sync failure"⟩)
  else ({ b with clock := b.clock.synchronise }, .ok ())

/-- Join a network. -/
def join (b : Bench ρ) (credentials : Credentials) : Bench ρ × Attempt Unit :=
  let (link, result) := b.link.join credentials
  let register := if result.isOk then link.joined b.register else b.register
  ({ b with link, register }, result)

/-- Leave the network. -/
def leave (b : Bench ρ) : Bench ρ :=
  { b with register := b.link.left b.register, link := b.link.leave }

def sleep (b : Bench ρ) (seconds : UInt32) : Bench ρ :=
  { b with power := b.power.sleep seconds, clock := b.clock.advance seconds }

/-- Note what is seen at an instant. -/
def note (b : Bench ρ) (now : Nat) (sighting : Sighting) : Bench ρ :=
  { b with trace := b.trace ++ [(now, sighting)] }

/-- Start the monitor of the button. -/
def startMonitor (b : Bench ρ) (now : Nat) : Bench ρ :=
  let (detector, register) := ButtonMonitor.start b.register b.power.wakeCause b.level now
  { b with monitor := some detector, register }

/-- Let the monitor sample the button. -/
def sampleButton (b : Bench ρ) (now : Nat) : Bench ρ :=
  match b.monitor with
  | none => b
  | some detector =>
    let (detector, register, _) := ButtonMonitor.poll detector b.register b.level now
    { b with monitor := some detector, register }

/-- Let a wait look at the register. -/
def look (b : Bench ρ) (id : UInt32) (mask : SignalBits) : Bench ρ × Option SignalBits :=
  let (register, seen) := b.register.look id mask
  ({ b with register }, seen)

end Bench

end HatchSensor
