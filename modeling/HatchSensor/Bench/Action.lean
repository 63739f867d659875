import HatchSensor.Bench.Run

/-!
# Actions on the bench

Whatever can be done to a bench from outside, at once or as an event in virtual time.
-/

namespace HatchSensor

/-- An action on a bench with a scripted sensor. -/
inductive BenchAction where
  | set (bits : SignalBits)
  | clear (bits : SignalBits)
  /-- Set signal bits from an interrupt. -/
  | interrupt (bits : SignalBits)
  /-- Note the bits of the register. -/
  | probe
  /-- Put the calendar clock to a time. -/
  | putClock (time : UInt32)
  /-- Let the clock move on. -/
  | advanceClock (seconds : UInt32)
  /-- Set the time that a synchronisation installs. -/
  | setNetworkTime (time : UInt32)
  /-- Let setting the clock fail, or not. -/
  | refuseTime (on : Bool)
  /-- Let synchronising the clock fail, or not. -/
  | refuseSync (on : Bool)
  /-- Make the network reachable, or not. -/
  | reachLink (on : Bool)
  /-- Let a link that comes up lose its signal, or not. -/
  | silenceLink (on : Bool)
  /-- Make the cloud reachable, or not. -/
  | reachCloud (on : Bool)
  /-- Let a call to the cloud fail after some successes, or never. -/
  | failCloud (call : CloudCall) (successes : Option Nat)
  /-- Let every step of the cloud session take some virtual time. -/
  | setPumpTime (duration : Nat)
  /-- Answer shadow requests with a document. -/
  | respond (document : String) (step : Nat)
  /-- Let some more payloads be published. -/
  | setBudget (payloads : Nat)
  /-- Queue a write of the client. -/
  | queueWrite (payload : Bytes)
  /-- Let the client write. -/
  | clientWrite (payload : Bytes)
  /-- Let the client read. -/
  | clientRead
  /-- Let opening the provisioning transport fail, or not. -/
  | refuseOpening (on : Bool)
  /-- Let closing the provisioning transport be reported as failed, or not. -/
  | refuseClosing (on : Bool)
  /-- Add a temperature to the script of the sensor. -/
  | pushTemperature (temperature : Single)
  /-- Queue a result of the sensor. -/
  | queueReading (result : Attempt Climate)
  /-- Let every change to the blob store fail, or not. -/
  | failWrites (on : Bool)
  /-- Let a request to the blob store fail, or not. -/
  | failBlob (verb name : String) (on : Bool)
  /-- Press or let go of the button. -/
  | press (level : Bool)
  /-- Pretend a cause of the last wake-up. -/
  | pretend (cause : WakeCause)
  /-- Make a request to the blob store. -/
  | blob (request : BlobRequest)

/-- What an action answers. -/
inductive ActionResult where
  | done
  /-- Whether a waiter was woken. -/
  | woken (resumed : Bool)
  /-- What the client saw. -/
  | seen (sighting : Sighting)
  | stored (request : BlobRequest) (answer : request.Answer)

namespace Bench

/-- The failure of a queued reading. -/
def sensorFault : Fault := ⟨"I2C timeout"⟩

/-- Carry out an action at an instant. -/
def act (now : Nat) (b : Bench ScriptedSensor) :
    BenchAction → Bench ScriptedSensor × ActionResult
  | .set bits => ({ b with register := b.register.set bits }, .done)
  | .clear bits => ({ b with register := b.register.clear bits }, .done)
  | .interrupt bits =>
    let (register, resumed) := b.register.setFromInterrupt bits
    ({ b with register }, .woken resumed)
  | .probe => (b.note now (.bits b.register.bits), .done)
  | .putClock time => ({ b with clock := { b.clock with time } }, .done)
  | .advanceClock seconds => ({ b with clock := b.clock.advance seconds }, .done)
  | .setNetworkTime time => ({ b with clock := { b.clock with networkTime := some time } }, .done)
  | .refuseTime on => ({ b with refusesTime := on }, .done)
  | .refuseSync on => ({ b with refusesSync := on }, .done)
  | .reachLink on => ({ b with link := { b.link with reachable := on } }, .done)
  | .silenceLink on => ({ b with link := { b.link with silent := on } }, .done)
  | .reachCloud on => ({ b with cloud := { b.cloud with reachable := on } }, .done)
  | .failCloud call successes => ({ b with cloud := b.cloud.setFault call successes }, .done)
  | .setPumpTime duration => ({ b with pumpTime := duration }, .done)
  | .respond document step => ({ b with cloud := b.cloud.respondWith document step }, .done)
  | .setBudget payloads => ({ b with cloud := { b.cloud with budget := some payloads } }, .done)
  | .queueWrite payload => ({ b with transport := b.transport.queue payload }, .done)
  | .clientWrite payload =>
    let (b, sighting) := b.clientWrite payload
    (b.note now sighting, .seen sighting)
  | .clientRead =>
    let (b, sighting) := b.clientRead
    (b.note now sighting, .seen sighting)
  | .refuseOpening on => ({ b with transport := { b.transport with refusesOpening := on } }, .done)
  | .refuseClosing on => ({ b with transport := { b.transport with refusesClosing := on } }, .done)
  | .pushTemperature temperature => ({ b with sensor := b.sensor.push temperature }, .done)
  | .queueReading result => ({ b with sensor := b.sensor.queue result }, .done)
  | .failWrites on => ({ b with store := { b.store with failWrites := on } }, .done)
  | .failBlob verb name on => (b.setStoreFault verb name on, .done)
  | .press level => ({ b with level }, .done)
  | .pretend cause => ({ b with power := { b.power with pretended := some cause } }, .done)
  | .blob request =>
    let (b, answer) := b.answerBlob request
    (b, .stored request answer)

/-- How a bench with a scripted sensor reacts to actions. -/
def reactions : Reactions (Bench ScriptedSensor) BenchAction where
  occur := fun now action b => (b.act now action).1
  sample := fun now b => b.sampleButton now
  look := fun id mask b => b.look id mask

def rules : BenchRules ScriptedSensor BenchAction where
  reactions := reactions
  read := ScriptedSensor.read

end Bench

end HatchSensor
