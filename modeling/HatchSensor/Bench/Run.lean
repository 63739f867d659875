import HatchSensor.Bench.World
import HatchSensor.Device.Lifecycle
import HatchSensor.Timeline

/-!
# Running phases on the bench

The bench answers every request of a phase.  Only a parked wait and a step of the cloud session
take virtual time.
-/

namespace HatchSensor

/-- A bench in virtual time. -/
abbrev TimedBench (ρ ε : Type) := Timed (Bench ρ) ε

/-- What a bench is made of besides its state: how it reacts to events, and its sensor. -/
structure BenchRules (ρ ε : Type) where
  /-- How it reacts to events. -/
  reactions : Reactions (Bench ρ) ε
  /-- How its sensor is read. -/
  read : ρ → ρ × Attempt Climate

/-- A run on a bench has ended, and this is what came of it. -/
structure BenchOutcome (ρ ε α : Type) where
  /-- The bench afterwards. -/
  bench : TimedBench ρ ε
  /-- The value of the program. -/
  value : α
  /-- The virtual time it took. -/
  elapsed : Nat
  /-- The events that never happened. -/
  unfired : Nat

namespace TimedBench

variable {ρ ε : Type}

def update (change : Bench ρ → Bench ρ) : StateM (TimedBench ρ ε) Unit :=
  modify fun t => { t with world := change t.world }

/-- Change the state of the bench and get an answer from it. -/
def query {α : Type} (change : Bench ρ → Bench ρ × α) : StateM (TimedBench ρ ε) α := fun t =>
  let (world, a) := change t.world
  (a, { t with world })

/-- Change the cloud of the bench and get an answer from it. -/
def queryCloud {α : Type} (change : BenchCloud → BenchCloud × α) : StateM (TimedBench ρ ε) α :=
  query fun b =>
    let (cloud, a) := change b.cloud
    ({ b with cloud }, a)

/-- Let a wait be parked.  A bench has no last instant. -/
def park (rules : BenchRules ρ ε) (id : UInt32) (mask : SignalBits) (deadline : Nat)
    (timer : Option Nat) : StateM (TimedBench ρ ε) Wake := fun t =>
  match Timed.park rules.reactions id mask deadline timer t with
  | (t, .woken wake) => (wake, t)
  | (t, .cutOff) => (.expired, t)

/-- Let the cloud session work.  This takes virtual time, unless the call fails. -/
def pump : StateM (TimedBench ρ ε) Pumped := do
  match ← queryCloud fun c => c.meter .process with
  | .error reason => return ⟨[], .error reason⟩
  | .ok () =>
    modify fun t => { t with now := t.now + t.world.pumpTime }
    queryCloud BenchCloud.pump

/-- Answer a request. -/
def answer (rules : BenchRules ρ ε) :
    (request : DeviceRequest) → StateM (TimedBench ρ ε) request.Answer
  | .blob request => query fun b => b.answerBlob request
  | .signals => query fun b => (b, b.register.bits)
  | .raise bits => update fun b => { b with register := b.register.set bits }
  | .clear bits => update fun b => { b with register := b.register.clear bits }
  | .openWait => query fun b =>
    let (register, id) := b.register.register
    ({ b with register }, id)
  | .look id mask => query fun b => b.look id mask
  | .park id mask deadline timer => park rules id mask deadline timer
  | .closeWait id => update fun b => { b with register := b.register.forget id }
  | .instant => do return (← get).now
  | .sense => query fun b =>
    let (sensor, result) := rules.read b.sensor
    ({ b with sensor }, result)
  | .time => query fun b => (b, b.clock.time)
  | .ticks => query fun b => (b, b.clock.ticks)
  | .setTime time => query fun b => b.setTime time
  | .startTimeSync => query Bench.synchronise
  | .join credentials _ => query fun b => b.join credentials
  | .leave => update Bench.leave
  | .connect client _ => queryCloud fun c => c.connect client
  | .requestShadow thing => queryCloud fun c => c.requestShadow thing
  | .pump _ => pump
  | .publish topic payload _ => queryCloud fun c => c.publish topic payload
  | .disconnect => queryCloud fun c => (c.disconnect, ())
  | .openProvisioning session => query fun b => b.openTransport session
  | .closeProvisioning => query fun b =>
    let (transport, result) := b.transport.close
    ({ b with transport }, result)
  | .takeRequestedTime => query fun b =>
    let (transport, time) := b.transport.takeRequestedTime
    ({ b with transport }, time)
  | .sleep seconds => update fun b => b.sleep seconds
  | .report _ => pure ()

/-- Run a phase. -/
def run {α : Type} (rules : BenchRules ρ ε) (p : Program Surroundings α) (t : TimedBench ρ ε) :
    α × TimedBench ρ ε :=
  Id.run ((Program.run (m := StateM (TimedBench ρ ε)) (answer rules) p).run t)

/-- Prepare a run: start the monitor if it is wanted, and let the events happen that are due at
once.  The events are counted from the present instant. -/
def prepare (rules : BenchRules ρ ε) (events : List (Nat × ε)) (monitored : Bool)
    (t : TimedBench ρ ε) : TimedBench ρ ε :=
  let pending := Timed.agenda (events.map fun e => (t.now + e.1, e.2))
  let world := if monitored then t.world.startMonitor t.now else t.world
  let sampleDue := if monitored then some t.now else none
  Timed.catchUp rules.reactions { t with world, pending, sampleDue }

/-- Run a phase while events happen, with the button monitored or not. -/
def perform {α : Type} (rules : BenchRules ρ ε) (p : Program Surroundings α)
    (events : List (Nat × ε)) (monitored : Bool) (t : TimedBench ρ ε) : BenchOutcome ρ ε α :=
  let (value, ended) := run rules p (prepare rules events monitored t)
  { bench :=
      { ended with
        world := { ended.world with monitor := none }, pending := [], sampleDue := none }
    value
    elapsed := ended.now - t.now
    unfired := ended.pending.length }

end TimedBench

end HatchSensor
