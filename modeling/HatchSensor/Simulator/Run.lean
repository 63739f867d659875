import HatchSensor.Simulator.Options
import HatchSensor.Simulator.Walk
import HatchSensor.Bench.Run

/-!
# The simulator

The simulator lets a device live on a bench: it is provisioned at its first boot, is given a hatch
of three weeks at its second, and takes readings from then on.  A line tells about every boot.
-/

namespace HatchSensor

/-- A simulation in progress. -/
structure Simulation where
  bench : TimedBench WalkSensor Empty
  /-- The calendar time at the start. -/
  started : UInt32

namespace Simulation

/-- The name of the simulated device. -/
def deviceName : String := "peep-5ca1ab1e0000"

/-- The identity of the simulated hatch. -/
def hatch : String := "sim-hatch-0001"

/-- The length of the simulated hatch: three weeks. -/
def hatchLength : UInt32 := 21 * 86400

/-- The timing of the simulated device. -/
def timing : DeviceTiming where
  provisioningWindow := 200000
  linkTimeout := 200000
  syncRetries := 2
  syncInterval := 5000
  shadow := ⟨5000, 5000, 10⟩

/-- The simulated device. -/
def device : DeviceSettings := ⟨deviceName, timing⟩

/-- What the client writes as soon as it can. -/
def clientWrite : Bytes :=
  Bytes.encodeUtf8 (Json.writeMembers
    [("wifiSSID", Json.writeString "barn"), ("wifiPassword", Json.writeString "hatchery")])

/-- The shadow document of a hatch that ends at a time. -/
def document (endTime : UInt32) : String :=
  let desired := Json.writeMembers
    [("hatchUUID", Json.writeString hatch), ("endUnixTimestamp", endTime.toNat.repr),
      ("measureIntervalSec", "900"), ("measurementsBeforePublishing", "4"),
      ("lowTemperature", "36.0"), ("highTemperature", "39.5"), ("temperatureOffset", "-0.3")]
  Json.writeMembers [("state", Json.writeMembers [("desired", desired)])]

def start (time : UInt32) : Simulation :=
  let bench := Bench.start time WalkSensor.start
  let cloud := bench.cloud.respondWith (document (time + hatchLength)) 1
  let transport := bench.transport.queue clientWrite
  ⟨Timed.start { bench with cloud, transport }, time⟩

/-- The failure of a simulation whose clock shows a time before the first second. -/
def clockFault : Fault :=
  ⟨"System clock before 1970: second time provided was later than self"⟩

/-- A simulation that starts at what a clock shows, in seconds since 1970. -/
def startAt (seconds : Int) : Attempt Simulation :=
  if seconds < 0 then .error clockFault else .ok (start (UInt32.ofNat seconds.toNat))

/-- The rules of the simulated bench: nothing happens on it by itself. -/
def rules (draws : Draws) : BenchRules WalkSensor Empty where
  reactions :=
    { occur := fun _ event _ => event.elim
      sample := fun now b => b.sampleButton now
      look := fun id mask b => b.look id mask }
  read := WalkSensor.read draws

/-- More pieces than a waking period has on this bench. -/
def rounds : Nat := 16

/-- Simulate one waking period. -/
def boot (draws : Draws) (s : Simulation) : Except DeviceError Simulation :=
  match TimedBench.run (rules draws) (Lifecycle.boot device rounds) s.bench with
  | (.failed reason, _) => .error reason
  | (_, bench) => .ok { s with bench }

/-- A number of boots, with blanks in front up to three characters. -/
def column (n : Nat) : String :=
  String.ofList (List.replicate (3 - n.repr.length) ' ') ++ n.repr

/-- The line about a boot.  It looks at the stored phase, as the device would. -/
def report (number : Nat) (s : Simulation) : Simulation × String :=
  let b := s.bench.world
  let (b, phase) := b.runBlobs Phase.load
  let (b, total) := b.runBlobs ReadingLog.total.run
  let buffered := match total with
    | .ok n => n
    | .error _ => 0
  let line := "🔁 Boot " ++ column number ++ ": state " ++ phase.name
    ++ ", slept " ++ (b.power.sleeps.getLastD 0).toNat.repr ++ "s, " ++ buffered.repr
    ++ " buffered, " ++ b.cloud.published.length.repr
    ++ " published, wifi connects " ++ b.link.attempts.repr
  ({ s with bench := { s.bench with world := b } }, line)

/-- The line about the whole simulation. -/
def summary (boots : UInt32) (s : Simulation) : String :=
  let now := s.bench.world.clock.time
  "🏁 Simulated " ++ boots.toNat.repr ++ " boots over " ++ (now.toNat - s.started.toNat).repr
    ++ "s of device time"

/-- Simulate a boot and tell about it. -/
def step (draws : Draws) (number : Nat) (s : Simulation) :
    Except DeviceError (Simulation × String) := do
  let s ← s.boot draws
  return s.report number

/-- Simulate some boots, the first of which has the given number.  The lines about the boots are
collected, also when one of them fails. -/
def boots (draws : Draws) : Nat → Nat → Simulation → List String × Except DeviceError Simulation
  | _, 0, s => ([], .ok s)
  | number, count + 1, s =>
    match s.step draws number with
    | .error reason => ([], .error reason)
    | .ok (s, line) =>
      let (lines, ended) := boots draws (number + 1) count s
      (line :: lines, ended)

end Simulation

end HatchSensor
