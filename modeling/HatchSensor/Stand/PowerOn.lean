import HatchSensor.Board.Firmware
import HatchSensor.Stand.Chip
import HatchSensor.Timeline

/-!
# Switching a board on

The firmware runs on the test stand in virtual time, from the moment the board wakes up until it
sleeps or the last instant has come.  Only a parked wait takes time; while the board is parked,
the button, the clock and the radio have events.

A device that cannot go on says so every second, and still answers the events of its radio.
-/

namespace HatchSensor

/-- A board on the test stand. -/
structure StandBoard where
  stand : Stand
  /-- The memory of the drivers. -/
  board : Board Session

/-- What happens to a board on the stand. -/
inductive StandHappening where
  /-- The button is pressed or released. -/
  | press (pressed : Bool)
  /-- The calendar clock shows a time. -/
  | putClock (seconds : Int)
  /-- The attribute server has an event on an interface. -/
  | attribute (interface : Nat) (event : GattEvent)
  | advertising (event : AdvertisingEvent)
  | nothing

structure StandEvent where
  /-- The responses that are put at the end of the script first. -/
  responses : List (String × List Response)
  /-- What happens. -/
  happening : StandHappening

/-- Why a board does nothing more. -/
inductive PowerEnd where
  /-- It sleeps. -/
  | asleep
  /-- The last instant has come. -/
  | cutOff
deriving DecidableEq

namespace StandBoard

/-- Let the drivers work at an instant. -/
def drive {α : Type} (now : Nat) (task : Board.Task Session α) (w : StandBoard) :
    StandBoard × α :=
  let ((a, board), stand) := Id.run ((Stand.run now (task w.board)).run w.stand)
  (⟨stand, board⟩, a)

/-- Let something happen. -/
def happen (now : Nat) (w : StandBoard) : StandHappening → StandBoard
  | .press pressed => { w with stand := { w.stand with pressed } }
  | .putClock seconds => { w with stand := { w.stand with wall := seconds } }
  | .attribute interface event =>
    (w.drive now (Board.attend Firmware.client interface event)).1
  | .advertising event => (w.drive now (Board.advertise event)).1
  | .nothing => w

/-- An event happens. -/
def occur (now : Nat) (event : StandEvent) (w : StandBoard) : StandBoard :=
  { w with stand := w.stand.prepare event.responses }.happen now event.happening

/-- The button is sampled. -/
def sample (now : Nat) (w : StandBoard) : StandBoard :=
  { w with stand := w.stand.sample now }

/-- A wait looks at the register. -/
def look (id : UInt32) (mask : SignalBits) (w : StandBoard) : StandBoard × Option SignalBits :=
  let (register, seen) := w.stand.register.look id mask
  ({ w with stand := { w.stand with register } }, seen)

/-- How a board on the stand reacts. -/
def reactions : Reactions StandBoard StandEvent where
  occur := occur
  sample := sample
  look := look

end StandBoard

/-- A board on the stand, in virtual time. -/
abbrev TimedStand := Timed StandBoard StandEvent

namespace TimedStand

/-! ## The surroundings of the phases -/

/-- A piece of the life of a board on the stand. -/
abbrev Life (α : Type) := ExceptT PowerEnd (StateM TimedStand) α

namespace Life

/-- Change the board or the stand, and get an answer. -/
def query {α : Type} (change : Nat → StandBoard → StandBoard × α) : Life α :=
  ExceptT.mk fun t =>
    let (world, a) := change t.now t.world
    (.ok a, { t with world })

/-- Let the drivers work. -/
def drive {α : Type} (task : Board.Task Session α) : Life α :=
  query fun now w => w.drive now task

/-- Let the drivers make requests that change nothing they remember. -/
def perform {α : Type} (p : Program Platform α) : Life α :=
  drive fun board => do return (← p, board)

/-- Look at the signal register, or change it. -/
def register {α : Type} (change : SignalRegister → SignalRegister × α) : Life α :=
  query fun _ w =>
    let (register, a) := change w.stand.register
    ({ w with stand := { w.stand with register } }, a)

/-- The board does nothing more. -/
def finish {α : Type} (reason : PowerEnd) : Life α :=
  ExceptT.mk fun t => (.error reason, t)

/-- Let a wait be parked. -/
def park (id : UInt32) (mask : SignalBits) (deadline : Nat) (timer : Option Nat) : Life Wake :=
  ExceptT.mk fun t =>
    match Timed.park (StandBoard.reactions) id mask deadline timer t with
    | (t, .woken wake) => (.ok wake, t)
    | (t, .cutOff) => (.error .cutOff, t)

/-- Sleep.  On the stand nothing wakes the board up. -/
def sleep (seconds : UInt32) : Life Unit := do
  perform (BoardPower.sleep seconds)
  finish .asleep

/-- Answer a request of a phase. -/
def answer (names : Firmware.Setup) : (request : DeviceRequest) → Life request.Answer
  | .blob request => perform (FlashStore.answer request)
  | .signals => register fun r => (r, r.bits)
  | .raise bits => register fun r => (r.set bits, ())
  | .clear bits => register fun r => (r.clear bits, ())
  | .openWait => register SignalRegister.register
  | .look id mask => register fun r => r.look id mask
  | .park id mask deadline timer => park id mask deadline timer
  | .closeWait id => register fun r => (r.forget id, ())
  | .instant => query fun now w => (w, now)
  | .sense => drive Board.sense
  | .time => perform BoardClock.time
  | .ticks => perform BoardClock.ticks
  | .setTime time => perform (BoardClock.setTime time)
  | .startTimeSync => drive Board.startTimeSync
  | .join credentials timeout => drive (Board.join credentials timeout)
  | .leave => drive Board.leave
  | .connect client timeout => drive (Board.connect Firmware.stored client timeout)
  | .requestShadow thing => drive (Board.requestShadow thing)
  | .pump timeout => drive (Board.pump timeout)
  | .publish topic payload timeout => drive (Board.publish topic payload timeout)
  | .disconnect => drive Board.disconnect
  | .openProvisioning session =>
    drive (Board.openProvisioning names.advertisedName session)
  | .closeProvisioning => drive Board.closeProvisioning
  | .takeRequestedTime => drive Firmware.takeRequestedTime
  | .sleep seconds => sleep seconds
  | .report notice => perform (Platform.report notice.message)

/-! ## From the start to the end -/

/-- The time between two lines of a device that cannot go on. -/
def haltInterval : Nat := 1000000

/-- Say that the device cannot go on, at most the given number of times. -/
def halt (reason : String) : Nat → Life PowerEnd
  | 0 => return .cutOff
  | lines + 1 => do
    perform (Platform.report (Firmware.haltLine reason))
    let now ← query fun now w => (w, now)
    let _ ← park 0 .none (now + haltInterval) none
    halt reason lines

/-- How many lines a device that cannot go on may write before the last instant; if there is no
last instant, one. -/
def haltLines : Life Nat :=
  ExceptT.mk fun t =>
    match t.horizon with
    | some last => (.ok ((last - t.now) / haltInterval + 1), t)
    | none => (.ok 1, t)

/-- The device cannot go on. -/
def fail (reason : String) : Life PowerEnd := do
  ExceptT.mk fun t =>
    (.ok (), { t with world := { t.world with stand := t.world.stand.stopSampling },
                      sampleDue := none })
  halt reason (← haltLines)

/-- The timer of the button takes its first sample after one period. -/
def startSampling : Life Unit :=
  ExceptT.mk fun t => (.ok (), { t with sampleDue := some (t.now + debounceInterval) })

/-- More phases than one waking period can have. -/
def rounds : Nat := 1000000

/-- The drivers are given up. -/
def giveUp : Life Unit :=
  drive fun board => do return (← board.dispose, board)

/-- The drivers are given up if the last instant comes during a piece of the life. -/
def untilCutOff {α : Type} (piece : Life α) : Life α :=
  tryCatch piece fun reason => do
    if reason = .cutOff then giveUp
    throw reason

/-- The life of a device whose firmware has started. -/
def live (names : Firmware.Setup) : Life PowerEnd := do
  startSampling
  let phases := Program.run (m := Life) (answer names) (Lifecycle.live names.device rounds 1)
  match ← untilCutOff phases with
  | .failed reason =>
    giveUp
    fail reason.message
  | _ => return .cutOff

/-- Switch the board on. -/
def powerOn : Life PowerEnd := do
  match ← perform Firmware.setUp.run with
  | .ok names => live names
  | .error reason => fail reason.text

end Life

/-- What came of switching a board on: why it does nothing more, and the board then. -/
def powerOn (t : TimedStand) : PowerEnd × TimedStand :=
  match Id.run ((Life.powerOn).run (t.catchUp (StandBoard.reactions))) with
  | (.ok reason, t) => (reason, t)
  | (.error reason, t) => (reason, t)

/-- A board on a stand, the events that happen to it, and its last instant. -/
def start (stand : Stand) (events : List (Nat × StandEvent)) (horizon : Option Nat) :
    TimedStand where
  world := ⟨stand, .start⟩
  now := 0
  pending := Timed.agenda events
  sampleDue := none
  horizon := horizon

end TimedStand

end HatchSensor
