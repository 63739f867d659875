import HatchSensor.Device.Surroundings

/-!
# Virtual time

Time in a world of this kind is moved on by the parked waits, and by code that says how long it
takes.  While a wait is parked, time jumps to whatever is due next: an event from outside, the end
of the wait, or the next sample of the button.

At one instant the events come first, then whatever the wait makes of them, then the sample, and
then whatever the wait makes of that.  Code that takes time delays what falls due meanwhile: the
sample until the code parks, and the events until there is nothing left to wake the wait at that
instant.
-/

namespace HatchSensor

/-- A world, the instant it has reached, and what is still to happen to it.  Instants are
microseconds. -/
structure Timed (σ ε : Type) where
  /-- The state of the world. -/
  world : σ
  /-- The instant it has reached. -/
  now : Nat
  /-- The events still to come and their instants, in order. -/
  pending : List (Nat × ε)
  /-- When the button is sampled next, if it is sampled at all. -/
  sampleDue : Option Nat
  /-- The last instant of the world, if it has one. -/
  horizon : Option Nat

/-- How a world reacts to what happens to it. -/
structure Reactions (σ ε : Type) where
  /-- An event happens at an instant. -/
  occur : Nat → ε → σ → σ
  /-- The button is sampled at an instant. -/
  sample : Nat → σ → σ
  /-- A wait looks at the register. -/
  look : UInt32 → SignalBits → σ → σ × Option SignalBits

/-- How a wait ends. -/
inductive Parked where
  /-- It goes on. -/
  | woken (cause : Wake)
  /-- The last instant of the world has come. -/
  | cutOff
deriving DecidableEq

namespace Timed

variable {σ ε : Type}

/-- A world at instant zero to which nothing is going to happen. -/
def start (world : σ) : Timed σ ε where
  world := world
  now := 0
  pending := []
  sampleDue := none
  horizon := none

/-- The time between two samples. -/
def samplePeriod : Nat := 50000

/-- Put an event among others, after those of the same instant. -/
def schedule (due : Nat) (event : ε) : List (Nat × ε) → List (Nat × ε)
  | [] => [(due, event)]
  | (first, other) :: rest =>
    if due < first then (due, event) :: (first, other) :: rest
    else (first, other) :: schedule due event rest

/-- Events in the order of their instants; those of one instant keep their order. -/
def agenda (events : List (Nat × ε)) : List (Nat × ε) :=
  events.foldl (fun ordered e => schedule e.1 e.2 ordered) []

/-- Let the events happen that are due. -/
def happen (r : Reactions σ ε) (now : Nat) : List (Nat × ε) → σ → σ × List (Nat × ε)
  | [], world => (world, [])
  | (due, event) :: rest, world =>
    if due ≤ now then happen r now rest (r.occur now event world)
    else (world, (due, event) :: rest)

/-- Let the events happen that are due by now. -/
def catchUp (r : Reactions σ ε) (t : Timed σ ε) : Timed σ ε :=
  let (world, pending) := happen r t.now t.pending t.world
  { t with world, pending }

/-- What a wait makes of the present instant.  It looks at the register first, at its deadline
second, and at the timer beside it last. -/
def examine (r : Reactions σ ε) (id : UInt32) (mask : SignalBits) (deadline : Nat)
    (timer : Option Nat) (t : Timed σ ε) : Timed σ ε × Option Wake :=
  let (world, seen) := r.look id mask t.world
  let t := { t with world }
  match seen with
  | some bits => (t, some (.signalled bits))
  | none =>
    if deadline ≤ t.now then (t, some .expired)
    else if timer.any fun due => decide (due ≤ t.now) then (t, some .elapsed)
    else (t, none)

/-- Sample the button. -/
def sample (r : Reactions σ ε) (t : Timed σ ε) : Timed σ ε :=
  { t with world := r.sample t.now t.world, sampleDue := some (t.now + samplePeriod) }

/-- Whether a sample is due. -/
def sampleIsDue (t : Timed σ ε) : Bool :=
  t.sampleDue.any fun due => decide (due ≤ t.now)

/-- The first of the instants at which something is due.  What fell due while code ran is due
now. -/
def nextInstant (t : Timed σ ε) (deadline : Nat) (timer : Option Nat) : Nat :=
  let due := [timer, t.pending.head?.map Prod.fst, t.sampleDue].filterMap id
  max t.now (due.foldl min deadline)

/-- Move on to an instant, unless the world ends before it. -/
def moveOn (t : Timed σ ε) (instant : Nat) : Timed σ ε × Bool :=
  match t.horizon with
  | some last =>
    if last < instant then ({ t with now := max t.now last }, false)
    else ({ t with now := instant }, true)
  | none => ({ t with now := instant }, true)

/-- Sample the button if that is due. -/
def sampleIfDue (r : Reactions σ ε) (t : Timed σ ε) : Timed σ ε :=
  if t.sampleIsDue then t.sample r else t

/-- What a wait makes of the bits that have been raised since it was parked. -/
def recheck (r : Reactions σ ε) (id : UInt32) (mask : SignalBits) (t : Timed σ ε) :
    Timed σ ε × Option Wake :=
  let (world, seen) := r.look id mask t.world
  ({ t with world }, seen.map .signalled)

/-- Stay parked for at most `span` jumps. -/
def parkWithin (r : Reactions σ ε) (id : UInt32) (mask : SignalBits) (deadline : Nat)
    (timer : Option Nat) : Nat → Timed σ ε → Timed σ ε × Parked
  | 0, t => (t, .woken .expired)
  | span + 1, t =>
    match t.moveOn (t.nextInstant deadline timer) with
    | (t, false) => (t, .cutOff)
    | (t, true) =>
      match examine r id mask deadline timer (t.catchUp r) with
      | (t, some wake) => (t, .woken wake)
      | (t, none) =>
        match recheck r id mask (t.sampleIfDue r) with
        | (t, some wake) => (t, .woken wake)
        | (t, none) => parkWithin r id mask deadline timer span t

/-- What a wait makes of the present instant right after it was parked.  A bit that the code has
raised meanwhile wakes it at once.  So does the timer that it set as it parked, or its deadline if
it has no timer, if that leaves it no time. -/
def awake (r : Reactions σ ε) (id : UInt32) (mask : SignalBits) (deadline : Nat)
    (timer : Option Nat) (t : Timed σ ε) : Timed σ ε × Option Wake :=
  if timer.getD deadline ≤ t.now then examine r id mask deadline timer t
  else recheck r id mask t

/-- Park.  No event happens before the present instant is used up: the button has been sampled if
that was due, and the wait has looked again if it was woken.

Every jump but the first takes at least a microsecond, so the deadline bounds their number. -/
def park (r : Reactions σ ε) (id : UInt32) (mask : SignalBits) (deadline : Nat)
    (timer : Option Nat) (t : Timed σ ε) : Timed σ ε × Parked :=
  match awake r id mask deadline timer (t.sampleIfDue r) with
  | (t, some wake) => (t, .woken wake)
  | (t, none) => parkWithin r id mask deadline timer (deadline - t.now + 2) t

end Timed

end HatchSensor
