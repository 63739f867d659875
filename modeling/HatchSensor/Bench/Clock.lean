import HatchSensor.Device.Surroundings
import HatchSensor.Button.Monitor

/-!
# The clock and the power supply of the bench

The calendar clock and the millisecond counter of the bench move only when they are told to, or
when the device sleeps: a sleep returns at once and moves both by its length.
-/

namespace HatchSensor

/-- A calendar clock and a millisecond counter. -/
structure BenchClock where
  /-- Seconds since 1970. -/
  time : UInt32
  /-- Milliseconds, counted round and round. -/
  ticks : UInt32
  /-- The time that a synchronisation with the network installs. -/
  networkTime : Option UInt32
deriving Inhabited

namespace BenchClock

/-- A clock that shows a time and has not counted anything. -/
def start (time : UInt32) : BenchClock := ⟨time, 0, none⟩

/-- Move on by some seconds.  The calendar stops at its last second; the counter goes round. -/
def advance (c : BenchClock) (seconds : UInt32) : BenchClock :=
  { c with
    time := UInt32.ofNat (min (c.time.toNat + seconds.toNat) 0xffffffff)
    ticks := c.ticks + seconds * 1000 }

/-- Install the time of the network, if there is one. -/
def synchronise (c : BenchClock) : BenchClock :=
  { c with time := c.networkTime.getD c.time }

end BenchClock

/-- A power supply that records how long the device slept. -/
structure BenchPower where
  /-- Why the device woke up last. -/
  cause : WakeCause
  /-- What it is told instead, if it is told something else. -/
  pretended : Option WakeCause
  /-- The sleeps so far, in seconds. -/
  sleeps : List UInt32
deriving Inhabited

namespace BenchPower

/-- A device that has just been switched on. -/
def start : BenchPower := ⟨.powerOn, none, []⟩

/-- Sleep for some seconds and wake up by the timer. -/
def sleep (p : BenchPower) (seconds : UInt32) : BenchPower :=
  { p with cause := .timer, sleeps := p.sleeps ++ [seconds] }

/-- The cause of the last wake-up, as the device is told. -/
def wakeCause (p : BenchPower) : WakeCause :=
  p.pretended.getD p.cause

end BenchPower

end HatchSensor
