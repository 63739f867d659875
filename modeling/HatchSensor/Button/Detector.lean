/-!
# The button detector

A pure edge detector over sampled button levels.  A press counts once it has lasted the debounce
interval; a press held for the reset interval requests a factory reset, once.

Times are microseconds; a sample older than the start of a press gives a duration of zero.
-/

namespace HatchSensor

/-- How long a level must last before it counts as a press; also the sampling period. -/
def debounceInterval : Nat := 50000

/-- How long the button must be held to request a factory reset. -/
def resetHold : Nat := 9500000

/-- What a sample can reveal. -/
inductive ButtonEvent where
  /-- A press has lasted the debounce interval. -/
  | pressed
  /-- The button was released after the given time. -/
  | released (held : Nat)
  /-- The button has been held for the reset interval. -/
  | resetRequested
  /-- The button was released after it had requested a reset. -/
  | resetReleased
deriving DecidableEq

/-- What the detector knows about the button. -/
inductive ButtonDetector where
  /-- Not pressed. -/
  | idle
  /-- Pressed since the given time, but not yet long enough to count. -/
  | debouncing (since : Nat)
  /-- Pressed since the given time. -/
  | tracking (since : Nat)
  /-- Still held after a reset request. -/
  | latched
deriving DecidableEq

namespace ButtonDetector

/-- The detector at its start; a button that is already held counts as pressed. -/
def start (pressed : Bool) (now : Nat) : ButtonDetector :=
  if pressed then tracking now else idle

/-- Whether the button counts as pressed. -/
def isPressed : ButtonDetector → Bool
  | tracking _ => true
  | latched => true
  | _ => false

/-- Take one sample of the level. -/
def sample (pressed : Bool) (now : Nat) : ButtonDetector → ButtonDetector × Option ButtonEvent
  | idle => if pressed then (debouncing now, none) else (idle, none)
  | debouncing since =>
    if pressed then
      if debounceInterval ≤ now - since then (tracking since, some .pressed)
      else (debouncing since, none)
    else (idle, none)
  | tracking since =>
    if pressed then
      if resetHold ≤ now - since then (latched, some .resetRequested)
      else (tracking since, none)
    else (idle, some (.released (now - since)))
  | latched => if pressed then (latched, none) else (idle, some .resetReleased)

end ButtonDetector

end HatchSensor
