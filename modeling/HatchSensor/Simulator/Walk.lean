import HatchSensor.Device.Surroundings

/-!
# A drifting temperature

The sensor of the simulator drifts around the temperature of an incubator.  Chance comes from
outside: a sequence of draws, one for every decision.  When the draws are used up, every decision
falls on the low end of its range, and nothing unlikely happens.
-/

namespace HatchSensor

/-- A sequence of draws, as far as it goes. -/
abbrev Draws := Nat → Option Single

/-- A sensor whose temperature drifts. -/
structure WalkSensor where
  /-- The temperature without excursions. -/
  temperature : Single
  /-- How many decisions have been made. -/
  decisions : Nat
deriving Inhabited

namespace WalkSensor

/-- A sensor at 37.5 degrees. -/
def start : WalkSensor := ⟨⟨0x42160000⟩, 0⟩

/-- The lowest temperature without excursions. -/
def lowest : Single := Single.ofNat 36

/-- The highest temperature without excursions. -/
def highest : Single := Single.ofNat 39

/-- The largest fall of the temperature between two readings: 0.2 degrees. -/
def largestFall : Single := ⟨0xbe4ccccd⟩

/-- The size of an excursion: 2.5 degrees. -/
def excursion : Single := ⟨0x40200000⟩

def lowestHumidity : Single := Single.ofNat 50

def usualPressure : Single := Single.ofNat 101325

/-- The largest fall of the pressure below the usual one. -/
def largestPressureFall : Single := Single.ofInt (-200)

/-- Draw from a range with the given low end. -/
def draw (draws : Draws) (low : Single) (s : WalkSensor) : WalkSensor × Single :=
  ({ s with decisions := s.decisions + 1 }, (draws s.decisions).getD low)

/-- Decide whether something unlikely happens. -/
def chance (draws : Draws) (s : WalkSensor) : WalkSensor × Bool :=
  let (s, x) := s.draw draws .zero
  (s, decide (x.key ≠ some 0))

def read (draws : Draws) (s : WalkSensor) : WalkSensor × Attempt Climate :=
  let (s, change) := s.draw draws largestFall
  let s := { s with temperature := (s.temperature + change).clamp lowest highest }
  let (s, isUnusual) := s.chance draws
  let (s, humidity) := s.draw draws lowestHumidity
  let (s, change) := s.draw draws largestPressureFall
  let temperature := s.temperature + if isUnusual then excursion else .zero
  (s, .ok { temperature, humidity, pressure := usualPressure + change, gas := .zero })

end WalkSensor

end HatchSensor
