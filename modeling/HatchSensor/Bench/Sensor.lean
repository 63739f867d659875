import HatchSensor.Device.Surroundings

/-!
# The sensor of the bench

A sensor that replays a script of temperatures and then repeats the last of them.  Single results,
good or bad, can be put in front of the script.
-/

namespace HatchSensor

/-- A sensor that replays a script. -/
structure ScriptedSensor where
  /-- The temperatures still to come. -/
  script : List Single
  /-- The temperature when the script is over. -/
  last : Single
  /-- The results that come before the script goes on. -/
  queued : List (Attempt Climate)
deriving Inhabited

namespace ScriptedSensor

/-- The temperature of a sensor that was never given one: 37.8 degrees. -/
def usualTemperature : Single := ⟨0x42173333⟩

/-- The climate at a temperature: 55 percent, 101325 pascal, no gas. -/
def climate (temperature : Single) : Climate where
  temperature := temperature
  humidity := Single.ofNat 55
  pressure := Single.ofNat 101325
  gas := .zero

def start (script : List Single) : ScriptedSensor :=
  ⟨script, script.getLastD usualTemperature, []⟩

/-- Put a temperature at the end of the script. -/
def push (s : ScriptedSensor) (temperature : Single) : ScriptedSensor :=
  { s with script := s.script ++ [temperature] }

/-- Put a result before the script, after those already there. -/
def queue (s : ScriptedSensor) (result : Attempt Climate) : ScriptedSensor :=
  { s with queued := s.queued ++ [result] }

def read (s : ScriptedSensor) : ScriptedSensor × Attempt Climate :=
  match s.queued, s.script with
  | result :: rest, _ => ({ s with queued := rest }, result)
  | [], temperature :: rest =>
    ({ s with script := rest, last := temperature }, .ok (climate temperature))
  | [], [] => (s, .ok (climate s.last))

end ScriptedSensor

end HatchSensor
