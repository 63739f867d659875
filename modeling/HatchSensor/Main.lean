import HatchSensor.Simulator.Chance
import HatchSensor.Simulator.Run
import Std.Time.DateTime.Timestamp

/-!
# The command line of the simulator
-/

open HatchSensor

/-- Seconds since 1970. -/
def wallClock : IO Int := do
  let now ← Std.Time.Timestamp.now
  return now.toSecondsSinceUnixEpoch.val

/-- Simulate as many boots as asked for and print a line about each of them. -/
def simulate (options : SimulatorOptions) (simulation : Simulation) : IO UInt32 := do
  let draws := Chance.draws options.seed
  let mut simulation := simulation
  for i in [0:options.boots.toNat] do
    match simulation.step draws (i + 1) with
    | .error reason =>
      IO.eprintln ("Error: " ++ reason.message)
      return 1
    | .ok (next, line) =>
      IO.println line
      simulation := next
  IO.println (simulation.summary options.boots)
  return 0

/-- Understand the arguments and simulate what they ask for. -/
def main (arguments : List String) : IO UInt32 := do
  match SimulatorOptions.ofArguments arguments with
  | .error reason =>
    IO.eprintln ("Error: " ++ reason.message)
    return 1
  | .ok options =>
    match Simulation.startAt (← wallClock) with
    | .error reason =>
      IO.eprintln ("Error: " ++ reason.text)
      return 1
    | .ok simulation => simulate options simulation
