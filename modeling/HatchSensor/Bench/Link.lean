import HatchSensor.Device.Surroundings

/-!
# The network link of the bench

A network that is reachable or not.  Joining it raises the link signal at once; leaving it swaps
the two link signals.
-/

namespace HatchSensor

/-- A network link. -/
structure BenchLink where
  /-- Whether the network can be found. -/
  reachable : Bool
  /-- While set, a link that has come up loses its signal again at once. -/
  silent : Bool
  /-- Whether the device has joined. -/
  connected : Bool
  /-- How often the device has tried to join. -/
  attempts : Nat
  /-- The network it tried last. -/
  lastSsid : Option String
deriving Inhabited

namespace BenchLink

/-- A reachable network that nobody has joined. -/
def start : BenchLink := ⟨true, false, false, 0, none⟩

/-- Try to join. -/
def join (l : BenchLink) (credentials : Credentials) : BenchLink × Attempt Unit :=
  let l := { l with attempts := l.attempts + 1, lastSsid := some credentials.ssid }
  if l.reachable then ({ l with connected := true }, .ok ())
  else (l, .error ⟨"Network '" ++ credentials.ssid ++ "' not found"⟩)

/-- What joining does to the signals. -/
def joined (l : BenchLink) (register : SignalRegister) : SignalRegister :=
  let register := register.set .linkUp
  if l.silent then register.clear .linkUp else register

/-- What leaving does to the signals. -/
def left (l : BenchLink) (register : SignalRegister) : SignalRegister :=
  if l.connected then (register.clear .linkUp).set .linkDown else register

/-- Leave the network. -/
def leave (l : BenchLink) : BenchLink :=
  { l with connected := false }

end BenchLink

end HatchSensor
