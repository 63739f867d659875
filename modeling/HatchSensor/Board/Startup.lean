import HatchSensor.Board.Platform
import HatchSensor.Device.Surroundings

/-!
# Starting up

While the firmware starts, the first call that fails stops it, and its failure is explained.
-/

namespace HatchSensor

/-- A piece of the start of the firmware, which may be stopped by a fault. -/
abbrev Startup (α : Type) := ExceptT Fault (Program Platform) α

namespace Startup

/-- Make requests that cannot stop the start. -/
def perform {α : Type} (p : Program Platform α) : Startup α :=
  ExceptT.lift p

/-- Let a driver do its work; a fault of the driver stops the start. -/
def require {α : Type} (p : Program Platform (Attempt α)) : Startup α :=
  ExceptT.mk p

/-- Go on if a call succeeds, and explain its failure otherwise. -/
def expect {α : Type} (what : String) (call : Program Platform (Tried α)) : Startup α :=
  ExceptT.mk do
    match ← call with
    | .ok a => return .ok a
    | .error reason => return .error ⟨what ++ ": " ++ reason.text⟩

end Startup

end HatchSensor
