import HatchSensor.Device.Surroundings
import HatchSensor.Shadow.Document

/-!
# The shadow exchange

One bounded conversation with the cloud about the shadow of the device: connect, ask for the
shadow, let the session work until a usable document has arrived, a reset is requested or the pumps
are used up, and disconnect again.

Every usable document is merged onto the same configuration; the last one counts.
-/

namespace HatchSensor

/-- The pace of a shadow exchange. -/
structure PumpSchedule where
  /-- How long the session works at a time. -/
  step : Nat
  /-- The pause between two steps. -/
  interval : Nat
  /-- How many steps there are at most. -/
  pumps : Nat
deriving DecidableEq, Inhabited

/-- The outcome of a shadow exchange. -/
inductive ShadowOutcome where
  /-- A configuration has arrived. -/
  | updated (config : HatchConfig)
  /-- No usable document has arrived. -/
  | notReceived
  /-- A reset was requested meanwhile. -/
  | resetRequested
deriving DecidableEq

/-- Why a shadow exchange failed. -/
inductive ExchangeError where
  /-- The session could not be opened. -/
  | connect (reason : Fault)
  /-- The shadow could not be asked for. -/
  | request (reason : Fault)
  /-- The session broke down. -/
  | pump (reason : Fault)
deriving DecidableEq

namespace ExchangeError

/-- The wording of the error. -/
def message : ExchangeError → String
  | connect reason => "Failed to connect for shadow sync: " ++ reason.text
  | request reason => "Failed to request shadow: " ++ reason.text
  | pump reason => "Shadow pump failed: " ++ reason.text

end ExchangeError

namespace ShadowExchange

/-- How long opening the session may take. -/
def connectTimeout : Nat := 20000000

/-- What the wait is allowed beyond the pumps. -/
def slack : Nat := 1000000

/-- The time the wait is allowed. -/
def budget (s : PumpSchedule) : Nat :=
  (s.step + s.interval) * s.pumps + slack

/-- The bits the exchange waits for. -/
def mask : SignalBits := SignalRegister.waitMask .shadowReceived

/-- Merge the documents of a step onto the current configuration.  Every usable one raises the
signal; the others are passed over. -/
def collect (current : HatchConfig) :
    Option HatchConfig → List Bytes → Program Surroundings (Option HatchConfig)
  | received, [] => .done received
  | received, document :: rest =>
    match applyShadow document current with
    | .error _ => collect current received rest
    | .ok config => do
      Surroundings.raise .shadowReceived
      collect current (some config) rest

/-- Let the session work, at most as many times as pumps are left, pausing after every step.  The
wait is looked at before the pause is over. -/
def pumpAll (s : PumpSchedule) (current : HatchConfig) (id : UInt32) (deadline : Nat) :
    Nat → Option HatchConfig → Program Surroundings (Attempt (Option HatchConfig))
  | 0, received => .done (.ok received)
  | pumps + 1, received => do
    let pumped ← Surroundings.pump s.step
    let received ← collect current received pumped.documents
    match pumped.outcome with
    | .error reason => return .error reason
    | .ok () =>
      let now ← Surroundings.instant
      match ← Surroundings.park id mask deadline (some (now + s.interval)) with
      | .elapsed => pumpAll s current id deadline pumps received
      | _ => return .ok received

/-- The conversation inside an open session. -/
def converse (s : PumpSchedule) (thing : String) (current : HatchConfig) :
    Program Surroundings (Except ExchangeError ShadowOutcome) := do
  match ← Surroundings.requestShadow thing with
  | .error reason => return .error (.request reason)
  | .ok () =>
    let id ← Surroundings.openWait
    let start ← Surroundings.instant
    let pumped ←
      match ← Surroundings.look id mask with
      | some _ => pure (.ok none)
      | none => pumpAll s current id (start + budget s) s.pumps none
    Surroundings.closeWait id
    match pumped with
    | .error reason => return .error (.pump reason)
    | .ok received =>
      let bits ← Surroundings.signals
      if bits.contains .resetRequested then return .ok .resetRequested
      else
        match received with
        | some config => return .ok (.updated config)
        | none => return .ok .notReceived

/-- The whole exchange, for the thing of the given name. -/
def fetch (s : PumpSchedule) (thing : String) (current : HatchConfig) :
    Program Surroundings (Except ExchangeError ShadowOutcome) := do
  Surroundings.clear .shadowReceived
  match ← Surroundings.connect thing connectTimeout with
  | .error reason => return .error (.connect reason)
  | .ok () =>
    let outcome ← converse s thing current
    Surroundings.disconnect
    Surroundings.clear .shadowReceived
    return outcome

end ShadowExchange

end HatchSensor
