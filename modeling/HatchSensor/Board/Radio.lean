import HatchSensor.Board.Platform
import HatchSensor.Device.Surroundings

/-!
# The radio of the board

The chip has one modem, which can serve the wireless network or the provisioning transport, not
both.  While nobody uses it, it lies in a slot.  Whoever starts a driver takes it out of the slot
and holds it as long as the driver lives.
-/

namespace HatchSensor

/-- The modem of the chip. -/
structure Modem where
deriving DecidableEq, Inhabited

/-- One user of the modem. -/
structure RadioUser where
  /-- Whether its driver exists. -/
  hasDriver : Bool
  /-- The modem, while it holds it. -/
  modem : Option Modem
deriving DecidableEq, Inhabited

/-- The modem and its two users. -/
structure Radio where
  /-- The modem, while nobody holds it. -/
  slot : Option Modem
  /-- The wireless network. -/
  wifi : RadioUser
  /-- The provisioning transport. -/
  transport : RadioUser
deriving DecidableEq, Inhabited

namespace Radio

/-- Nobody uses the modem. -/
def start : Radio := ⟨some ⟨⟩, ⟨false, none⟩, ⟨false, none⟩⟩

/-- The failure of taking a modem that somebody else holds. -/
def taken (holder : String) : Fault := ⟨"Radio already taken by " ++ holder⟩

/-- A driver that works on the radio and may fail. -/
abbrev Driver (α : Type) := ExceptT Fault (StateT Radio (Program Platform)) α

namespace Driver

def call (c : ChipCall) : Driver c.Answer :=
  ExceptT.mk fun radio => do return (.ok (← Platform.call c), radio)

def fail {α : Type} (reason : Fault) : Driver α :=
  ExceptT.mk fun radio => .done (.error reason, radio)

/-- Go on if a call succeeded, and explain its failure otherwise. -/
def expect {α : Type} (what : String) : Tried α → Driver α
  | .ok a => pure a
  | .error reason => fail ⟨what ++ ": " ++ reason.text⟩

def state : Driver Radio :=
  ExceptT.mk fun radio => .done (.ok radio, radio)

/-- Change the state of the radio. -/
def update (change : Radio → Radio) : Driver Unit :=
  ExceptT.mk fun radio => .done (.ok (), change radio)

/-- Make other requests. -/
def perform {α : Type} (p : Program Platform α) : Driver α :=
  ExceptT.mk fun radio => do return (.ok (← p), radio)

end Driver

/-- Take the modem out of the slot, where the other user may have left none. -/
def claim (other : String) : Driver Modem := do
  match (← Driver.state).slot with
  | none => Driver.fail (taken other)
  | some modem =>
    Driver.update fun r => { r with slot := none }
    return modem

/-- Put the modem back into the slot. -/
def release (modem : Modem) : Driver Unit :=
  Driver.update fun r => { r with slot := some modem }

end Radio

/-! ## The wireless network -/

namespace Wifi

/-- The longest name of a network, in bytes. -/
def ssidLimit : Nat := 32

/-- The longest password, in bytes. -/
def passwordLimit : Nat := 64

/-- Make a driver. -/
def createDriver : Program Platform (Tried Unit) := do
  match ← Platform.call .createWifi with
  | .error reason => return .error reason
  | .ok () => Platform.call .wrapWifi

/-- Start the driver, unless there is one.  A modem whose driver cannot be made goes back into
the slot. -/
def startDriver : Radio.Driver Unit := do
  if (← Radio.Driver.state).wifi.hasDriver then return ()
  else
    let modem ← Radio.claim "BLE"
    match ← Radio.Driver.perform createDriver with
    | .error reason =>
      Radio.release modem
      Radio.Driver.fail ⟨"Failed to create WiFi driver: " ++ reason.text⟩
    | .ok () => Radio.Driver.update fun r => { r with wifi := ⟨true, some modem⟩ }

/-- The wording of a timeout. -/
def timeoutText (timeout : Nat) : String :=
  "Duration \x7b ticks: " ++ timeout.repr ++ " \x7d"

/-- Join a network and wait for an address. -/
def join (credentials : Credentials) (timeout : Nat) : Radio.Driver Unit := do
  let call := Radio.Driver.call
  if ssidLimit < Bytes.textSize credentials.ssid then Radio.Driver.fail ⟨"SSID too long"⟩
  else if passwordLimit < Bytes.textSize credentials.password then
    Radio.Driver.fail ⟨"Password too long"⟩
  else
    startDriver
    Radio.Driver.expect "Failed to set WiFi configuration"
      (← call (.configureWifi credentials.ssid credentials.password credentials.password.isEmpty))
    Radio.Driver.expect "Failed to start WiFi" (← call .startWifi)
    Radio.Driver.expect ("Failed to associate with '" ++ credentials.ssid ++ "'") (← call .joinWifi)
    Radio.Driver.expect ("No IP address within " ++ timeoutText timeout)
      (← call (.awaitAddress timeout))
    Radio.Driver.expect "Failed to read IP info" (← call .readAddress)
    Radio.Driver.perform (Platform.clear .linkDown)
    Radio.Driver.perform (Platform.raise .linkUp)

/-- Shut the driver down. -/
def stopDriver : Program Platform Unit := do
  match ← Platform.call .isJoined with
  | .ok true =>
    let _ ← Platform.call .leaveWifi
  | _ => pure ()
  let _ ← Platform.call .stopWifi
  Platform.call .dropWifi

/-- Leave the network and give the modem back. -/
def leave (radio : Radio) : Program Platform Radio := do
  if radio.wifi.hasDriver then stopDriver
  let slot := match radio.wifi.modem with
    | some modem => some modem
    | none => radio.slot
  Platform.clear .linkUp
  Platform.raise .linkDown
  return { radio with slot, wifi := ⟨false, none⟩ }

end Wifi

end HatchSensor
