import HatchSensor.Board.Radio
import HatchSensor.Board.Gatt

/-!
# The provisioning transport of the board

Opening the transport gives the attribute server a session, takes the modem and starts the radio;
closing it undoes that in reverse.  The server comes up by events of its own afterwards.  Their
handlers are registered once and for all, when the driver runs for the first time.
-/

namespace HatchSensor

/-- The radio and the attribute server on it. -/
structure Wireless (η : Type) where
  radio : Radio
  /-- The attribute server. -/
  gatt : Gatt η
  /-- Whether the handlers of its events have been registered, or it was tried. -/
  listening : Bool
deriving Inhabited

namespace Wireless

variable {η : Type}

/-- The state of a board that has just been switched on. -/
def start : Wireless η := ⟨.start, .start, false⟩

/-! ## Opening -/

/-- Start the driver, unless there is one. -/
def startDriver : Radio.Driver Unit := do
  if (← Radio.Driver.state).transport.hasDriver then return ()
  else
    let modem ← Radio.claim "WiFi"
    match ← Radio.Driver.call .createBluetooth with
    | .error reason =>
      Radio.release modem
      Radio.Driver.fail ⟨"Failed to start BT driver: " ++ reason.text⟩
    | .ok () => Radio.Driver.update fun r => { r with transport := ⟨true, some modem⟩ }

/-- Fail if a call failed with a code. -/
def expectCode (what : String) (code : Int) : Radio.Driver Unit :=
  if code = 0 then pure () else Radio.Driver.fail ⟨Gatt.failureText what code⟩

/-- Register the handlers, unless that has been tried before. -/
def registerHandlers (listening : Bool) : Radio.Driver Unit := do
  if listening then return ()
  else
    expectCode "GATT callback registration" (← Radio.Driver.call .registerServerHandler)
    expectCode "GAP callback registration" (← Radio.Driver.call .registerAdvertisingHandler)

/-- Start the driver and register the application of the server. -/
def startServer (name : String) (listening : Bool) : Radio.Driver Unit := do
  startDriver
  registerHandlers listening
  if name.toList.contains (Char.ofNat 0) then Radio.Driver.fail ⟨"Invalid device name"⟩
  else
    expectCode "Device name setting" (← Radio.Driver.call (.setDeviceName name))
    expectCode "GATT application registration" (← Radio.Driver.call (.registerApp Gatt.app))

/-- Open the transport for a session, under the name of the device.  A session whose radio cannot
be started stays with the server, but is not advertised. -/
def enable (name : String) (session : η) (w : Wireless η) :
    Program Platform (Attempt Unit × Wireless η) := do
  let gatt := { w.gatt with session := some session, advertising := true }
  let (result, radio) ← (startServer name w.listening).run w.radio
  -- Whoever got as far as a driver has tried to register the handlers.
  let listening := w.listening || radio.transport.hasDriver
  match result with
  | .ok () => return (.ok (), { radio, gatt, listening })
  | .error reason =>
    return (.error reason, { radio, gatt := { gatt with advertising := false }, listening })

/-! ## Closing -/

/-- Disconnect the client and stop to advertise. -/
def sayGoodbye (g : Gatt η) : Program Platform Unit := do
  if g.connected then
    Gatt.logCode "Client disconnect"
      (← Platform.call (.closeConnection g.interface g.connection))
  Gatt.logCode "Advertising stop" (← Platform.call .stopAdvertising)

/-- Remove the application of the server, if there is one. -/
def unregister (interface : Nat) : Program Platform (Attempt Unit) := do
  if interface = 0 then return .ok ()
  else
    let code ← Platform.call (.unregisterApp interface)
    if code = 0 then return .ok ()
    else return .error ⟨Gatt.failureText "GATT application unregister" code⟩

/-- Stop the server, if the driver exists, and give the driver up. -/
def stopServer (w : Wireless η) : Program Platform (Attempt Unit × Nat) := do
  if w.radio.transport.hasDriver then
    sayGoodbye w.gatt
    let result ← unregister w.gatt.interface
    Platform.call .dropBluetooth
    return (result, 0)
  else return (.ok (), w.gatt.interface)

/-- Close the transport and give the modem back. -/
def disable (w : Wireless η) : Program Platform (Attempt Unit × Wireless η) := do
  let gatt := { w.gatt with session := none, advertising := false }
  let (result, interface) ← stopServer { w with gatt }
  let slot := match w.radio.transport.modem with
    | some modem => some modem
    | none => w.radio.slot
  return (result,
    { w with
      radio := { w.radio with slot, transport := ⟨false, none⟩ }
      gatt := { gatt with interface, characteristic := 0 } })

end Wireless

end HatchSensor
