import HatchSensor.Json.Reader
import HatchSensor.Hatch.Thresholds

/-!
# Messages of a provisioning client

A client beside the device sends numbered messages: commands that change something, and one query.
A message is a JSON object with a number `id` that occurs once; the first of its members that is
called `command` or `query` is the body, and all others are ignored.  A text that is no message may
still be a bare credential object, so reading a message either succeeds or says nothing.
-/

namespace HatchSensor

/-- What a client may tell the device to do. -/
inductive Command where
  /-- Set the name of the network. -/
  | setSsid (text : String)
  /-- Set the password of the network. -/
  | setPassword (text : String)
  /-- Store the client certificate. -/
  | setCertificate (text : String)
  /-- Store the key of the certificate. -/
  | setPrivateKey (text : String)
  /-- Store the root certificate of the cloud. -/
  | setRootCa (text : String)
  /-- Store the identity of the device. -/
  | setUuid (text : String)
  /-- Set the calendar clock. -/
  | setTime (time : UInt32)
  /-- Change publish threshold, interval and band. -/
  | setThresholds (update : ThresholdUpdate)
  /-- End the session and go on to take readings. -/
  | startMeasuring
deriving DecidableEq

inductive MessageBody where
  | command (c : Command)
  /-- The question for the version of the protocol. -/
  | versionQuery
deriving DecidableEq

structure ClientMessage where
  /-- The number that the reply will carry. -/
  id : UInt32
  /-- What the client wants. -/
  body : MessageBody
deriving DecidableEq

namespace ClientMessage

/-! ## Parts of a message -/

/-- A value that stands for "nothing": `null` or an empty object. -/
def isNothing : Json → Bool
  | .null => true
  | .object [] => true
  | _ => false

/-- A word written as an integer literal. -/
def word? : Json → Option UInt32
  | .number n => n.word?
  | _ => none

/-- A value that may be left out: `null` leaves it out, everything else must be read by `read`. -/
def optional {α : Type} (read : Json → Option α) : Json → Option (Option α)
  | .null => some none
  | value => (read value).map some

/-- A temperature: any number. -/
def temperature? : Json → Option Single
  | .number n => some n.toSingle
  | _ => none

/-- The only member with a given name; `none` if there are several. -/
def unique? (members : List (String × Json)) (name : String) : Option (Option Json) :=
  match members.filter fun m => m.1 == name with
  | [] => some none
  | [m] => some (some m.2)
  | _ => none

/-- An optional member: it may be missing or `null`, but must not be repeated. -/
def optionalMember {α : Type} (read : Json → Option α) (members : List (String × Json))
    (name : String) : Option (Option α) :=
  match unique? members name with
  | none => none
  | some none => some none
  | some (some value) => optional read value

/-- The values of a threshold update, by name or as a sequence of four. -/
def thresholds? : Json → Option ThresholdUpdate
  | .object members => do
    let publishAfter ← optionalMember word? members "measurementsBeforePublishing"
    let interval ← optionalMember word? members "measureIntervalSec"
    let low ← optionalMember temperature? members "lowTemperature"
    let high ← optionalMember temperature? members "highTemperature"
    return { publishAfter, interval, low, high }
  | .array [publishAfter, interval, low, high] => do
    let publishAfter ← optional word? publishAfter
    let interval ← optional word? interval
    let low ← optional temperature? low
    let high ← optional temperature? high
    return { publishAfter, interval, low, high }
  | _ => none

/-! ## Bodies -/

/-- The command with a given name and argument. -/
def namedCommand? (name : String) (argument : Json) : Option Command :=
  match name with
  | "setWifiSsid" => argument.string?.map .setSsid
  | "setWifiPassword" => argument.string?.map .setPassword
  | "setCertificate" => argument.string?.map .setCertificate
  | "setPrivateKey" => argument.string?.map .setPrivateKey
  | "setRootCa" => argument.string?.map .setRootCa
  | "setDeviceUuid" => argument.string?.map .setUuid
  | "setTime" => (word? argument).map .setTime
  | "setThresholds" => (thresholds? argument).map .setThresholds
  | "startMeasuring" => if isNothing argument then some .startMeasuring else none
  | _ => none

/-- A command: an object with one member, or the bare name of the one that takes no argument. -/
def command? : Json → Option Command
  | .object [(name, argument)] => namedCommand? name argument
  | .string "startMeasuring" => some .startMeasuring
  | _ => none

/-- The question for the version: its bare name, or an object with that one member and nothing in
it. -/
def isVersionQuery : Json → Bool
  | .object [(name, argument)] => name == "protocolVersion" && isNothing argument
  | .string name => name == "protocolVersion"
  | _ => false

/-- The body that a member of a message stands for. -/
def body? : String × Json → Option MessageBody
  | ("command", value) => (command? value).map .command
  | ("query", value) => if isVersionQuery value then some .versionQuery else none
  | _ => none

/-- The message that a JSON value stands for. -/
def ofJson? : Json → Option ClientMessage
  | .object members => do
    let id ← (← unique? members "id").bind word?
    let body ← (members.find? fun m => m.1 == "command" || m.1 == "query").bind body?
    return { id, body }
  | _ => none

def ofPayload? (payload : Bytes) : Option ClientMessage :=
  (Json.parseBytes? payload).bind ofJson?

end ClientMessage

end HatchSensor
