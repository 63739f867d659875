import HatchSensor.Json.Reader
import HatchSensor.Json.Printer
import HatchSensor.Hatch.Config
import HatchSensor.Text.Blank
import HatchSensor.Text.Numeral

/-!
# Shadow documents

The cloud keeps a document for every device, its shadow.  Under `desired`, at the top level or
inside `state`, it says how the device should be configured.  Integers may be written as numbers or
as decimal texts.  `DesiredConfig.apply` merges what a document says onto a configuration, as a
whole or not at all.
-/

namespace HatchSensor

/-- What a shadow document asks for. -/
structure DesiredConfig where
  /-- The identity of the hatch. -/
  uuid : String
  /-- The time at which the hatch is over. -/
  endTime : UInt32
  /-- Seconds between two readings. -/
  interval : UInt32
  /-- Readings that are reason to publish. -/
  publishAfter : Option UInt32
  /-- Lower bound of the band. -/
  low : Option Single
  /-- Upper bound of the band. -/
  high : Option Single
  /-- Low readings in a row that are reason to publish. -/
  lowRunLimit : Option UInt32
  /-- High readings in a row that are reason to publish. -/
  highRunLimit : Option UInt32
  /-- Added to every temperature the sensor reads. -/
  offset : Option Single
deriving DecidableEq

/-- Why a shadow document is discarded. -/
inductive ShadowError where
  /-- The document is not JSON. -/
  | notJson
  /-- The document asks for nothing. -/
  | missingDesired
  /-- A value is missing. -/
  | missing (key : String)
  /-- A value should be a text. -/
  | notText (key : String)
  /-- A value, printed as `found`, should be a 32-bit integer. -/
  | notWord (key found : String)
  /-- A value, printed as `found`, should be a number. -/
  | notNumber (key found : String)
  /-- The merged configuration is refused. -/
  | refused (reason : ConfigError)
deriving DecidableEq

namespace ShadowError

/-- The wording of an unfit value. -/
def invalid (key reason : String) : String :=
  "Desired config '" ++ key ++ "' invalid: " ++ reason

/-- The wording of the error. -/
def message : ShadowError → String
  | notJson => "Shadow document is not JSON"
  | missingDesired => "Shadow document has no desired object"
  | missing key => "Desired config missing '" ++ key ++ "'"
  | notText key => invalid key "expected a string"
  | notWord key found => invalid key ("expected an unsigned 32-bit integer, got " ++ found)
  | notNumber key found => invalid key ("expected a number, got " ++ found)
  | refused reason => invalid "desired" reason.message

end ShadowError

namespace DesiredConfig

/-! ## Reading a document -/

/-- The members under `desired`.  A `desired` at the top level hides the one inside `state`. -/
def members? (root : Json) : Option (List (String × Json)) :=
  match root.get? "desired" with
  | some desired => desired.members?
  | none => ((root.get? "state").bind fun state => state.get? "desired").bind Json.members?

/-- A word, written as an integer literal or as a decimal text with blanks around it. -/
def word? : Json → Option UInt32
  | .number n => n.word?
  | .string text => Numeral.word? (Text.trim text)
  | _ => none

/-- The word a value stands for. -/
def readWord (key : String) (value : Json) : Except ShadowError UInt32 :=
  match word? value with
  | some w => .ok w
  | none => .error (.notWord key value.write)

/-- The number a value stands for, rounded to double and then to single precision. -/
def readNumber (key : String) : Json → Except ShadowError Single
  | .number n => .ok n.toDouble.toSingle
  | value => .error (.notNumber key value.write)

/-- A member that must be there. -/
def required (members : List (String × Json)) (key : String) : Except ShadowError Json :=
  match Json.lookup members key with
  | some value => .ok value
  | none => .error (.missing key)

/-- A member that may be missing. -/
def optional {α : Type} (read : String → Json → Except ShadowError α)
    (members : List (String × Json)) (key : String) : Except ShadowError (Option α) :=
  match Json.lookup members key with
  | some value => (read key value).map some
  | none => .ok none

/-- The text that must be there. -/
def requiredText (members : List (String × Json)) (key : String) : Except ShadowError String :=
  match Json.lookup members key with
  | some (.string text) => .ok text
  | some _ => .error (.notText key)
  | none => .error (.missing key)

/-- The word that must be there. -/
def requiredWord (members : List (String × Json)) (key : String) : Except ShadowError UInt32 := do
  readWord key (← required members key)

/-- What the members under `desired` ask for; the first fault in this order is reported. -/
def ofMembers (members : List (String × Json)) : Except ShadowError DesiredConfig := do
  let uuid ← requiredText members "hatchUUID"
  let endTime ← requiredWord members "endUnixTimestamp"
  let interval ← requiredWord members "measureIntervalSec"
  let publishAfter ← optional readWord members "measurementsBeforePublishing"
  let low ← optional readNumber members "lowTemperature"
  let high ← optional readNumber members "highTemperature"
  let lowRunLimit ← optional readWord members "consecutiveLowReadingsError"
  let highRunLimit ← optional readWord members "consecutiveHighReadingsError"
  let offset ← optional readNumber members "temperatureOffset"
  return { uuid, endTime, interval, publishAfter, low, high, lowRunLimit, highRunLimit, offset }

/-- What a JSON value asks for. -/
def ofJson (root : Json) : Except ShadowError DesiredConfig :=
  match members? root with
  | some members => ofMembers members
  | none => .error .missingDesired

/-- What a document asks for. -/
def ofDocument (document : Bytes) : Except ShadowError DesiredConfig :=
  match Json.parseBytes? document with
  | some root => ofJson root
  | none => .error .notJson

/-! ## Merging -/

/-- The configuration with everything the document says in place. -/
def merge (d : DesiredConfig) (current : HatchConfig) : HatchConfig :=
  { current with
    uuid := d.uuid
    endTime := d.endTime
    interval := d.interval
    publishAfter := d.publishAfter.getD current.publishAfter
    low := d.low.getD current.low
    high := d.high.getD current.high
    lowRunLimit := d.lowRunLimit.getD current.lowRunLimit
    highRunLimit := d.highRunLimit.getD current.highRunLimit
    offset := d.offset.getD current.offset }

/-- The merged configuration, if it is acceptable. -/
def apply (d : DesiredConfig) (current : HatchConfig) : Except ShadowError HatchConfig :=
  match (d.merge current).validate with
  | .ok () => .ok (d.merge current)
  | .error reason => .error (.refused reason)

end DesiredConfig

/-- The configuration that a document makes of the current one. -/
def applyShadow (document : Bytes) (current : HatchConfig) : Except ShadowError HatchConfig := do
  let desired ← DesiredConfig.ofDocument document
  desired.apply current

end HatchSensor
