import HatchSensor.Json.Printer
import HatchSensor.Identity.Credentials
import HatchSensor.Identity.Uuid
import HatchSensor.Hatch.Thresholds

/-!
# Replies to a provisioning client

The outcome of a message, and the JSON text in which it goes back to the client.
-/

namespace HatchSensor

/-- Why a command was not carried out. -/
inductive CommandError where
  /-- The name of the network is empty or too long. -/
  | ssidSize
  /-- The password is empty or too long. -/
  | passwordSize
  /-- The pair of both is refused. -/
  | credentials (reason : CredentialError)
  /-- The credentials could not be stored. -/
  | credentialsNotStored (reason : StoreError)
  /-- A text is not an identity. -/
  | uuid (text : String) (reason : UuidError)
  /-- A text is blank. -/
  | blank (item : IdentityItem)
  /-- A text could not be stored. -/
  | itemNotStored (item : IdentityItem) (reason : StoreError)
  /-- The thresholds are refused. -/
  | thresholds (reason : ThresholdError)
  /-- The thresholds could not be stored. -/
  | thresholdsNotStored (reason : StoreError)
  /-- There are no credentials to go on with. -/
  | noCredentials
deriving DecidableEq

namespace CommandError

/-- The wording of the error. -/
def message : CommandError → String
  | ssidSize => "SSID must be 1-" ++ Credentials.ssidLimit.repr ++ " bytes"
  | passwordSize => "Password must be 1-" ++ Credentials.passwordLimit.repr ++ " bytes"
  | credentials reason => reason.message
  | credentialsNotStored reason => "Failed to save WiFi credentials: " ++ reason.message
  | uuid text reason => "Invalid device UUID '" ++ text ++ "': " ++ reason.message
  | blank item => item.name ++ " must not be empty"
  | itemNotStored item reason => "Failed to store " ++ item.name ++ ": " ++ reason.message
  | thresholds reason => reason.message
  | thresholdsNotStored reason => "Failed to save thresholds: " ++ reason.message
  | noCredentials => "WiFi credentials not configured"

end CommandError

/-- The outcome of a message. -/
inductive ReplyBody where
  /-- A command was carried out. -/
  | done
  /-- A command was not carried out. -/
  | failed (reason : CommandError)
  /-- The answer to a query. -/
  | value (text : String)
deriving DecidableEq

/-- A reply to a client. -/
structure Reply where
  /-- The number of the message it answers. -/
  id : UInt32
  /-- The outcome. -/
  body : ReplyBody
deriving DecidableEq

namespace Reply

/-- The reply as JSON. -/
def toText (r : Reply) : String :=
  let head := [("id", r.id.toNat.repr)]
  match r.body with
  | .done =>
    Json.writeMembers
      (head ++ [("type", Json.writeString "commandResult"),
        ("status", Json.writeString "success")])
  | .failed reason =>
    Json.writeMembers
      (head ++ [("type", Json.writeString "commandResult"),
        ("status", Json.writeString "error"), ("error", Json.writeString reason.message)])
  | .value text =>
    Json.writeMembers
      (head ++ [("type", Json.writeString "queryResult"),
        ("status", Json.writeString "success"), ("value", Json.writeString text)])

end Reply

end HatchSensor
