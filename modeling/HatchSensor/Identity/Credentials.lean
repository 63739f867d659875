import HatchSensor.Identity.Store
import HatchSensor.Json.Reader
import HatchSensor.Text.Quoted

/-!
# Network credentials

The name and the password of the wireless network.  They arrive as a JSON object whose two names
may be written in any case, and lie in two blobs, the name of the network being written first.
-/

namespace HatchSensor

/-- The credentials of a wireless network. -/
structure Credentials where
  /-- The name of the network. -/
  ssid : String
  password : String
deriving DecidableEq

/-- Why credentials are refused. -/
inductive CredentialError where
  /-- The name of the network is empty or too long. -/
  | ssidSize (size : Nat)
  /-- The password is empty or too long. -/
  | passwordSize (size : Nat)
  /-- The payload is not JSON. -/
  | notJson
  /-- The payload is not an object. -/
  | notObject
  /-- The object has no text of the given name. -/
  | missing (name : String)
deriving DecidableEq

namespace Credentials

/-- The longest name of a network, in bytes. -/
def ssidLimit : Nat := 32

/-- The longest password, in bytes. -/
def passwordLimit : Nat := 64

end Credentials

namespace CredentialError

/-- The wording of the error. -/
def message : CredentialError → String
  | ssidSize size =>
    "SSID must be 1-" ++ Credentials.ssidLimit.repr ++ " bytes, got " ++ size.repr
  | passwordSize size =>
    "Password must be 1-" ++ Credentials.passwordLimit.repr ++ " bytes, got " ++ size.repr
  | notJson => "Failed to parse credential JSON"
  | notObject => "Credential payload is not a JSON object"
  | missing name => "Credential payload missing string '" ++ name ++ "'"

end CredentialError

namespace Credentials

/-- Whether a text is not empty and takes at most `limit` bytes. -/
def fits (limit : Nat) (text : String) : Bool :=
  decide (1 ≤ Bytes.textSize text ∧ Bytes.textSize text ≤ limit)

/-- Check the lengths of both halves. -/
def validate (c : Credentials) : Except CredentialError Unit :=
  if !fits ssidLimit c.ssid then .error (.ssidSize (Bytes.textSize c.ssid))
  else if !fits passwordLimit c.password then .error (.passwordSize (Bytes.textSize c.password))
  else .ok ()

/-- The text of the first entry, in the order of names, whose name is `name` up to case. -/
def field (members : List (String × Json)) (name : String) : Except CredentialError String :=
  match (Json.entries members).find? fun e => Text.sameLetters e.1 name with
  | some (_, .string text) => .ok text
  | _ => .error (.missing name)

/-- The credentials in a JSON value. -/
def ofJson : Json → Except CredentialError Credentials
  | .object members => do
    let ssid ← field members "wifiSSID"
    let password ← field members "wifiPassword"
    let credentials : Credentials := ⟨ssid, password⟩
    credentials.validate
    return credentials
  | _ => .error .notObject

def ofPayload (payload : Bytes) : Except CredentialError Credentials :=
  match Json.parseBytes? payload with
  | some value => ofJson value
  | none => .error .notJson

/-- The credentials as they are shown to people: never with the password. -/
def toText (c : Credentials) : String :=
  "WifiCredentials \x7b ssid: " ++ Text.quote c.ssid ++ ", password: \"***\" \x7d"

/-! ## Storage -/

/-- The blob of the name of the network. -/
def ssidBlob : String := "wifi_ssid"

def passwordBlob : String := "wifi_pass"

/-- Store credentials. -/
def save (c : Credentials) : BlobProgram Unit := do
  Blob.write ssidBlob (Bytes.encodeUtf8 c.ssid)
  Blob.write passwordBlob (Bytes.encodeUtf8 c.password)

/-- The credentials, if they are acceptable. -/
def accept (c : Credentials) : Option Credentials :=
  match c.validate with
  | .ok () => some c
  | .error _ => none

/-- The stored credentials; nothing unless both halves are there and acceptable. -/
def load : Program Blobs (Option Credentials) := do
  match ← Blob.readText ssidBlob with
  | none => return none
  | some ssid =>
    match ← Blob.readText passwordBlob with
    | none => return none
    | some password => return accept ⟨ssid, password⟩

/-- Forget the credentials. -/
def clear : BlobProgram Unit := do
  Blob.remove ssidBlob
  Blob.remove passwordBlob

end Credentials

end HatchSensor
