import HatchSensor.Blob.Store
import HatchSensor.Text.Blank

/-!
# Stored identity

The device's identity in the cloud: its own identity, a client certificate with its key, and the
root certificate of the cloud.  Each lies in a blob of its own, and a factory reset leaves them
alone.
-/

namespace HatchSensor

namespace Blob

/-- The text in the content of a blob: UTF-8, not empty, without zeros at the end. -/
def textOf (content : Bytes) : Option String :=
  match Bytes.decodeUtf8 content with
  | none => none
  | some text =>
    let trimmed := Text.dropEndWhile (· == '\x00') text
    if trimmed.isEmpty then none else some trimmed

/-- The text in a blob; nothing if the blob is missing, unreadable or holds no text. -/
def readText (name : String) : Program Blobs (Option String) := do
  match ← (Blob.read name).run with
  | .ok (some content) => return textOf content
  | _ => return none

end Blob

/-- A part of the device's identity in the cloud. -/
inductive IdentityItem where
  /-- The identity itself. -/
  | uuid
  /-- The client certificate. -/
  | certificate
  /-- The key of the certificate. -/
  | privateKey
  /-- The root certificate of the cloud. -/
  | rootCa
deriving DecidableEq

namespace IdentityItem

def blob : IdentityItem → String
  | uuid => "peep_uuid"
  | certificate => "peep_cert"
  | privateKey => "peep_key"
  | rootCa => "peep_root_ca"

/-- The name of an item in messages. -/
def name : IdentityItem → String
  | uuid => "PeepUuid"
  | certificate => "Certificate"
  | privateKey => "PrivateKey"
  | rootCa => "RootCa"

/-- Store an item. -/
def save (item : IdentityItem) (text : String) : BlobProgram Unit :=
  Blob.write item.blob (Bytes.encodeUtf8 text)

/-- The stored text of an item. -/
def load (item : IdentityItem) : Program Blobs (Option String) :=
  Blob.readText item.blob

end IdentityItem

/-- The name under which the device appears in the cloud: its stored identity, or `fallback`. -/
def cloudName (fallback : String) : Program Blobs String := do
  let stored ← IdentityItem.uuid.load
  return stored.getD fallback

end HatchSensor
