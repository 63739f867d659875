import HatchSensor.Hatch.Record
import HatchSensor.Blob.Store

/-!
# The stored hatch configuration

One blob holds the record of the configuration.  Loading never fails: without a readable record the
defaults apply.
-/

namespace HatchSensor

namespace HatchConfig

/-- The blob of the configuration. -/
def blob : String := "hatch_cfg"

/-- The configuration in a blob, the defaults if there is none. -/
def ofBlob : Option Bytes → HatchConfig
  | some bytes => (decode bytes).getD default
  | none => default

/-- The stored configuration, or the defaults. -/
def load : Program Blobs HatchConfig := do
  match ← (Blob.read blob).run with
  | .ok content => return ofBlob content
  | .error _ => return default

/-- Store a configuration. -/
def save (c : HatchConfig) : BlobProgram Unit :=
  Blob.write blob c.encode

/-- Forget the configuration. -/
def clear : BlobProgram Unit :=
  Blob.remove blob

end HatchConfig

end HatchSensor
