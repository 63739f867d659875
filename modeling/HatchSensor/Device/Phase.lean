import HatchSensor.Blob.Store

/-!
# The phase of the device

The phase is what the device does when it wakes up.  It is stored as one word, and a stored word
that names no phase counts as "provisioning", which is then stored in its place.
-/

namespace HatchSensor

/-- The phases of the device. -/
inductive Phase where
  /-- No phase has been chosen yet. -/
  | unknown
  /-- Waiting for network credentials. -/
  | provisioning
  /-- Taking readings. -/
  | measuring
  /-- Asking the cloud for a hatch. -/
  | configuring
deriving DecidableEq, Inhabited

namespace Phase

/-- The word that stands for a phase. -/
def word : Phase → UInt32
  | unknown => 0
  | provisioning => 1
  | measuring => 3
  | configuring => 4

/-- The phase that a word stands for. -/
def ofWord? (w : UInt32) : Option Phase :=
  if w = 0 then some unknown
  else if w = 1 then some provisioning
  else if w = 3 then some measuring
  else if w = 4 then some configuring
  else none

def name : Phase → String
  | unknown => "unknown"
  | provisioning => "ble-config"
  | measuring => "measure"
  | configuring => "measure-config"

/-- The phase with a given name. -/
def ofName? (text : String) : Option Phase :=
  [unknown, provisioning, measuring, configuring].find? fun p => p.name == text

/-- The blob of the phase. -/
def blob : String := "state"

/-- The phase in the content of its blob. -/
def ofBlob : Option Bytes → Stored (Option Phase)
  | none => .ok none
  | some [b₀, b₁, b₂, b₃] =>
    let w := Bytes.toWord b₀ b₁ b₂ b₃
    match ofWord? w with
    | some phase => .ok (some phase)
    | none => .error (.corrupt blob ("undefined state value " ++ w.toNat.repr))
  | some bytes =>
    .error (.corrupt blob ("expected 4 bytes, found " ++ bytes.length.repr))

/-- Store a phase. -/
def save (p : Phase) : BlobProgram Unit :=
  Blob.write blob (Bytes.ofWord p.word)

/-- The stored phase, if one is stored. -/
def read : BlobProgram (Option Phase) := do
  let content ← Blob.read blob
  ExceptT.mk (.done (ofBlob content))

/-- The stored phase.  If there is none it is "provisioning", and an attempt is made to store
that. -/
def load : Program Blobs Phase := do
  match ← read.run with
  | .ok (some provisioning) => return provisioning
  | .ok (some measuring) => return measuring
  | .ok (some configuring) => return configuring
  | _ =>
    let _ ← (save provisioning).run
    return provisioning

end Phase

end HatchSensor
