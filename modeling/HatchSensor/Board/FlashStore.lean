import HatchSensor.Board.Platform
import HatchSensor.Blob.Store

/-!
# The blob store in flash memory

The blob store of the board keeps every blob as one entry of an area in flash memory.  The flash
cannot add to an entry, so adding to a blob writes it anew.
-/

namespace HatchSensor

namespace FlashStore

/-- The area of the blobs. -/
def area : String := "peep"

/-- The failure of a call about a blob. -/
def failure (action name : String) (reason : ChipError) : StoreError :=
  .backend ("Failed to " ++ action ++ " '" ++ name ++ "': " ++ reason.text)

/-- The outcome of a call about a blob. -/
def outcome {α : Type} (action name : String) : Tried α → Stored α
  | .ok a => .ok a
  | .error reason => .error (failure action name reason)

/-- The content of a blob: first its length, then as many bytes. -/
def read (name : String) : Program Platform (Stored (Option Bytes)) := do
  match ← Platform.call (.blobLength name) with
  | .error reason => return .error (failure "size" name reason)
  | .ok none => return .ok none
  | .ok (some size) => return outcome "read" name (← Platform.call (.blobContent name size))

/-- Replace a blob. -/
def write (action name : String) (content : Bytes) : Program Platform (Stored Unit) := do
  return outcome action name (← Platform.call (.setBlob name content))

/-- Add to a blob. -/
def append (name : String) (content : Bytes) : Program Platform (Stored Unit) := do
  match ← read name with
  | .error reason => return .error reason
  | .ok old => write "append to" name (old.getD [] ++ content)

/-- The length of a blob. -/
def size (name : String) : Program Platform (Stored Nat) := do
  match ← Platform.call (.blobLength name) with
  | .error reason => return .error (failure "size" name reason)
  | .ok length => return .ok (length.getD 0)

/-- Delete a blob. -/
def remove (name : String) : Program Platform (Stored Unit) := do
  match ← Platform.call (.removeBlob name) with
  | .error reason => return .error (failure "remove" name reason)
  | .ok _ => return .ok ()

/-- Answer a request to the blob store. -/
def answer : (request : BlobRequest) → Program Platform request.Answer
  | .read name => read name
  | .write name content => write "write" name content
  | .append name content => append name content
  | .size name => size name
  | .remove name => remove name

/-- Run a program over the blob store in flash memory. -/
def run {α : Type} (p : Program Blobs α) : Program Platform α :=
  p.expand answer

end FlashStore

end HatchSensor
