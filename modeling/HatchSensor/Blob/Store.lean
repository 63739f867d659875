import HatchSensor.Program
import HatchSensor.Bytes

/-!
# Stored blobs

Everything the device keeps across sleep lies in named blobs of bytes.  A typed store is a program
over five requests to the blob store, each of which may fail.
-/

namespace HatchSensor

/-- Why a store could not do its work. -/
inductive StoreError where
  /-- The blob store reports a failure. -/
  | backend (reason : String)
  /-- A blob does not hold what it should. -/
  | corrupt (blob reason : String)
  /-- A store can no longer be entered. -/
  | lockPoisoned (store : String)
deriving DecidableEq

namespace StoreError

/-- The wording of the error. -/
def message : StoreError → String
  | backend reason => "Storage backend error: " ++ reason
  | corrupt blob reason => "Corrupt blob '" ++ blob ++ "': " ++ reason
  | lockPoisoned store => store ++ " lock poisoned"

end StoreError

/-- The outcome of a store operation. -/
abbrev Stored (α : Type) := Except StoreError α

/-- A request to the blob store. -/
inductive BlobRequest where
  /-- The content of a blob, if it exists. -/
  | read (name : String)
  /-- Replace the content of a blob. -/
  | write (name : String) (content : Bytes)
  /-- Add to the end of a blob, which need not exist. -/
  | append (name : String) (content : Bytes)
  /-- The length of a blob, zero if it does not exist. -/
  | size (name : String)
  /-- Delete a blob, which need not exist. -/
  | remove (name : String)
deriving DecidableEq

/-- What the blob store answers. -/
def BlobRequest.Answer : BlobRequest → Type
  | read _ => Stored (Option Bytes)
  | write _ _ => Stored Unit
  | append _ _ => Stored Unit
  | size _ => Stored Nat
  | remove _ => Stored Unit

namespace BlobRequest

/-- The blob that a request is about. -/
def name : BlobRequest → String
  | read name => name
  | write name _ => name
  | append name _ => name
  | size name => name
  | remove name => name

/-- The word for what a request does. -/
def verb : BlobRequest → String
  | read _ => "read"
  | write _ _ => "write"
  | append _ _ => "append"
  | size _ => "size"
  | remove _ => "remove"

def failed (reason : StoreError) : (request : BlobRequest) → request.Answer
  | read _ => .error reason
  | write _ _ => .error reason
  | append _ _ => .error reason
  | size _ => .error reason
  | remove _ => .error reason

end BlobRequest

/-- The blob store as surroundings of a program. -/
def Blobs : Signature := ⟨BlobRequest, BlobRequest.Answer⟩

/-- A program over the blob store that may fail. -/
abbrev BlobProgram (α : Type) := ExceptT StoreError (Program Blobs) α

namespace Blob

/-- The content of a blob, if it exists. -/
def read (name : String) : BlobProgram (Option Bytes) :=
  ExceptT.mk (Program.request (S := Blobs) (.read name))

/-- Replace the content of a blob. -/
def write (name : String) (content : Bytes) : BlobProgram Unit :=
  ExceptT.mk (Program.request (S := Blobs) (.write name content))

/-- Add to the end of a blob. -/
def append (name : String) (content : Bytes) : BlobProgram Unit :=
  ExceptT.mk (Program.request (S := Blobs) (.append name content))

/-- The length of a blob. -/
def size (name : String) : BlobProgram Nat :=
  ExceptT.mk (Program.request (S := Blobs) (.size name))

/-- Delete a blob. -/
def remove (name : String) : BlobProgram Unit :=
  ExceptT.mk (Program.request (S := Blobs) (.remove name))

end Blob

end HatchSensor
