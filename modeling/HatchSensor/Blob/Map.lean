import HatchSensor.Blob.Store

/-!
# Maps of blobs

The content of a blob store that keeps its promises: a finite map from names to bytes, and what
each request does to it.  A store in memory is such a map with a switch that makes every change
fail.
-/

namespace HatchSensor

/-- A finite map from names to bytes, sorted by name. -/
structure BlobMap where
  /-- The blobs, each name once. -/
  entries : List (String × Bytes)
deriving DecidableEq, Inhabited

namespace BlobMap

def empty : BlobMap := ⟨[]⟩

/-- The content of a blob in a list of entries. -/
def find (name : String) : List (String × Bytes) → Option Bytes
  | [] => none
  | (n, content) :: rest => if n = name then some content else find name rest

/-- The content of a blob. -/
def get? (blobs : BlobMap) (name : String) : Option Bytes :=
  find name blobs.entries

/-- Put a blob into a list of entries, replacing the one of that name. -/
def place (name : String) (content : Bytes) : List (String × Bytes) → List (String × Bytes)
  | [] => [(name, content)]
  | (n, old) :: rest =>
    if n = name then (name, content) :: rest
    else if name < n then (name, content) :: (n, old) :: rest
    else (n, old) :: place name content rest

/-- Store a blob. -/
def put (blobs : BlobMap) (name : String) (content : Bytes) : BlobMap :=
  ⟨place name content blobs.entries⟩

/-- Delete a blob. -/
def erase (blobs : BlobMap) (name : String) : BlobMap :=
  ⟨blobs.entries.filter fun e => e.1 != name⟩

/-- Answer a request, which succeeds. -/
def answer (blobs : BlobMap) : (request : BlobRequest) → BlobMap × request.Answer
  | .read name => (blobs, .ok (blobs.get? name))
  | .write name content => (blobs.put name content, .ok ())
  | .append name content => (blobs.put name ((blobs.get? name).getD [] ++ content), .ok ())
  | .size name => (blobs, .ok ((blobs.get? name).getD []).length)
  | .remove name => (blobs.erase name, .ok ())

/-- The blobs of `new` that `old` does not have in the same form, and those it has lost. -/
def changes (old new : BlobMap) : List (String × Option Bytes) :=
  ((new.entries.filter fun e => old.get? e.1 != some e.2).map fun e => (e.1, some e.2))
    ++ ((old.entries.filter fun e => (new.get? e.1).isNone).map fun e => (e.1, none))

end BlobMap

/-- A blob store in memory. -/
structure MemoryBlobs where
  blobs : BlobMap
  /-- While set, every change fails. -/
  failWrites : Bool
deriving Inhabited

namespace MemoryBlobs

/-- The failure of a change to a blob. -/
def writeFailure (name : String) : StoreError :=
  .backend ("injected write failure on '" ++ name ++ "'")

/-- Make a request of the map and keep the result. -/
def perform (store : MemoryBlobs) (request : BlobRequest) : MemoryBlobs × request.Answer :=
  let (blobs, answer) := store.blobs.answer request
  ({ store with blobs }, answer)

def answer (store : MemoryBlobs) : (request : BlobRequest) → MemoryBlobs × request.Answer
  | .read name => store.perform (.read name)
  | .size name => store.perform (.size name)
  | .write name content =>
    if store.failWrites then (store, .error (writeFailure name))
    else store.perform (.write name content)
  | .append name content =>
    if store.failWrites then (store, .error (writeFailure name))
    else store.perform (.append name content)
  | .remove name =>
    if store.failWrites then (store, .error (writeFailure name))
    else store.perform (.remove name)

end MemoryBlobs

end HatchSensor
