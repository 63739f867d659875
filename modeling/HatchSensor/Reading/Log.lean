import HatchSensor.Reading.Basic
import HatchSensor.Blob.Store

/-!
# The reading log

Readings that have not been published lie one after the other in a blob.  If power fails while a
record is being added, the blob ends in a torn record: readers ignore it and the next append cuts
it off first.
-/

namespace HatchSensor

namespace ReadingLog

/-- The blob of the log. -/
def blob : String := "meas_log"

/-- The readings in a blob; a torn record at the end is ignored. -/
def readings (content : Bytes) : List Reading :=
  Reading.ofWords (Bytes.toWords content)

/-- Cut a torn record off a blob of the given size. -/
def trim (size : Nat) : BlobProgram Unit := do
  let torn := size % Reading.recordSize
  if torn ≠ 0 then
    let content ← Blob.read blob
    Blob.write blob ((content.getD []).take (size - torn))

/-- Add a reading at the end. -/
def append (r : Reading) : BlobProgram Unit := do
  let size ← Blob.size blob
  trim size
  Blob.append blob r.encode

/-- The number of readings. -/
def total : BlobProgram Nat := do
  let size ← Blob.size blob
  return size / Reading.recordSize

/-- All readings, oldest first. -/
def readAll : BlobProgram (List Reading) := do
  let content ← Blob.read blob
  return readings (content.getD [])

/-- Forget all readings. -/
def clear : BlobProgram Unit :=
  Blob.remove blob

end ReadingLog

end HatchSensor
