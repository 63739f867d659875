import HatchSensor.Proofs.Refinement
import HatchSensor.Proofs.Undisturbed

/-!
# A helpful world

Surroundings in which a device gets on: a client is there when a session is open, the link comes up,
the clock is set and the cloud has a hatch.  They answer by a function (`helpful`), and every answer
is one that the surroundings of a device may give (`answers_helpful`), so what a device does in them
is a run like any other.
-/

namespace HatchSensor

open Program World

variable {w : World}

/-- What a client writes to the device. -/
def credentialMessage : Bytes :=
  Bytes.encodeUtf8 "\x7b\"wifiSSID\":\"coop\",\"wifiPassword\":\"chickens\"\x7d"

/-- What the cloud has to say. -/
def hatchDocument : Bytes :=
  Bytes.encodeUtf8 ("\x7b\"desired\":\x7b\"hatchUUID\":\"h\",\"endUnixTimestamp\":2000000000,"
    ++ "\"measureIntervalSec\":60\x7d\x7d")

/-- The client writes its message. -/
def hearClient (w : World) (session : Session) : World :=
  match BlobMap.perform (session.write credentialMessage) w.blobs with
  | ((effect, later), blobs) =>
    { blobs
      bits := if effect.finished then w.bits.union .credentialsReady else w.bits
      session := some later }

/-- What happens in the helpful world while the device waits: a client writes if it can, and else
the link comes up. -/
def helpfulWait (w : World) : World :=
  match w.session with
  | none => { w with bits := w.bits.union .linkUp }
  | some session => hearClient w session

/-- Surroundings in which a device comes to measure: a client is there, the link comes up, the clock
is set and the cloud has a hatch. -/
def helpful : (r : DeviceRequest) → World → r.Answer × World
  | .park _ _ _ _, w => (Wake.expired, helpfulWait w)
  | .time, w => ((1700000000 : UInt32), w)
  | .pump _, w => (⟨[hatchDocument], .ok ()⟩, w)
  | r, w => calm r w

/-- What the client does is a write to the session. -/
lemma exists_written_of_hearClient (w : World) (session : Session) :
    ∃ d effect later blobs, Returns (BlobMap.Answers Lifecycle.obligingLicence.refuses)
        (session.write credentialMessage) w.blobs d (effect, later) blobs ∧
      hearClient w session =
        { blobs
          bits := if effect.finished then w.bits.union .credentialsReady else w.bits
          session := some later } := by
  rcases said : BlobMap.perform (session.write credentialMessage) w.blobs
    with ⟨⟨effect, later⟩, blobs⟩
  obtain ⟨d, written⟩ := BlobMap.returns_of_perform said
  refine ⟨d, effect, later, blobs, written, ?_⟩
  rw [hearClient, said]

lemma acts_hearClient {session : Session} (opened : w.session = some session) :
    Acts Lifecycle.obligingLicence w (hearClient w session) := by
  obtain ⟨d, effect, later, blobs, written, heard⟩ := exists_written_of_hearClient w session
  rw [heard]
  exact .single (.write opened written)

lemma acts_helpfulWait (w : World) : Acts Lifecycle.obligingLicence w (helpfulWait w) := by
  unfold helpfulWait
  split
  next => exact .single (.stir trivial)
  next session opened => exact acts_hearClient opened

lemma answers_helpful (r : DeviceRequest) (w : World) :
    answers Lifecycle.obligingLicence r w (helpful r w).1 (helpful r w).2 := by
  cases r with
  | park id mask deadline timer => exact ⟨_, ⟨acts_helpfulWait w, trivial⟩, .refl⟩
  | time => exact ⟨w, rfl, .refl⟩
  | pump timeout => exact ⟨w, rfl, .refl⟩
  | _ => exact answers_calm Lifecycle.obligingLicence _ w

/-- Helpful surroundings in which it is `now`. -/
def helpfulAt (now : UInt32) : (r : DeviceRequest) → World → r.Answer × World
  | .time, w => (now, w)
  | r, w => helpful r w

lemma answers_helpfulAt (now : UInt32) (r : DeviceRequest) (w : World) :
    answers Lifecycle.obligingLicence r w (helpfulAt now r w).1 (helpfulAt now r w).2 := by
  cases r with
  | time => exact ⟨w, rfl, .refl⟩
  | _ => exact answers_helpful _ w

/-- A device in helpful surroundings runs a phase. -/
def helpfulStep (w : World) : World :=
  (converse helpful (Lifecycle.Stage.awake.advance ⟨"", .standard⟩) w).2.2

end HatchSensor
