import HatchSensor.Proofs.Session
import HatchSensor.Device.Surroundings
import Mathlib.Logic.Relation

/-!
# The world around the device

The state that the proofs follow while a phase runs: the blobs, the signal register, and the session
a provisioning client can write to.  The blob store and the register do what they are asked; every
other part of the surroundings may answer anything.

The device is not alone.  Other tasks raise and clear signals, and a client writes whenever a
session is open.  They act while the device waits, and if they preempt it also after any other
request.  A `Licence` says how much of this may happen, so that a statement about every licence
holds whatever the others do, and one about a licence without preemption says what the device does
when it is left alone between its waits.
-/

namespace HatchSensor

/-- The state of the surroundings. -/
structure World where
  /-- The blobs. -/
  blobs : BlobMap
  /-- The bits of the signal register. -/
  bits : SignalBits
  /-- The session a client can write to. -/
  session : Option Session

/-- What may happen beside the device. -/
structure Licence where
  /-- The requests that the blob store may refuse. -/
  refuses : BlobRequest → Prop
  /-- The changes that other tasks may make to the register. -/
  stirs : SignalBits → SignalBits → Prop
  /-- Other tasks act at any time, and not only while the device waits. -/
  preempts : Prop

/-- What the answer of a parked wait says about the register. -/
def Wake.fits (mask bits : SignalBits) (timer : Option Nat) : Wake → Prop
  | signalled found => found = bits ∧ found.intersects mask
  | expired => True
  | elapsed => timer.isSome

namespace World

open Program

/-- A factory reset is wanted. -/
def Requested (w : World) : Prop := w.bits.contains .resetRequested = true

/-- The button is held. -/
def Held (w : World) : Prop := w.bits.contains .buttonPressed = true

instance (w : World) : Decidable w.Requested := inferInstanceAs (Decidable (_ = true))

instance (w : World) : Decidable w.Held := inferInstanceAs (Decidable (_ = true))

/-! ## The others -/

/-- One act of somebody else. -/
inductive Act (L : Licence) : World → World → Prop
  /-- A task changes the register. -/
  | stir {w : World} {bits : SignalBits} (h : L.stirs w.bits bits) : Act L w { w with bits }
  /-- A client writes a message; if that finishes the session, it raises the signal for it. -/
  | write {w : World} {session later : Session} {payload : Bytes} {d : Dialogue Blobs}
      {effect : WriteEffect} {blobs : BlobMap} (opened : w.session = some session)
      (written : Returns (BlobMap.Answers L.refuses) (session.write payload) w.blobs d
        (effect, later) blobs) :
      Act L w
        { blobs
          bits := if effect.finished then w.bits.union .credentialsReady else w.bits
          session := some later }

/-- Any number of acts of others. -/
abbrev Acts (L : Licence) : World → World → Prop := Relation.ReflTransGen (Act L)

/-! ## Answers -/

/-- What a request does, and the answers it may get. -/
def Reply (L : Licence) : (r : DeviceRequest) → World → r.Answer → World → Prop
  | .blob request, w, x, w' =>
    ∃ blobs, BlobMap.Answers L.refuses request w.blobs x blobs ∧ w' = { w with blobs }
  | .signals, w, bits, w' => bits = w.bits ∧ w' = w
  | .raise bits, w, _, w' => w' = { w with bits := w.bits.union bits }
  | .clear bits, w, _, w' => w' = { w with bits := w.bits.without bits }
  | .look _ mask, w, found, w' =>
    found = (if w.bits.intersects mask then some w.bits else none) ∧ w' = w
  | .park _ mask _ timer, w, wake, w' => Acts L w w' ∧ wake.fits mask w'.bits timer
  -- a transport that failed to open may still pass on what a client writes
  | .openProvisioning session, w, outcome, w' =>
    Acts L { w with session := some session } w' ∨ (outcome ≠ .ok () ∧ w' = w)
  -- a transport drops the session before anything can fail
  | .closeProvisioning, w, _, w' => w' = { w with session := none }
  -- sleep takes the register and the session with it
  | .sleep _, w, _, w' => ∃ bits, w' = { w with bits, session := none }
  | _, w, _, w' => w' = w

/-- What may happen while the device does not wait: nothing, unless it is preempted. -/
def Others (L : Licence) (w w' : World) : Prop := w' = w ∨ L.preempts ∧ Acts L w w'

/-- The surroundings answer, and where they preempt the device the others act. -/
def answers (L : Licence) : Behaviour Surroundings World := fun r w x w' =>
  ∃ u, Reply L r w x u ∧ Others L u w'

section Others

variable {L : Licence} {u w w' : World}

lemma Others.refl : Others L w w := Or.inl rfl

lemma Others.acts (h : Others L w w') : Acts L w w' := by
  rcases h with rfl | ⟨-, acts⟩
  · exact .refl
  · exact acts

lemma Others.trans (first : Others L u w) (second : Others L w w') : Others L u w' := by
  rcases first with rfl | ⟨preempted, acts⟩
  · exact second
  · exact Or.inr ⟨preempted, acts.trans second.acts⟩

/-- Nothing happens to a device that is left alone. -/
lemma Others.eq_of_alone (h : Others L w w') (alone : ¬ L.preempts) : w' = w := by
  rcases h with same | ⟨preempted, -⟩
  · exact same
  · exact absurd preempted alone

end Others

/-- An answer in a world where everything works, nothing arrives and nobody else acts. -/
def calm : (r : DeviceRequest) → World → r.Answer × World
  | .blob request, w => ((w.blobs.answer request).2, { w with blobs := (w.blobs.answer request).1 })
  | .signals, w => (w.bits, w)
  | .raise bits, w => ((), { w with bits := w.bits.union bits })
  | .clear bits, w => ((), { w with bits := w.bits.without bits })
  | .openWait, w => ((0 : UInt32), w)
  | .look _ mask, w => (if w.bits.intersects mask then some w.bits else none, w)
  | .park _ _ _ _, w => (Wake.expired, w)
  | .closeWait _, w => ((), w)
  | .instant, w => ((0 : Nat), w)
  | .sense, w => (.ok default, w)
  | .time, w => ((0 : UInt32), w)
  | .ticks, w => ((0 : UInt32), w)
  | .setTime _, w => (.ok (), w)
  | .startTimeSync, w => (.ok (), w)
  | .join _ _, w => (.ok (), w)
  | .leave, w => ((), w)
  | .connect _ _, w => (.ok (), w)
  | .requestShadow _, w => (.ok (), w)
  | .pump _, w => (⟨[], .ok ()⟩, w)
  | .publish _ _ _, w => (.ok (), w)
  | .disconnect, w => ((), w)
  | .openProvisioning session, w => (.ok (), { w with session := some session })
  | .closeProvisioning, w => (.ok (), { w with session := none })
  | .takeRequestedTime, w => ((none : Option UInt32), w)
  | .sleep _, w => ((), { w with session := none })
  | .report _, w => ((), w)

/-- Whatever others may do, they need not. -/
lemma reply_calm (L : Licence) (r : DeviceRequest) (w : World) :
    Reply L r w (calm r w).1 (calm r w).2 := by
  cases r with
  | blob request => exact ⟨_, Or.inl ⟨rfl, rfl⟩, rfl⟩
  | park id mask deadline timer => exact ⟨.refl, trivial⟩
  | openProvisioning session => exact Or.inl .refl
  | sleep seconds => exact ⟨w.bits, rfl⟩
  | signals | look => exact ⟨rfl, rfl⟩
  | _ => rfl

lemma answers_calm (L : Licence) (r : DeviceRequest) (w : World) :
    answers L r w (calm r w).1 (calm r w).2 :=
  ⟨(calm r w).2, reply_calm L r w, .refl⟩

/-- There is always an answer. -/
lemma answers_total (L : Licence) (r : DeviceRequest) (w : World) :
    ∃ x w', answers L r w x w' :=
  ⟨_, _, answers_calm L r w⟩

/-! ## What others leave alone -/

section Frames

variable {L : Licence} {w w' : World} {name : String}

/-- Others change none but the blobs of a client. -/
lemma Act.get?_eq (h : Act L w w') (other : name ∉ Session.blobs) :
    w'.blobs.get? name = w.blobs.get? name := by
  cases h with
  | stir h => rfl
  | write opened written =>
    exact Reaches.get?_eq written (Session.write_changesOnly _ _) other

lemma Acts.get?_eq (h : Acts L w w') (other : name ∉ Session.blobs) :
    w'.blobs.get? name = w.blobs.get? name := by
  induction h with
  | refl => rfl
  | tail _ act ih => rw [act.get?_eq other, ih]

/-- While no session is open, others change nothing but the register. -/
lemma Acts.of_closed (h : Acts L w w') (closed : w.session = none) :
    w'.blobs = w.blobs ∧ w'.session = none ∧ Relation.ReflTransGen L.stirs w.bits w'.bits := by
  induction h with
  | refl => exact ⟨rfl, closed, .refl⟩
  | tail _ act ih =>
    obtain ⟨blobs, session, bits⟩ := ih
    cases act with
    | stir h => exact ⟨blobs, session, bits.tail h⟩
    | write opened _ => exact absurd (opened.symm.trans session) (by simp)

end Frames

end World

/-- The blob that a request of a phase can change. -/
def DeviceRequest.changes : DeviceRequest → Option String
  | .blob request => request.changes
  | _ => none

namespace World

open Program

variable {L : Licence} {w w' : World} {name : String}

/-- A request leaves alone every blob that it does not change; whatever else happens is done by
others. -/
lemma exists_acts_of_answers {r : DeviceRequest} {x : r.Answer} (h : answers L r w x w') :
    ∃ v, (∀ name, r.changes ≠ some name → v.blobs.get? name = w.blobs.get? name) ∧
      Acts L v w' := by
  obtain ⟨u, reply, others⟩ := h
  suffices kept : ∃ v, (∀ name, r.changes ≠ some name → v.blobs.get? name = w.blobs.get? name) ∧
      Acts L v u by
    obtain ⟨v, same, acts⟩ := kept
    exact ⟨v, same, acts.trans others.acts⟩
  cases r with
  | blob request =>
    obtain ⟨blobs, answered, same⟩ := reply
    refine ⟨u, fun name other => ?_, .refl⟩
    rw [same]
    exact answered.get?_eq other
  | park id mask deadline timer => exact ⟨w, fun _ _ => rfl, reply.1⟩
  | openProvisioning session =>
    rcases reply with opened | ⟨-, rfl⟩
    · exact ⟨{ w with session := some session }, fun _ _ => rfl, opened⟩
    · exact ⟨u, fun _ _ => rfl, .refl⟩
  | sleep seconds =>
    obtain ⟨bits, same⟩ := reply
    exact ⟨u, fun _ _ => by rw [same], .refl⟩
  | signals | look => exact ⟨u, fun _ _ => by rw [reply.2], .refl⟩
  | _ => exact ⟨u, fun _ _ => by rw [show u = _ from reply], .refl⟩

/-- A request that does not change a blob leaves it alone, and so do the others if the blob is none
of a client. -/
lemma answers_get?_eq {r : DeviceRequest} {x : r.Answer} (h : answers L r w x w')
    (same : r.changes ≠ some name) (other : name ∉ Session.blobs) :
    w'.blobs.get? name = w.blobs.get? name := by
  obtain ⟨v, kept, acts⟩ := exists_acts_of_answers h
  rw [acts.get?_eq other, kept name same]

end World

end HatchSensor
