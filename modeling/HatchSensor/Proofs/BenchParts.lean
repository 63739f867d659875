import HatchSensor.Proofs.Blobs
import HatchSensor.Proofs.Signals
import HatchSensor.Bench.World

/-!
# The parts of the bench

What the store, the cloud, the link and the provisioning transport of the bench can do to it.  None
of them requests a reset, none but the store changes a blob except for a client that provisions the
device, and the cloud delivers the one document that it was given.

`Bench.Fixed` collects what none of them changes.
-/

namespace HatchSensor

open Program

/-! ## The store and the cloud -/

namespace BenchCloud

variable (c : BenchCloud)

@[simp]
lemma document_meter (call : CloudCall) : (c.meter call).1.document = c.document := by
  unfold meter
  split <;> rfl

@[simp]
lemma document_connect (client : String) : (c.connect client).1.document = c.document := by
  have metered := c.document_meter .connect
  unfold connect
  rcases called : c.meter .connect with ⟨c', e | _⟩
  · rwa [called] at metered
  · rw [called] at metered
    dsimp only
    split <;> exact metered

@[simp]
lemma document_requestShadow (thing : String) :
    (c.requestShadow thing).1.document = c.document := by
  have metered := c.document_meter .request
  unfold requestShadow
  rcases called : c.meter .request with ⟨c', e | _⟩
  · rwa [called] at metered
  · rw [called] at metered
    dsimp only
    split <;> exact metered

@[simp]
lemma document_publish (topic : String) (payload : Bytes) :
    (c.publish topic payload).1.document = c.document := by
  unfold publish
  split
  · rfl
  · split <;> rfl

/-- A step of the session delivers the document of the cloud, if anything. -/
lemma pump_spec : c.pump.1.document = c.document ∧
    ∀ content ∈ c.pump.2.documents, ∃ text, c.document = some text ∧
      content = Bytes.encodeUtf8 text := by
  unfold pump
  split
  · exact ⟨rfl, fun _ h => absurd h List.not_mem_nil⟩
  · dsimp only
    split
    · unfold deliver
      dsimp only
      split
      · exact ⟨rfl, fun _ h => absurd h List.not_mem_nil⟩
      · cases kept : c.document with
        | none => exact ⟨rfl, fun _ h => absurd h List.not_mem_nil⟩
        | some text => exact ⟨rfl, fun _ h => ⟨text, rfl, List.mem_singleton.mp h⟩⟩
    · exact ⟨rfl, fun _ h => absurd h List.not_mem_nil⟩

end BenchCloud

namespace Bench

variable {ρ : Type} {b b' b'' : Bench ρ}

/-- A factory reset is wanted. -/
def Requested (b : Bench ρ) : Prop := b.register.bits.contains .resetRequested = true

/-- What no part of a bench changes: which requests to the store fail, the document of the cloud,
and how long the device slept.  Neither does it request a reset. -/
structure Fixed (b b' : Bench ρ) : Prop where
  storeFaults : b'.storeFaults = b.storeFaults
  failWrites : b'.store.failWrites = b.store.failWrites
  document : b'.cloud.document = b.cloud.document
  sleeps : b'.power.sleeps = b.power.sleeps
  requested : b'.Requested → b.Requested

lemma Fixed.refl (b : Bench ρ) : Fixed b b := ⟨rfl, rfl, rfl, rfl, id⟩

lemma Fixed.trans (first : Fixed b b') (second : Fixed b' b'') : Fixed b b'' where
  storeFaults := second.storeFaults.trans first.storeFaults
  failWrites := second.failWrites.trans first.failWrites
  document := second.document.trans first.document
  sleeps := second.sleeps.trans first.sleeps
  requested := fun after => first.requested (second.requested after)

/-! ## The store -/

/-- The requests to the store that fail. -/
def refuses (b : Bench ρ) (r : BlobRequest) : Prop :=
  b.storeFault r ≠ none ∨ (b.store.failWrites = true ∧ r.changes ≠ none)

/-- The store of the bench keeps its promises. -/
lemma answerBlob_spec (b : Bench ρ) (r : BlobRequest) :
    ∃ blobs, (b.answerBlob r).1 = { b with store := { b.store with blobs } } ∧
      BlobMap.Answers b.refuses r b.store.blobs (b.answerBlob r).2 blobs := by
  unfold answerBlob
  cases fault : b.storeFault r with
  | some reason =>
    have refused : b.refuses r := Or.inl (by simp [fault])
    exact ⟨_, rfl, Or.inr ⟨refused, ⟨reason, rfl⟩, rfl⟩⟩
  | none =>
    dsimp only
    rw [MemoryBlobs.answer_eq]
    split
    · next fails => exact ⟨_, rfl, Or.inr ⟨Or.inr fails, ⟨_, rfl⟩, rfl⟩⟩
    · exact ⟨_, rfl, Or.inl ⟨rfl, rfl⟩⟩

/-- A store program changes the blobs and nothing else. -/
lemma runBlobs_fst {α : Type} (b : Bench ρ) (p : Program Blobs α) :
    ∃ blobs, (b.runBlobs p).1 = { b with store := { b.store with blobs } } := by
  induction p generalizing b with
  | done a => exact ⟨_, rfl⟩
  | ask r k ih =>
    obtain ⟨blobs, same, -⟩ := b.answerBlob_spec r
    obtain ⟨later, rest⟩ := ih (b.answerBlob r).2 (b.answerBlob r).1
    have first : (b.runBlobs (.ask r k)).1
        = ((b.answerBlob r).1.runBlobs (k (b.answerBlob r).2)).1 := rfl
    exact ⟨later, by rw [first, rest, same]⟩

/-! ## Provisioning -/

/-- Signals other than the reset request can be raised. -/
lemma not_requested_of_set {register : SignalRegister} {bits : SignalBits}
    (apart : bits.bit 7 = false) (h : (register.set bits).bits.contains .resetRequested = true) :
    register.bits.contains .resetRequested = true := by
  have united : (register.set bits).bits = register.bits.union bits := rfl
  rwa [united, SignalBits.resetRequested_union, SignalBits.contains_resetRequested bits, apart,
    Bool.or_false] at h

lemma fixed_writeTo (b : Bench ρ) (session : Session) (payload : Bytes) :
    Fixed b (b.writeTo session payload).1 := by
  obtain ⟨blobs, same⟩ := b.runBlobs_fst (session.write payload)
  unfold writeTo
  dsimp only
  rw [same]
  refine ⟨rfl, rfl, rfl, rfl, ?_⟩
  unfold Requested
  dsimp only
  split
  · exact not_requested_of_set (by decide)
  · exact id

lemma fixed_deliver (b : Bench ρ) (session : Session) (payloads : List Bytes) :
    Fixed b (b.deliver session payloads).1 := by
  induction payloads generalizing b session with
  | nil => exact .refl b
  | cons payload rest ih =>
    have written := b.fixed_writeTo session payload
    have later := ih { (b.writeTo session payload).1 with
      transport := { (b.writeTo session payload).1.transport with
        replies := (b.writeTo session payload).1.transport.replies ++
          (b.writeTo session payload).2.2.toList } } (b.writeTo session payload).2.1
    exact written.trans ⟨later.storeFaults, later.failWrites, later.document, later.sleeps,
      later.requested⟩

lemma fixed_openTransport (b : Bench ρ) (session : Session) :
    Fixed b (b.openTransport session).1 := by
  unfold openTransport
  split
  · exact .refl b
  · have delivered := fixed_deliver
      { b with transport := { b.transport with enabled := true, queued := [] } } session
      b.transport.queued
    exact ⟨delivered.storeFaults, delivered.failWrites, delivered.document, delivered.sleeps,
      delivered.requested⟩

/-! ## The clock and the link -/

lemma setTime_spec (b : Bench ρ) (time : UInt32) :
    Fixed b (b.setTime time).1 ∧ (b.setTime time).1.store = b.store := by
  unfold setTime
  split
  · exact ⟨.refl b, rfl⟩
  · exact ⟨⟨rfl, rfl, rfl, rfl, id⟩, rfl⟩

lemma synchronise_spec (b : Bench ρ) :
    Fixed b b.synchronise.1 ∧ b.synchronise.1.store = b.store := by
  unfold synchronise
  split
  · exact ⟨.refl b, rfl⟩
  · exact ⟨⟨rfl, rfl, rfl, rfl, id⟩, rfl⟩

/-- Joining a network raises signals, but none that requests a reset. -/
lemma fixed_join (b : Bench ρ) (credentials : Credentials) : Fixed b (b.join credentials).1 := by
  have joined : ∀ {l : BenchLink} {register : SignalRegister},
      (l.joined register).bits.contains .resetRequested = true →
        register.bits.contains .resetRequested = true := by
    intro l register after
    unfold BenchLink.joined at after
    dsimp only at after
    split at after
    · exact not_requested_of_set (by decide) (SignalBits.requested_of_without after)
    · exact not_requested_of_set (by decide) after
  refine ⟨rfl, rfl, rfl, rfl, ?_⟩
  unfold join Requested
  dsimp only
  split
  · exact joined
  · exact id

/-- So does leaving it. -/
lemma fixed_leave (b : Bench ρ) : Fixed b b.leave := by
  refine ⟨rfl, rfl, rfl, rfl, fun after => ?_⟩
  have left : (b.link.left b.register).bits.contains .resetRequested = true := after
  unfold BenchLink.left at left
  split at left
  · exact SignalBits.requested_of_without (not_requested_of_set (by decide) left)
  · exact left

end Bench

end HatchSensor
