import HatchSensor.Proofs.PhaseRows

/-!
# Every step follows the table

One step of the device, with a store that refuses nothing and with anything happening beside it,
moves the stored phase as the table says, for the event that it has observed; a requested reset
comes before everything else.
-/

namespace HatchSensor

open Program World

namespace Lifecycle

variable {L : Licence} {device : DeviceSettings} {w w' : World} {d : Dialogue Surroundings}

/-! ## Factory reset -/

/-- The requests of a factory reset, each of which has succeeded. -/
def resetRequests : Dialogue Surroundings :=
  [⟨DeviceRequest.blob (.remove HatchConfig.blob), .ok ()⟩,
    ⟨DeviceRequest.blob (.remove Credentials.ssidBlob), .ok ()⟩,
    ⟨DeviceRequest.blob (.remove Credentials.passwordBlob), .ok ()⟩,
    ⟨DeviceRequest.blob (.write Phase.blob (Bytes.ofWord Phase.provisioning.word)), .ok ()⟩,
    ⟨DeviceRequest.clear .resetRequested, ()⟩]

/-- The blobs that a factory reset has left of those of `w`. -/
def resetBlobs (w : World) (name : String) : Option Bytes :=
  if name = Phase.blob then some (Bytes.ofWord Phase.provisioning.word)
  else if name ∈ [HatchConfig.blob, Credentials.ssidBlob, Credentials.passwordBlob] then none
  else w.blobs.get? name

/-- A factory reset makes its requests, and leaves all other blobs alone. -/
lemma returns_factoryReset (obliging : L.Obliging) (closed : w.session = none)
    {y : Except DeviceError UInt32} (h : Returns (answers L) factoryReset.run w d y w') :
    y = .ok 1 ∧ d = resetRequests ∧ w'.session = none ∧
      (∀ name, w'.blobs.get? name = resetBlobs w name) ∧
      (¬ L.preempts → w'.bits = w.bits.without .resetRequested) := by
  unfold factoryReset at h
  simp only [DeviceProgram.run_store_bind, DeviceProgram.run_ask_bind, Credentials.clear,
    onBlobs_run_bind] at h
  obtain ⟨d₁, y₁, w₁, e₁, rfl, first, h₁⟩ := returns_bind.mp h
  have bits₁ := fun alone => bits_of_reaches alone first
  obtain ⟨rfl, rfl, blobs₁, closed₁⟩ := erase_of_returns obliging closed first
  obtain ⟨d₂, y₂, w₃, e₂, rfl, both, h₂⟩ := returns_bind.mp h₁
  obtain ⟨d₃, y₃, w₂, e₃, rfl, second, h₃⟩ := returns_bind.mp both
  have bits₂ := fun alone => bits_of_reaches alone second
  obtain ⟨rfl, rfl, blobs₂, closed₂⟩ := erase_of_returns obliging closed₁ second
  have bits₃ := fun alone => bits_of_reaches alone h₃
  obtain ⟨rfl, rfl, blobs₃, closed₃⟩ := erase_of_returns obliging closed₂ h₃
  obtain ⟨d₄, y₄, w₄, e₄, rfl, moved, h₄⟩ := returns_bind.mp h₂
  have bits₄ := fun alone => bits_of_reaches alone moved
  obtain ⟨rfl, rfl, blobs₄, closed₄⟩ := put_of_returns obliging closed₃ moved
  obtain ⟨d₅, _, w₅, e₅, rfl, cleared, h₅⟩ := returns_bind.mp h₄
  obtain ⟨closed₅, same₅⟩ := closed_of_stays (f := .none) cleared (only_request trivial) rfl closed₄
  obtain ⟨rfl, u, rfl, others⟩ := returns_request.mp cleared
  obtain ⟨rfl, rfl, rfl⟩ := returns_done.mp h₅
  refine ⟨rfl, rfl, closed₅, fun name => ?_, fun alone => ?_⟩
  · rw [same₅ name List.not_mem_nil, blobs₄, blobs₃, blobs₂, blobs₁, resetBlobs]
    split_ifs with phase wiped
    · rw [phase, BlobMap.get?_put_self]
    · rw [BlobMap.get?_put_of_ne _ phase]
      simp only [List.mem_cons, List.not_mem_nil, or_false] at wiped
      rcases wiped with rfl | rfl | rfl
      · rw [BlobMap.get?_erase_of_ne _ (by decide), BlobMap.get?_erase_of_ne _ (by decide),
          BlobMap.get?_erase_self]
      · rw [BlobMap.get?_erase_of_ne _ (by decide), BlobMap.get?_erase_self]
      · rw [BlobMap.get?_erase_self]
    · simp only [List.mem_cons, List.not_mem_nil, or_false, not_or] at wiped
      rw [BlobMap.get?_put_of_ne _ phase, BlobMap.get?_erase_of_ne _ wiped.2.2,
        BlobMap.get?_erase_of_ne _ wiped.2.1, BlobMap.get?_erase_of_ne _ wiped.1]
  · rw [others.eq_of_alone alone]
    show w₄.bits.without .resetRequested = _
    rw [bits₄ alone, bits₃ alone, bits₂ alone, bits₁ alone]

/-! ## One step -/

/-- The phase that a device goes on with is never "unknown". -/
lemma resumed_ne_unknown (content : Option Bytes) : Phase.resumed content ≠ .unknown := by
  unfold Phase.resumed
  split_ifs <;> simp

/-- One step of the device, with any blobs and any register, any answers of the collaborators and
anything that others do meanwhile, but with a store that refuses nothing.  No session is open when
the step begins, and none is open either when the device goes on with the next step at once.

If a reset is requested when the step begins, exactly the requests of a factory reset are made.
Otherwise the device goes on with the stored phase, observes one event and follows the table. -/
theorem step_follows_table (device : DeviceSettings) (obliging : L.Obliging)
    (closed : w.session = none) :
    (∃ d y w', Returns (answers L) (step device).run w d y w') ∧
      ∀ d y w', Returns (answers L) (step device).run w d y w' →
        (w.Requested →
          y = .ok 1 ∧ d = ⟨DeviceRequest.signals, w.bits⟩ :: resetRequests ∧ w'.session = none ∧
            (∀ name, w'.blobs.get? name = resetBlobs w name) ∧
            (¬ L.preempts → w'.bits = w.bits.without .resetRequested)) ∧
        (¬ w.Requested →
          ∃ load rest u v event seconds,
            d = ⟨DeviceRequest.signals, w.bits⟩ :: load ++ rest ∧
              Returns (answers L) (onBlobs Phase.load) u load w.phase v ∧
              y = .ok seconds ∧ Follows L device w.phase w rest event seconds w' ∧
              ∀ event', Observed L device w.config w.phase rest event' → event' = event) := by
  refine ⟨exists_returns (answers_total L) _ w, fun d y w' h => ?_⟩
  unfold step at h
  simp only [DeviceProgram.run_ask_bind] at h
  obtain ⟨d₁, bits, w₁, e₁, rfl, looked, h₁⟩ := returns_bind.mp h
  obtain ⟨closed₁, same₁⟩ := closed_of_stays (f := .none) looked stays_signals rfl closed
  obtain ⟨rfl, u, ⟨rfl, rfl⟩, others⟩ := returns_request.mp looked
  constructor
  · intro requested
    rw [if_pos (show u.bits.contains .resetRequested = true from requested)] at h₁
    obtain ⟨rfl, rfl, closed₂, blobs, bits⟩ := returns_factoryReset obliging closed₁ h₁
    refine ⟨rfl, rfl, closed₂, fun name => ?_, fun alone => ?_⟩
    · rw [blobs, resetBlobs, resetBlobs, same₁ name List.not_mem_nil]
    · rw [bits alone, others.eq_of_alone alone]
  · intro quiet
    rw [if_neg (show ¬ u.bits.contains .resetRequested = true from quiet)] at h₁
    simp only [DeviceProgram.run_ask_bind] at h₁
    obtain ⟨d₂, phase, w₂, e₂, rfl, load, h₂⟩ := returns_bind.mp h₁
    obtain ⟨performed, closed₂⟩ := perform_of_returns obliging load closed₁
    obtain ⟨value, stored, kept⟩ := Phase.perform_load w₁.blobs
    rw [performed] at value stored kept
    rw [same₁ _ List.not_mem_nil] at value stored
    obtain rfl : phase = u.phase := value
    have same₂ : w₂.blobs.get? HatchConfig.blob = u.blobs.get? HatchConfig.blob := by
      rw [kept _ (by decide), same₁ _ List.not_mem_nil]
    have current : w₂.config = u.config := congrArg HatchConfig.ofBlob same₂
    suffices row : ∃ event seconds, y = .ok seconds ∧
        Follows L device u.phase w₂ e₂ event seconds w' by
      obtain ⟨event, seconds, rfl, observed, moved, configured, shut⟩ := row
      rw [current] at observed
      rw [same₂] at configured
      exact ⟨d₂, e₂, w₁, w₂, event, seconds, rfl, load, rfl, ⟨observed, moved, configured, shut⟩,
        fun event' other => other.unique observed rfl⟩
    cases phase : u.phase with
    | unknown => exact absurd phase (resumed_ne_unknown _)
    | provisioning =>
      rw [phase] at h₂
      exact follows_provision obliging (by rw [stored, ← phase, World.phase]) h₂
    | configuring =>
      rw [phase] at h₂
      exact follows_configure obliging closed₂ (by rw [stored, ← phase, World.phase]) h₂
    | measuring =>
      rw [phase] at h₂
      exact follows_measure obliging closed₂ (by rw [stored, ← phase, World.phase]) h₂

/-! ## Two steps -/

/-- The store refuses nothing, and otherwise everything may happen beside the device. -/
def obligingLicence : Licence := ⟨fun _ => False, fun _ _ => True, True⟩

/-- A device that has been measuring. -/
def measuredWorld : World where
  blobs := (BlobMap.empty.put Phase.blob (Bytes.ofWord Phase.measuring.word)).put
    ReadingLog.blob (Reading.encode default)
  bits := .none
  session := none

/-- A step of it observes an event of the table; if a reset is requested it provisions next, and has
kept its log. -/
theorem measuring_device_follows_table :
    obligingLicence.Obliging ∧ measuredWorld.session = none ∧
      (∃ d w' event seconds, Returns (answers obligingLicence) (step ⟨"", .standard⟩).run
        measuredWorld d (.ok seconds) w' ∧
        w'.blobs.get? Phase.blob = some (Bytes.ofWord (Phase.measuring.next event).word)) ∧
      ∃ d w', Returns (answers obligingLicence) (step ⟨"", .standard⟩).run
        { measuredWorld with bits := .resetRequested } d (.ok 1) w' ∧
        w'.blobs.get? Phase.blob = some (Bytes.ofWord Phase.provisioning.word) ∧
        w'.blobs.get? ReadingLog.blob = some (Reading.encode default) := by
  have obliging : obligingLicence.Obliging := fun _ => not_false
  refine ⟨obliging, rfl, ?_, ?_⟩
  · obtain ⟨⟨d, y, w', halted⟩, rows⟩ := step_follows_table (w := measuredWorld) ⟨"", .standard⟩
      obliging rfl
    obtain ⟨load, rest, u, v, event, seconds, -, -, rfl, followed, -⟩ :=
      (rows d y w' halted).2 (by decide)
    exact ⟨d, w', event, seconds, halted, followed.moved⟩
  · obtain ⟨⟨d, y, w', halted⟩, rows⟩ := step_follows_table
      (w := { measuredWorld with bits := .resetRequested }) ⟨"", .standard⟩ obliging rfl
    obtain ⟨rfl, -, -, blobs, -⟩ := (rows d y w' halted).1 (by decide)
    refine ⟨d, w', halted, ?_, ?_⟩
    · rw [blobs]
      rfl
    · rw [blobs]
      rfl

end Lifecycle

end HatchSensor
