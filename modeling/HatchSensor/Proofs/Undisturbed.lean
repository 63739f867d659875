import HatchSensor.Proofs.Footprints
import HatchSensor.Proofs.HatchRecord

/-!
# Store programs that nobody disturbs

While no session is open nobody but the device changes a blob.  If the store refuses nothing either,
a store program is a function of the blobs: `BlobMap.perform`.
-/

namespace HatchSensor

open Program

/-! ## Carrying out a store program -/

/-- Carry out a store program on a map: its value and the map it leaves. -/
def BlobMap.perform {α : Type} : Program Blobs α → BlobMap → α × BlobMap
  | .done a, m => (a, m)
  | .ask r k, m => perform (k (m.answer r).2) (m.answer r).1

namespace BlobMap

variable {α : Type} {refuses : BlobRequest → Prop} {p : Program Blobs α} {m m' : BlobMap} {a : α}

/-- Whatever the store may refuse, it need not. -/
lemma returns_of_perform (h : perform p m = (a, m')) :
    ∃ d, Returns (Answers refuses) p m d a m' := by
  induction p generalizing m with
  | done b =>
    obtain ⟨rfl, rfl⟩ := Prod.mk.inj h
    exact ⟨[], .rest _ _⟩
  | ask r k ih =>
    obtain ⟨d, later⟩ := ih _ h
    have answered : Answers refuses r m (m.answer r).2 (m.answer r).1 := Or.inl ⟨rfl, rfl⟩
    exact ⟨_, Reaches.ask answered later⟩

/-- A store that refuses nothing does as the map does. -/
lemma perform_of_returns (never : ∀ r, ¬ refuses r) {d : Dialogue Blobs}
    (h : Returns (Answers refuses) p m d a m') : perform p m = (a, m') := by
  induction p generalizing m d with
  | done b =>
    obtain ⟨-, rfl, rfl⟩ := returns_done.mp h
    rfl
  | ask r k ih =>
    obtain ⟨x, m₁, d', -, ⟨rfl, rfl⟩ | ⟨no, -⟩, later⟩ := returns_ask.mp h
    · exact ih _ later
    · exact absurd no (never r)

end BlobMap

/-- The store refuses nothing. -/
def Licence.Obliging (L : Licence) : Prop := ∀ request, ¬ L.refuses request

namespace World

variable {L : Licence} {w w' : World} {d : Dialogue Surroundings}

/-- Without a session nobody comes between the device and the store. -/
lemma blobs_of_returns {α : Type} {p : Program Blobs α} {a : α}
    (h : Returns (answers L) (onBlobs p) w d a w') (closed : w.session = none) :
    (∃ e, Returns (BlobMap.Answers L.refuses) p w.blobs e a w'.blobs) ∧ w'.session = none := by
  induction p generalizing w d with
  | done b =>
    obtain ⟨-, rfl, rfl⟩ := returns_done.mp h
    exact ⟨⟨[], .rest _ _⟩, closed⟩
  | ask r k ih =>
    have first : onBlobs (.ask r k)
        = Surroundings.ask (.blob r) >>= fun x => onBlobs (k x) := rfl
    rw [first] at h
    obtain ⟨x, w₁, d₂, -, ⟨u, ⟨blobs, answered, rfl⟩, others⟩, later⟩ := returns_request_bind.mp h
    obtain ⟨same, shut, -⟩ := others.acts.of_closed closed
    obtain ⟨⟨e, rest⟩, ends⟩ := ih _ later shut
    rw [same] at rest
    exact ⟨⟨_, Reaches.ask answered rest⟩, ends⟩

/-- If the store refuses nothing either, it does as the map does. -/
lemma perform_of_returns (obliging : L.Obliging) {α : Type} {p : Program Blobs α} {a : α}
    (h : Returns (answers L) (onBlobs p) w d a w') (closed : w.session = none) :
    BlobMap.perform p w.blobs = (a, w'.blobs) ∧ w'.session = none := by
  obtain ⟨⟨e, alone⟩, shut⟩ := blobs_of_returns h closed
  exact ⟨BlobMap.perform_of_returns obliging alone, shut⟩

/-- Store programs leave the register alone. -/
lemma bits_of_reaches (alone : ¬ L.preempts) {α : Type} {p : Program Blobs α}
    {q : Program Surroundings α} (h : Reaches (answers L) (onBlobs p) w d q w') :
    w'.bits = w.bits := by
  have blobs : (onBlobs p).Only fun r => ∃ request, r = DeviceRequest.blob request := by
    clear h
    induction p with
    | done a => exact .done a
    | ask r k ih => exact .ask ⟨r, rfl⟩ ih
  refine h.keeps (I := fun v => v.bits = w.bits) ?_ blobs rfl
  rintro _ u x v ⟨request, rfl⟩ ⟨u', ⟨blobs, -, rfl⟩, others⟩ same
  rw [others.eq_of_alone alone]
  exact same

section

variable {name : String} {content : Bytes} {y : Stored Unit}

/-- A blob is written. -/
lemma put_of_returns (obliging : L.Obliging) (closed : w.session = none)
    (h : Returns (answers L) (onBlobs (Blob.write name content).run) w d y w') :
    y = .ok () ∧ d = [⟨DeviceRequest.blob (.write name content), .ok ()⟩] ∧
      w'.blobs = w.blobs.put name content ∧ w'.session = none := by
  obtain ⟨performed, shut⟩ := perform_of_returns obliging h closed
  obtain ⟨value, blobs⟩ := Prod.mk.inj performed
  obtain ⟨rfl, -⟩ := returns_request.mp h
  obtain rfl : y = .ok () := value.symm
  exact ⟨rfl, rfl, blobs.symm, shut⟩

/-- A blob is removed. -/
lemma erase_of_returns (obliging : L.Obliging) (closed : w.session = none)
    (h : Returns (answers L) (onBlobs (Blob.remove name).run) w d y w') :
    y = .ok () ∧ d = [⟨DeviceRequest.blob (.remove name), .ok ()⟩] ∧
      w'.blobs = w.blobs.erase name ∧ w'.session = none := by
  obtain ⟨performed, shut⟩ := perform_of_returns obliging h closed
  obtain ⟨value, blobs⟩ := Prod.mk.inj performed
  obtain ⟨rfl, -⟩ := returns_request.mp h
  obtain rfl : y = .ok () := value.symm
  exact ⟨rfl, rfl, blobs.symm, shut⟩

end

end World

/-! ## The stored phase -/

namespace Phase

/-- The phase that the device goes on with, given the content of the blob. -/
def resumed (content : Option Bytes) : Phase :=
  if content = some (Bytes.ofWord measuring.word) then measuring
  else if content = some (Bytes.ofWord configuring.word) then configuring
  else provisioning

/-- A word that names a phase is the word of this phase. -/
lemma eq_word_of_ofWord? {w : UInt32} {p : Phase} (h : ofWord? w = some p) : w = p.word := by
  unfold ofWord? at h
  split at h
  · next same => exact same.trans (congrArg word (Option.some.inj h))
  · split at h
    · next same => exact same.trans (congrArg word (Option.some.inj h))
    · split at h
      · next same => exact same.trans (congrArg word (Option.some.inj h))
      · split at h
        · next same => exact same.trans (congrArg word (Option.some.inj h))
        · exact absurd h (by simp)

/-- A blob holds a phase exactly if it is the word of the phase. -/
lemma ofBlob_eq_ok_iff {content : Option Bytes} {p : Phase} :
    ofBlob content = .ok (some p) ↔ content = some (Bytes.ofWord p.word) := by
  constructor
  · intro h
    unfold ofBlob at h
    split at h
    · exact absurd h (by simp)
    · next b₀ b₁ b₂ b₃ =>
      cases named : ofWord? (Bytes.toWord b₀ b₁ b₂ b₃) with
      | none =>
        simp only [named] at h
        exact nomatch h
      | some phase =>
        simp only [named] at h
        obtain rfl := Option.some.inj (Except.ok.inj h)
        rw [← eq_word_of_ofWord? named, Bytes.ofWord_toWord]
    · exact absurd h (by simp)
  · rintro rfl
    cases p <;> rfl

/-- What loading makes of the phase that it has read: a blob that names none is written anew. -/
def settle (m : BlobMap) : Stored (Option Phase) → Phase × BlobMap
  | .ok (some provisioning) => (provisioning, m)
  | .ok (some measuring) => (measuring, m)
  | .ok (some configuring) => (configuring, m)
  | _ => (provisioning, m.put blob (Bytes.ofWord provisioning.word))

/-- Loading reads the phase and settles it. -/
lemma perform_load_eq (m : BlobMap) : BlobMap.perform load m = settle m (ofBlob (m.get? blob)) := by
  have reads (k : Stored (Option Phase) → Program Blobs Phase) :
      BlobMap.perform (read.run >>= k) m = BlobMap.perform (k (ofBlob (m.get? blob))) m := rfl
  refine (reads _).trans ?_
  cases ofBlob (m.get? blob) with
  | error e => rfl
  | ok stored =>
    cases stored with
    | none => rfl
    | some phase => cases phase <;> rfl

/-- After the phase was loaded, the store holds the phase that the device goes on with. -/
lemma perform_load (m : BlobMap) :
    (BlobMap.perform load m).1 = resumed (m.get? blob) ∧
      (BlobMap.perform load m).2.get? blob = some (Bytes.ofWord (resumed (m.get? blob)).word) ∧
      ∀ name, name ≠ blob → (BlobMap.perform load m).2.get? name = m.get? name := by
  rw [perform_load_eq]
  unfold settle resumed
  split
  · next found =>
    have content := ofBlob_eq_ok_iff.mp found
    rw [content]
    exact ⟨rfl, rfl, fun _ _ => rfl⟩
  · next found =>
    have content := ofBlob_eq_ok_iff.mp found
    rw [content]
    exact ⟨rfl, rfl, fun _ _ => rfl⟩
  · next found =>
    have content := ofBlob_eq_ok_iff.mp found
    rw [content]
    exact ⟨rfl, rfl, fun _ _ => rfl⟩
  · next _ measuring configuring =>
    rw [if_neg fun same => measuring (ofBlob_eq_ok_iff.mpr same),
      if_neg fun same => configuring (ofBlob_eq_ok_iff.mpr same)]
    exact ⟨rfl, BlobMap.get?_put_self _ _ _, fun name other => BlobMap.get?_put_of_ne _ other _⟩

/-- If the phase can be read, that is the phase loading gives, unless it falls back to
"provisioning". -/
lemma load_eq_resumed {refuses : BlobRequest → Prop} (readable : ¬ refuses (.read blob))
    {m m' : BlobMap} {d : Dialogue Blobs} {p : Phase}
    (h : Returns (BlobMap.Answers refuses) load m d p m') :
    p = resumed (m.get? blob) ∧ (p ≠ provisioning → m' = m) := by
  obtain ⟨d₁, found, u, d₂, -, reading, settling⟩ := returns_bind.mp h
  obtain ⟨rfl, rfl⟩ : found = ofBlob (m.get? blob) ∧ m = u := by
    obtain ⟨d₃, content, v, d₄, -, asked, decoded⟩ := returns_bind.mp reading
    obtain ⟨rfl, rfl | ⟨no, -⟩⟩ := BlobMap.answers_read.mp (returns_request.mp asked).2
    · obtain ⟨-, same, unchanged⟩ := returns_done.mp decoded
      exact ⟨same, unchanged.symm⟩
    · exact absurd no readable
  rw [← (perform_load m).1, perform_load_eq]
  have stays : ∀ {phase : Phase}, Returns (BlobMap.Answers refuses) (.done phase) m d₂ p m' →
      p = phase ∧ (p ≠ provisioning → m' = m) := by
    intro phase halted
    obtain ⟨-, same, unchanged⟩ := returns_done.mp halted
    exact ⟨same, fun _ => unchanged⟩
  have falls : Returns (BlobMap.Answers refuses)
      ((save provisioning).run >>= fun _ => pure provisioning) m d₂ p m' →
      p = provisioning ∧ (p ≠ provisioning → m' = m) := by
    intro writing
    obtain ⟨d₃, saved, v, d₄, -, -, halted⟩ := returns_bind.mp writing
    obtain ⟨-, rfl, -⟩ := returns_done.mp halted
    exact ⟨rfl, fun other => absurd rfl other⟩
  generalize ofBlob (m.get? blob) = found at settling ⊢
  rcases found with e | _ | (_ | _ | _ | _)
  · exact falls settling
  · exact falls settling
  · exact falls settling
  · exact stays settling
  · exact stays settling
  · exact stays settling

end Phase

end HatchSensor
