import HatchSensor.Proofs.SoundConfig
import HatchSensor.Proofs.Commands
import HatchSensor.Proofs.PhaseRows

/-!
# The stored configuration is sound

`World.SoundStore` says what holds of the stored configuration: its record, if there is one, decodes
to a sound configuration, and where readings are counted, it counts no more of them than the log
holds.

A measurement cycle changes the log before it stores the counters, so that the counters are ahead or
behind for a while.  The number of readings is therefore a part of the invariant only where it is
asked for, and every program that touches neither blob keeps both forms.
-/

namespace HatchSensor

open Program World

/-- The store refuses no change. -/
def Licence.Writable (L : Licence) : Prop := BlobMap.Writable L.refuses

/-- The store tells how long the log is. -/
def Licence.Counts (L : Licence) : Prop := ¬ L.refuses (.size ReadingLog.blob)

namespace World

/-- The number of whole records in the log. -/
def records (w : World) : Nat := w.log.length / Reading.recordSize

/-- The stored configuration is sound; where readings are counted, it counts no more than there
are. -/
structure SoundStore (counts : Prop) (w : World) : Prop where
  record : ∀ content, w.blobs.get? HatchConfig.blob = some content →
    ∃ c, HatchConfig.decode content = some c ∧ c.Sound
  counted : counts → w.config.unpublished.toNat ≤ w.records

namespace SoundStore

variable {L : Licence} {counts : Prop} {w w' : World} {c : HatchConfig}

/-- Whatever is in the blob, the configuration it stands for is sound. -/
lemma config (h : SoundStore counts w) : w.config.Sound := by
  unfold World.config
  cases stored : w.blobs.get? HatchConfig.blob with
  | none => exact HatchConfig.sound_default
  | some content =>
    obtain ⟨c, decoded, sound⟩ := h.record content stored
    rw [HatchConfig.ofBlob, decoded]
    exact sound

/-- It need not be known how many readings there are. -/
lemma uncounted (h : SoundStore counts w) : SoundStore False w := ⟨h.record, False.elim⟩

lemma congr (h : SoundStore counts w)
    (config : w'.blobs.get? HatchConfig.blob = w.blobs.get? HatchConfig.blob)
    (log : counts → w'.log = w.log) : SoundStore counts w' := by
  refine ⟨?_, fun counting => ?_⟩
  · rw [config]
    exact h.record
  · rw [World.config, config, World.records, log counting]
    exact h.counted counting

/-- A sound configuration is stored. -/
lemma stored (sound : c.Sound) (config : w'.blobs.get? HatchConfig.blob = some c.encode)
    (counted : counts → c.unpublished.toNat ≤ w'.records) : SoundStore counts w' := by
  obtain ⟨back, decoded, sound', unpublished⟩ := sound.decode_encode
  refine ⟨?_, fun counting => ?_⟩
  · intro content same
    obtain rfl := Option.some.inj (config.symm.trans same)
    exact ⟨back, decoded, sound'⟩
  · have loaded : w'.config = back := by
      rw [World.config, config, HatchConfig.ofBlob, decoded]
      rfl
    rw [loaded, unpublished]
    exact counted counting

/-- No configuration is stored. -/
lemma missing (config : w.blobs.get? HatchConfig.blob = none) : SoundStore counts w := by
  refine ⟨?_, fun _ => ?_⟩
  · intro content same
    exact nomatch config.symm.trans same
  · have loaded : w.config = .default := by
      rw [World.config, config]
      rfl
    rw [loaded]
    exact Nat.zero_le _

/-! ## Others -/

/-- A client can set thresholds, and nothing else about the configuration. -/
lemma act (h : SoundStore counts w) (done : Act L w w') : SoundStore counts w' := by
  have log : w'.log = w.log := by
    rw [World.log, done.get?_eq Session.log_notMem_blobs, World.log]
  cases done with
  | stir => exact h.congr rfl fun _ => rfl
  | write opened written =>
    rcases Session.thresholdsSet_of_write written with
      same | ⟨update, current, updated, known, ok, put⟩
    · exact h.congr same fun _ => log
    · have base : current.Sound ∧ (counts → current.unpublished.toNat ≤ w.records) := by
        rcases known with rfl | ⟨-, rfl⟩
        · exact ⟨h.config, h.counted⟩
        · exact ⟨HatchConfig.sound_default, fun _ => Nat.zero_le _⟩
      obtain ⟨sound, unpublished⟩ := base.1.applyThresholds ok
      refine stored sound put fun counting => ?_
      rw [unpublished, World.records, log]
      exact base.2 counting

lemma acts (h : SoundStore counts w) (done : Acts L w w') : SoundStore counts w' := by
  induction done with
  | refl => exact h
  | tail _ act ih => exact ih.act act

/-! ## Requests of the device -/

/-- A request that does not change the configuration keeps it, and what it counts unless the request
changes the log. -/
lemma answered (h : SoundStore counts w) {r : DeviceRequest} {x : r.Answer}
    (answered : answers L r w x w') (config : r.changes ≠ some HatchConfig.blob)
    (log : counts → r.changes ≠ some ReadingLog.blob) : SoundStore counts w' := by
  obtain ⟨v, kept, acts⟩ := exists_acts_of_answers answered
  exact SoundStore.acts (h.congr (kept _ config) fun counting =>
    congrArg (·.getD []) (kept _ (log counting))) acts

/-- A program that does not touch the configuration keeps it. -/
lemma of_stays (h : SoundStore counts w) {α : Type} {f : Footprint}
    {p q : Program Surroundings α} {d : Dialogue Surroundings}
    (reached : Reaches (answers L) p w d q w') (stays : p.Stays f)
    (config : HatchConfig.blob ∉ f.names) (log : counts → ReadingLog.blob ∉ f.names) :
    SoundStore counts w' := by
  refine reached.keeps (I := SoundStore counts) ?_ stays h
  intro r u x v allowed answered sound
  exact sound.answered answered (changes_of_allows allowed config) fun counting =>
    changes_of_allows allowed (log counting)

end SoundStore

/-! ## Requests to the store -/

section Store

variable {L : Licence} {counts : Prop} {w w' : World} {d : Dialogue Surroundings}

/-- What a request to the store does to the blobs, before others act. -/
lemma exists_blobs_of_answers {request : BlobRequest} {x : request.Answer}
    (h : answers L (.blob request) w x w') :
    ∃ blobs, BlobMap.Answers L.refuses request w.blobs x blobs ∧ Acts L { w with blobs } w' := by
  obtain ⟨u, ⟨blobs, answered, rfl⟩, others⟩ := h
  exact ⟨blobs, answered, others.acts⟩

/-- A blob is written, and then others act. -/
lemma acts_of_write (writable : L.Writable) {name : String} {content : Bytes} {y : Stored Unit}
    (h : Returns (answers L) (onBlobs (Blob.write name content).run) w d y w') :
    y = .ok () ∧ Acts L { w with blobs := w.blobs.put name content } w' := by
  obtain ⟨-, answered⟩ := returns_request.mp h
  obtain ⟨blobs, written, acts⟩ := exists_blobs_of_answers answered
  obtain ⟨rfl, rfl⟩ := BlobMap.Writable.answers_write writable written
  exact ⟨rfl, acts⟩

/-- A blob is removed, and then others act. -/
lemma acts_of_remove (writable : L.Writable) {name : String} {y : Stored Unit}
    (h : Returns (answers L) (onBlobs (Blob.remove name).run) w d y w') :
    y = .ok () ∧ Acts L { w with blobs := w.blobs.erase name } w' := by
  obtain ⟨-, answered⟩ := returns_request.mp h
  obtain ⟨blobs, removed, acts⟩ := exists_blobs_of_answers answered
  rcases BlobMap.answers_remove.mp removed with ⟨rfl, rfl⟩ | ⟨no, -, -⟩
  · exact ⟨rfl, acts⟩
  · exact absurd no (writable _ (by simp [BlobRequest.changes]))

/-- The configuration is forgotten, unless the store refuses. -/
lemma SoundStore.clear (h : SoundStore counts w) {y : Stored Unit}
    (cleared : Returns (answers L) (onBlobs HatchConfig.clear.run) w d y w') :
    SoundStore counts w' := by
  obtain ⟨-, answered⟩ := returns_request.mp cleared
  obtain ⟨blobs, removed, acts⟩ := exists_blobs_of_answers answered
  rcases BlobMap.answers_remove.mp removed with ⟨-, rfl⟩ | ⟨-, -, rfl⟩
  · exact SoundStore.acts (.missing (BlobMap.get?_erase_self _ _)) acts
  · exact h.acts acts

/-- A sound configuration is saved, unless the store refuses; where readings are counted it does
not. -/
lemma SoundStore.save (h : SoundStore False w) (writable : counts → L.Writable) {c : HatchConfig}
    {y : Stored Unit} (saved : Returns (answers L) (onBlobs c.save.run) w d y w') (sound : c.Sound)
    (counted : counts → c.unpublished.toNat ≤ w.records) : SoundStore counts w' := by
  have other : (w.blobs.put HatchConfig.blob c.encode).get? ReadingLog.blob
      = w.blobs.get? ReadingLog.blob := BlobMap.get?_put_of_ne _ (by decide) _
  obtain ⟨-, answered⟩ := returns_request.mp saved
  obtain ⟨blobs, written, acts⟩ := exists_blobs_of_answers answered
  rcases BlobMap.answers_write.mp written with ⟨-, rfl⟩ | ⟨no, -, rfl⟩
  · refine SoundStore.acts (.stored sound (BlobMap.get?_put_self _ _ _) fun counting => ?_) acts
    rw [World.records, World.log, other]
    exact counted counting
  · refine SoundStore.acts ⟨h.record, fun counting => ?_⟩ acts
    exact absurd no (writable counting _ (by simp [BlobRequest.changes]))

/-- The loaded configuration is sound, and counts no more readings than there are. -/
lemma SoundStore.load (h : SoundStore counts w) {c : HatchConfig}
    (loaded : Returns (answers L) (onBlobs HatchConfig.load) w d c w') :
    c.Sound ∧ (counts → c.unpublished.toNat ≤ w.records) := by
  obtain ⟨stored, -, answered, rfl⟩ := Cycle.returns_load loaded
  obtain ⟨blobs, read, -⟩ := exists_blobs_of_answers answered
  obtain ⟨-, rfl | ⟨-, e, rfl⟩⟩ := BlobMap.answers_read.mp read
  · exact ⟨h.config, h.counted⟩
  · exact ⟨HatchConfig.sound_default, fun _ => Nat.zero_le _⟩

/-! ## The log -/

/-- The log is a run of whole records. -/
def WholeLog (w : World) : Prop := w.log.length % Reading.recordSize = 0

lemma WholeLog.congr (h : WholeLog w) (log : w'.log = w.log) : WholeLog w' := by
  unfold WholeLog
  rw [log]
  exact h

/-- A program that does not touch the log keeps it whole. -/
lemma WholeLog.of_stays (h : WholeLog w) {α : Type} {f : Footprint}
    {p q : Program Surroundings α} (reached : Reaches (answers L) p w d q w') (stays : p.Stays f)
    (log : ReadingLog.blob ∉ f.names) : WholeLog w' :=
  h.congr (log_of_stays reached stays log)

/-- Adding a reading to a whole log adds one record, unless the store refuses. -/
lemma log_of_appendReading {r : Reading} {y : Stored Unit}
    (h : Returns (answers L) (onBlobs (ReadingLog.append r).run) w d y w') (whole : WholeLog w) :
    w'.log = w.log ++ r.encode ∨ ¬ (L.Writable ∧ L.Counts) ∧ w'.log = w.log := by
  unfold ReadingLog.append at h
  rw [onBlobs_run_bind] at h
  obtain ⟨size, w₁, d₂, -, sized, h₁⟩ := returns_request_bind.mp h
  obtain ⟨log₁, value⟩ := log_of_size sized
  cases size with
  | error e =>
    obtain ⟨-, -, rfl⟩ := returns_done.mp h₁
    obtain ⟨blobs, answered, -⟩ := exists_blobs_of_answers sized
    obtain ⟨-, found | ⟨no, -⟩⟩ := BlobMap.answers_size.mp answered
    · exact nomatch found
    · exact Or.inr ⟨fun both => both.2 no, log₁⟩
  | ok size =>
    obtain rfl := value size rfl
    simp only [ReadingLog.trim_of_whole whole, onBlobs_run_bind] at h₁
    obtain ⟨d₃, z, w₂, d₄, -, trimmed, appending⟩ := returns_bind.mp h₁
    obtain ⟨-, rfl, rfl⟩ := returns_done.mp trimmed
    obtain ⟨-, appended⟩ := returns_request.mp appending
    rcases log_of_append appended with ⟨-, added⟩ | ⟨⟨e, rfl⟩, same⟩
    · exact Or.inl (by rw [added, log₁])
    · obtain ⟨blobs, answered, -⟩ := exists_blobs_of_answers appended
      rcases BlobMap.answers_append.mp answered with ⟨done, -⟩ | ⟨no, -, -⟩
      · exact nomatch done
      · exact Or.inr ⟨fun both => both.1 _ (by simp [BlobRequest.changes]) no, same.trans log₁⟩

/-- After a reading was buffered the log is whole, and where nothing is refused there is one more
reading in it. -/
lemma records_of_buffer {r : Reading} (h : Returns (answers L) (Cycle.buffer r) w d () w')
    (whole : WholeLog w) :
    WholeLog w' ∧ (L.Writable ∧ L.Counts → w'.records = w.records + 1) := by
  obtain ⟨d₁, y, w₁, d₂, -, appended, reported⟩ := returns_bind.mp h
  have still : w'.log = w₁.log := by
    cases y with
    | ok _ => exact log_of_stays (f := .none) reported (.done _) List.not_mem_nil
    | error e => exact log_of_stays (f := .none) reported (only_request trivial) List.not_mem_nil
  have size : Reading.recordSize = 20 := rfl
  unfold WholeLog records at *
  rw [still]
  rcases log_of_appendReading appended whole with added | ⟨refused, same⟩
  · rw [added, List.length_append, Reading.length_encode, size]
    rw [size] at whole
    omega
  · rw [same]
    exact ⟨whole, fun granted => absurd granted refused⟩

/-- The log is given up, unless the store refuses. -/
lemma WholeLog.clear (whole : WholeLog w) {y : Stored Unit}
    (h : Returns (answers L) (onBlobs ReadingLog.clear.run) w d y w') : WholeLog w' := by
  obtain ⟨-, answered⟩ := returns_request.mp h
  obtain ⟨blobs, removed, acts⟩ := exists_blobs_of_answers answered
  refine WholeLog.congr ?_ (congrArg (·.getD []) (acts.get?_eq Session.log_notMem_blobs))
  rcases BlobMap.answers_remove.mp removed with ⟨-, rfl⟩ | ⟨-, -, rfl⟩
  · unfold WholeLog log
    rw [BlobMap.get?_erase_self]
    rfl
  · exact whole

end Store

end World

end HatchSensor
