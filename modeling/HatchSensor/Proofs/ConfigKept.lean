import HatchSensor.Proofs.Reached
import HatchSensor.Proofs.Received
import HatchSensor.Proofs.Refinement
import HatchSensor.Proofs.StoredConfig

/-!
# The configuration stays sound

Every phase leaves the stored configuration sound and the log whole.  Most of the code touches
neither; what is left is a factory reset, which forgets the configuration, the configuring phase,
which stores a document's, and the measurement cycle, which carries a configuration of its own from
the sensor to the store while the log grows or is given up.  All this holds whatever the store
refuses, except that the readings counted are no more than those in the log: for that the store must
refuse no change, and tell how long the log is.
-/

namespace HatchSensor

open Program World

/-- The configuration is sound, counts no more readings than the log holds, and the log is whole. -/
structure World.Consistent (L : Licence) (w : World) : Prop where
  sound : SoundStore L.Counts w
  whole : WholeLog w

/-- The same, whatever the store refuses: where readings are counted, the configuration counts no
more of them than the log holds. -/
structure World.Orderly (counts : Prop) (w : World) : Prop where
  sound : SoundStore counts w
  whole : WholeLog w

variable {L : Licence} {counts : Prop} {device : DeviceSettings} {w w' : World}
  {d : Dialogue Surroundings}

namespace World.Orderly

lemma empty (bits : SignalBits) : Orderly counts ⟨.empty, bits, none⟩ := ⟨.missing rfl, rfl⟩

/-- The register and the session do not matter. -/
lemma congr (h : Orderly counts w) (blobs : w'.blobs = w.blobs) : Orderly counts w' := by
  have log : w'.log = w.log := by rw [World.log, blobs, World.log]
  exact ⟨h.sound.congr (by rw [blobs]) fun _ => log, h.whole.congr log⟩

lemma acts (h : Orderly counts w) (done : Acts L w w') : Orderly counts w' := by
  have log : w'.log = w.log := by
    rw [World.log, done.get?_eq Session.log_notMem_blobs, World.log]
  exact ⟨h.sound.acts done, h.whole.congr log⟩

end World.Orderly

namespace Program

variable {α : Type} {f : Footprint} {p : Program Surroundings α}

/-- A program that touches neither the configuration nor the log keeps both. -/
lemma keeps_of_stays (stays : p.Stays f) (config : HatchConfig.blob ∉ f.names)
    (log : ReadingLog.blob ∉ f.names) : Keeps L (Orderly counts) p := by
  intro w d a w' h before
  exact ⟨before.sound.of_stays h stays config fun _ => log, before.whole.of_stays h stays log⟩

/-- A program that can only look and talk keeps both. -/
lemma keeps_of_quiet (stays : p.Stays .none) : Keeps L (Orderly counts) p :=
  keeps_of_stays stays List.not_mem_nil List.not_mem_nil

end Program

/-- The footprint of what changes the configuration and nothing else. -/
def configOnly : Footprint := ⟨[HatchConfig.blob], false, false, false⟩

lemma stays_saveConfig (c : HatchConfig) : (onBlobs c.save.run).Stays configOnly :=
  stays_onBlobs (Blob.changesOnly_write (List.mem_singleton.mpr rfl)) fun _ h => h

lemma stays_sense {f : Footprint} : Surroundings.sense.Stays f := only_request trivial

lemma stays_time {f : Footprint} : Surroundings.time.Stays f := only_request trivial

namespace Cycle

variable {config force : HatchConfig} {current : Reading}

/-- The configuration in force after publishing is sound, and counts the same readings. -/
lemma sound_of_publish {sent : PublishOutcome}
    (h : Returns (answers L) (publish device config current) w d (sent, force) w')
    (sound : config.Sound) : force.Sound ∧ force.unpublished = config.unpublished := by
  obtain ⟨consulted, rest, outcome, -, asked, -, rfl⟩ := Lifecycle.consulted_of_publish h
  rcases asked.refreshed with same | ⟨document, applied⟩
  · rw [same]
    exact ⟨sound, rfl⟩
  · exact ⟨sound.applyShadow applied, (HatchConfig.counters_of_applyShadow applied).1⟩

/-- A delivery leaves the log whole.  The configuration in force after it is sound; and where
readings are counted, the delivery does not fail, and no more of them are counted than the log then
holds. -/
lemma sound_of_deliver (granted : counts → L.Writable ∧ L.Counts)
    {y : Except DeviceError (Option PublishOutcome × HatchConfig)}
    (h : Returns (answers L) (deliver device config current).run w d y w') (sound : config.Sound)
    (counted : counts → config.unpublished.toNat ≤ w.records + 1) (whole : WholeLog w) :
    WholeLog w' ∧ (counts → ∃ result, y = .ok result) ∧
      ∀ published force, y = .ok (published, force) → force.Sound ∧
        (counts → force.unpublished.toNat ≤ w'.records) := by
  -- a configuration that counts the reading may be in force once the reading is in the log
  have buffered : ∀ {published : Option PublishOutcome} {force : HatchConfig} {u : World}
      {e : Dialogue Surroundings},
      Returns (answers L) (buffer current >>= fun _ => .done (.ok (published, force))) u e y w' →
      u.log = w.log → force.Sound → force.unpublished = config.unpublished →
      WholeLog w' ∧ (counts → ∃ result, y = .ok result) ∧
        ∀ published force, y = .ok (published, force) → force.Sound ∧
          (counts → force.unpublished.toNat ≤ w'.records) := by
    intro published force u e buffering same sound' unpublished
    obtain ⟨d₁, _, w₁, d₂, -, buffer, halted⟩ := returns_bind.mp buffering
    obtain ⟨-, rfl, rfl⟩ := returns_done.mp halted
    obtain ⟨whole', more⟩ := records_of_buffer buffer (whole.congr same)
    refine ⟨whole', fun _ => ⟨_, rfl⟩, ?_⟩
    rintro _ _ ⟨⟩
    refine ⟨sound', fun counting => ?_⟩
    rw [unpublished, more (granted counting), records, same]
    exact counted counting
  rw [run_deliver] at h
  cases reason : config.publishReason current.time with
  | none =>
    simp only [reason] at h
    exact buffered h rfl sound rfl
  | some why =>
    simp only [reason] at h
    obtain ⟨d₁, result, w₁, d₂, -, first, second⟩ := returns_bind.mp h
    have same : w₁.log = w.log := log_of_stays (f := ⟨[], false, true, false⟩) first
      (stays_publish rfl device config current) List.not_mem_nil
    obtain ⟨outcome, force⟩ := result
    obtain ⟨sound', unpublished⟩ := sound_of_publish first sound
    cases outcome with
    | failed => exact buffered second same sound' unpublished
    | offline => exact buffered second same sound' unpublished
    | resetRequested => exact buffered second same sound' unpublished
    | published =>
      obtain ⟨d₃, z, w₂, d₄, -, cleared, halted⟩ := returns_bind.mp second
      have whole' := (whole.congr same).clear cleared
      cases z with
      | error e =>
        obtain ⟨-, rfl, rfl⟩ := returns_done.mp halted
        refine ⟨whole', fun counting => ?_, fun _ _ other => absurd other (by simp)⟩
        exact absurd (acts_of_remove (granted counting).1 cleared).1 (by simp)
      | ok _ =>
        obtain ⟨-, rfl, rfl⟩ := returns_done.mp halted
        refine ⟨whole', fun _ => ⟨_, rfl⟩, ?_⟩
        rintro _ _ ⟨⟩
        exact ⟨sound'.resetCounters, fun _ => Nat.zero_le _⟩

/-- A cycle leaves the configuration sound and the log whole. -/
lemma keeps_cycle (granted : counts → L.Writable ∧ L.Counts) :
    Keeps L (Orderly counts) (run device).run := by
  intro w d y w' h before
  rw [run_cycle] at h
  obtain ⟨d₁, current, w₁, e₁, -, loaded, h₁⟩ := returns_bind.mp h
  obtain ⟨sound, counted⟩ := before.sound.load loaded
  have before₁ := keeps_of_quiet (stays_reading Session.changesOnly_loadConfig) loaded before
  have log₁ : w₁.log = w.log := log_of_stays (f := .none) loaded
    (stays_reading Session.changesOnly_loadConfig) List.not_mem_nil
  obtain ⟨d₂, sensed, w₂, e₂, -, sense, h₂⟩ := returns_bind.mp h₁
  have before₂ := keeps_of_quiet stays_sense sense before₁
  have log₂ : w₂.log = w₁.log := log_of_stays (f := .none) sense stays_sense List.not_mem_nil
  cases sensed with
  | error e =>
    obtain ⟨-, -, rfl⟩ := returns_done.mp h₂
    exact before₂
  | ok climate =>
    obtain ⟨d₃, now, w₃, e₃, -, timed, h₃⟩ := returns_bind.mp h₂
    have before₃ := keeps_of_quiet stays_time timed before₂
    have log₃ : w₃.log = w₂.log := log_of_stays (f := .none) timed stays_time List.not_mem_nil
    obtain ⟨d₄, z, w₄, e₄, -, delivered, finishing⟩ := returns_bind.mp h₃
    have one : counts →
        (current.record (readingOf current climate now).temperature).unpublished.toNat
          ≤ w₃.records + 1 := by
      intro counting
      rw [HatchConfig.unpublished_record, records, log₃, log₂, log₁]
      exact (HatchConfig.countUp_toNat_le _).trans (Nat.succ_le_succ (counted counting))
    obtain ⟨whole₄, done, force⟩ :=
      sound_of_deliver granted delivered (sound.record _) one before₃.whole
    have uncounted₄ : SoundStore False w₄ :=
      before₃.sound.uncounted.of_stays delivered (Lifecycle.stays_deliver _ _) (by decide)
        False.elim
    cases z with
    | error e =>
      obtain ⟨-, -, rfl⟩ := returns_done.mp finishing
      refine ⟨⟨uncounted₄.record, fun counting => ?_⟩, whole₄⟩
      obtain ⟨_, fine⟩ := done counting
      exact absurd fine (by simp)
    | ok result =>
      obtain ⟨published, config⟩ := result
      obtain ⟨sound₄, counted₄⟩ := force _ _ rfl
      obtain ⟨d₅, saved, w₅, e₅, -, save, halted⟩ := returns_bind.mp finishing
      have after : Orderly counts w₅ :=
        ⟨uncounted₄.save (fun counting => (granted counting).1) save sound₄ counted₄,
          whole₄.of_stays save (stays_saveConfig config) (by decide)⟩
      cases saved with
      | error e =>
        obtain ⟨-, -, rfl⟩ := returns_done.mp halted
        exact after
      | ok _ =>
        obtain ⟨-, -, rfl⟩ := returns_done.mp halted
        exact after

end Cycle

namespace Lifecycle

/-- What the phases can touch beside the configuration and the log. -/
def apartFromConfig : Footprint where
  names := [Credentials.ssidBlob, Credentials.passwordBlob, Phase.blob]
  opens := true
  publishes := false
  sleeps := true

lemma orderly_apart {α : Type} {p : Program Surroundings α} (stays : p.Stays apartFromConfig) :
    Keeps L (Orderly counts) p :=
  keeps_of_stays stays (by decide) (by decide)

lemma keeps_savePhase (p : Phase) : Keeps L (Orderly counts) (onBlobs (Phase.save p).run) :=
  orderly_apart (stays_savePhase (by decide) p)

/-- A factory reset forgets the configuration. -/
lemma keeps_factoryReset : Keeps L (Orderly counts) factoryReset.run := by
  have clears : Keeps L (Orderly counts) (onBlobs HatchConfig.clear.run) := by
    intro w d y w' h before
    have stays : (onBlobs HatchConfig.clear.run).Stays configOnly :=
      stays_onBlobs (Blob.changesOnly_remove (List.mem_singleton.mpr rfl)) fun _ h => h
    exact ⟨before.sound.clear h, before.whole.of_stays h stays (by decide)⟩
  have forgets : (onBlobs Credentials.clear.run).Stays apartFromConfig :=
    stays_onBlobs (only_run_bind (Blob.changesOnly_remove (by decide))
      fun _ => Blob.changesOnly_remove (by decide)) fun _ h => h
  exact keeps_store_bind clears fun _ => keeps_store_bind (orderly_apart forgets) fun _ =>
    keeps_store_bind (keeps_savePhase _) fun _ =>
    keeps_ask_bind (orderly_apart (only_request trivial)) fun _ => keeps_done _

/-- Configuring stores a document's configuration, with its counters at zero. -/
lemma keeps_configure (granted : counts → L.Writable) :
    Keeps L (Orderly counts) (configure device).run := by
  intro w d y w' h before
  unfold configure at h
  simp only [DeviceProgram.run_ask_bind] at h
  obtain ⟨d₁, current, w₁, e₁, -, loaded, h₁⟩ := returns_bind.mp h
  obtain ⟨sound, -⟩ := before.sound.load loaded
  have before₁ := keeps_of_quiet (stays_reading Session.changesOnly_loadConfig) loaded before
  obtain ⟨d₂, outcome, w₂, e₂, -, asked, h₂⟩ := returns_bind.mp h₁
  have before₂ := keeps_of_quiet (stays_askForHatch _ _) asked before₁
  obtain ⟨consulted, -, cloud⟩ := consulted_of_askForHatch asked
  rcases outcome with _ | (found | _ | _)
  · exact keeps_done _ h₂ before₂
  · simp only [DeviceProgram.run_ask_bind] at h₂
    obtain ⟨d₃, now, w₃, e₃, -, timed, h₃⟩ := returns_bind.mp h₂
    have before₃ := keeps_of_quiet stays_time timed before₂
    split at h₃
    · exact keeps_done _ h₃ before₃
    · simp only [DeviceProgram.run_store_bind] at h₃
      obtain ⟨d₄, saved, w₄, e₄, -, save, h₄⟩ := returns_bind.mp h₃
      obtain ⟨document, applied⟩ := cloud.madeOf
      have before₄ : Orderly counts w₄ :=
        ⟨before₃.sound.uncounted.save granted save (sound.applyShadow applied).resetCounters
            fun _ => Nat.zero_le _,
          before₃.whole.of_stays save (stays_saveConfig _) (by decide)⟩
      cases saved with
      | error e => exact keeps_done _ h₄ before₄
      | ok _ =>
        obtain ⟨d₅, moved, w₅, e₅, -, move, halted⟩ := returns_bind.mp h₄
        have before₅ := keeps_savePhase _ move before₄
        cases moved with
        | ok _ => exact keeps_done _ halted before₅
        | error e => exact keeps_done _ halted before₅
  · exact keeps_done _ h₂ before₂
  · exact keeps_done _ h₂ before₂

lemma keeps_measure (granted : counts → L.Writable ∧ L.Counts) :
    Keeps L (Orderly counts) (measure device).run := by
  refine keeps_run_bind (Cycle.keeps_cycle granted) fun outcome => ?_
  cases outcome with
  | sleep seconds => exact keeps_done _
  | hatchEnded => exact keeps_store_bind (keeps_savePhase _) fun _ => keeps_done _
  | resetRequested => exact keeps_done _

lemma keeps_step (granted : counts → L.Writable ∧ L.Counts) :
    Keeps L (Orderly counts) (step device).run := by
  refine keeps_ask_bind (orderly_apart stays_signals) fun bits => ?_
  split
  · exact keeps_factoryReset
  · refine keeps_ask_bind (orderly_apart (stays_loadPhase (by decide))) fun phase => ?_
    cases phase with
    | unknown => exact keeps_store_bind (keeps_savePhase _) fun _ => keeps_done _
    | provisioning => exact orderly_apart (stays_provision rfl (by decide) device)
    | configuring => exact keeps_configure fun counting => (granted counting).1
    | measuring => exact keeps_measure granted

lemma keeps_settle (requested : UInt32) (remaining : Nat) :
    Keeps L (Orderly counts) (Stage.settle requested remaining) := by
  have asleep : ∀ remaining, Keeps L (Orderly counts) (Stage.fallAsleep remaining) := by
    intro remaining
    have sleeps : apartFromConfig.allows (.sleep (Stage.sleepSeconds remaining)) := rfl
    exact orderly_apart (only_bind (only_request sleeps) fun _ => .done _)
  refine keeps_bind (orderly_apart stays_signals) fun bits => ?_
  split
  · exact asleep _
  · refine keeps_bind (orderly_apart stays_ticks) fun started =>
      keeps_bind (orderly_apart (stays_awaitSignal _ _)) fun bits =>
      keeps_bind (orderly_apart stays_ticks) fun ended => ?_
    split
    · exact keeps_bind keeps_factoryReset fun _ => keeps_done _
    · exact asleep _

lemma keeps_advance (granted : counts → L.Writable ∧ L.Counts) (stage : Stage) :
    Keeps L (Orderly counts) (stage.advance device) := by
  cases stage with
  | awake => exact keeps_bind (keeps_step granted) fun _ => keeps_done _
  | settling requested remaining => exact keeps_settle requested remaining
  | asleep seconds => exact keeps_done _
  | failed reason => exact keeps_done _

end Lifecycle

/-- Every world that is reached is orderly, whatever the store refuses; and if readings are counted
only where it refuses nothing that matters, they are counted. -/
lemma Reached.orderly {visits : Prop} (granted : counts → L.Writable ∧ L.Counts)
    (h : Reached L device visits w) : Orderly counts w := by
  induction h with
  | unused bits => exact .empty bits
  | advanced _ piece ih => exact Lifecycle.keeps_advance granted _ piece ih
  | reset _ piece ih => exact Lifecycle.keeps_factoryReset piece ih
  | meanwhile _ acts ih => exact ih.acts acts
  | visited _ _ session ih => exact ih.congr rfl
  | restarted _ bits ih => exact ih.congr rfl

/-- Every world that is reached is consistent. -/
lemma Reached.consistent {visits : Prop} (writable : L.Writable) (h : Reached L device visits w) :
    Consistent L w := by
  obtain ⟨sound, whole⟩ := h.orderly fun counting : L.Counts => ⟨writable, counting⟩
  exact ⟨sound, whole⟩

/-- What touches neither the configuration nor the log leaves the world consistent. -/
lemma Lifecycle.keeps_apart {α : Type} {p : Program Surroundings α}
    (stays : p.Stays apartFromConfig) : Keeps L (Consistent L) p := by
  intro w d a w' h before
  obtain ⟨sound, whole⟩ := orderly_apart stays h ⟨before.sound, before.whole⟩
  exact ⟨sound, whole⟩

/-! ## What is loaded -/

/-- The number of records in the log, unless the store does not tell. -/
lemma World.returns_total {y : Stored Nat} {m : BlobMap} {d : Dialogue Blobs} (counts : L.Counts)
    (h : Returns (BlobMap.Answers L.refuses) ReadingLog.total.run w.blobs d y m) :
    y = .ok w.records := by
  unfold ReadingLog.total at h
  rw [ExceptT.run_bind] at h
  obtain ⟨size, m₁, d₂, -, answered, value⟩ := returns_request_bind.mp h
  obtain ⟨-, rfl | ⟨no, -⟩⟩ := BlobMap.answers_size.mp answered
  · exact (returns_done.mp value).2.1
  · exact absurd no counts

/-- In every world that a device with an empty store can come to, whatever its phases, its clients
and factory resets have done, the record of the configuration decodes, and what is loaded is a sound
configuration that counts no more readings than the log holds.  The last part is about stores that
always tell the size of the log (`Licence.Counts`): where the size cannot be read, a reading that was
counted has not been appended, and there is no total to compare with. -/
theorem loaded_config_is_sound {visits : Prop} (writable : L.Writable)
    (h : Reached L device visits w) :
    (∀ content, w.blobs.get? HatchConfig.blob = some content →
      ∃ c, HatchConfig.decode content = some c) ∧
    (∃ d c m, Returns (BlobMap.Answers L.refuses) HatchConfig.load w.blobs d c m) ∧
    ∀ d c m, Returns (BlobMap.Answers L.refuses) HatchConfig.load w.blobs d c m →
      c.Sound ∧
      (L.Counts → ∀ d y m, Returns (BlobMap.Answers L.refuses) ReadingLog.total.run w.blobs d y m →
        ∃ total, y = .ok total ∧ c.unpublished.toNat ≤ total) := by
  have consistent := h.consistent writable
  refine ⟨?_, exists_returns BlobMap.answers_total _ _, ?_⟩
  · intro content stored
    obtain ⟨c, decoded, -⟩ := consistent.sound.record content stored
    exact ⟨c, decoded⟩
  · intro d c m loaded
    have base : c.Sound ∧ (L.Counts → c.unpublished.toNat ≤ w.records) := by
      obtain ⟨-, rfl | rfl⟩ := Session.returns_loadConfig loaded
      · exact ⟨consistent.sound.config, consistent.sound.counted⟩
      · exact ⟨HatchConfig.sound_default, fun _ => Nat.zero_le _⟩
    exact ⟨base.1, fun counts d y m counting =>
      ⟨w.records, World.returns_total counts counting, base.2 counts⟩⟩

/-- A message that sets the interval to a minute. -/
def minuteMessage : Bytes :=
  Bytes.encodeUtf8 ("\x7b\"id\":1,\"command\":\x7b\"setThresholds\":"
    ++ "\x7b\"measureIntervalSec\":60\x7d\x7d\x7d")

/-- The world that a new device comes to with its first phase, in peace. -/
def firstWorld : World :=
  (converse calm (Lifecycle.Stage.awake.advance ⟨"", .standard⟩) ⟨.empty, .none, none⟩).2.2

/-- A new device has run its first phase, and then a client has set its interval. -/
theorem minute_interval_is_loaded :
    Lifecycle.obligingLicence.Writable ∧
      ∃ w, Reached Lifecycle.obligingLicence ⟨"", .standard⟩ True w ∧
        ∃ d c m, Returns (BlobMap.Answers Lifecycle.obligingLicence.refuses) HatchConfig.load
          w.blobs d c m ∧ c.interval = 60 ∧ c.Sound := by
  have writable : Lifecycle.obligingLicence.Writable := fun _ _ => not_false
  have ran : Reached Lifecycle.obligingLicence ⟨"", .standard⟩ True firstWorld :=
    .advanced (.unused .none) (returns_converse (answers_calm Lifecycle.obligingLicence) _ _)
  have visited := ran.visited trivial (Session.start "")
  -- the message and what it leaves in the store
  rcases said : BlobMap.perform ((Session.start "").write minuteMessage) firstWorld.blobs
    with ⟨⟨effect, later⟩, blobs⟩
  obtain ⟨d, written⟩ : ∃ d, Returns (BlobMap.Answers Lifecycle.obligingLicence.refuses)
      ((Session.start "").write minuteMessage) firstWorld.blobs d (effect, later) blobs :=
    BlobMap.returns_of_perform said
  have reached := visited.meanwhile (.single (.write rfl written))
  have minute : (HatchConfig.ofBlob (blobs.get? HatchConfig.blob)).interval = 60 := by
    have stored : (HatchConfig.ofBlob ((BlobMap.perform ((Session.start "").write minuteMessage)
        firstWorld.blobs).2.get? HatchConfig.blob)).interval = 60 := by decide +kernel
    rwa [said] at stored
  obtain ⟨-, ⟨d, c, m, loaded⟩, sound⟩ := loaded_config_is_sound writable reached
  refine ⟨writable, _, reached, d, c, m, loaded, ?_, (sound d c m loaded).1⟩
  rw [(HatchConfig.load_eq_ofBlob not_false loaded).1]
  exact minute

end HatchSensor
