import HatchSensor.Proofs.HatchRecord
import HatchSensor.Hatch.Thresholds

/-!
# Sound configurations

Three parts of the device change the configuration, each of them a part of it only: a shadow
document sets what the cloud may choose, a client beside the device sets the thresholds, and the
measurement cycle counts readings.  Every one of them leaves a sound configuration sound, and so
does storage, although it may cut the identity short.
-/

namespace HatchSensor

namespace HatchConfig

/-- What holds of every configuration that the device works with. -/
structure Sound (c : HatchConfig) : Prop where
  /-- There is time between two readings. -/
  interval : 1 ≤ c.interval
  /-- Some temperature lies in the band. -/
  band : c.low.less c.high = true
  offset : c.offset.isFinite = true
  /-- The identity fits its field. -/
  uuid : Bytes.textSize c.uuid ≤ uuidLimit
  /-- A reading is not too low and too high at once. -/
  oneRun : c.lowRun = 0 ∨ c.highRun = 0
  /-- Readings in a row are readings since the last publication. -/
  lowRun : c.lowRun ≤ c.unpublished
  highRun : c.highRun ≤ c.unpublished

variable {c c' : HatchConfig}

lemma sound_default : default.Sound := by
  constructor <;> decide +kernel

lemma Sound.interval_ne_zero (h : c.Sound) : c.interval ≠ 0 := by
  intro zero
  have some := h.interval
  rw [zero] at some
  exact absurd some (by decide)

/-! ## Counting -/

lemma countUp_toNat_le (n : UInt32) : (countUp n).toNat ≤ n.toNat + 1 := by
  unfold countUp
  split
  · exact Nat.le_succ _
  · rw [UInt32.toNat_add]
    exact Nat.mod_le _ _

lemma countUp_le_countUp {m n : UInt32} (h : m ≤ n) : countUp m ≤ countUp n := by
  by_cases full : n = 0xffffffff
  · rw [countUp, countUp, if_pos full, full, UInt32.le_iff_toNat_le]
    have bound := (if m = 0xffffffff then m else m + 1).toNat_lt
    simp only [UInt32.reduceToNat]
    omega
  · have room : n.toNat < 2 ^ 32 - 1 := by
      have bound := n.toNat_lt
      have other : n.toNat ≠ 2 ^ 32 - 1 := fun same => full (UInt32.toNat_inj.mp same)
      omega
    have less : m.toNat ≤ n.toNat := UInt32.le_iff_toNat_le.mp h
    have rest : m ≠ 0xffffffff := fun same => by
      rw [same] at less
      simp only [UInt32.reduceToNat] at less
      omega
    rw [countUp, countUp, if_neg full, if_neg rest, UInt32.le_iff_toNat_le, UInt32.toNat_add,
      UInt32.toNat_add]
    simp only [UInt32.reduceToNat]
    omega

/-- Counting a reading changes the counters and nothing else. -/
lemma exists_record_eq (c : HatchConfig) (temperature : Single) :
    ∃ lowRun highRun, c.record temperature =
      { c with unpublished := countUp c.unpublished, lowRun, highRun } := by
  unfold record
  dsimp only
  split
  · exact ⟨_, _, rfl⟩
  · split <;> exact ⟨_, _, rfl⟩

lemma unpublished_record (c : HatchConfig) (temperature : Single) :
    (c.record temperature).unpublished = countUp c.unpublished := by
  obtain ⟨_, _, same⟩ := c.exists_record_eq temperature
  rw [same]

/-- Counting a reading does not move the end of the hatch. -/
lemma endTime_record (c : HatchConfig) (temperature : Single) :
    (c.record temperature).endTime = c.endTime := by
  obtain ⟨_, _, same⟩ := c.exists_record_eq temperature
  rw [same]

/-- Counting a reading does not move the device to another hatch. -/
lemma uuid_record (c : HatchConfig) (temperature : Single) :
    (c.record temperature).uuid = c.uuid := by
  obtain ⟨_, _, same⟩ := c.exists_record_eq temperature
  rw [same]

/-- A counted reading lengthens one run at most, and ends the other. -/
lemma Sound.record (h : c.Sound) (temperature : Single) : (c.record temperature).Sound := by
  have none : (0 : UInt32) ≤ countUp c.unpublished := UInt32.zero_le
  unfold HatchConfig.record
  dsimp only
  split
  · exact ⟨h.interval, h.band, h.offset, h.uuid, Or.inl rfl, none, countUp_le_countUp h.highRun⟩
  · split
    · exact ⟨h.interval, h.band, h.offset, h.uuid, Or.inr rfl, countUp_le_countUp h.lowRun, none⟩
    · exact ⟨h.interval, h.band, h.offset, h.uuid, Or.inl rfl, none, none⟩

lemma Sound.resetCounters (h : c.Sound) : c.resetCounters.Sound :=
  ⟨h.interval, h.band, h.offset, h.uuid, Or.inl rfl, UInt32.le_refl _, UInt32.le_refl _⟩

/-! ## Shadow documents and thresholds -/

/-- What an acceptable configuration has been checked for. -/
lemma limits_of_validate (h : c.validate = .ok ()) :
    c.interval ≠ 0 ∧ c.low.less c.high = true ∧ c.offset.isFinite = true := by
  unfold validate at h
  dsimp only at h
  split_ifs at h with size interval band offset
  exact ⟨interval, by simpa using band, by simpa using offset⟩

lemma one_le_of_ne_zero {n : UInt32} (h : n ≠ 0) : 1 ≤ n := by
  have positive : n.toNat ≠ 0 := fun zero => h (UInt32.toNat_inj.mp zero)
  rw [UInt32.le_iff_toNat_le]
  exact Nat.one_le_iff_ne_zero.mpr positive

/-- A shadow document does not touch the counters. -/
lemma counters_of_applyShadow {document : Bytes} (h : applyShadow document c = .ok c') :
    c'.unpublished = c.unpublished ∧ c'.lowRun = c.lowRun ∧ c'.highRun = c.highRun := by
  obtain ⟨desired, -, rfl, -⟩ := merge_of_applyShadow h
  exact ⟨rfl, rfl, rfl⟩

/-- When the hatch is over is up to the document alone. -/
lemma endTime_of_applyShadow {document : Bytes} {other other' : HatchConfig}
    (h : applyShadow document c = .ok c') (h' : applyShadow document other = .ok other') :
    other'.endTime = c'.endTime := by
  obtain ⟨desired, read, rfl, -⟩ := merge_of_applyShadow h
  obtain ⟨desired', read', rfl, -⟩ := merge_of_applyShadow h'
  obtain rfl : desired' = desired := Except.ok.inj (read'.symm.trans read)
  rfl

/-- Whatever the cloud says, the configuration stays sound. -/
lemma Sound.applyShadow {document : Bytes} (h : c.Sound)
    (applied : HatchSensor.applyShadow document c = .ok c') : c'.Sound := by
  have passed := validate_of_applyShadow applied
  obtain ⟨interval, band, offset⟩ := limits_of_validate passed
  obtain ⟨unpublished, low, high⟩ := counters_of_applyShadow applied
  refine ⟨one_le_of_ne_zero interval, band, offset, (uuid_size_of_validate passed).2, ?_, ?_, ?_⟩
  · rw [low, high]
    exact h.oneRun
  · rw [low, unpublished]
    exact h.lowRun
  · rw [high, unpublished]
    exact h.highRun

/-- Whatever thresholds a client sets, the configuration stays sound, and nothing is counted. -/
lemma Sound.applyThresholds {update : ThresholdUpdate} (h : c.Sound)
    (applied : update.apply c = .ok c') : c'.Sound ∧ c'.unpublished = c.unpublished := by
  unfold ThresholdUpdate.apply at applied
  dsimp only at applied
  split_ifs at applied with interval band
  obtain rfl := Except.ok.inj applied
  exact ⟨⟨one_le_of_ne_zero interval, by simpa using band, h.offset, h.uuid, h.oneRun, h.lowRun,
    h.highRun⟩, rfl⟩

/-- Thresholds do not move the device to another hatch. -/
lemma uuid_of_applyThresholds {update : ThresholdUpdate} (applied : update.apply c = .ok c') :
    c'.uuid = c.uuid := by
  unfold ThresholdUpdate.apply at applied
  dsimp only at applied
  split_ifs at applied with interval band
  obtain rfl := Except.ok.inj applied
  rfl

/-! ## Storage -/

/-- A sound configuration is read back, and is still sound. -/
lemma Sound.decode_encode (h : c.Sound) :
    ∃ stored, decode c.encode = some stored ∧ stored.Sound ∧
      stored.unpublished = c.unpublished := by
  refine ⟨_, HatchConfig.decode_encode h.uuid, ?_, rfl⟩
  exact ⟨h.interval, h.band, h.offset, (Bytes.textSize_beforeZero_le c.uuid).trans h.uuid,
    h.oneRun, h.lowRun, h.highRun⟩

end HatchConfig

end HatchSensor
