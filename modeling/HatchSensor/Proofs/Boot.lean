import HatchSensor.Bench.Action
import HatchSensor.Proofs.BenchRuns
import HatchSensor.Proofs.DeepSleep
import HatchSensor.Proofs.PhaseNeeds

/-!
# A boot ends in deep sleep

Measuring gives up a hatch that is over and asks for configuring, and configuring asks for measuring
once it has found a hatch that is not over.  They cannot go on like that on a bench to which nothing
happens by itself.  The cloud offers one document, and the document alone says when the hatch is
over; a synchronisation may move the calendar clock, but not between the moment configuring finds
time left and the moment measuring takes its reading.

`TimedBench.stepsLeft` counts the steps that may still follow; every step that asks for another one
lowers it.
-/

namespace HatchSensor

open Program World

/-! ## Footprints of steps -/

namespace Lifecycle

/-- What a step can touch that opens no session. -/
def indoors : Footprint where
  names := [HatchConfig.blob, ReadingLog.blob, Credentials.ssidBlob, Credentials.passwordBlob,
    Phase.blob]
  opens := false
  publishes := true
  sleeps := false

/-- What any step can touch. -/
def anywhere : Footprint := { indoors with opens := true }

lemma stays_measure (device : DeviceSettings) : (measure device).run.Stays indoors := by
  have saves : ∀ phase, (onBlobs (Phase.save phase).run).Stays indoors :=
    stays_savePhase (by decide)
  have cycle : (Cycle.run device).run.Stays indoors := by
    rw [Cycle.run_cycle]
    refine only_bind (stays_reading Session.changesOnly_loadConfig) fun config =>
      only_bind stays_sense fun sensed => ?_
    cases sensed with
    | error e => exact .done _
    | ok climate =>
      exact only_bind stays_time fun now =>
        only_bind ((stays_deliver _ _).widen (by decide) id id id) fun result =>
          (Cycle.stays_finish now result).widen (by decide) id (fun _ => rfl) id
  unfold measure
  rw [ExceptT.run_bind]
  refine only_bind cycle fun y => ?_
  cases y with
  | error e => exact .done _
  | ok outcome =>
    cases outcome with
    | sleep seconds => exact .done _
    | resetRequested => exact .done _
    | hatchEnded => exact stays_store_bind (saves _) fun _ => .done _

lemma stays_step (device : DeviceSettings) : (step device).run.Stays anywhere := by
  have saves : ∀ phase, (onBlobs (Phase.save phase).run).Stays anywhere :=
    stays_savePhase (by decide)
  refine stays_ask_bind stays_signals fun bits => ?_
  split
  · exact stays_factoryReset (by decide) (by decide) (by decide) (by decide)
  · refine stays_ask_bind (stays_loadPhase (by decide)) fun phase => ?_
    cases phase with
    | unknown => exact stays_store_bind (saves _) fun _ => .done _
    | provisioning => exact stays_provision rfl (by decide) device
    | configuring => exact stays_configure (by decide) (by decide) device
    | measuring => exact (stays_measure device).widen (fun _ h => h) (fun _ => rfl) id id

end Lifecycle

/-- A hatch is not over exactly if there is time left. -/
lemma HatchConfig.not_ended_iff {c : HatchConfig} {now : UInt32} :
    ¬ c.ended now = true ↔ now < c.endTime := by
  rw [HatchConfig.ended, decide_eq_true_iff, UInt32.not_le]

namespace TimedBench

variable {ρ ε : Type} {rules : BenchRules ρ ε} {device : DeviceSettings} {t t' : TimedBench ρ ε}
  {d : Dialogue Surroundings}

/-! ## What a boot relies on -/

/-- Nothing is going to happen to the bench by itself, its blobs can be read, and its configuration
is sound. -/
structure Usable (t : TimedBench ρ ε) : Prop where
  alone : Alone t
  readable : ∀ name, ¬ t.world.refuses (.read name)
  orderly : Orderly False t.toWorld

/-- A bench stays usable if its configuration stays sound. -/
lemma Usable.after (usable : Usable t) (plain : rules.Plain) {α : Type} {f : Footprint}
    {p : Program Surroundings α} {a : α} (h : Returns (answers rules) p t d a t')
    (stays : p.Stays f) (awake : f.sleeps = false) (opens : f.opens = false)
    (keeps : Keeps t.licence (Orderly False) p) : Usable t' := by
  have after := ran plain usable.alone h stays awake
  have refuses : t'.world.refuses = t.world.refuses :=
    congrArg Licence.refuses (licence_eq after.fixed)
  refine ⟨after.alone, ?_, ?_⟩
  · rw [refuses]
    exact usable.readable
  · exact keeps (reaches_toWorld plain usable.alone h stays awake opens) usable.orderly

/-- Loading the configuration gives what is stored, and leaves the bench as it is. -/
lemma config_of_load (usable : Usable t) {current : HatchConfig}
    (h : Returns (answers rules) (onBlobs HatchConfig.load) t d current t') :
    current = t.toWorld.config ∧ t' = t := by
  obtain ⟨e, blobs, loaded, rfl⟩ := returns_onBlobs h
  obtain ⟨rfl, rfl⟩ := HatchConfig.load_eq_ofBlob (usable.readable _) loaded
  exact ⟨rfl, rfl⟩

/-! ## The document of the cloud -/

/-- The configuration that the document of the cloud makes of another. -/
def Offers (t : TimedBench ρ ε) (current c : HatchConfig) : Prop :=
  ∃ text, t.world.cloud.document = some text ∧
    applyShadow (Bytes.encodeUtf8 text) current = .ok c

/-- The hatch is not over, and the cloud offers no other end of it. -/
structure Watching (t : TimedBench ρ ε) : Prop where
  early : t.world.clock.time < t.toWorld.config.endTime
  only : ∀ current c, Offers t current c → c.endTime = t.toWorld.config.endTime

section Consulting

variable {L : Licence} {current c : HatchConfig} {consulted rest : Dialogue Surroundings}

/-- What consulting the cloud brings is what the bench offers. -/
lemma offers_of_consulted (said : Ran t (consulted ++ rest) t')
    (asked : Lifecycle.Consulted L device current consulted (some (.updated c))) :
    Offers t current c := by
  obtain ⟨e, among, document, delivered, applied⟩ := ShadowExchange.mem_merged.mp asked.mem_merged
  obtain ⟨text, offered, rfl⟩ :=
    said.documents e (List.mem_append_left _ among) document delivered
  exact ⟨text, offered, applied⟩

/-- While a hatch is watched, consulting the cloud does not move its end. -/
lemma Watching.endTime_refreshed (watching : Watching t) (said : Ran t (consulted ++ rest) t')
    {outcome : Option ShadowOutcome}
    (asked : Lifecycle.Consulted L device current consulted outcome)
    (same : current.endTime = t.toWorld.config.endTime) :
    (current.refreshed outcome).endTime = t.toWorld.config.endTime := by
  rcases outcome with _ | (found | _ | _)
  · exact same
  · exact watching.only _ _ (offers_of_consulted said asked)
  · exact same
  · exact same

end Consulting

/-- A hatch that the cloud offers and that is not over is watched once it was stored. -/
lemma watching_of_stored {current c : HatchConfig} (offered : Offers t current c)
    (early : t.world.clock.time < c.endTime)
    (stored : t.world.store.blobs.get? HatchConfig.blob = some c.resetCounters.encode) :
    Watching t := by
  obtain ⟨text, document, applied⟩ := offered
  have fits : Bytes.textSize c.resetCounters.uuid ≤ HatchConfig.uuidLimit :=
    (HatchConfig.uuid_size_of_validate (HatchConfig.validate_of_applyShadow applied)).2
  have config : t.toWorld.config.endTime = c.endTime := by
    have loaded : t.toWorld.config = HatchConfig.ofBlob (some c.resetCounters.encode) :=
      congrArg HatchConfig.ofBlob stored
    rw [loaded, HatchConfig.ofBlob_encode fits]
    rfl
  refine ⟨config ▸ early, ?_⟩
  rintro current' c' ⟨text', document', applied'⟩
  obtain rfl := Option.some.inj (document.symm.trans document')
  rw [config]
  exact HatchConfig.endTime_of_applyShadow applied applied'

/-- What the device goes on with once a phase was stored. -/
lemma phase_of_put (t : TimedBench ρ ε) (blobs : BlobMap) (p : Phase) :
    (t.withBlobs (blobs.put Phase.blob (Bytes.ofWord p.word))).toWorld.phase
      = Phase.resumed (some (Bytes.ofWord p.word)) :=
  congrArg Phase.resumed (BlobMap.get?_put_self _ _ _)

/-! ## Steps -/

/-- Configuring asks for the next phase only if it has found a hatch to watch. -/
lemma watching_of_configure (plain : rules.Plain) (usable : Usable t) (calm : ¬ t.world.Requested)
    (h : Returns (answers rules) (Lifecycle.configure device).run t d (.ok 0) t') :
    t'.toWorld.phase = .measuring ∧ Watching t' := by
  unfold Lifecycle.configure at h
  simp only [DeviceProgram.run_ask_bind] at h
  obtain ⟨d₁, current, t₁, e₁, -, loaded, h₁⟩ := returns_bind.mp h
  obtain ⟨rfl, rfl⟩ := config_of_load usable loaded
  obtain ⟨d₂, outcome, t₂, e₂, -, asked, h₂⟩ := returns_bind.mp h₁
  have said : Ran t₁ d₂ t₂ :=
    ran plain usable.alone asked (f := .none) (Lifecycle.stays_askForHatch _ _) rfl
  have inWorld := reaches_toWorld plain usable.alone asked (f := .none)
    (Lifecycle.stays_askForHatch _ _) rfl rfl
  obtain ⟨consulted, rfl, cloud⟩ := Lifecycle.consulted_of_askForHatch inWorld
  have unseen := (unseen_append.mp (said.unseen calm)).1
  rcases outcome with _ | (found | _ | _)
  · exact nomatch (returns_done.mp h₂).2.1
  · simp only [DeviceProgram.run_ask_bind] at h₂
    obtain ⟨d₃, now, t₃, e₃, -, timed, h₃⟩ := returns_bind.mp h₂
    obtain ⟨rfl, rfl⟩ := eq_of_time timed
    split at h₃
    · exact nomatch (returns_done.mp h₃).2.1
    · next early =>
      -- what is left to do stores two blobs, and does not move the clock
      obtain ⟨d₄, _, t₄, e₄, -, saved, h₄⟩ := returns_ok_of_store_bind h₃
      obtain ⟨d₅, _, t₅, e₅, -, moved, h₅⟩ := returns_ok_of_store_bind h₄
      obtain rfl := eq_of_written saved
      obtain rfl := eq_of_written moved
      obtain ⟨-, -, rfl⟩ := returns_done.mp h₅
      have stored : (((t₂.world.store.blobs.put HatchConfig.blob found.resetCounters.encode).put
          Phase.blob (Bytes.ofWord Phase.measuring.word)).get? HatchConfig.blob)
          = some found.resetCounters.encode :=
        (BlobMap.get?_put_of_ne _ (by decide) _).trans (BlobMap.get?_put_self _ _ _)
      obtain ⟨text, document, applied⟩ := offers_of_consulted said cloud
      have offered : Offers t₂ t₁.toWorld.config found :=
        ⟨text, said.fixed.document.trans document, applied⟩
      exact ⟨phase_of_put _ _ _,
        watching_of_stored offered (HatchConfig.not_ended_iff.mp early) stored⟩
  · exact nomatch (returns_done.mp h₂).2.1
  · exact absurd rfl (cloud.not_reset unseen)

/-- What a cycle ends in that has stored its configuration: without a request for a reset it asks
for sleep, unless the hatch is over. -/
lemma sleeps_or_ended {force : HatchConfig} {now : UInt32} {published : Option PublishOutcome}
    (sound : force.Sound) (unasked : published ≠ some .resetRequested) :
    (∃ seconds, seconds ≠ 0 ∧ Cycle.outcome force now published = .sleep seconds) ∨
      Cycle.outcome force now published = .hatchEnded ∧ force.ended now = true := by
  unfold Cycle.outcome
  rw [if_neg unasked]
  by_cases elapsed : force.ended now = true
  · exact Or.inr ⟨if_pos elapsed, elapsed⟩
  · refine Or.inl ?_
    rw [if_neg elapsed]
    split
    · exact ⟨_, by decide, rfl⟩
    · exact ⟨_, sound.interval_ne_zero, rfl⟩

/-- After a delivery that nobody disturbs the configuration in force is sound, no reset was asked
for, and a hatch that is watched is not over. -/
lemma delivered_spec (plain : rules.Plain) (alone : Alone t) (orderly : Orderly False t.toWorld)
    (calm : ¬ t.world.Requested) {config force : HatchConfig} {current : Reading}
    {published : Option PublishOutcome}
    (h : Returns (answers rules) (Cycle.deliver device config current).run t d
      (.ok (published, force)) t')
    (sound : config.Sound) (same : config.endTime = t.toWorld.config.endTime)
    (now : current.time = t.world.clock.time) :
    force.Sound ∧ published ≠ some .resetRequested ∧
      (Watching t → ¬ force.ended current.time = true) := by
  have said : Ran t d t' := ran plain alone h (Lifecycle.stays_deliver _ _) rfl
  have inWorld := reaches_toWorld plain alone h (Lifecycle.stays_deliver _ _) rfl rfl
  obtain ⟨-, -, sound'⟩ :=
    Cycle.sound_of_deliver (fun no : False => no.elim) inWorld sound False.elim orderly.whole
  refine ⟨(sound' _ _ rfl).1, ?_⟩
  rcases Lifecycle.consulted_of_deliver inWorld with
    ⟨quiet, rfl, rfl⟩ | ⟨-, consulted, rest, outcome, rfl, asked, reset, ends⟩
  · exact ⟨by simp, fun _ => Bool.eq_false_iff.mp (Lifecycle.not_ended_of_publishReason quiet)⟩
  · have unseen := (unseen_append.mp (said.unseen calm)).1
    refine ⟨fun was => asked.not_reset unseen (reset.mp was), fun watching => ?_⟩
    rw [ends, HatchConfig.not_ended_iff, watching.endTime_refreshed said asked same, now]
    exact watching.early

/-- A cycle asks for sleep, unless it has to give up a hatch that is not watched. -/
lemma sleeps_or_unwatched (plain : rules.Plain) (usable : Usable t) (calm : ¬ t.world.Requested)
    {outcome : CycleOutcome}
    (h : Returns (answers rules) (Cycle.run device).run t d (.ok outcome) t') :
    (∃ seconds, seconds ≠ 0 ∧ outcome = .sleep seconds) ∨
      outcome = .hatchEnded ∧ ¬ Watching t := by
  rw [Cycle.run_cycle] at h
  obtain ⟨d₁, current, t₁, e₁, -, loaded, h₁⟩ := returns_bind.mp h
  obtain ⟨rfl, rfl⟩ := config_of_load usable loaded
  obtain ⟨d₂, sensed, t₂, e₂, -, sense, h₂⟩ := returns_bind.mp h₁
  -- a reading leaves alone what a hatch is watched by
  have sensing : t₂ = { t₁ with world := { t₁.world with sensor := t₂.world.sensor } } := by
    obtain ⟨-, rfl⟩ := Prod.mk.inj (returns_request.mp sense).2
    rfl
  cases sensed with
  | error reason =>
    obtain ⟨-, same, -⟩ := returns_done.mp h₂
    exact Or.inl ⟨_, usable.orderly.sound.config.interval_ne_zero, Except.ok.inj same⟩
  | ok climate =>
    obtain ⟨d₃, now, t₃, e₃, -, timed, h₃⟩ := returns_bind.mp h₂
    obtain ⟨rfl, rfl⟩ := eq_of_time timed
    have alone : Alone t₂ := by rw [sensing]; exact ⟨usable.alone.pending, usable.alone.sampleDue⟩
    have world : t₂.toWorld = t₁.toWorld := by rw [sensing]; rfl
    have quiet : ¬ t₂.world.Requested := by rw [sensing]; exact calm
    have kept : Watching t₁ → Watching t₂ := by
      intro watching
      rw [sensing]
      exact ⟨watching.early, watching.only⟩
    obtain ⟨d₄, result, t₄, e₄, -, delivered, h₄⟩ := returns_bind.mp h₃
    cases result with
    | error e => exact nomatch (returns_done.mp h₄).2.1
    | ok result =>
      obtain ⟨published, force⟩ := result
      obtain ⟨d₅, saved, t₅, e₅, -, -, h₅⟩ := returns_bind.mp h₄
      cases saved with
      | error e => exact nomatch (returns_done.mp h₅).2.1
      | ok _ =>
        obtain ⟨-, same, -⟩ := returns_done.mp h₅
        obtain rfl := Except.ok.inj same
        obtain ⟨sound, unasked, goesOn⟩ := delivered_spec plain alone (world ▸ usable.orderly) quiet
          delivered (usable.orderly.sound.config.record _)
          ((HatchConfig.endTime_record _ _).trans (by rw [world])) rfl
        rcases sleeps_or_ended sound unasked with asleep | ⟨givesUp, elapsed⟩
        · exact Or.inl asleep
        · exact Or.inr ⟨givesUp, fun watching => goesOn (kept watching) elapsed⟩

/-- Measuring asks for the next phase only if it gives up a hatch that is not watched. -/
lemma unwatched_of_measure (plain : rules.Plain) (usable : Usable t) (calm : ¬ t.world.Requested)
    (h : Returns (answers rules) (Lifecycle.measure device).run t d (.ok 0) t') :
    t'.toWorld.phase = .configuring ∧ ¬ Watching t := by
  unfold Lifecycle.measure at h
  rw [ExceptT.run_bind] at h
  obtain ⟨d₁, result, t₁, d₂, -, cycle, h₁⟩ := returns_bind.mp h
  cases result with
  | error e => exact nomatch (returns_done.mp h₁).2.1
  | ok outcome =>
    rcases sleeps_or_unwatched plain usable calm cycle with ⟨seconds, some, rfl⟩ | ⟨rfl, unwatched⟩
    · exact absurd (Except.ok.inj (returns_done.mp h₁).2.1).symm some
    · obtain ⟨d₃, _, t₃, d₄, -, moved, h₃⟩ := returns_ok_of_store_bind h₁
      obtain rfl := eq_of_written moved
      obtain ⟨-, -, rfl⟩ := returns_done.mp h₃
      exact ⟨phase_of_put _ _ _, unwatched⟩

/-- A factory reset that does not fail asks for sleep and settles the request. -/
lemma settled_of_factoryReset {seconds : UInt32}
    (h : Returns (answers rules) Lifecycle.factoryReset.run t d (.ok seconds) t') :
    seconds = Lifecycle.handOff ∧ ¬ t'.world.Requested := by
  obtain ⟨asked, u, cleared⟩ := Lifecycle.clears_of_factoryReset h
  obtain ⟨-, rfl⟩ := Prod.mk.inj cleared
  exact ⟨asked, Bool.eq_false_iff.mp (SignalBits.resetRequested_without _)⟩

open Classical in
/-- How many steps may still follow, the next one included. -/
noncomputable def stepsLeft (t : TimedBench ρ ε) : ℕ :=
  if t.world.Requested then 1
  else
    match t.toWorld.phase with
    | .measuring => if Watching t then 1 else 3
    | .configuring => 2
    | _ => 1

lemma stepsLeft_pos (t : TimedBench ρ ε) : 1 ≤ stepsLeft t := by
  unfold stepsLeft
  split
  · decide
  · split
    · split <;> decide
    · decide
    · decide

lemma stepsLeft_le (t : TimedBench ρ ε) : stepsLeft t ≤ 3 := by
  unfold stepsLeft
  split
  · decide
  · split
    · split <;> decide
    · decide
    · decide

section StepsLeft

variable (calm : ¬ t.world.Requested)
include calm

lemma stepsLeft_configuring (phase : t.toWorld.phase = .configuring) : stepsLeft t = 2 := by
  rw [stepsLeft, if_neg calm, phase]

lemma stepsLeft_watching (phase : t.toWorld.phase = .measuring) (watching : Watching t) :
    stepsLeft t = 1 := by
  rw [stepsLeft, if_neg calm, phase]
  exact if_pos watching

lemma stepsLeft_unwatched (phase : t.toWorld.phase = .measuring) (unwatched : ¬ Watching t) :
    stepsLeft t = 3 := by
  rw [stepsLeft, if_neg calm, phase]
  exact if_neg unwatched

end StepsLeft

/-- A step that asks for another one has changed the phase, and brings the boot nearer to its
end. -/
lemma nearer_of_step (plain : rules.Plain) (usable : Usable t) {seconds : UInt32}
    (h : Returns (answers rules) (Lifecycle.step device).run t d (.ok seconds) t') :
    ¬ t'.world.Requested ∧ (seconds = 0 → Usable t' ∧ t'.toWorld.phase ≠ t.toWorld.phase ∧
      stepsLeft t' < stepsLeft t) := by
  have said : Ran t d t' := ran plain usable.alone h (Lifecycle.stays_step device) rfl
  unfold Lifecycle.step at h
  rw [DeviceProgram.run_ask_bind] at h
  obtain ⟨d₁, bits, t₁, e₁, rfl, looked, h₁⟩ := returns_bind.mp h
  obtain ⟨rfl, rfl⟩ := eq_of_signals looked
  by_cases requested : t.world.register.bits.contains .resetRequested = true
  · rw [if_pos requested] at h₁
    obtain ⟨rfl, settled⟩ := settled_of_factoryReset h₁
    exact ⟨settled, fun zero => absurd zero (by decide)⟩
  · rw [if_neg requested, DeviceProgram.run_ask_bind] at h₁
    have ended : ¬ t'.world.Requested := fun after => requested (said.fixed.requested after)
    refine ⟨ended, ?_⟩
    rintro rfl
    obtain ⟨d₂, phase, t₂, e₂, rfl, loading, h₂⟩ := returns_bind.mp h₁
    obtain ⟨e, blobs, loaded, rfl⟩ := returns_onBlobs loading
    obtain ⟨found, same⟩ := Phase.load_eq_resumed (usable.readable _) loaded
    change phase = t.toWorld.phase at found
    -- a phase other than provisioning is found in the store, which stays as it is
    cases phase with
    | unknown => exact absurd found.symm (Lifecycle.resumed_ne_unknown _)
    | provisioning =>
      have unseen := (unseen_append.mp (unseen_append.mp (said.unseen requested)).2).2
      exact absurd rfl (Lifecycle.heeds_provision device h₂ unseen)
    | configuring =>
      obtain rfl : blobs = t.world.store.blobs := same (by decide)
      obtain ⟨moved, watching⟩ := watching_of_configure plain usable requested h₂
      have after := usable.after plain h₂ (f := Lifecycle.indoors)
        (Lifecycle.stays_configure (by decide) (by decide) device) rfl rfl
        (Lifecycle.keeps_configure False.elim)
      refine ⟨after, by simp [moved, ← found], ?_⟩
      rw [stepsLeft_watching ended moved watching, stepsLeft_configuring requested found.symm]
      decide
    | measuring =>
      obtain rfl : blobs = t.world.store.blobs := same (by decide)
      obtain ⟨moved, unwatched⟩ := unwatched_of_measure plain usable requested h₂
      have after := usable.after plain h₂ (Lifecycle.stays_measure device) rfl rfl
        (Lifecycle.keeps_measure False.elim)
      refine ⟨after, by simp [moved, ← found], ?_⟩
      rw [stepsLeft_configuring ended moved, stepsLeft_unwatched requested found.symm unwatched]
      decide

/-! ## Falling asleep -/

lemma one_le_sleepSeconds (remaining : Nat) : 1 ≤ Lifecycle.Stage.sleepSeconds remaining := by
  unfold Lifecycle.Stage.sleepSeconds Lifecycle.shortestSleep
  rw [UInt32.le_iff_toNat_le, UInt32.toNat_ofNat', Nat.mod_eq_of_lt (by omega)]
  exact Nat.le_max_right _ _

/-- The device sleeps for a second at least. -/
lemma asleep_of_fallAsleep {remaining : Nat} {stage : Lifecycle.Stage}
    (h : Returns (answers rules) (Lifecycle.Stage.fallAsleep remaining) t d stage t') :
    ∃ seconds, 1 ≤ seconds ∧ stage = .asleep seconds ∧
      t'.world.power.sleeps = t.world.power.sleeps ++ [seconds] := by
  obtain ⟨d₁, _, t₁, e₁, -, slept, halted⟩ := returns_bind.mp h
  obtain ⟨-, rfl⟩ := Prod.mk.inj (returns_request.mp slept).2
  obtain ⟨-, rfl, rfl⟩ := returns_done.mp halted
  exact ⟨_, one_le_sleepSeconds remaining, rfl, rfl⟩

/-- A device that nobody disturbs falls asleep, whether the button is held or not. -/
lemma asleep_of_settle (plain : rules.Plain) (alone : Alone t) (calm : ¬ t.world.Requested)
    {requested : UInt32} {remaining : Nat} {stage : Lifecycle.Stage}
    (h : Returns (answers rules) (Lifecycle.Stage.settle requested remaining) t d stage t') :
    ∃ seconds, 1 ≤ seconds ∧ stage = .asleep seconds ∧
      t'.world.power.sleeps = t.world.power.sleeps ++ [seconds] := by
  rw [Lifecycle.settle_eq] at h
  obtain ⟨d₁, bits, t₁, e₁, -, looked, h₁⟩ := returns_bind.mp h
  obtain ⟨-, rfl⟩ := eq_of_signals looked
  split at h₁
  · exact asleep_of_fallAsleep h₁
  · -- the button is held
    obtain ⟨d₂, started, t₂, e₂, -, began, h₂⟩ := returns_bind.mp h₁
    obtain ⟨-, rfl⟩ := eq_of_ticks began
    obtain ⟨d₃, seen, t₃, e₃, -, waited, h₃⟩ := returns_bind.mp h₂
    have said : Ran t d₃ t₃ := ran plain alone waited (f := .none) (stays_awaitSignal _ _) rfl
    have none : ¬ seen.contains .resetRequested = true :=
      Bool.eq_false_iff.mp (heeds_awaitSignal _ _ waited (said.unseen calm))
    obtain ⟨d₄, ended, t₄, e₄, -, done, h₄⟩ := returns_bind.mp h₃
    obtain ⟨-, rfl⟩ := eq_of_ticks done
    rw [if_neg none] at h₄
    rw [← said.fixed.sleeps]
    exact asleep_of_fallAsleep h₄

/-! ## Boots -/

/-- How a boot stands, given the sleeps before it. -/
inductive Underway (sleeps : List UInt32) : Lifecycle.Stage → TimedBench ρ ε → Prop
  /-- The next step can be taken. -/
  | awake {t : TimedBench ρ ε} (usable : Usable t) (same : t.world.power.sleeps = sleeps) :
      Underway sleeps .awake t
  /-- Nothing keeps the device from sleep. -/
  | settling {t : TimedBench ρ ε} {requested : UInt32} {remaining : Nat} (alone : Alone t)
      (calm : ¬ t.world.Requested) (same : t.world.power.sleeps = sleeps) :
      Underway sleeps (.settling requested remaining) t
  /-- It has slept once. -/
  | asleep {t : TimedBench ρ ε} {seconds : UInt32} (long : 1 ≤ seconds)
      (once : t.world.power.sleeps = sleeps ++ [seconds]) :
      Underway sleeps (.asleep seconds) t
  /-- It has not slept. -/
  | failed {t : TimedBench ρ ε} {reason : DeviceError} (same : t.world.power.sleeps = sleeps) :
      Underway sleeps (.failed reason) t

/-- How many pieces of the life of the device may still follow. -/
noncomputable def piecesLeft : Lifecycle.Stage → TimedBench ρ ε → ℕ
  | .awake, t => stepsLeft t + 1
  | .settling _ _, _ => 1
  | _, _ => 0

variable {sleeps : List UInt32} {stage stage' : Lifecycle.Stage}

/-- Every piece brings a boot nearer to its end. -/
lemma Underway.advance (plain : rules.Plain) (h : Underway sleeps stage t)
    (goesOn : stage.isOver = false)
    (piece : Returns (answers rules) (stage.advance device) t d stage' t') :
    Underway sleeps stage' t' ∧ piecesLeft stage' t' < piecesLeft stage t := by
  cases h with
  | awake usable same =>
    obtain ⟨d₁, y, t₁, d₂, -, step, halted⟩ := returns_bind.mp piece
    have said : Ran t d₁ t₁ := ran plain usable.alone step (Lifecycle.stays_step device) rfl
    have same' := said.fixed.sleeps.trans same
    obtain ⟨-, rfl, rfl⟩ := returns_done.mp halted
    cases y with
    | error reason => exact ⟨.failed same', Nat.succ_pos _⟩
    | ok seconds =>
      obtain ⟨calm, nearer⟩ := nearer_of_step plain usable step
      by_cases next : seconds = 0
      · obtain ⟨usable', -, less⟩ := nearer next
        rw [Lifecycle.Stage.afterStep, if_pos next]
        exact ⟨.awake usable' same', Nat.succ_lt_succ less⟩
      · rw [Lifecycle.Stage.afterStep, if_neg next]
        exact ⟨.settling said.alone calm same', Nat.succ_lt_succ (stepsLeft_pos t)⟩
  | settling alone calm same =>
    obtain ⟨seconds, long, rfl, once⟩ := asleep_of_settle plain alone calm piece
    exact ⟨.asleep long (once.trans (by rw [same])), Nat.one_pos⟩
  | asleep => exact nomatch goesOn
  | failed => exact nomatch goesOn

/-- So does every round of pieces, until the boot is over. -/
lemma Underway.advanceMany (plain : rules.Plain) (h : Underway sleeps stage t) {rounds : ℕ}
    (pieces : Returns (answers rules) (Lifecycle.Stage.advanceMany device rounds stage) t d stage'
      t') :
    Underway sleeps stage' t' ∧ piecesLeft stage' t' ≤ piecesLeft stage t - rounds := by
  induction rounds generalizing stage t d with
  | zero =>
    obtain ⟨-, rfl, rfl⟩ := returns_done.mp pieces
    exact ⟨h, Nat.le_refl _⟩
  | succ rounds ih =>
    rw [Lifecycle.Stage.advanceMany] at pieces
    split at pieces
    · next finished =>
      obtain ⟨-, rfl, rfl⟩ := returns_done.mp pieces
      refine ⟨h, ?_⟩
      cases h with
      | awake => exact absurd finished Bool.false_ne_true
      | settling => exact absurd finished Bool.false_ne_true
      | asleep => exact Nat.zero_le _
      | failed => exact Nat.zero_le _
    · next goesOn =>
      obtain ⟨d₁, middle, t₁, d₂, -, piece, later⟩ := returns_bind.mp pieces
      obtain ⟨h₁, less⟩ := h.advance plain (Bool.eq_false_iff.mpr goesOn) piece
      obtain ⟨h₂, rest⟩ := ih h₁ later
      exact ⟨h₂, by omega⟩

/-- The bench without what was going to happen to it. -/
def leftAlone (t : TimedBench ρ ε) : TimedBench ρ ε := { t with pending := [], sampleDue := none }

/-- To perform a program without events and without the monitor is to run it on a bench that is left
alone. -/
lemma returns_perform {α : Type} (rules : BenchRules ρ ε) (p : Program Surroundings α)
    (t : TimedBench ρ ε) :
    ∃ d t', Returns (answers rules) p t.leftAlone d (perform rules p [] false t).value t' ∧
      (perform rules p [] false t).bench
        = { t'.leftAlone with world := { t'.world with monitor := none } } := by
  have prepared : prepare rules [] false t = t.leftAlone :=
    Alone.catchUp (t := t.leftAlone) ⟨rfl, rfl⟩ rules.reactions
  obtain ⟨d, ran⟩ := returns_run rules p t.leftAlone
  unfold perform
  rw [prepared]
  exact ⟨d, _, ran, rfl⟩

/-- A boot of at most some pieces on a bench that is left alone. -/
abbrev boot (rules : BenchRules ρ ε) (device : DeviceSettings) (rounds : ℕ) (t : TimedBench ρ ε) :
    BenchOutcome ρ ε Lifecycle.Stage :=
  perform rules (Lifecycle.boot device rounds) [] false t

/-- How a boot stands after some pieces: it is not about to take a step after the third, and it is
over after the fourth. -/
lemma underway_of_boot (device : DeviceSettings) (plain : rules.Plain)
    (usable : Usable t.leftAlone) (rounds : ℕ) :
    Underway t.world.power.sleeps (boot rules device rounds t).value
        (boot rules device rounds t).bench.leftAlone ∧
      ((boot rules device rounds t).value = .awake → rounds < 3) ∧
      ((boot rules device rounds t).value.isOver = false → rounds < 4) := by
  obtain ⟨d, t', pieces, bench⟩ := returns_perform rules (Lifecycle.boot device rounds) t
  have started : Underway t.world.power.sleeps .awake t.leftAlone := .awake usable rfl
  have atMost : piecesLeft .awake t.leftAlone ≤ 4 := Nat.succ_le_succ (stepsLeft_le _)
  obtain ⟨stands, left⟩ := started.advanceMany plain pieces
  rw [bench]
  generalize (boot rules device rounds t).value = stage at stands left ⊢
  cases stands with
  | awake usable same =>
    have two : 2 ≤ piecesLeft .awake t' := Nat.succ_le_succ (stepsLeft_pos t')
    refine ⟨.awake ⟨⟨rfl, rfl⟩, usable.readable, usable.orderly⟩ same, fun _ => ?_, fun _ => ?_⟩
    · omega
    · omega
  | @settling _ requested remaining alone calm same =>
    have one : piecesLeft (.settling requested remaining) t' = 1 := rfl
    refine ⟨.settling ⟨rfl, rfl⟩ calm same, fun other => (nomatch other), fun _ => ?_⟩
    omega
  | asleep long once =>
    exact ⟨.asleep long once, fun other => (nomatch other), fun other => (nomatch other)⟩
  | failed same =>
    exact ⟨.failed same, fun other => (nomatch other), fun other => (nomatch other)⟩

/-- A boot is over: it has failed before the device slept, or the device has slept once, for a
second at least. -/
def Ended (t : TimedBench ρ ε) (o : BenchOutcome ρ ε Lifecycle.Stage) : Prop :=
  (∃ reason, o.value = .failed reason ∧ o.bench.world.power.sleeps = t.world.power.sleeps) ∨
    ∃ seconds, 1 ≤ seconds ∧ o.value = .asleep seconds ∧
      o.bench.world.power.sleeps = t.world.power.sleeps ++ [seconds]

/-- What the boot of a device on a bench comes to. -/
structure ReachesSleep (rules : BenchRules ρ ε) (device : DeviceSettings) (t : TimedBench ρ ε) :
    Prop where
  /-- After three steps there is no other. -/
  steps : ∀ rounds, 3 ≤ rounds → (boot rules device rounds t).value ≠ .awake
  /-- With the piece after them the boot is over. -/
  ends : ∀ rounds, 4 ≤ rounds → Ended t (boot rules device rounds t)
  /-- A step that asks for another one has changed the stored phase, or leaves a reset requested. -/
  changes : ∀ rounds o, (boot rules device rounds t).value = .awake →
    o = perform rules (Lifecycle.step device).run [] false (boot rules device rounds t).bench →
    o.value = .ok 0 →
    o.bench.toWorld.phase ≠ (boot rules device rounds t).bench.toWorld.phase ∨
      o.bench.world.Requested

/-- A device with a store that it can have come to, on a bench whose store can be read and that
nothing happens to by itself: whatever its register, its clock, its network, its cloud and the
document there, its sensor, the client that waits for it and the writes that fail, its boot takes
at most three steps and then fails, or puts it to sleep once, for a second at least. -/
theorem boot_reaches_deep_sleep {L : Licence} {earlier : DeviceSettings} {visits : Prop} {w : World}
    (reached : Reached L earlier visits w) (plain : rules.Plain)
    (store : t.world.store.blobs = w.blobs)
    (readable : ∀ name, ("read", name) ∉ t.world.storeFaults) : ReachesSleep rules device t := by
  have usable : Usable t.leftAlone := by
    refine ⟨⟨rfl, rfl⟩, ?_, (reached.orderly fun no : False => no.elim).congr store⟩
    rintro name (faulty | ⟨-, change⟩)
    · refine faulty (if_neg fun found => readable name ?_)
      exact List.contains_iff_mem.mp found
    · exact change rfl
  refine ⟨fun rounds three awake => ?_, fun rounds four => ?_, ?_⟩
  · obtain ⟨-, early, -⟩ := underway_of_boot device plain usable rounds
    exact absurd three (Nat.not_le.mpr (early awake))
  · obtain ⟨stands, -, early⟩ := underway_of_boot device plain usable rounds
    unfold Ended
    generalize (boot rules device rounds t).value = stage at stands early
    cases stands with
    | awake => exact absurd four (Nat.not_le.mpr (early rfl))
    | settling => exact absurd four (Nat.not_le.mpr (early rfl))
    | asleep long once => exact Or.inr ⟨_, long, rfl, once⟩
    | failed same => exact Or.inl ⟨_, rfl, same⟩
  · rintro rounds _ awake rfl next
    obtain ⟨stands, -⟩ := underway_of_boot device plain usable rounds
    rw [awake] at stands
    cases stands with
    | awake again =>
      obtain ⟨e, t', step, bench⟩ :=
        returns_perform rules (Lifecycle.step device).run (boot rules device rounds t).bench
      rw [next] at step
      rw [bench]
      exact Or.inl ((nearer_of_step plain again step).2 rfl).2.1

/-- A bench with some blobs, late in the year 2096.  Its cloud has no document. -/
def lateBench (blobs : BlobMap) : TimedBench ScriptedSensor BenchAction :=
  .start { Bench.start 4000000000 (.start []) with store := ⟨blobs, false⟩ }

/-- A device that was provisioned and has heard of a hatch gives the hatch up long after its end,
asks for another one in vain and goes to sleep. -/
theorem finished_hatch_ends_in_sleep :
    Reached Lifecycle.obligingLicence ⟨"", .standard⟩ False readyWorld ∧ Bench.rules.Plain ∧
      (lateBench readyWorld.blobs).world.store.blobs = readyWorld.blobs ∧
      (∀ name, ("read", name) ∉ (lateBench readyWorld.blobs).world.storeFaults) ∧
      ReachesSleep Bench.rules ⟨"", .standard⟩ (lateBench readyWorld.blobs) ∧
      (boot Bench.rules ⟨"", .standard⟩ 1 (lateBench readyWorld.blobs)).value = .awake ∧
      (boot Bench.rules ⟨"", .standard⟩ 4 (lateBench readyWorld.blobs)).value = .asleep 900 := by
  have reached : Reached Lifecycle.obligingLicence ⟨"", .standard⟩ False readyWorld :=
    (Reached.unused .none).helpfulStep.helpfulStep
  have plain : Bench.rules.Plain := fun _ _ _ => rfl
  have store : ∀ blobs, (lateBench blobs).world.store.blobs = blobs := fun _ => rfl
  have readable : ∀ blobs name, ("read", name) ∉ (lateBench blobs).world.storeFaults :=
    fun _ _ => List.not_mem_nil
  have sleeps : ReachesSleep Bench.rules ⟨"", .standard⟩ (lateBench readyWorld.blobs) :=
    boot_reaches_deep_sleep reached plain (store _) (readable _)
  refine ⟨reached, plain, store _, readable _, sleeps, ?_, ?_⟩
  · decide +kernel
  · decide +kernel

end TimedBench

end HatchSensor
