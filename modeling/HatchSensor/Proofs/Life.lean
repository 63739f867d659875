import HatchSensor.Proofs.Accounts
import HatchSensor.Proofs.HelpfulWorld

/-!
# No reading is lost

The life of a device is a row of power periods.  In each of them the device boots any number of
times, and the period may end anywhere, also in the middle of a store operation; the blobs survive,
the register and the open session do not.

`no_reading_is_lost` says that in every life a reading stays in the log from the append that
succeeded until the log is removed, and that this happens only in a cycle which has published the
whole log.  Every phase keeps the log (`Lifecycle.keepsLog_advance`), so every power period does,
and the law is carried from one power period to the next.
-/

namespace HatchSensor

open Program World

/-! ## Programs that keep the log -/

namespace Program

/-- However far the program comes, the log is kept. -/
def KeepsLog (L : Licence) {α : Type} (p : Program Surroundings α) : Prop :=
  ∀ ⦃w d q w'⦄, Reaches (answers L) p w d q w' → LogKept w d w'

variable {L : Licence} {α β : Type}

/-- A program that keeps to other blobs keeps the log. -/
lemma keepsLog_of_stays {f : Footprint} {p : Program Surroundings α} (stays : p.Stays f)
    (other : ReadingLog.blob ∉ f.names) : KeepsLog L p :=
  fun _ _ _ _ h => .of_stays h stays other

lemma keepsLog_done (a : α) : KeepsLog L (.done a : Program Surroundings α) :=
  keepsLog_of_stays (f := .none) (.done a) List.not_mem_nil

lemma keepsLog_bind {p : Program Surroundings α} {k : α → Program Surroundings β}
    (first : KeepsLog L p) (second : ∀ a, KeepsLog L (k a)) : KeepsLog L (p >>= k) := by
  intro w d q w' h
  rcases reaches_bind.mp h with ⟨r, k', part, -⟩ | ⟨d₁, a, u, d₂, rfl, part, rest⟩
  · exact first part
  · exact (first part).trans (second a rest)

/-- A phase that an error may cut short. -/
lemma keepsLog_run_bind {x : DeviceProgram α} {k : α → DeviceProgram β}
    (first : KeepsLog L x.run) (second : ∀ a, KeepsLog L (k a).run) : KeepsLog L (x >>= k).run := by
  rw [ExceptT.run_bind]
  refine keepsLog_bind first fun y => ?_
  cases y with
  | error e => exact keepsLog_done _
  | ok a => exact second a

/-- A question of a phase. -/
lemma keepsLog_ask_bind {p : Program Surroundings α} {k : α → DeviceProgram β}
    (first : KeepsLog L p) (second : ∀ a, KeepsLog L (k a).run) :
    KeepsLog L (DeviceProgram.ask p >>= k).run := by
  rw [DeviceProgram.run_ask_bind]
  exact keepsLog_bind first second

end Program

/-! ## Every phase keeps the log -/

namespace Lifecycle

variable {L : Licence}

/-- What the phases can touch beside the log and the cloud. -/
def apartFromLog : Footprint where
  names := [HatchConfig.blob, Credentials.ssidBlob, Credentials.passwordBlob, Phase.blob]
  opens := true
  publishes := false
  sleeps := true

lemma keepsLog_apart {α : Type} {p : Program Surroundings α} (stays : p.Stays apartFromLog) :
    KeepsLog L p :=
  keepsLog_of_stays stays (by decide)

lemma keepsLog_factoryReset : KeepsLog L factoryReset.run :=
  keepsLog_apart (stays_factoryReset (by decide) (by decide) (by decide) (by decide))

lemma keepsLog_measure (device : DeviceSettings) : KeepsLog L (measure device).run := by
  refine keepsLog_run_bind (fun _ _ _ _ h => Cycle.logKept_cycle h) fun outcome => ?_
  cases outcome with
  | sleep seconds => exact keepsLog_done _
  | hatchEnded =>
    exact keepsLog_apart (stays_store_bind (stays_savePhase (by decide) _) fun _ => .done _)
  | resetRequested => exact keepsLog_done _

lemma keepsLog_step (device : DeviceSettings) : KeepsLog L (step device).run := by
  refine keepsLog_ask_bind (keepsLog_apart stays_signals) fun bits => ?_
  split
  · exact keepsLog_factoryReset
  · refine keepsLog_ask_bind (keepsLog_apart (stays_loadPhase (by decide))) fun phase => ?_
    cases phase with
    | unknown =>
      exact keepsLog_apart (stays_store_bind (stays_savePhase (by decide) _) fun _ => .done _)
    | provisioning => exact keepsLog_apart (stays_provision rfl (by decide) device)
    | configuring => exact keepsLog_apart (stays_configure (by decide) (by decide) device)
    | measuring => exact keepsLog_measure device

lemma keepsLog_settle (requested : UInt32) (remaining : Nat) :
    KeepsLog L (Stage.settle requested remaining) := by
  have asleep : ∀ remaining, KeepsLog L (Stage.fallAsleep remaining) := by
    intro remaining
    have sleeps : apartFromLog.allows (.sleep (Stage.sleepSeconds remaining)) := rfl
    exact keepsLog_apart (only_bind (only_request sleeps) fun _ => .done _)
  refine keepsLog_bind (keepsLog_apart stays_signals) fun bits => ?_
  split
  · exact asleep _
  · refine keepsLog_bind (keepsLog_apart stays_ticks) fun started =>
      keepsLog_bind (keepsLog_apart (stays_awaitSignal _ _)) fun bits =>
      keepsLog_bind (keepsLog_apart stays_ticks) fun ended => ?_
    split
    · exact keepsLog_bind keepsLog_factoryReset fun _ => keepsLog_done _
    · exact asleep _

/-- Every piece of the life of the device keeps the log. -/
lemma keepsLog_advance (device : DeviceSettings) (stage : Stage) :
    KeepsLog L (stage.advance device) := by
  cases stage with
  | awake => exact keepsLog_bind (keepsLog_step device) fun _ => keepsLog_done _
  | settling requested remaining => exact keepsLog_settle requested remaining
  | asleep seconds => exact keepsLog_done _
  | failed reason => exact keepsLog_done _

/-- A power period keeps the log, wherever it ends. -/
lemma keepsLog_live (device : DeviceSettings) (rounds periods : Nat) :
    KeepsLog L (live device rounds periods) :=
  live_of_advance keepsLog_done (fun _ _ => keepsLog_bind) (keepsLog_advance device) rounds periods

end Lifecycle

/-! ## The life of a device -/

/-- The life of a device up to now, from the world `w` with the dialogue `d`. -/
inductive Life (L : Licence) (device : DeviceSettings) :
    World → Dialogue Surroundings → World → Prop
  /-- The device has not been switched on yet. -/
  | unused (w : World) : Life L device w [] w
  /-- The device was switched on once more, with whatever register it finds, and has come to `q`. -/
  | powered {w u v : World} {d e : Dialogue Surroundings} {q : Program Surroundings Lifecycle.Stage}
      (bits : SignalBits) (rounds periods : Nat) (earlier : Life L device w d u)
      (running : Reaches (answers L) (Lifecycle.live device rounds periods)
        { u with bits, session := none } e q v) :
      Life L device w (d ++ e) v

/-- A life keeps the log. -/
lemma Life.logKept {L : Licence} {device : DeviceSettings} {w w' : World}
    {d : Dialogue Surroundings} (h : Life L device w d w') : LogKept w d w' := by
  induction h with
  | unused => exact .refl w
  | powered bits rounds periods earlier running ih =>
    -- switching on leaves the blobs alone
    have started := Lifecycle.keepsLog_live _ _ _ running
    exact ih.trans ⟨started.logged, started.earned⟩

/-- What is promised of the readings at the end of the life `d` that began with `w`. -/
structure NoReadingLost (L : Licence) (device : DeviceSettings) (w : World)
    (d : Dialogue Surroundings) (w' : World) : Prop where
  /-- A reading whose append has succeeded is in the log behind the readings before it, or else the
  log was removed afterwards. -/
  stays : ∀ before r after,
    d = before ++ ⟨DeviceRequest.blob (.append ReadingLog.blob r.encode), .ok ()⟩ :: after →
      ⟨DeviceRequest.blob (.remove ReadingLog.blob), .ok ()⟩ ∈ after ∨
        ∃ later, w'.logged = replay before w.logged ++ r :: later
  /-- The log was removed, or was to be removed, only right after a cycle had published all of it
  and its own reading. -/
  earned : ∀ before e after, d = before ++ e :: after → e.removesLog → Earned w.logged before
  /-- What the device reads from the log is what the dialogue has made of it. -/
  readable : ∀ part l v, Returns (answers L) (onBlobs ReadingLog.readAll.run) w' part (.ok l) v →
    l = replay d w.logged
  /-- After a cycle, the reading it took is the last of the log, or was accepted after the log, or
  its own append has failed. -/
  settled : ∀ part y v, Returns (answers L) (Cycle.run device).run w' part y v →
    (Silent part ∧ v.logged = w'.logged ∧ ∀ r, ¬ Cycle.Took r part) ∨
      ∃ r, Cycle.Took r part ∧ Cycle.Settled L r w' part v
  /-- What was accepted in a cycle, over or not, is a prefix of the log and the current reading. -/
  inOrder : ∀ part q v, Reaches (answers L) (Cycle.run device).run w' part q v →
    Silent part ∨ ∃ r, Cycle.Took r part ∧ Cycle.AcceptsPrefix (w'.logged ++ [r]) part

/-- No reading is lost, in whatever order the device boots, measures, publishes, is provisioned, is
reset and loses power, and whatever the sensor, the network, the cloud, the clock and the store
answer. -/
theorem no_reading_is_lost {L : Licence} {device : DeviceSettings} {w w' : World}
    {d : Dialogue Surroundings} (h : Life L device w d w') : NoReadingLost L device w d w' where
  stays := by
    rintro before r after rfl
    have kept := h.logKept.logged
    rw [replay_append] at kept
    refine or_iff_not_imp_left.mpr fun there => ?_
    have added : Exchange.logged (replay before w.logged)
        ⟨DeviceRequest.blob (.append ReadingLog.blob r.encode), .ok ()⟩
          = replay before w.logged ++ [r] := by
      rw [← ReadingLog.readings_encode r]
      rfl
    obtain ⟨later, whole⟩ := prefix_replay there (replay before w.logged ++ [r])
    refine ⟨later, ?_⟩
    calc w'.logged
        = replay after (replay before w.logged ++ [r]) := kept.trans (congrArg (replay after) added)
      _ = replay before w.logged ++ [r] ++ later := whole.symm
      _ = replay before w.logged ++ r :: later := (List.append_cons _ _ _).symm
  earned := h.logKept.earned
  readable := fun part l v reading => by
    rw [Cycle.readAll_eq_logged reading, h.logKept.logged]
  settled := fun part y v halted => Cycle.settled_cycle halted
  inOrder := fun part q v running => Cycle.acceptsPrefix_cycle running

/-! ## A batch -/

/-- The world of a device that is to measure with the configuration `c`. -/
def measuringWorld (c : HatchConfig) : World where
  blobs := (((BlobMap.empty.put Credentials.ssidBlob (Bytes.encodeUtf8 "coop")).put
    Credentials.passwordBlob (Bytes.encodeUtf8 "chickens")).put Phase.blob
    (Bytes.ofWord Phase.measuring.word)).put HatchConfig.blob c.encode
  bits := .none
  session := none

/-- The device is switched on in helpful surroundings, for one phase. -/
def phaseAt (now : UInt32) (w : World) : Dialogue Surroundings × Lifecycle.Stage × World :=
  converse (helpfulAt now) (Lifecycle.live ⟨"", .standard⟩ 1 1)
    { w with bits := .none, session := none }

lemma Life.phaseAt {w w' : World} {d : Dialogue Surroundings} (now : UInt32)
    (h : Life Lifecycle.obligingLicence ⟨"", .standard⟩ w d w') :
    Life Lifecycle.obligingLicence ⟨"", .standard⟩ w
      (d ++ (phaseAt now w').1) (phaseAt now w').2.2 :=
  h.powered .none 1 1 (returns_converse (answers_helpfulAt now) _ _)

/-- The device publishes three readings at a time. -/
def batchWorld : World := measuringWorld { HatchConfig.default with publishAfter := 3 }

/-- What is read at a time. -/
def calmReading (now : UInt32) : Reading := Cycle.readingOf .default default now

/-- Two readings are kept in the log.  With the third they are published in their order, and the log
is removed. -/
theorem batch_is_kept_and_published :
    ∃ d e w v, Life Lifecycle.obligingLicence ⟨"", .standard⟩ batchWorld d w ∧
      w.logged = [calmReading 1700000000, calmReading 1700000060] ∧
      NoReadingLost Lifecycle.obligingLicence ⟨"", .standard⟩ batchWorld d w ∧
      Life Lifecycle.obligingLicence ⟨"", .standard⟩ batchWorld (d ++ e) v ∧
      accepted e = (w.logged ++ [calmReading 1700000120]).map (Cycle.payload "" "h") ∧
      v.logged = [] ∧
      NoReadingLost Lifecycle.obligingLicence ⟨"", .standard⟩ batchWorld (d ++ e) v := by
  have first := (Life.unused batchWorld).phaseAt 1700000000
  have second := first.phaseAt 1700000060
  have third := second.phaseAt 1700000120
  refine ⟨_, _, _, _, second, by decide +kernel, no_reading_is_lost second, third, ?_, ?_,
    no_reading_is_lost third⟩
  · decide +kernel
  · decide +kernel

end HatchSensor
