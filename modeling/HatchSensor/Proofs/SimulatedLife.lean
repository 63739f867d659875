import HatchSensor.Proofs.FriendlyPhases
import HatchSensor.Proofs.MessageMembers
import HatchSensor.Proofs.PhaseRows
import HatchSensor.Proofs.SimulatedHatch
import HatchSensor.Proofs.SoundConfig
import HatchSensor.Simulator.Chance

/-!
# The simulated life

The bench of the simulator is friendly, so every boot of its device is known.  At the first boot the
client provisions it, at the second it hears of its hatch, and from then on it takes one reading a
boot, every 900 seconds, until the hatch is over.  Which readings lead to a publication depends on
the draws.  A publication takes the whole log with it, so whatever the draws are, the readings that
the cloud has got and those in the log are together all readings in their order.
-/

namespace HatchSensor

open Program TimedBench

namespace Simulation

variable {draws : Draws} {start : UInt32} {s s' : Scene WalkSensor}

/-! ## The device and its hatch -/

/-- The network that the client names. -/
def network : Credentials := ⟨"barn", "hatchery"⟩

/-- The time at which the hatch of a simulation is over. -/
def hatchEnd (start : UInt32) : UInt32 := start + hatchLength

/-- The clock can be believed from the start on, and does not reach its last second before the hatch
is over. -/
structure Timely (start : UInt32) : Prop where
  valid : 1451606400 ≤ start.toNat
  room : start.toNat + 1816000 < UInt32.size

lemma Timely.hatchEnd_toNat (timely : Timely start) :
    (hatchEnd start).toNat = start.toNat + 1814400 := by
  have length : hatchLength.toNat = 1814400 := by decide
  have room := timely.room
  unfold UInt32.size at room
  rw [hatchEnd, UInt32.toNat_add, length]
  omega

/-- The hatch lasts for 2016 readings, and is over at the one that follows. -/
lemma Timely.hatchEnd_le_iff (timely : Timely start) {now : UInt32} {n : Nat}
    (due : now.toNat = start.toNat + 1 + 900 * n) : hatchEnd start ≤ now ↔ 2016 ≤ n := by
  rw [UInt32.le_iff_toNat_le, timely.hatchEnd_toNat, due]
  omega

lemma rules_plain (draws : Draws) : (rules draws).Plain := fun _ _ _ => rfl

/-- The device can go online at any time. -/
structure Equipped (start : UInt32) (s : Scene WalkSensor) : Prop where
  credentials : s.holdings.credentials = some network
  calm : s.Calm
  document : s.document = document (hatchEnd start)
  started : start ≤ s.time

namespace Equipped

/-- The cloud has the configuration of the simulated hatch. -/
lemma supplies (equipped : Equipped start s) (timely : Timely start) (c : HatchConfig) :
    s.Supplies c ((wish (hatchEnd start)).merge c) := by
  have first : earliestValidTime ≤ start := UInt32.le_iff_toNat_le.mpr timely.valid
  refine ⟨⟨network, equipped.credentials⟩, equipped.calm, ?_, ?_⟩
  · exact decide_eq_true (UInt32.le_trans first equipped.started)
  · rw [equipped.document]
    exact applyShadow_document (hatchEnd start) c

/-- The device is as ready after it was online. -/
lemma offline (equipped : Equipped start s) : Equipped start s.offline :=
  { equipped with calm := Or.inr rfl }

/-- So it is after it slept. -/
lemma slept (equipped : Equipped start s) (seconds : UInt32) : Equipped start (s.slept seconds) :=
  { equipped with started := UInt32.le_trans equipped.started (le_later _ _) }

end Equipped

/-- The configuration is that of the simulated hatch, and counts the readings in the log. -/
structure Watches (start : UInt32) (buffered : Nat) (c : HatchConfig) : Prop where
  uuid : c.uuid = hatch
  interval : c.interval = 900
  endTime : c.endTime = hatchEnd start
  publishAfter : c.publishAfter = 4
  unpublished : c.unpublished.toNat = buffered
  few : buffered ≤ 3

namespace Watches

variable {c : HatchConfig} {n : Nat}

/-- The configuration that is stored at the beginning and after every publication. -/
lemma refreshed (start : UInt32) (c : HatchConfig) :
    Watches start 0 ((wish (hatchEnd start)).merge c).resetCounters :=
  ⟨rfl, rfl, rfl, rfl, rfl, Nat.zero_le 3⟩

/-- A reading that is no reason to publish is one more in the log. -/
lemma record (watches : Watches start n c) {temperature : Single} {now : UInt32}
    (quiet : (c.record temperature).publishReason now = none) :
    Watches start (n + 1) (c.record temperature) := by
  obtain ⟨lowRun, highRun, same⟩ := c.exists_record_eq temperature
  have counted : (HatchConfig.countUp c.unpublished).toNat = n + 1 := by
    have few := watches.few
    have count := watches.unpublished
    have notLargest : c.unpublished ≠ 0xffffffff := by
      intro largest
      rw [largest] at count
      have value : (0xffffffff : UInt32).toNat = 4294967295 := by decide
      omega
    have one : (1 : UInt32).toNat = 1 := by decide
    rw [HatchConfig.countUp, if_neg notLargest, UInt32.toNat_add, one, count]
    omega
  have few : n + 1 ≤ 3 := by
    have notFull : ¬ (c.record temperature).publishAfter ≤ (c.record temperature).unpublished := by
      intro full
      rw [HatchConfig.publishReason, if_pos full] at quiet
      exact Option.some_ne_none _ quiet
    rw [same] at notFull
    have limit : (4 : UInt32).toNat = 4 := by decide
    have below := UInt32.lt_iff_toNat_lt.mp (UInt32.not_le.mp notFull)
    rw [counted, watches.publishAfter, limit] at below
    omega
  rw [same]
  exact { watches with unpublished := counted, few }

end Watches

/-! ## A cycle -/

/-- The cloud and the log have one reading more, and the cloud has got it from the log. -/
def Grew (s s' : Scene WalkSensor) (r : Reading) : Prop :=
  ∃ sent, s'.published = s.published ++ sent.map (Cycle.publication deviceName hatch) ∧
    sent ++ s'.holdings.log = s.holdings.log ++ [r]

/-- What a cycle leaves. -/
structure Measured (start : UInt32) (s : Scene WalkSensor) (r : Reading) (s' : Scene WalkSensor) :
    Prop where
  equipped : Equipped start s'
  phase : s'.holdings.phase = s.holdings.phase
  time : s'.time = s.time
  sleeps : s'.sleeps = s.sleeps
  decisions : s'.sensor.decisions = s.sensor.decisions + 4
  config : ∃ c, s'.holdings.config = some c ∧ Watches start s'.holdings.log.length c
  taken : r.time = s.time
  grew : Grew s s' r
  emptied : hatchEnd start ≤ s.time → s'.holdings.log = []

/-- What follows a cycle, if no reset was requested and the cloud was reached. -/
lemma outcome_eq {n : Nat} {c : HatchConfig} (watches : Watches start n c) (now : UInt32)
    {published : Option PublishOutcome} (undisturbed : published = none ∨
      published = some .published) : Cycle.outcome c now published
    = if hatchEnd start ≤ now then .hatchEnded else .sleep 900 := by
  have ended : c.ended now = decide (hatchEnd start ≤ now) := by
    rw [HatchConfig.ended, watches.endTime]
  unfold Cycle.outcome
  rw [ended, watches.interval]
  rcases undisturbed with rfl | rfl <;> simp

/-- A cycle takes a reading, and gives the hatch up when it is over. -/
lemma does_cycle_watching (draws : Draws) (timely : Timely start) (equipped : Equipped start s)
    {c : HatchConfig} (config : s.holdings.config = some c)
    (watches : Watches start s.holdings.log.length c) :
    ∃ r s', Does (rules draws) (Cycle.run device).run s
        (.ok (if hatchEnd start ≤ s.time then .hatchEnded else .sleep 900)) s' ∧
      Measured start s r s' := by
  obtain ⟨sensor, climate, sensed, decided⟩ : ∃ sensor climate,
      (rules draws).read s.sensor = (sensor, .ok climate) ∧
        sensor.decisions = s.sensor.decisions + 4 := ⟨_, _, rfl, rfl⟩
  have storable : HatchConfig.Storable c.uuid := watches.uuid ▸ storable_hatch
  have pumps : device.timing.shadow.pumps ≠ 0 := by decide
  generalize taken : Cycle.readingOf c climate s.time = r
  have time : r.time = s.time := by
    rw [← taken]
    rfl
  by_cases quiet : (c.record r.temperature).publishReason r.time = none
  · have counts := watches.record quiet
    have lasts : ¬ hatchEnd start ≤ s.time := by
      have notEnded := Lifecycle.not_ended_of_publishReason quiet
      rw [HatchConfig.ended, counts.endTime, time] at notEnded
      exact of_decide_eq_false notEnded
    have cycle : Does (rules draws) (Cycle.run device).run s _ _ :=
      does_cycle config storable sensed taken.symm (does_deliver_buffered quiet)
    rw [outcome_eq counts s.time (Or.inl rfl)] at cycle
    refine ⟨r, _, cycle, ?_⟩
    exact {
      equipped := { equipped with }
      phase := rfl
      time := rfl
      sleeps := rfl
      decisions := decided
      config := ⟨_, rfl, by rwa [List.length_append, List.length_singleton]⟩
      taken := time
      grew := ⟨[], (List.append_nil _).symm, rfl⟩
      emptied := fun past => absurd past lasts }
  · have fresh := Watches.refreshed start (c.record r.temperature)
    have supplied : Equipped start { s with sensor } := { equipped with }
    have cycle : Does (rules draws) (Cycle.run device).run s _ _ :=
      does_cycle config storable sensed taken.symm (does_deliver_published (rules_plain draws) pumps
        (supplied.supplies timely _) quiet)
    rw [outcome_eq fresh s.time (Or.inr rfl)] at cycle
    refine ⟨r, _, cycle, ?_⟩
    exact {
      equipped := { equipped.offline with }
      phase := rfl
      time := rfl
      sleeps := rfl
      decisions := decided
      config := ⟨_, rfl, fresh⟩
      taken := time
      grew := ⟨s.holdings.log ++ [r], rfl, List.append_nil _⟩
      emptied := fun _ => rfl }

/-! ## The account of the readings -/

/-- When the readings are taken. -/
def times (start : UInt32) (n : Nat) : List Nat :=
  (List.range n).map fun i => start.toNat + 1 + 900 * i

lemma times_succ (start : UInt32) (n : Nat) :
    times start (n + 1) = times start n ++ [start.toNat + 1 + 900 * n] := by
  rw [times, List.range_succ, List.map_append]
  rfl

/-- A number of readings has been taken, and each of them is either in the cloud or in the log. -/
structure Account (start : UInt32) (n : Nat) (s : Scene WalkSensor) : Prop where
  decisions : s.sensor.decisions = 4 * n
  readings : ∃ published : List Reading,
    s.published = published.map (Cycle.publication deviceName hatch) ∧
      (published ++ s.holdings.log).map (·.time.toNat) = times start n

/-- A cycle adds its reading to the account. -/
lemma Account.extend {n : Nat} {r : Reading} (account : Account start n s)
    (measured : Measured start s r s') (due : s.time.toNat = start.toNat + 1 + 900 * n) :
    Account start (n + 1) s' := by
  obtain ⟨published, kept, listed⟩ := account.readings
  obtain ⟨sent, added, split⟩ := measured.grew
  have decisions : s'.sensor.decisions = 4 * (n + 1) := by
    rw [measured.decisions, account.decisions]
    omega
  have now : r.time.toNat = start.toNat + 1 + 900 * n := by rw [measured.taken, due]
  refine ⟨decisions, published ++ sent, ?_, ?_⟩
  · rw [added, kept, List.map_append]
  · calc ((published ++ sent) ++ s'.holdings.log).map (·.time.toNat)
        = ((published ++ s.holdings.log) ++ [r]).map (·.time.toNat) := by
          rw [List.append_assoc, split, List.append_assoc]
      _ = times start n ++ [r.time.toNat] := by
          rw [List.map_append, listed]
          rfl
      _ = times start (n + 1) := by rw [now, times_succ]

/-! ## The course of the simulation -/

/-- What the device finds when the simulation starts. -/
def firstScene (start : UInt32) : Scene WalkSensor where
  holdings := ⟨none, none, none, []⟩
  bits := .none
  time := start
  joined := false
  online := false
  asked := false
  document := document (hatchEnd start)
  published := []
  transport := BenchTransport.start.queue clientWrite
  sensor := WalkSensor.start
  sleeps := []

lemma shows_firstScene (start : UInt32) :
    (Simulation.start start).bench.Shows (firstScene start) where
  pending := rfl
  sampleDue := rfl
  readable := rfl
  writable := rfl
  holds := ⟨rfl, rfl, rfl, rfl, rfl⟩
  bits := rfl
  time := rfl
  reachable := rfl
  audible := rfl
  joined := rfl
  cloud := ⟨rfl, rfl, rfl, Nat.le_refl 1, rfl, rfl, rfl, rfl⟩
  transport := rfl
  sensor := rfl
  sleeps := rfl

/-- Where the device is after a number of boots. -/
inductive Standing (start : UInt32) : Nat → Scene WalkSensor → Prop
  /-- Nobody has provisioned it. -/
  | unused : Standing start 0 (firstScene start)
  /-- It has never heard of a hatch. -/
  | fresh {s : Scene WalkSensor} (equipped : Equipped start s)
      (phase : s.holdings.phase = some .configuring) (config : s.holdings.config = none)
      (log : s.holdings.log = []) (time : s.time.toNat = start.toNat + 1) : Standing start 1 s
  /-- It watches the hatch. -/
  | watching {s : Scene WalkSensor} {n : Nat} (early : n < 2016) (equipped : Equipped start s)
      (phase : s.holdings.phase = some .measuring)
      (config : ∃ c, s.holdings.config = some c ∧ Watches start s.holdings.log.length c)
      (time : s.time.toNat = start.toNat + 1 + 900 * (n + 1)) : Standing start (n + 2) s
  /-- The hatch is over. -/
  | past {s : Scene WalkSensor} {n : Nat} (equipped : Equipped start s)
      (phase : s.holdings.phase = some .configuring)
      (config : ∃ c, s.holdings.config = some c ∧ HatchConfig.Storable c.uuid)
      (log : s.holdings.log = []) (ended : hatchEnd start ≤ s.time) : Standing start (n + 2018) s

/-- How many readings are taken in a number of boots. -/
def readingsIn (boots : Nat) : Nat := min (boots - 1) 2017

lemma readingsIn_watching {n : Nat} (early : n < 2016) : readingsIn (n + 2) = n + 1 := by
  unfold readingsIn
  omega

lemma readingsIn_past (n : Nat) : readingsIn (n + 2018) = 2017 := by
  unfold readingsIn
  omega

/-- How the simulation stands after a number of boots. -/
structure Course (start : UInt32) (boots : Nat) (s : Scene WalkSensor) : Prop where
  standing : Standing start boots s
  account : Account start (readingsIn boots) s
  sleeps : s.sleeps.length = boots

/-- The client of the simulation provisions the device. -/
lemma gives_clientWrite (session : Session) (h : Holdings) :
    Gives (session.write clientWrite) h (⟨none, true, none⟩, session)
      { h with credentials := some network } := by
  have bare : ClientMessage.ofPayload? clientWrite = none := by decide +kernel
  have found : Credentials.ofPayload clientWrite = .ok network := by decide +kernel
  exact Credentials.gives_write session h bare found (by decide) (by decide) (by decide)

/-! ## Steps -/

/-- The step of a boot in which the hatch is watched and is not over. -/
lemma does_step_watching (draws : Draws) (timely : Timely start) (equipped : Equipped start s)
    (phase : s.holdings.phase = some .measuring)
    (config : ∃ c, s.holdings.config = some c ∧ Watches start s.holdings.log.length c)
    (lasts : ¬ hatchEnd start ≤ s.time) :
    ∃ r s', Does (rules draws) (Lifecycle.step device).run s (.ok 900) s' ∧
      Measured start s r s' := by
  obtain ⟨c, stored, watches⟩ := config
  obtain ⟨r, s', cycle, measured⟩ := does_cycle_watching draws timely equipped stored watches
  rw [if_neg lasts] at cycle
  have load := Phase.gives_load phase (by decide)
  exact ⟨r, s', does_step equipped.calm load (does_measure_sleep cycle), measured⟩

/-- The step in which the hatch is over. -/
lemma does_step_last (draws : Draws) (timely : Timely start) (equipped : Equipped start s)
    (phase : s.holdings.phase = some .measuring)
    (config : ∃ c, s.holdings.config = some c ∧ Watches start s.holdings.log.length c)
    (ended : hatchEnd start ≤ s.time) :
    ∃ r s', Does (rules draws) (Lifecycle.step device).run s (.ok 0)
        { s' with holdings := { s'.holdings with phase := some .configuring } } ∧
      Measured start s r s' := by
  obtain ⟨c, stored, watches⟩ := config
  obtain ⟨r, s', cycle, measured⟩ := does_cycle_watching draws timely equipped stored watches
  rw [if_pos ended] at cycle
  have load := Phase.gives_load phase (by decide)
  exact ⟨r, s', does_step equipped.calm load (does_measure_ended cycle), measured⟩

/-- The cloud has nothing but the hatch that is over. -/
lemma does_step_over (draws : Draws) (timely : Timely start) (equipped : Equipped start s)
    (phase : s.holdings.phase = some .configuring)
    (config : ∃ c, s.holdings.config = some c ∧ HatchConfig.Storable c.uuid)
    (ended : hatchEnd start ≤ s.time) :
    Does (rules draws) (Lifecycle.step device).run s (.ok 900) s.offline := by
  obtain ⟨c, stored, storable⟩ := config
  have load := HatchConfig.gives_load stored storable
  refine does_step equipped.calm (Phase.gives_load phase (by decide)) ?_
  exact does_configure_over (rules_plain draws) (by decide) load (equipped.supplies timely c)
    (decide_eq_true ended)

/-- The device hears of its hatch. -/
lemma does_step_fresh (draws : Draws) (timely : Timely start) (equipped : Equipped start s)
    (phase : s.holdings.phase = some .configuring) (config : s.holdings.config = none)
    (lasts : ¬ hatchEnd start ≤ s.time) :
    Does (rules draws) (Lifecycle.step device).run s (.ok 0)
      ({ s with holdings := { s.holdings with
          config := some ((wish (hatchEnd start)).merge .default).resetCounters
          phase := some .measuring } }).offline := by
  have load := HatchConfig.gives_load_none config
  refine does_step equipped.calm (Phase.gives_load phase (by decide)) ?_
  exact does_configure_watching (rules_plain draws) (by decide) load
    (equipped.supplies timely .default) (decide_eq_false lasts)

/-! ## Boots -/

/-- A boot puts the device to sleep and leaves a scene. -/
def Boots (draws : Draws) (s : Scene WalkSensor) (seconds : UInt32) (s' : Scene WalkSensor) :
    Prop :=
  Does (rules draws) (Lifecycle.boot device rounds) s (.asleep seconds) s'

/-- At the first boot the device is provisioned. -/
lemma boots_unused (draws : Draws) (timely : Timely start) :
    ∃ s', Boots draws (firstScene start) 1 s' ∧ Course start 1 s' := by
  have calm : (firstScene start).Calm := Or.inl rfl
  have gives : Gives ((Session.start device.fallbackName).write clientWrite)
      ⟨some .provisioning, none, none, []⟩ (⟨none, true, none⟩, Session.start deviceName)
      ⟨some .provisioning, some network, none, []⟩ := gives_clientWrite (Session.start deviceName) _
  have queued : (firstScene start).transport.queued = [clientWrite] := rfl
  obtain ⟨transport, provisioned⟩ : ∃ transport, Does (rules draws)
      (Lifecycle.provision device).run
      { firstScene start with holdings := ⟨some .provisioning, none, none, []⟩ }
      (.ok Lifecycle.handOff)
      { firstScene start with
        holdings := ⟨some .configuring, some network, none, []⟩, transport } :=
    does_provision (h := ⟨some .provisioning, some network, none, []⟩) calm rfl queued gives
      rfl rfl rfl
  have step := does_step calm (Phase.gives_load_none rfl) provisioned
  have time : (later start 1).toNat = start.toNat + 1 := by
    have room := timely.room
    unfold UInt32.size at room
    have one : (1 : UInt32).toNat = 1 := by decide
    rw [toNat_later, one]
    omega
  refine ⟨_, does_boot_sleep 14 step (by decide) calm, ?_, ?_, rfl⟩
  · exact .fresh ⟨rfl, calm, rfl, le_later start 1⟩ rfl rfl rfl time
  · exact ⟨rfl, [], rfl, rfl⟩

/-- A boot that ends after a reading leads on. -/
lemma course_watching {n : Nat} {r : Reading} (timely : Timely start) (early : n < 2016)
    (measured : Measured start s r s') (account : Account start n s)
    (due : s.time.toNat = start.toNat + 1 + 900 * n)
    (phase : s.holdings.phase = some .measuring) (slept : s.sleeps.length = n + 1) :
    Course start (n + 2) (s'.slept 900) := by
  have time : (later s'.time 900).toNat = start.toNat + 1 + 900 * (n + 1) := by
    have room := timely.room
    unfold UInt32.size at room
    have seconds : (900 : UInt32).toNat = 900 := by decide
    rw [toNat_later, measured.time, due, seconds]
    omega
  have extended := account.extend measured due
  refine ⟨.watching early (measured.equipped.slept 900) (measured.phase.trans phase)
    measured.config time, ?_, ?_⟩
  · rw [readingsIn_watching early]
    exact { extended with }
  · have longer : (s'.slept 900).sleeps.length = s'.sleeps.length + 1 := List.length_append
    rw [longer, measured.sleeps, slept]

/-- At the second boot the device hears of its hatch and takes the first reading. -/
lemma boots_fresh (draws : Draws) (timely : Timely start) (equipped : Equipped start s)
    (phase : s.holdings.phase = some .configuring) (config : s.holdings.config = none)
    (log : s.holdings.log = []) (time : s.time.toNat = start.toNat + 1)
    (account : Account start 0 s) (slept : s.sleeps.length = 1) :
    ∃ s', Boots draws s 900 s' ∧ Course start 2 s' := by
  have lasts : ¬ hatchEnd start ≤ s.time := by
    rw [timely.hatchEnd_le_iff (n := 0) time]
    decide
  have first := does_step_fresh draws timely equipped phase config lasts
  have watches : Watches start s.holdings.log.length
      ((wish (hatchEnd start)).merge .default).resetCounters := by
    rw [log]
    exact .refreshed start .default
  obtain ⟨r, s', second, measured⟩ := does_step_watching draws timely
    (s := ({ s with holdings := { s.holdings with
      config := some ((wish (hatchEnd start)).merge .default).resetCounters
      phase := some .measuring } }).offline)
    { equipped.offline with } rfl ⟨_, rfl, watches⟩ lasts
  refine ⟨_, does_boot_again first (does_boot_sleep 13 second (by decide) measured.equipped.calm),
    ?_⟩
  exact course_watching timely (by decide) measured { account with } time rfl slept

/-- While the hatch is watched a boot takes one reading. -/
lemma boots_watching {n : Nat} (draws : Draws) (timely : Timely start) (early : n + 1 < 2016)
    (equipped : Equipped start s) (phase : s.holdings.phase = some .measuring)
    (config : ∃ c, s.holdings.config = some c ∧ Watches start s.holdings.log.length c)
    (time : s.time.toNat = start.toNat + 1 + 900 * (n + 1)) (account : Account start (n + 1) s)
    (slept : s.sleeps.length = n + 2) :
    ∃ s', Boots draws s 900 s' ∧ Course start (n + 3) s' := by
  have lasts : ¬ hatchEnd start ≤ s.time := by
    rw [timely.hatchEnd_le_iff time]
    omega
  obtain ⟨r, s', step, measured⟩ :=
    does_step_watching draws timely equipped phase config lasts
  refine ⟨_, does_boot_sleep 14 step (by decide) measured.equipped.calm, ?_⟩
  exact course_watching timely early measured account time phase slept

/-- A boot that finds nothing but the hatch that is over leads on. -/
lemma course_over {n : Nat} (equipped : Equipped start s)
    (phase : s.holdings.phase = some .configuring)
    (config : ∃ c, s.holdings.config = some c ∧ HatchConfig.Storable c.uuid)
    (log : s.holdings.log = []) (ended : hatchEnd start ≤ s.time) (account : Account start 2017 s)
    (slept : s.sleeps.length = n + 2017) : Course start (n + 2018) (s.offline.slept 900) := by
  refine ⟨.past (equipped.offline.slept 900) phase config log
    (UInt32.le_trans ended (le_later _ _)), ?_, ?_⟩
  · rw [readingsIn_past]
    exact { account with }
  · have longer : (s.offline.slept 900).sleeps.length = s.sleeps.length + 1 := List.length_append
    rw [longer, slept]

/-- At the boot after the end of the hatch the last reading is taken and published. -/
lemma boots_last (draws : Draws) (timely : Timely start) (equipped : Equipped start s)
    (phase : s.holdings.phase = some .measuring)
    (config : ∃ c, s.holdings.config = some c ∧ Watches start s.holdings.log.length c)
    (time : s.time.toNat = start.toNat + 1 + 900 * 2016) (account : Account start 2016 s)
    (slept : s.sleeps.length = 2017) :
    ∃ s', Boots draws s 900 s' ∧ Course start 2018 s' := by
  have ended : hatchEnd start ≤ s.time := (timely.hatchEnd_le_iff time).mpr (Nat.le_refl 2016)
  obtain ⟨r, s', first, measured⟩ := does_step_last draws timely equipped phase config ended
  obtain ⟨c, stored, watches⟩ := measured.config
  have past : hatchEnd start ≤ s'.time := measured.time ▸ ended
  have kept : ∃ c, s'.holdings.config = some c ∧ HatchConfig.Storable c.uuid :=
    ⟨c, stored, watches.uuid ▸ storable_hatch⟩
  have equipped' : Equipped start
      { s' with holdings := { s'.holdings with phase := some .configuring } } :=
    { measured.equipped with }
  have second := does_step_over draws timely equipped' rfl kept past
  have rest := does_boot_sleep 13 second (by decide) equipped'.offline.calm
  refine ⟨_, does_boot_again first rest, ?_⟩
  exact course_over (n := 0) equipped' rfl kept (measured.emptied ended) past
    { account.extend measured time with } (measured.sleeps ▸ slept)

/-- Every boot leads on. -/
lemma Course.boots {n : Nat} (course : Course start n s) (draws : Draws) (timely : Timely start) :
    ∃ seconds s', Boots draws s seconds s' ∧ Course start (n + 1) s' := by
  obtain ⟨standing, account, slept⟩ := course
  cases standing with
  | unused => exact ⟨1, boots_unused draws timely⟩
  | fresh equipped phase config log time =>
    exact ⟨900, boots_fresh draws timely equipped phase config log time account slept⟩
  | @watching _ n early equipped phase config time =>
    rw [readingsIn_watching early] at account
    by_cases last : n + 1 < 2016
    · exact ⟨900, boots_watching draws timely last equipped phase config time account slept⟩
    · obtain rfl : n = 2015 := by omega
      exact ⟨900, boots_last draws timely equipped phase config time account slept⟩
  | @past _ n equipped phase config log ended =>
    rw [readingsIn_past] at account
    have step := does_step_over draws timely equipped phase config ended
    refine ⟨900, _, does_boot_sleep 14 step (by decide) equipped.offline.calm, ?_⟩
    exact course_over (n := n + 1) equipped phase config log ended account (by omega)

/-! ## The whole simulation -/

/-- The phase after a number of boots. -/
def phaseAfter (boots : Nat) : Phase :=
  if 2 ≤ boots ∧ boots ≤ 2017 then .measuring else .configuring

lemma phaseAfter_ne_unknown (boots : Nat) : phaseAfter boots ≠ .unknown := by
  unfold phaseAfter
  split <;> decide

namespace Course

variable {n : Nat}

lemma phase (course : Course start n s) (booted : n ≠ 0) :
    s.holdings.phase = some (phaseAfter n) := by
  cases course.standing with
  | unused => exact absurd rfl booted
  | fresh _ phase => exact phase
  | @watching _ n early _ phase =>
    have here : phaseAfter (n + 2) = .measuring := if_pos ⟨by omega, by omega⟩
    rw [here, phase]
  | @past _ n _ phase =>
    have here : phaseAfter (n + 2018) = .configuring := if_neg (by omega)
    rw [here, phase]

/-- There are three readings in the log at most, and none after the hatch. -/
lemma length_log_le (course : Course start n s) :
    s.holdings.log.length ≤ 3 ∧ (readingsIn n = 2017 → s.holdings.log = []) := by
  cases course.standing with
  | unused => exact ⟨Nat.zero_le 3, fun _ => rfl⟩
  | fresh _ _ _ log =>
    rw [log]
    exact ⟨Nat.zero_le 3, fun _ => rfl⟩
  | watching early _ _ config =>
    obtain ⟨c, -, watches⟩ := config
    refine ⟨watches.few, fun all => ?_⟩
    rw [readingsIn_watching early] at all
    omega
  | past _ _ _ log =>
    rw [log]
    exact ⟨Nat.zero_le 3, fun _ => rfl⟩

end Course

/-- The line about a boot changes nothing. -/
lemma shows_report {sim : Simulation} {p : Phase} (number : Nat) (shows : sim.bench.Shows s)
    (phase : s.holdings.phase = some p) (chosen : p ≠ .unknown) :
    (sim.report number).1.bench.Shows s := by
  obtain ⟨-, first⟩ := shows.runBlobs (Phase.gives_load phase chosen)
  obtain ⟨-, second⟩ := first.runBlobs (ReadingLog.gives_total s.holdings)
  exact second

/-- A boot of the simulation and the line about it. -/
lemma step_eq {sim : Simulation} {seconds : UInt32} {p : Phase} (number : Nat)
    (boots : Boots draws s seconds s') (shows : sim.bench.Shows s)
    (phase : s'.holdings.phase = some p) (chosen : p ≠ .unknown) :
    ∃ sim' line, sim.step draws number = .ok (sim', line) ∧ sim'.bench.Shows s' := by
  obtain ⟨value, left⟩ := boots sim.bench shows
  rcases ran : TimedBench.run (rules draws) (Lifecycle.boot device rounds) sim.bench with ⟨v, bench⟩
  rw [ran] at value left
  obtain rfl : v = .asleep seconds := value
  have booted : sim.boot draws = .ok { sim with bench } := by
    rw [Simulation.boot, ran]
  have stepped : sim.step draws number = .ok (report number { sim with bench }) := by
    rw [Simulation.step, booted]
    rfl
  have shows' : ({ sim with bench } : Simulation).bench.Shows s' := left
  exact ⟨_, _, stepped, shows_report number shows' phase chosen⟩

/-- A number of boots leads on. -/
lemma course_of_boots (draws : Draws) (timely : Timely start) (count : Nat) :
    ∀ {number n : Nat} {sim : Simulation} {s : Scene WalkSensor}, Course start n s →
      sim.bench.Shows s → ∃ lines sim' s', boots draws number count sim = (lines, .ok sim') ∧
        lines.length = count ∧ sim'.bench.Shows s' ∧ Course start (n + count) s' := by
  induction count with
  | zero => exact fun course shows => ⟨[], _, _, rfl, rfl, shows, course⟩
  | succ count ih =>
    intro number n sim s course shows
    obtain ⟨seconds, s', booted, next⟩ := course.boots draws timely
    obtain ⟨sim', line, stepped, shows'⟩ := step_eq number booted shows
      (next.phase (Nat.succ_ne_zero n)) (phaseAfter_ne_unknown (n + 1))
    obtain ⟨lines, last, s'', rest, length, shows'', later⟩ := ih next shows'
    rw [Nat.add_right_comm] at later
    refine ⟨line :: lines, last, s'', ?_, congrArg Nat.succ length, shows'', later⟩
    rw [boots, stepped]
    dsimp only
    rw [rest]

/-- The times that messages name are those of their readings. -/
lemma map_time?_append (published buffered : List Reading) :
    (published.map (Cycle.publication deviceName hatch)).map (fun m => Message.time? m.payload)
        ++ (buffered.map (·.time.toNat)).map some
      = ((published ++ buffered).map (·.time.toNat)).map some := by
  have named : (published.map (Cycle.publication deviceName hatch)).map
      (fun m => Message.time? m.payload) = (published.map (·.time.toNat)).map some := by
    rw [List.map_map, List.map_map]
    refine List.map_congr_left fun r _ => ?_
    have sent : (Cycle.publication deviceName hatch r).payload = Cycle.payload deviceName hatch r :=
      rfl
    rw [Function.comp_apply, Function.comp_apply, sent, Message.time?_payload]
  rw [named, List.map_append, List.map_append]

/-- What has become of the readings of a simulation after a number of boots. -/
structure Delivered (start : UInt32) (boots : Nat) (sim : Simulation) : Prop where
  /-- Every boot has ended in sleep. -/
  slept : sim.bench.world.power.sleeps.length = boots
  /-- The sensor makes four decisions for a reading. -/
  taken : sim.bench.world.sensor.decisions = 4 * readingsIn boots
  /-- What the cloud has got and what the device would read from its log are all readings in the
  order in which they were taken, as the times say that the messages name. -/
  readings : ∃ published buffered : List Reading,
    sim.bench.world.cloud.published = published.map (Cycle.publication deviceName hatch) ∧
      (sim.bench.world.runBlobs ReadingLog.readAll.run).2 = .ok buffered ∧
      (published ++ buffered).map (·.time.toNat) = times start (readingsIn boots) ∧
      sim.bench.world.cloud.published.map (fun m => Message.time? m.payload)
          ++ (buffered.map (·.time.toNat)).map some
        = (times start (readingsIn boots)).map some ∧
      buffered.length ≤ 3 ∧ (readingsIn boots = 2017 → buffered = [])
  /-- The phase in which the device will wake up. -/
  phase : boots ≠ 0 → (sim.bench.world.runBlobs Phase.load).2 = phaseAfter boots

/-- Whatever the draws are, no boot of the simulation fails, and every reading is delivered to the
cloud once or waits for it in the log. -/
theorem every_reading_is_delivered_once (draws : Draws) {start : UInt32} (boots : Nat)
    (valid : 1451606400 ≤ start.toNat) (room : start.toNat + 1816000 < UInt32.size) :
    ∃ lines sim, Simulation.boots draws 1 boots (Simulation.start start) = (lines, .ok sim) ∧
      lines.length = boots ∧ Delivered start boots sim := by
  have timely : Timely start := ⟨valid, room⟩
  have unused : Course start 0 (firstScene start) := ⟨.unused, ⟨rfl, [], rfl, rfl⟩, rfl⟩
  obtain ⟨lines, sim, s, ran, length, shows, course⟩ :=
    course_of_boots draws timely boots unused (shows_firstScene start)
  rw [Nat.zero_add] at course
  obtain ⟨published, kept, listed⟩ := course.account.readings
  obtain ⟨few, emptied⟩ := course.length_log_le
  refine ⟨lines, sim, ran, length, ?_, ?_, ?_, ?_⟩
  · rw [shows.sleeps, course.sleeps]
  · rw [shows.sensor, course.account.decisions]
  · have read := (shows.runBlobs (ReadingLog.gives_readAll s.holdings)).1
    have sent := shows.cloud.published.trans kept
    refine ⟨published, s.holdings.log, sent, read, listed, ?_, few, emptied⟩
    rw [sent, map_time?_append, listed]
  · intro booted
    have load := Phase.gives_load (course.phase booted) (phaseAfter_ne_unknown boots)
    exact (shows.runBlobs load).1

/-- At the boot after the end of its hatch a device that was switched on in November 2023 has
published all its readings. -/
theorem whole_hatch_is_delivered :
    1451606400 ≤ (1700000000 : UInt32).toNat ∧ (1700000000 : UInt32).toNat + 1816000 < UInt32.size ∧
      ∃ lines sim, boots (Chance.draws 7) 1 2018 (Simulation.start 1700000000) = (lines, .ok sim) ∧
        lines.length = 2018 ∧ Delivered 1700000000 2018 sim :=
  ⟨by decide, by decide,
    every_reading_is_delivered_once (Chance.draws 7) 2018 (by decide) (by decide)⟩

end Simulation

end HatchSensor
