import HatchSensor.Proofs.FriendlyBench
import HatchSensor.Proofs.LogKept

/-!
# Phases on a friendly bench

On a friendly bench everything that a phase tries succeeds, so a phase is a function of the scene.
Going online ends in the network, the shadow exchange brings the document of the cloud at its first
step, a publication takes the whole log, and a boot ends with the first phase that asks for sleep.
-/

namespace HatchSensor

open Program

/-- Nobody has asked for anything, and no link is up. -/
def Scene.Calm {ρ : Type} (s : Scene ρ) : Prop := s.bits = .none ∨ s.bits = .linkDown

/-- The device has left the network. -/
def Scene.offline {ρ : Type} (s : Scene ρ) : Scene ρ :=
  { s with bits := .linkDown, joined := false, online := false, asked := false }

/-- The device can go online, and there the document of the cloud makes another configuration of its
own. -/
structure Scene.Supplies {ρ : Type} (s : Scene ρ) (current refreshed : HatchConfig) : Prop where
  provisioned : ∃ credentials, s.holdings.credentials = some credentials
  calm : s.Calm
  believed : isValidTime s.time = true
  usable : applyShadow (Bytes.encodeUtf8 s.document) current = .ok refreshed

/-- What the cloud keeps of a reading. -/
def Cycle.publication (name hatch : String) (r : Reading) : Publication :=
  ⟨topic, payload name hatch r⟩

namespace Lifecycle

/-- What the device does in a phase. -/
def work (device : DeviceSettings) : Phase → DeviceProgram UInt32
  | .unknown => do
    DeviceProgram.store .store (Phase.save .provisioning)
    return 0
  | .provisioning => provision device
  | .configuring => configure device
  | .measuring => measure device

/-- A step is a factory reset, or the work of the stored phase. -/
lemma run_step (device : DeviceSettings) :
    (step device).run = Surroundings.signals >>= fun bits =>
      if bits.contains .resetRequested then factoryReset.run
      else onBlobs Phase.load >>= fun phase => (work device phase).run := by
  unfold step
  rw [DeviceProgram.run_ask_bind]
  congr 1
  funext bits
  split
  · rfl
  · exact DeviceProgram.run_ask_bind _ _

end Lifecycle

namespace TimedBench

variable {ρ ε : Type} {rules : BenchRules ρ ε} {s s' s'' : Scene ρ} {device : DeviceSettings}

/-! ## The shadow exchange -/

section Exchange

variable {current config : HatchConfig}

/-- The document of the cloud can be used. -/
lemma does_collect (usable : applyShadow (Bytes.encodeUtf8 s.document) current = .ok config) :
    Does rules (ShadowExchange.collect current none [Bytes.encodeUtf8 s.document]) s (some config)
      { s with bits := s.bits.union .shadowReceived } := by
  rw [ShadowExchange.collect, usable]
  exact does_bind (does_raise rfl) (does_done (some config))

/-- The document arrives at once, and the wait is woken before the pause. -/
lemma does_pumpAll (plain : rules.Plain) (schedule : PumpSchedule) (id : UInt32) (deadline : Nat)
    (pumps : Nat) (usable : applyShadow (Bytes.encodeUtf8 s.document) current = .ok config)
    (online : s.online = true) (asked : s.asked = true) :
    Does rules (ShadowExchange.pumpAll schedule current id deadline (pumps + 1) none) s
      (.ok (some config)) { s with bits := s.bits.union .shadowReceived, asked := false } := by
  have raised : (s.bits.union .shadowReceived).intersects ShadowExchange.mask = true := by
    rw [SignalBits.intersects_comm, SignalBits.intersects_union, Bool.or_eq_true]
    exact Or.inr (by decide)
  refine does_bind (does_pump _ online asked) ?_
  refine does_bind (does_collect usable) ?_
  refine does_bind_any shows_instant fun now => ?_
  exact does_bind (does_park plain id deadline _ raised) (does_done _)

/-- The conversation ends with the configuration that the document makes. -/
lemma does_converse (plain : rules.Plain) {schedule : PumpSchedule} (pumps : schedule.pumps ≠ 0)
    (thing : String) (usable : applyShadow (Bytes.encodeUtf8 s.document) current = .ok config)
    (online : s.online = true) (bits : s.bits = .linkUp) :
    Does rules (ShadowExchange.converse schedule thing current) s (.ok (.updated config))
      { s with bits := s.bits.union .shadowReceived, asked := false } := by
  obtain ⟨left, enough⟩ := Nat.exists_eq_succ_of_ne_zero pumps
  have unseen : s.bits.intersects ShadowExchange.mask = false := by
    rw [bits]
    decide
  have calm : (s.bits.union .shadowReceived).contains .resetRequested = false := by
    rw [bits]
    decide
  refine does_bind (does_requestShadow thing online) ?_
  refine does_bind_any shows_openWait fun id => ?_
  refine does_bind_any shows_instant fun start => ?_
  refine does_bind (does_look_unseen id unseen) ?_
  rw [enough]
  refine does_bind (does_pumpAll plain schedule id _ left usable online rfl) ?_
  refine does_bind (does_closeWait id) ?_
  refine does_bind does_signals ?_
  rw [calm]
  exact does_done _

/-- The exchange brings the document of the cloud. -/
lemma does_fetch (plain : rules.Plain) {schedule : PumpSchedule} (pumps : schedule.pumps ≠ 0)
    (thing : String) (usable : applyShadow (Bytes.encodeUtf8 s.document) current = .ok config)
    (bits : s.bits = .linkUp) :
    Does rules (ShadowExchange.fetch schedule thing current) s (.ok (.updated config))
      { s with online := false, asked := false } := by
  have before : s.bits.without .shadowReceived = s.bits := by
    rw [bits]
    decide
  have after : (s.bits.union .shadowReceived).without .shadowReceived = s.bits := by
    rw [bits]
    decide
  refine does_bind (does_clear before) ?_
  refine does_bind (does_connect thing _) ?_
  refine does_bind (does_converse plain pumps thing usable rfl bits) ?_
  refine does_bind does_disconnect ?_
  exact does_bind (does_clear after) (does_done _)

end Exchange

/-! ## Going online -/

section Link

variable {current config : HatchConfig}

/-- A clock that can be believed is not set. -/
lemma does_syncTime (timing : DeviceTiming) (valid : isValidTime s.time = true) :
    Does rules (syncTime timing) s true s := by
  refine does_bind does_time ?_
  rw [if_pos valid]
  exact does_done true

/-- The network can be joined, and the clock is believed. -/
lemma does_bringUp (timing : DeviceTiming) (supplies : s.Supplies current config) :
    Does rules (bringUp timing) s .up { s with bits := .linkUp, joined := true } := by
  obtain ⟨credentials, stored⟩ := supplies.provisioned
  have cleared : s.bits.without (SignalBits.linkUp.union .linkDown) = .none := by
    rcases supplies.calm with bits | bits <;> rw [bits] <;> decide
  have load := Credentials.gives_load s.holdings
  rw [stored] at load
  have seen : SignalBits.linkUp.intersects (SignalRegister.waitMask .linkUp) = true := by decide
  have unrequested : ¬ SignalBits.linkUp.contains .resetRequested = true := by decide
  have there : ¬ (!SignalBits.linkUp.contains .linkUp) = true := by decide
  refine does_bind (does_onBlobs load) ?_
  refine does_bind (does_clear cleared) ?_
  refine does_bind (does_join credentials _ rfl) ?_
  refine does_bind (does_awaitSignal _ seen) ?_
  dsimp only
  rw [if_neg unrequested, if_neg there]
  exact does_bind (does_syncTime timing supplies.believed) (does_done LinkStatus.up)

/-- The shadow exchange of a device without an identity of its own. -/
lemma does_fetchShadow (plain : rules.Plain) (pumps : device.timing.shadow.pumps ≠ 0)
    (usable : applyShadow (Bytes.encodeUtf8 s.document) current = .ok config)
    (bits : s.bits = .linkUp) :
    Does rules (fetchShadow device current) s (some (.updated config))
      { s with online := false, asked := false } := by
  refine does_bind (does_onBlobs (gives_cloudName s.holdings device.fallbackName)) ?_
  exact does_bind (does_fetch plain pumps device.fallbackName usable bits) (does_done _)

/-- The hatch of the cloud is asked for, and the network is left. -/
lemma does_askForHatch (plain : rules.Plain) (pumps : device.timing.shadow.pumps ≠ 0)
    (supplies : s.Supplies current config) :
    Does rules (Lifecycle.askForHatch device current) s (some (.updated config)) s.offline := by
  refine does_bind (does_bringUp device.timing supplies) ?_
  refine does_bind (does_fetchShadow plain pumps supplies.usable rfl) ?_
  exact does_bind (does_leave rfl rfl) (does_done _)

end Link

/-! ## Publishing -/

section Publishing

variable {current config : HatchConfig}

/-- Readings are published in order. -/
lemma does_publishAll (name hatch : String) (readings : List Reading) (online : s.online = true) :
    Does rules (Cycle.publishAll name hatch readings) s .published
      { s with published := s.published ++ readings.map (Cycle.publication name hatch) } := by
  induction readings generalizing s with
  | nil =>
    rw [List.map_nil, List.append_nil]
    exact does_done _
  | cons r rest ih =>
    have later := ih (s := { s with
      published := s.published ++ [Cycle.publication name hatch r] }) online
    rw [List.append_assoc] at later
    exact does_bind (does_publish _ _ _ online) later

/-- The log is published with the current reading. -/
lemma does_publishLog (hatch : String) (r : Reading) :
    Does rules (Cycle.publishLog device hatch r) s .published
      { s with
        published := s.published ++
          (s.holdings.log ++ [r]).map (Cycle.publication device.fallbackName hatch)
        online := false, asked := false } := by
  refine does_bind (does_onBlobs (ReadingLog.gives_readAll s.holdings)) ?_
  refine does_bind (does_onBlobs (gives_cloudName s.holdings device.fallbackName)) ?_
  refine does_bind (does_connect device.fallbackName _) ?_
  refine does_bind (does_publishAll device.fallbackName hatch _ rfl) ?_
  exact does_bind does_disconnect (does_done _)

/-- The configuration is refreshed before the log is published. -/
lemma does_publishOnline (plain : rules.Plain) (pumps : device.timing.shadow.pumps ≠ 0)
    (supplies : s.Supplies current config) (r : Reading) :
    Does rules (Cycle.publishOnline device current r) s (.published, config)
      { s with
        bits := .linkUp, joined := true, online := false, asked := false
        published := s.published ++ (s.holdings.log ++ [r]).map
          (Cycle.publication device.fallbackName config.uuid) } := by
  refine does_bind (does_bringUp device.timing supplies) ?_
  refine does_bind (does_fetchShadow plain pumps supplies.usable rfl) ?_
  exact does_bind (does_publishLog config.uuid r) (does_done _)

/-- Publishing ends outside the network. -/
lemma does_publishCycle (plain : rules.Plain) (pumps : device.timing.shadow.pumps ≠ 0)
    (supplies : s.Supplies current config) (r : Reading) :
    Does rules (Cycle.publish device current r) s (.published, config)
      ({ s with
        published := s.published ++ (s.holdings.log ++ [r]).map
          (Cycle.publication device.fallbackName config.uuid) }).offline := by
  refine does_bind (does_publishOnline plain pumps supplies r) ?_
  exact does_bind (does_leave rfl rfl) (does_done _)

end Publishing

/-! ## Cycles -/

section Cycles

variable {c config : HatchConfig} {climate : Climate} {sensor : ρ} {r : Reading}

/-- A reading that is no reason to publish is added to the log. -/
lemma does_deliver_buffered (quiet : c.publishReason r.time = none) :
    Does rules (Cycle.deliver device c r).run s (.ok (none, c))
      { s with holdings := { s.holdings with log := s.holdings.log ++ [r] } } := by
  have buffered : Does rules (Cycle.buffer r) s ()
      { s with holdings := { s.holdings with log := s.holdings.log ++ [r] } } :=
    does_bind (does_onBlobs (ReadingLog.gives_append s.holdings r)) (does_done _)
  rw [Cycle.run_deliver, quiet]
  exact does_bind buffered (does_done _)

/-- Any other is published with the log, which is given up. -/
lemma does_deliver_published (plain : rules.Plain) (pumps : device.timing.shadow.pumps ≠ 0)
    (supplies : s.Supplies c config) (loud : c.publishReason r.time ≠ none) :
    Does rules (Cycle.deliver device c r).run s (.ok (some .published, config.resetCounters))
      ({ s with
        holdings := { s.holdings with log := [] }
        published := s.published ++ (s.holdings.log ++ [r]).map
          (Cycle.publication device.fallbackName config.uuid) }).offline := by
  obtain ⟨why, reason⟩ := Option.ne_none_iff_exists'.mp loud
  rw [Cycle.run_deliver, reason]
  refine does_bind (does_publishCycle plain pumps supplies r) ?_
  exact does_bind (does_onBlobs (ReadingLog.gives_clear s.holdings)) (does_done _)

/-- A reading is taken, counted and delivered, and the configuration is stored. -/
lemma does_cycle (stored : s.holdings.config = some c) (storable : HatchConfig.Storable c.uuid)
    (sensed : rules.read s.sensor = (sensor, .ok climate))
    (taken : r = Cycle.readingOf c climate s.time) {published : Option PublishOutcome}
    (delivered : Does rules (Cycle.deliver device (c.record r.temperature) r).run
      { s with sensor } (.ok (published, config)) s') :
    Does rules (Cycle.run device).run s (.ok (Cycle.outcome config s.time published))
      { s' with holdings := { s'.holdings with config := some config } } := by
  have load : Does rules (onBlobs HatchConfig.load) s c s :=
    does_onBlobs (HatchConfig.gives_load stored storable)
  have sense : Does rules Surroundings.sense s (.ok climate) { s with sensor } := by
    have read : Does rules Surroundings.sense s _ _ := does_sense
    rwa [sensed] at read
  subst taken
  rw [Cycle.run_cycle]
  refine does_bind load ?_
  refine does_bind sense ?_
  refine does_bind does_time ?_
  refine does_bind delivered ?_
  exact does_bind (does_onBlobs (HatchConfig.gives_save s'.holdings config)) (does_done _)

end Cycles

/-! ## Phases -/

section Phases

variable {c config : HatchConfig} {credentials : Credentials} {y : Except DeviceError UInt32}

/-- The client did not ask to set the clock. -/
lemma does_setRequestedTime (timeless : s.transport.takeRequestedTime.2 = none) :
    Does rules Lifecycle.setRequestedTime s ()
      { s with transport := s.transport.takeRequestedTime.1 } := by
  have taken : Does rules Surroundings.takeRequestedTime s _ _ := does_takeRequestedTime
  rw [timeless] at taken
  exact does_bind taken (does_done ())

/-- A client whose write was waiting has provisioned the device.  What the session leaves on the
transport does not matter. -/
lemma does_provision {payload : Bytes} {effect : WriteEffect} {session : Session} {h : Holdings}
    (calm : s.Calm) (welcome : s.transport.refusesOpening = false)
    (queued : s.transport.queued = [payload])
    (gives : Gives ((Session.start device.fallbackName).write payload) s.holdings
      (effect, session) h) (finished : effect.finished = true)
    (timeless : session.requestedTime = none) (stored : h.credentials = some credentials) :
    ∃ transport, Does rules (Lifecycle.provision device).run s (.ok Lifecycle.handOff)
      { s with holdings := { h with phase := some .configuring }, transport } := by
  have before : s.bits.without .credentialsReady = s.bits := by
    rcases calm with bits | bits <;> rw [bits] <;> decide
  have after : (s.bits.union .credentialsReady).without .credentialsReady = s.bits := by
    rcases calm with bits | bits <;> rw [bits] <;> decide
  have seen : (s.bits.union .credentialsReady).intersects
      (SignalRegister.waitMask .credentialsReady) = true := by
    rcases calm with bits | bits <;> rw [bits] <;> decide
  have unrequested : ¬ (s.bits.union .credentialsReady).contains .resetRequested = true := by
    rcases calm with bits | bits <;> rw [bits] <;> decide
  have ready : ¬ (!(s.bits.union .credentialsReady).contains .credentialsReady) = true := by
    rcases calm with bits | bits <;> rw [bits] <;> decide
  have load := Credentials.gives_load h
  rw [stored] at load
  refine ⟨(s.transport.opened session effect).close.1.takeRequestedTime.1, ?_⟩
  refine does_ask_bind (does_clear before) ?_
  refine does_ask_bind (does_openProvisioning welcome queued gives finished) ?_
  refine does_ask_bind (does_awaitSignal _ seen) ?_
  refine does_ask_bind does_closeProvisioning ?_
  refine does_ask_bind (does_setRequestedTime timeless) ?_
  dsimp only
  rw [if_neg unrequested, if_neg ready]
  refine does_ask_bind (does_onBlobs load) ?_
  refine does_ask_bind (does_clear after) ?_
  refine does_store_bind (Phase.gives_save h .configuring) ?_
  exact does_done _

/-- The hatch of the cloud is over. -/
lemma does_configure_over (plain : rules.Plain) (pumps : device.timing.shadow.pumps ≠ 0)
    (loads : Gives HatchConfig.load s.holdings c s.holdings) (supplies : s.Supplies c config)
    (past : config.ended s.time = true) :
    Does rules (Lifecycle.configure device).run s (.ok Cycle.fallbackInterval) s.offline := by
  refine does_ask_bind (does_onBlobs loads) ?_
  refine does_ask_bind (does_askForHatch plain pumps supplies) ?_
  refine does_ask_bind (does_time (s := s.offline)) ?_
  have past : config.ended s.offline.time = true := past
  rw [if_pos past]
  exact does_done _

/-- The device starts to watch the hatch of the cloud. -/
lemma does_configure_watching (plain : rules.Plain) (pumps : device.timing.shadow.pumps ≠ 0)
    (loads : Gives HatchConfig.load s.holdings c s.holdings) (supplies : s.Supplies c config)
    (lasts : config.ended s.time = false) :
    Does rules (Lifecycle.configure device).run s (.ok 0)
      ({ s with holdings := { s.holdings with
          config := some config.resetCounters, phase := some .measuring } }).offline := by
  refine does_ask_bind (does_onBlobs loads) ?_
  refine does_ask_bind (does_askForHatch plain pumps supplies) ?_
  refine does_ask_bind (does_time (s := s.offline)) ?_
  have lasts : ¬ config.ended s.offline.time = true := Bool.eq_false_iff.mp lasts
  rw [if_neg lasts]
  refine does_store_bind (HatchConfig.gives_save s.holdings config.resetCounters) ?_
  refine does_store_bind (Phase.gives_save _ .measuring) ?_
  exact does_done _

/-- A cycle that asks for sleep. -/
lemma does_measure_sleep {seconds : UInt32}
    (cycle : Does rules (Cycle.run device).run s (.ok (.sleep seconds)) s') :
    Does rules (Lifecycle.measure device).run s (.ok seconds) s' :=
  does_run_bind cycle (does_done _)

/-- The last cycle of a hatch. -/
lemma does_measure_ended (cycle : Does rules (Cycle.run device).run s (.ok .hatchEnded) s') :
    Does rules (Lifecycle.measure device).run s (.ok 0)
      { s' with holdings := { s'.holdings with phase := some .configuring } } := by
  refine does_run_bind cycle ?_
  exact does_store_bind (Phase.gives_save s'.holdings .configuring) (does_done _)

/-- Nobody has asked for a factory reset, so the stored phase is run. -/
lemma does_step {p : Phase} {h : Holdings} (calm : s.Calm) (loads : Gives Phase.load s.holdings p h)
    (work : Does rules (Lifecycle.work device p).run { s with holdings := h } y s') :
    Does rules (Lifecycle.step device).run s y s' := by
  have unrequested : ¬ s.bits.contains .resetRequested = true := by
    rcases calm with bits | bits <;> rw [bits] <;> decide
  rw [Lifecycle.run_step]
  refine does_bind does_signals ?_
  rw [if_neg unrequested]
  exact does_bind (does_onBlobs loads) work

end Phases

/-! ## Boots -/

section Boots

open Lifecycle

/-- A second takes a thousand milliseconds. -/
lemma sleepSeconds_of_seconds {seconds : UInt32} (positive : seconds ≠ 0) :
    Stage.sleepSeconds (seconds.toNat * 1000) = seconds := by
  have small := seconds.toNat_lt
  have one : 1 ≤ seconds.toNat := by
    refine Nat.one_le_iff_ne_zero.mpr fun zero => positive ?_
    exact UInt32.toNat_inj.mp zero
  have rounded : max (min ((seconds.toNat * 1000 + 999) / 1000) 0xffffffff) shortestSleep
      = seconds.toNat := by
    unfold shortestSleep
    omega
  rw [Stage.sleepSeconds, rounded, UInt32.ofNat_toNat]

/-- The device sleeps at once if the button is not held. -/
lemma does_settle {requested : UInt32} (positive : requested ≠ 0)
    (released : s.bits.contains .buttonPressed = false) :
    Does rules (Stage.settle requested (requested.toNat * 1000)) s (.asleep requested)
      (s.slept requested) := by
  refine does_bind does_signals ?_
  rw [released]
  have sleep : Does rules (Stage.fallAsleep (requested.toNat * 1000)) s (.asleep requested)
      (s.slept requested) := by
    rw [Stage.fallAsleep, sleepSeconds_of_seconds positive]
    exact does_bind (does_sleep requested) (does_done _)
  exact sleep

/-- A boot ends with the first phase that asks for sleep. -/
lemma does_boot_sleep {seconds : UInt32} (rounds : Nat)
    (step : Does rules (step device).run s (.ok seconds) s') (positive : seconds ≠ 0)
    (calm : s'.Calm) :
    Does rules (Lifecycle.boot device (rounds + 2)) s (.asleep seconds) (s'.slept seconds) := by
  have released : s'.bits.contains .buttonPressed = false := by
    rcases calm with bits | bits <;> rw [bits] <;> decide
  have settling : Stage.afterStep (.ok seconds)
      = .settling seconds (seconds.toNat * 1000) := if_neg positive
  refine does_bind (does_bind step (does_done _)) ?_
  rw [settling]
  refine does_bind (does_settle positive released) ?_
  rw [advanceMany_of_isOver rfl]
  exact does_done _

/-- A phase that asks for the next one is followed by it. -/
lemma does_boot_again {rounds : Nat} {stage : Stage}
    (step : Does rules (step device).run s (.ok 0) s')
    (rest : Does rules (Lifecycle.boot device rounds) s' stage s'') :
    Does rules (Lifecycle.boot device (rounds + 1)) s stage s'' :=
  does_bind (does_bind step (does_done _)) rest

end Boots

end TimedBench

end HatchSensor
