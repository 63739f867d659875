import HatchSensor.Proofs.Consulting
import HatchSensor.Proofs.Undisturbed

/-!
# The table of phases

`Phase.next` is the table: which phase follows which, on which event.  `Lifecycle.Observed` says
which event a phase has observed in its dialogue: a wait has returned certain bits, the link came
up, the shadow exchange brought a configuration, the sensor gave a reading.  What was said decides
the event: `Lifecycle.Observed.unique`.
-/

namespace HatchSensor

open Program World

/-! ## Events -/

/-- What a phase observes, as far as the table is concerned. -/
inductive PhaseEvent where
  /-- A client has provisioned the device. -/
  | provisioned
  /-- The cloud has a hatch for the device. -/
  | hatchFound (config : HatchConfig)
  /-- The hatch is over. -/
  | hatchEnded
  /-- Nothing that changes the phase. -/
  | nothing
deriving DecidableEq

/-- The table of phases. -/
def Phase.next : Phase → PhaseEvent → Phase
  | .provisioning, .provisioned => .configuring
  | .configuring, .hatchFound _ => .measuring
  | .measuring, .hatchEnded => .configuring
  | phase, _ => phase

/-- The content of the configuration's blob after an event of the configuring phase. -/
def PhaseEvent.stored : PhaseEvent → Option Bytes → Option Bytes
  | hatchFound config, _ => some config.resetCounters.encode
  | _, content => content

namespace World

/-- The phase that the device goes on with. -/
def phase (w : World) : Phase := Phase.resumed (w.blobs.get? Phase.blob)

/-- The configuration that the device goes on with. -/
def config (w : World) : HatchConfig := HatchConfig.ofBlob (w.blobs.get? HatchConfig.blob)

end World

/-! ## Observations -/

namespace Lifecycle

/-- What a phase has observed in its dialogue, `current` being the stored configuration. -/
inductive Observed (L : Licence) (device : DeviceSettings) (current : HatchConfig) :
    Phase → Dialogue Surroundings → PhaseEvent → Prop
  /-- Provisioning could not be opened. -/
  | unopened {session reason} :
      Observed L device current .provisioning
        [⟨DeviceRequest.clear .credentialsReady, ()⟩,
          ⟨DeviceRequest.openProvisioning session, .error reason⟩,
          ⟨DeviceRequest.report (.provisioningUnavailable reason), ()⟩] .nothing
  /-- The wait for a client has seen no credentials, or a request for a reset. -/
  | unprovisioned {session waited bits u v rest}
      (wait : Returns (answers L)
        (awaitSignal .credentialsReady device.timing.provisioningWindow) u waited bits v)
      (missed :
        ¬ (bits.contains .credentialsReady = true ∧ bits.contains .resetRequested = false)) :
      Observed L device current .provisioning
        (⟨DeviceRequest.clear .credentialsReady, ()⟩ ::
          ⟨DeviceRequest.openProvisioning session, .ok ()⟩ :: (waited ++ rest)) .nothing
  /-- The wait has seen credentials and no request for a reset; it depends on whether they load. -/
  | signalled {session waited bits u v shut timing u₁ v₁ loaded found u₂ v₂ rest}
      (wait : Returns (answers L)
        (awaitSignal .credentialsReady device.timing.provisioningWindow) u waited bits v)
      (ready : bits.contains .credentialsReady = true ∧ bits.contains .resetRequested = false)
      (set : Returns (answers L) setRequestedTime u₁ timing () v₁)
      (load : Returns (answers L) (onBlobs Credentials.load) u₂ loaded found v₂) :
      Observed L device current .provisioning
        (⟨DeviceRequest.clear .credentialsReady, ()⟩ ::
          ⟨DeviceRequest.openProvisioning session, .ok ()⟩ ::
          (waited ++ ⟨DeviceRequest.closeProvisioning, shut⟩ :: (timing ++ (loaded ++ rest))))
        (if found.isSome then .provisioned else .nothing)
  /-- The cloud has named no hatch. -/
  | unanswered {stored consulted outcome} (asked : Consulted L device current consulted outcome)
      (missed : ∀ found, outcome ≠ some (.updated found)) :
      Observed L device current .configuring
        (⟨DeviceRequest.blob (.read HatchConfig.blob), stored⟩ ::
          (consulted ++ [⟨DeviceRequest.leave, ()⟩])) .nothing
  /-- The cloud has named a hatch; it depends on whether it is over. -/
  | answered {stored consulted found now rest}
      (asked : Consulted L device current consulted (some (.updated found))) :
      Observed L device current .configuring
        (⟨DeviceRequest.blob (.read HatchConfig.blob), stored⟩ ::
          (consulted ++ ⟨DeviceRequest.leave, ()⟩ :: ⟨DeviceRequest.time, now⟩ :: rest))
        (if now < found.endTime then .hatchFound found else .nothing)
  /-- The sensor has failed. -/
  | unread {stored reason rest} :
      Observed L device current .measuring
        (⟨DeviceRequest.blob (.read HatchConfig.blob), stored⟩ ::
          ⟨DeviceRequest.sense, .error reason⟩ :: rest) .nothing
  /-- There was a reading and no reason to publish it, and in particular the hatch is not over. -/
  | unpublished {stored climate now rest}
      (quiet : (current.record (Cycle.readingOf current climate now).temperature).publishReason now
        = none) :
      Observed L device current .measuring
        (⟨DeviceRequest.blob (.read HatchConfig.blob), stored⟩ ::
          ⟨DeviceRequest.sense, .ok climate⟩ :: ⟨DeviceRequest.time, now⟩ :: rest) .nothing
  /-- There was a reading, and the cloud was asked before it was published; it depends on whether a
  reset was requested meanwhile and the hatch in force is over at the time of the reading. -/
  | published {stored climate now counted consulted outcome rest}
      (counts : counted = current.record (Cycle.readingOf current climate now).temperature)
      (loud : counted.publishReason now ≠ none)
      (asked : Consulted L device counted consulted outcome) :
      Observed L device current .measuring
        (⟨DeviceRequest.blob (.read HatchConfig.blob), stored⟩ ::
          ⟨DeviceRequest.sense, .ok climate⟩ :: ⟨DeviceRequest.time, now⟩ :: (consulted ++ rest))
        (if outcome ≠ some .resetRequested ∧ (counted.refreshed outcome).endTime ≤ now
          then .hatchEnded else .nothing)

/-! ### What was said decides the event -/

section Unique

variable {L : Licence} {device : DeviceSettings} {current : HatchConfig}
  {d d' : Dialogue Surroundings} {event event' : PhaseEvent}

/-- Where two dialogues are the same, they are the same behind their first two exchanges. -/
lemma eq_of_cons_cons {a b a' b' : Exchange Surroundings} (same : a :: b :: d = a' :: b' :: d') :
    d = d' :=
  (List.cons.inj (List.cons.inj same).2).2

/-- Where two dialogues begin with a reading and are the same, it is the same reading. -/
lemma eq_of_taken {stored stored' : Stored (Option Bytes)} {climate climate' : Climate}
    {now now' : UInt32}
    (same : (⟨DeviceRequest.blob (.read HatchConfig.blob), stored⟩ ::
      ⟨DeviceRequest.sense, .ok climate⟩ :: ⟨DeviceRequest.time, now⟩ :: d :
        Dialogue Surroundings) =
      ⟨DeviceRequest.blob (.read HatchConfig.blob), stored'⟩ ::
        ⟨DeviceRequest.sense, .ok climate'⟩ :: ⟨DeviceRequest.time, now'⟩ :: d') :
    climate = climate' ∧ now = now' ∧ d = d' := by
  cases same
  exact ⟨rfl, rfl, rfl⟩

/-- Whether a client has provisioned the device is decided by the wait, the register that it saw,
and the credentials that were loaded. -/
lemma Observed.unique_provisioning (h : Observed L device current .provisioning d event)
    (h' : Observed L device current .provisioning d' event') (same : d = d') : event = event' := by
  cases h with
  | unopened =>
    cases h' with
    | unopened => rfl
    | unprovisioned => nomatch same
    | signalled => nomatch same
  | unprovisioned wait missed =>
    cases h' with
    | unopened => nomatch same
    | unprovisioned => rfl
    | signalled wait' ready set load =>
      obtain ⟨-, rfl⟩ := wait.unique wait' (eq_of_cons_cons same)
      exact absurd ready missed
  | signalled wait ready set load =>
    cases h' with
    | unopened => nomatch same
    | unprovisioned wait' missed =>
      obtain ⟨-, rfl⟩ := wait.unique wait' (eq_of_cons_cons same)
      exact absurd ready missed
    | signalled wait' ready' set' load' =>
      obtain ⟨rfl, -⟩ := wait.unique wait' (eq_of_cons_cons same)
      have closed := (List.cons.inj (List.append_cancel_left (eq_of_cons_cons same))).2
      obtain ⟨rfl, -⟩ := set.unique set' closed
      obtain ⟨-, rfl⟩ := load.unique load' (List.append_cancel_left closed)
      rfl

/-- Whether a hatch was found is decided by what the cloud was asked, and by the clock. -/
lemma Observed.unique_configuring (h : Observed L device current .configuring d event)
    (h' : Observed L device current .configuring d' event') (same : d = d') : event = event' := by
  cases h with
  | unanswered asked missed =>
    cases h' with
    | unanswered => rfl
    | answered asked' =>
      obtain ⟨-, rfl⟩ := asked.unique asked' (List.cons.inj same).2
      exact absurd rfl (missed _)
  | answered asked =>
    cases h' with
    | unanswered asked' missed =>
      obtain ⟨-, rfl⟩ := asked.unique asked' (List.cons.inj same).2
      exact absurd rfl (missed _)
    | answered asked' =>
      obtain ⟨rfl, outcome⟩ := asked.unique asked' (List.cons.inj same).2
      cases outcome
      cases List.append_cancel_left (List.cons.inj same).2
      rfl

/-- Whether the hatch is over is decided by the reading, and by what the cloud was asked if it was
published. -/
lemma Observed.unique_measuring (h : Observed L device current .measuring d event)
    (h' : Observed L device current .measuring d' event') (same : d = d') : event = event' := by
  cases h with
  | unread =>
    cases h' with
    | unread => rfl
    | unpublished => nomatch same
    | published => nomatch same
  | unpublished quiet =>
    cases h' with
    | unread => nomatch same
    | unpublished => rfl
    | published counts loud asked =>
      obtain ⟨rfl, rfl, -⟩ := eq_of_taken same
      exact absurd (counts ▸ quiet) loud
  | published counts loud asked =>
    cases h' with
    | unread => nomatch same
    | unpublished quiet =>
      obtain ⟨rfl, rfl, -⟩ := eq_of_taken same
      exact absurd (counts ▸ quiet) loud
    | published counts' loud' asked' =>
      obtain ⟨rfl, rfl, rest⟩ := eq_of_taken same
      subst counts counts'
      obtain ⟨-, rfl⟩ := asked.unique asked' rest
      rfl

/-- What was said decides which event a phase has observed. -/
lemma Observed.unique {phase : Phase} (h : Observed L device current phase d event)
    (h' : Observed L device current phase d' event') (same : d = d') : event = event' := by
  cases phase with
  | unknown => cases h
  | provisioning => exact h.unique_provisioning h' same
  | configuring => exact h.unique_configuring h' same
  | measuring => exact h.unique_measuring h' same

end Unique

/-- In the world `w` the device goes on with `phase`; it has observed an event, and the table was
followed. -/
structure Follows (L : Licence) (device : DeviceSettings) (phase : Phase) (w : World)
    (d : Dialogue Surroundings) (event : PhaseEvent) (seconds : UInt32) (w' : World) : Prop where
  /-- The event was observed. -/
  observed : Observed L device w.config phase d event
  /-- The stored phase is the one that the table names. -/
  moved : w'.blobs.get? Phase.blob = some (Bytes.ofWord (phase.next event).word)
  /-- Configuring has stored the configuration it has found, with its counters at zero, and no
  other. -/
  configured : phase = .configuring →
    w'.blobs.get? HatchConfig.blob = event.stored (w.blobs.get? HatchConfig.blob)
  /-- A device that goes on at once has no session open. -/
  closed : seconds = 0 → w'.session = none

end Lifecycle

end HatchSensor
