import HatchSensor.Proofs.PhaseTable

/-!
# The rows of the table

Configuring, measuring and provisioning each observe an event and store the phase that the table
names for it.  The store refuses nothing, so that no phase fails; what others do meanwhile is of no
account, because they have no access to the phase, and to the configuration only while a session is
open.
-/

namespace HatchSensor

open Program World

namespace Lifecycle

variable {L : Licence} {device : DeviceSettings} {w w' : World} {d : Dialogue Surroundings}

/-! ## Configuring -/

/-- Loading the configuration gives what the blob stands for. -/
lemma config_of_load (obliging : L.Obliging) (closed : w.session = none) {current : HatchConfig}
    (h : Returns (answers L) (onBlobs HatchConfig.load) w d current w') :
    (∃ stored, d = [⟨DeviceRequest.blob (.read HatchConfig.blob), stored⟩]) ∧ current = w.config ∧
      w'.blobs = w.blobs ∧ w'.session = none := by
  obtain ⟨performed, shut⟩ := perform_of_returns obliging h closed
  obtain ⟨value, blobs⟩ := Prod.mk.inj performed
  obtain ⟨stored, rfl, -, -⟩ := Cycle.returns_load h
  exact ⟨⟨stored, rfl⟩, value.symm, blobs.symm, shut⟩

/-- Configuring follows the table. -/
lemma follows_configure (obliging : L.Obliging) (closed : w.session = none)
    (stored : w.blobs.get? Phase.blob = some (Bytes.ofWord Phase.configuring.word))
    {y : Except DeviceError UInt32}
    (h : Returns (answers L) (configure device).run w d y w') :
    ∃ event seconds, y = .ok seconds ∧ Follows L device .configuring w d event seconds w' := by
  unfold configure at h
  simp only [DeviceProgram.run_ask_bind] at h
  obtain ⟨d₁, current, w₁, e₁, rfl, loaded, h₁⟩ := returns_bind.mp h
  obtain ⟨⟨content, rfl⟩, rfl, blobs₁, closed₁⟩ := config_of_load obliging closed loaded
  obtain ⟨d₂, outcome, w₂, e₂, rfl, asked, h₂⟩ := returns_bind.mp h₁
  obtain ⟨closed₂, same₂⟩ := closed_of_stays (f := .none) asked (stays_askForHatch _ _) rfl closed₁
  obtain ⟨consulted, rfl, cloud⟩ := consulted_of_askForHatch asked
  rw [blobs₁] at same₂
  -- if the cloud has named no hatch, the phase is over
  have unanswered : (∀ found, outcome ≠ some (.updated found)) → ∀ seconds,
      Returns (answers L) (.done (.ok seconds)) w₂ e₂ y w' →
        ∃ event seconds, y = .ok seconds ∧ Follows L device .configuring w
          ([⟨DeviceRequest.blob (.read HatchConfig.blob), content⟩] ++
            (consulted ++ [⟨DeviceRequest.leave, ()⟩] ++ e₂)) event seconds w' := by
    intro missed seconds halted
    obtain ⟨rfl, rfl, rfl⟩ := returns_done.mp halted
    refine ⟨.nothing, seconds, rfl, ?_, ?_, fun _ => same₂ _ List.not_mem_nil, fun _ => closed₂⟩
    · rw [List.append_nil]
      exact .unanswered cloud missed
    · exact (same₂ _ List.not_mem_nil).trans stored
  cases outcome with
  | none => exact unanswered (by simp) _ h₂
  | some outcome =>
    cases outcome with
    | resetRequested => exact unanswered (by simp) _ h₂
    | notReceived => exact unanswered (by simp) _ h₂
    | updated found =>
      simp only [DeviceProgram.run_ask_bind] at h₂
      obtain ⟨d₃, now, w₃, e₃, rfl, timed, h₃⟩ := returns_bind.mp h₂
      obtain ⟨closed₃, same₃⟩ :=
        closed_of_stays (f := .none) timed (only_request trivial) rfl closed₂
      obtain ⟨rfl, -⟩ := returns_request.mp timed
      have observed : Observed L device w.config .configuring
          ([⟨DeviceRequest.blob (.read HatchConfig.blob), content⟩] ++
            (consulted ++ [⟨DeviceRequest.leave, ()⟩] ++ ([⟨DeviceRequest.time, now⟩] ++ e₃)))
          (if now < found.endTime then .hatchFound found else .nothing) := by
        rw [List.append_assoc]
        exact .answered cloud
      by_cases elapsed : found.ended now = true
      · have late : ¬ now < found.endTime := UInt32.not_lt.mpr (of_decide_eq_true elapsed)
        rw [if_neg late] at observed
        rw [if_pos elapsed] at h₃
        obtain ⟨-, rfl, rfl⟩ := returns_done.mp h₃
        refine ⟨_, _, rfl, observed, ?_, fun _ => ?_, fun _ => closed₃⟩
        · rw [same₃ _ List.not_mem_nil, same₂ _ List.not_mem_nil, stored]
          rfl
        · rw [same₃ _ List.not_mem_nil, same₂ _ List.not_mem_nil]
          rfl
      · have early : now < found.endTime :=
          UInt32.not_le.mp fun le => elapsed (decide_eq_true le)
        rw [if_pos early] at observed
        rw [if_neg elapsed] at h₃
        simp only [DeviceProgram.run_store_bind] at h₃
        obtain ⟨d₄, y₄, w₄, e₄, rfl, saved, h₄⟩ := returns_bind.mp h₃
        obtain ⟨rfl, -, blobs₄, closed₄⟩ := put_of_returns obliging closed₃ saved
        obtain ⟨d₅, y₅, w₅, e₅, rfl, moved, h₅⟩ := returns_bind.mp h₄
        obtain ⟨rfl, -, blobs₅, closed₅⟩ := put_of_returns obliging closed₄ moved
        obtain ⟨-, rfl, rfl⟩ := returns_done.mp h₅
        refine ⟨_, _, rfl, observed, ?_, fun _ => ?_, fun _ => closed₅⟩
        · rw [blobs₅, BlobMap.get?_put_self]
          rfl
        · rw [blobs₅, BlobMap.get?_put_of_ne _ (by decide), blobs₄, BlobMap.get?_put_self]
          rfl

/-! ## Measuring -/

/-- A delivery changes no blob but the log. -/
lemma stays_deliver (config : HatchConfig) (current : Reading) :
    (Cycle.deliver device config current).run.Stays ⟨[ReadingLog.blob], false, true, false⟩ := by
  have buffers : ∀ {α : Type} (k : Unit → α),
      (Cycle.buffer current >>= fun x => .done (k x)).Stays
        ⟨[ReadingLog.blob], false, true, false⟩ := by
    intro α k
    exact only_bind ((Cycle.stays_buffer current).widen (fun _ h => h) id nofun id)
      fun _ => .done _
  rw [Cycle.run_deliver]
  cases config.publishReason current.time with
  | none => exact buffers _
  | some why =>
    refine only_bind (Cycle.stays_publish rfl device config current) fun result => ?_
    obtain ⟨outcome, force⟩ := result
    cases outcome with
    | failed => exact buffers _
    | offline => exact buffers _
    | resetRequested => exact buffers _
    | published =>
      refine only_bind (stays_onBlobs (Blob.changesOnly_remove (List.mem_singleton.mpr rfl))
        fun _ h => h) fun y => ?_
      cases y with
      | ok _ => exact .done _
      | error e => exact .done _

/-- A delivery does not fail. -/
lemma ok_of_deliver (obliging : L.Obliging) (closed : w.session = none) {config : HatchConfig}
    {current : Reading} {y : Except DeviceError (Option PublishOutcome × HatchConfig)}
    (h : Returns (answers L) (Cycle.deliver device config current).run w d y w') :
    ∃ result, y = .ok result := by
  have buffered : ∀ {result : Option PublishOutcome × HatchConfig} {u : World}
      {e : Dialogue Surroundings},
      Returns (answers L) (Cycle.buffer current >>= fun _ => .done (.ok result)) u e y w' →
        ∃ result, y = .ok result := by
    intro result u e buffering
    obtain ⟨d₁, _, w₁, d₂, -, -, halted⟩ := returns_bind.mp buffering
    exact ⟨result, (returns_done.mp halted).2.1⟩
  rw [Cycle.run_deliver] at h
  cases reason : config.publishReason current.time with
  | none =>
    simp only [reason] at h
    exact buffered h
  | some why =>
    simp only [reason] at h
    obtain ⟨d₁, result, w₁, d₂, rfl, first, second⟩ := returns_bind.mp h
    obtain ⟨closed₁, -⟩ := closed_of_stays (f := ⟨[], false, true, false⟩) first
      (Cycle.stays_publish rfl device config current) rfl closed
    obtain ⟨outcome, force⟩ := result
    cases outcome with
    | failed => exact buffered second
    | offline => exact buffered second
    | resetRequested => exact buffered second
    | published =>
      obtain ⟨d₃, y, w₂, d₄, -, cleared, halted⟩ := returns_bind.mp second
      obtain ⟨rfl, -⟩ := erase_of_returns obliging closed₁ cleared
      exact ⟨_, (returns_done.mp halted).2.1⟩

/-- The end of the hatch is a reason to publish. -/
lemma not_ended_of_publishReason {c : HatchConfig} {now : UInt32}
    (quiet : c.publishReason now = none) : c.ended now = false := by
  unfold HatchConfig.publishReason at quiet
  split_ifs at quiet with _ _ _ elapsed
  exact Bool.eq_false_iff.mpr elapsed

/-- The hatch is given up exactly if it is over and no reset was requested. -/
lemma outcome_eq_hatchEnded_iff {c : HatchConfig} {now : UInt32}
    {published : Option PublishOutcome} :
    Cycle.outcome c now published = .hatchEnded ↔
      published ≠ some .resetRequested ∧ c.endTime ≤ now := by
  have elapsed : c.ended now = true ↔ c.endTime ≤ now := decide_eq_true_iff
  rw [← elapsed]
  unfold Cycle.outcome
  split_ifs with reset ended offline
  · simp [reset]
  · simp [reset, ended]
  · simp [ended]
  · simp [ended]

/-- A cycle has observed what decides whether the hatch is over. -/
lemma observed_of_cycle (obliging : L.Obliging) (closed : w.session = none)
    {y : Except DeviceError CycleOutcome}
    (h : Returns (answers L) (Cycle.run device).run w d y w') :
    w'.session = none ∧ w'.blobs.get? Phase.blob = w.blobs.get? Phase.blob ∧
      ∃ outcome event, y = .ok outcome ∧
        (∀ rest, Observed L device w.config .measuring (d ++ rest) event) ∧
        event = if outcome = .hatchEnded then .hatchEnded else .nothing := by
  rw [Cycle.run_cycle] at h
  obtain ⟨d₁, current, w₁, e₁, rfl, loaded, h₁⟩ := returns_bind.mp h
  obtain ⟨⟨content, rfl⟩, rfl, blobs₁, closed₁⟩ := config_of_load obliging closed loaded
  obtain ⟨d₂, sensed, w₂, e₂, rfl, sense, h₂⟩ := returns_bind.mp h₁
  obtain ⟨closed₂, same₂⟩ := closed_of_stays (f := .none) sense (only_request trivial) rfl closed₁
  rw [blobs₁] at same₂
  obtain ⟨rfl, -⟩ := returns_request.mp sense
  cases sensed with
  | error reason =>
    obtain ⟨rfl, rfl, rfl⟩ := returns_done.mp h₂
    exact ⟨closed₂, same₂ _ List.not_mem_nil, _, _, rfl, fun rest => .unread, rfl⟩
  | ok climate =>
    obtain ⟨d₃, now, w₃, e₃, rfl, timed, h₃⟩ := returns_bind.mp h₂
    obtain ⟨closed₃, same₃⟩ :=
      closed_of_stays (f := .none) timed (only_request trivial) rfl closed₂
    obtain ⟨rfl, -⟩ := returns_request.mp timed
    obtain ⟨d₄, result, w₄, e₄, rfl, delivered, h₄⟩ := returns_bind.mp h₃
    obtain ⟨closed₄, same₄⟩ := closed_of_stays delivered (stays_deliver _ _) rfl closed₃
    obtain ⟨⟨published, force⟩, rfl⟩ := ok_of_deliver obliging closed₃ delivered
    obtain ⟨d₅, y₅, w₅, e₅, rfl, saved, h₅⟩ := returns_bind.mp h₄
    obtain ⟨rfl, -, blobs₅, closed₅⟩ := put_of_returns obliging closed₄ saved
    obtain ⟨rfl, rfl, rfl⟩ := returns_done.mp h₅
    refine ⟨closed₅, ?_, _, _, rfl, ?_, rfl⟩
    · rw [blobs₅, BlobMap.get?_put_of_ne _ (by decide), same₄ _ (by decide),
        same₃ _ List.not_mem_nil, same₂ _ List.not_mem_nil]
    · intro rest
      rcases consulted_of_deliver delivered with
        ⟨quiet, rfl, rfl⟩ | ⟨loud, consulted, after, outcome, rfl, asked, reset, ends⟩
      · have goesOn : Cycle.outcome _ now none ≠ .hatchEnded := fun elapsed => absurd
          (decide_eq_true (outcome_eq_hatchEnded_iff.mp elapsed).2)
          (Bool.eq_false_iff.mp (not_ended_of_publishReason quiet))
        rw [if_neg goesOn]
        exact .unpublished quiet
      · have decided : Cycle.outcome force now published = .hatchEnded ↔
            outcome ≠ some .resetRequested ∧
              ((w.config.record (Cycle.readingOf w.config climate now).temperature).refreshed
                outcome).endTime ≤ now := by
          rw [outcome_eq_hatchEnded_iff, Ne, reset]
          exact and_congr_right fun _ => (decide_eq_decide.mp (ends now))
        simp only [decided]
        have known : Observed L device w.config .measuring
            (⟨DeviceRequest.blob (.read HatchConfig.blob), content⟩ ::
              ⟨DeviceRequest.sense, .ok climate⟩ :: ⟨DeviceRequest.time, now⟩ ::
              (consulted ++ (after ++ (d₅ ++ rest)))) _ := .published rfl loud asked
        simpa using known

/-- Measuring follows the table. -/
lemma follows_measure (obliging : L.Obliging) (closed : w.session = none)
    (stored : w.blobs.get? Phase.blob = some (Bytes.ofWord Phase.measuring.word))
    {y : Except DeviceError UInt32} (h : Returns (answers L) (measure device).run w d y w') :
    ∃ event seconds, y = .ok seconds ∧ Follows L device .measuring w d event seconds w' := by
  unfold measure at h
  rw [ExceptT.run_bind] at h
  obtain ⟨d₁, y₁, w₁, d₂, rfl, cycle, h₁⟩ := returns_bind.mp h
  obtain ⟨closed₁, same₁, outcome, event, rfl, observed, decided⟩ :=
    observed_of_cycle obliging closed cycle
  rw [← same₁] at stored
  -- a hatch that is not over leaves the phase as it is
  have stays : outcome ≠ .hatchEnded → ∀ seconds,
      Returns (answers L) (.done (.ok seconds)) w₁ d₂ y w' →
        ∃ event seconds, y = .ok seconds ∧
          Follows L device .measuring w (d₁ ++ d₂) event seconds w' := by
    intro goesOn seconds halted
    obtain ⟨rfl, rfl, rfl⟩ := returns_done.mp halted
    rw [if_neg goesOn] at decided
    subst decided
    exact ⟨.nothing, seconds, rfl, observed [], stored, fun other => (nomatch other),
      fun _ => closed₁⟩
  cases outcome with
  | sleep seconds => exact stays (by simp) seconds h₁
  | resetRequested => exact stays (by simp) 0 h₁
  | hatchEnded =>
    subst decided
    simp only [DeviceProgram.run_store_bind] at h₁
    obtain ⟨d₃, y₃, w₃, d₄, rfl, moved, h₂⟩ := returns_bind.mp h₁
    obtain ⟨rfl, -, blobs, closed₃⟩ := put_of_returns obliging closed₁ moved
    obtain ⟨rfl, rfl, rfl⟩ := returns_done.mp h₂
    refine ⟨.hatchEnded, 0, rfl, observed _, ?_, fun other => (nomatch other), fun _ => closed₃⟩
    rw [blobs, BlobMap.get?_put_self]
    rfl

/-! ## Provisioning -/

/-- Once provisioning was closed, no session is open. -/
lemma closed_of_closeProvisioning {x : Attempt Unit}
    (h : answers L .closeProvisioning w x w') : w'.session = none := by
  obtain ⟨u, rfl, others⟩ := h
  exact (others.acts.of_closed rfl).2.1

/-- What provisioning does with the bits that its wait has seen. -/
def afterWait (bits : SignalBits) : DeviceProgram UInt32 :=
  if bits.contains .resetRequested then return 0
  else if !bits.contains .credentialsReady then return retryInterval
  else do
    match ← DeviceProgram.ask (onBlobs Credentials.load) with
    | none => return retryInterval
    | some _ =>
      DeviceProgram.ask (Surroundings.clear .credentialsReady)
      DeviceProgram.store .store (Phase.save .configuring)
      return handOff

/-- The device is provisioned exactly if the wait has seen credentials and no request for a reset,
and the credentials load. -/
lemma returns_afterWait (obliging : L.Obliging) (closed : w.session = none)
    (stored : w.blobs.get? Phase.blob = some (Bytes.ofWord Phase.provisioning.word))
    {bits : SignalBits} {y : Except DeviceError UInt32}
    (h : Returns (answers L) (afterWait bits).run w d y w') :
    ∃ event seconds, y = .ok seconds ∧ w'.session = none ∧
      w'.blobs.get? Phase.blob = some (Bytes.ofWord (Phase.provisioning.next event).word) ∧
      ((event = .nothing ∧
          ¬ (bits.contains .credentialsReady = true ∧ bits.contains .resetRequested = false)) ∨
        (bits.contains .credentialsReady = true ∧ bits.contains .resetRequested = false) ∧
          ∃ loaded found rest u v, d = loaded ++ rest ∧
            Returns (answers L) (onBlobs Credentials.load) u loaded found v ∧
            event = if found.isSome then .provisioned else .nothing) := by
  unfold afterWait at h
  split_ifs at h with reset unready
  · obtain ⟨-, rfl, rfl⟩ := returns_done.mp h
    exact ⟨.nothing, _, rfl, closed, stored, Or.inl ⟨rfl, fun both => by simp [reset] at both⟩⟩
  · obtain ⟨-, rfl, rfl⟩ := returns_done.mp h
    exact ⟨.nothing, _, rfl, closed, stored,
      Or.inl ⟨rfl, fun both => by simp [both.1] at unready⟩⟩
  · have seen : bits.contains .credentialsReady = true ∧ bits.contains .resetRequested = false :=
      ⟨by simpa using unready, by simpa using reset⟩
    simp only [DeviceProgram.run_ask_bind] at h
    obtain ⟨d₁, found, w₁, d₂, rfl, load, h₁⟩ := returns_bind.mp h
    obtain ⟨closed₁, same₁⟩ := closed_of_stays (f := .none) load
      (stays_reading Session.changesOnly_loadCredentials) rfl closed
    rw [← same₁ _ List.not_mem_nil] at stored
    cases found with
    | none =>
      obtain ⟨-, rfl, rfl⟩ := returns_done.mp h₁
      exact ⟨.nothing, _, rfl, closed₁, stored,
        Or.inr ⟨seen, d₁, none, d₂, w, _, rfl, load, rfl⟩⟩
    | some credentials =>
      simp only [DeviceProgram.run_ask_bind, DeviceProgram.run_store_bind] at h₁
      obtain ⟨d₃, _, w₂, d₄, rfl, cleared, h₂⟩ := returns_bind.mp h₁
      obtain ⟨closed₂, -⟩ :=
        closed_of_stays (f := .none) cleared (only_request trivial) rfl closed₁
      obtain ⟨d₅, y₅, w₃, d₆, rfl, moved, h₃⟩ := returns_bind.mp h₂
      obtain ⟨rfl, -, blobs, closed₃⟩ := put_of_returns obliging closed₂ moved
      obtain ⟨-, rfl, rfl⟩ := returns_done.mp h₃
      refine ⟨.provisioned, _, rfl, closed₃, ?_,
        Or.inr ⟨seen, d₁, some credentials, _, w, w₁, rfl, load, rfl⟩⟩
      rw [blobs, BlobMap.get?_put_self]
      rfl

/-- Provisioning follows the table. -/
lemma follows_provision (obliging : L.Obliging)
    (stored : w.blobs.get? Phase.blob = some (Bytes.ofWord Phase.provisioning.word))
    {y : Except DeviceError UInt32} (h : Returns (answers L) (provision device).run w d y w') :
    ∃ event seconds, y = .ok seconds ∧ Follows L device .provisioning w d event seconds w' := by
  have same : ∀ {α : Type} {p q : Program Surroundings α} {u u' : World}
      {e : Dialogue Surroundings}, Reaches (answers L) p u e q u' →
      p.Stays ⟨[], true, false, false⟩ →
      u'.blobs.get? Phase.blob = u.blobs.get? Phase.blob :=
    fun reaches stays => get?_of_stays reaches stays List.not_mem_nil Session.phase_notMem_blobs
  unfold provision at h
  simp only [DeviceProgram.run_ask_bind] at h
  obtain ⟨d₁, _, w₁, e₁, rfl, cleared, h₁⟩ := returns_bind.mp h
  rw [← same cleared (only_request trivial)] at stored
  obtain ⟨rfl, -⟩ := returns_request.mp cleared
  obtain ⟨d₂, opened, w₂, e₂, rfl, opening, h₂⟩ := returns_bind.mp h₁
  rw [← same opening (only_request rfl)] at stored
  obtain ⟨rfl, -⟩ := returns_request.mp opening
  cases opened with
  | error reason =>
    simp only [DeviceProgram.run_ask_bind] at h₂
    obtain ⟨d₃, _, w₃, e₃, rfl, reported, h₃⟩ := returns_bind.mp h₂
    rw [← same reported (only_request trivial)] at stored
    obtain ⟨rfl, -⟩ := returns_request.mp reported
    obtain ⟨rfl, rfl, rfl⟩ := returns_done.mp h₃
    exact ⟨.nothing, _, rfl, .unopened, stored, fun other => (nomatch other),
      fun goesOn => absurd goesOn (by decide)⟩
  | ok _ =>
    simp only [DeviceProgram.run_ask_bind] at h₂
    obtain ⟨d₃, bits, w₃, e₃, rfl, waited, h₃⟩ := returns_bind.mp h₂
    rw [← same waited (stays_awaitSignal _ _)] at stored
    obtain ⟨d₄, y₄, w₄, e₄, rfl, closing, h₄⟩ := returns_bind.mp h₃
    rw [← same closing (only_request trivial)] at stored
    have closed₄ := closed_of_closeProvisioning (returns_request.mp closing).2
    obtain ⟨d₅, _, w₅, e₅, rfl, timed, h₅⟩ := returns_bind.mp h₄
    obtain ⟨closed₅, same₅⟩ := closed_of_stays (f := .none) timed stays_setRequestedTime rfl closed₄
    rw [← same₅ _ List.not_mem_nil] at stored
    obtain ⟨event, seconds, rfl, closed, moved, seen⟩ :=
      returns_afterWait obliging closed₅ stored h₅
    refine ⟨event, seconds, rfl, ?_, moved, fun other => (nomatch other), fun _ => closed⟩
    obtain ⟨rfl, -⟩ := returns_request.mp closing
    rcases seen with ⟨rfl, missed⟩ | ⟨ready, loaded, found, rest, u, v, rfl, load, rfl⟩
    · show Observed L device w.config .provisioning (_ :: _ :: (d₃ ++ _ :: (d₅ ++ e₅))) .nothing
      exact .unprovisioned waited missed
    · show Observed L device w.config .provisioning
        (_ :: _ :: (d₃ ++ _ :: (d₅ ++ (loaded ++ rest)))) _
      exact .signalled waited ready timed load

end Lifecycle

end HatchSensor
