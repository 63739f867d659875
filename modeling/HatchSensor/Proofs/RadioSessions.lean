import HatchSensor.Proofs.HelpfulWorld
import HatchSensor.Proofs.LogKept
import HatchSensor.Proofs.RadioConduct

/-!
# Radio sessions

Whatever a step of the device joins, opens or lets in it also takes down, on whatever way it comes
to its end.  A session that is forgotten keeps the radio powered, or keeps the other user of the
radio out, and only on the one way on which it was forgotten.

`RadioUse.Bracketed` collects what this means for the dialogue of a step.  All of it follows from
the conduct of the step, but for the steps that make no call to the network or to the cloud at all.
-/

namespace HatchSensor

open Program

namespace RadioUse

/-! ## Steps that stay offline -/

section Offline

lemma offline_of_quiet {α : Type} {p : Program Surroundings α} (quiet : p.Only Quiet) :
    p.Only fun r => online r = false := by
  refine quiet.mono fun r allowed => ?_
  obtain ⟨still, silent⟩ := allowed
  cases r <;>
    first
      | rfl
      | exact absurd still Bool.false_ne_true
      | exact absurd silent.symm Bool.false_ne_true

/-- Provisioning makes no call to the network or to the cloud. -/
lemma offline_provision (device : DeviceSettings) :
    (Lifecycle.provision device).run.Only fun r => online r = false := by
  refine (Lifecycle.only_provision device).mono fun r allowed => ?_
  cases r <;> first | rfl | exact absurd allowed Bool.false_ne_true

variable {σ : Type} {B : Behaviour Surroundings σ} {device : DeviceSettings} {s t : σ}
  {d : Dialogue Surroundings} {y : Except DeviceError UInt32}

/-- A step looks at the register; then it is a factory reset, or it loads the phase and runs it. -/
lemma returns_step (h : Returns B (Lifecycle.step device).run s d y t) :
    ∃ (bits : SignalBits) (u : σ) (rest : Dialogue Surroundings),
      d = ⟨DeviceRequest.signals, bits⟩ :: rest ∧
      (bits.contains .resetRequested = true ∧
          Returns B Lifecycle.factoryReset.run u rest y t ∨
        bits.contains .resetRequested = false ∧
          ∃ loaded phase v e, rest = loaded ++ e ∧ Returns B (onBlobs Phase.load) u loaded phase v ∧
            (phase = .provisioning → Returns B (Lifecycle.provision device).run v e y t) ∧
            (phase = .measuring → Returns B (Lifecycle.measure device).run v e y t)) := by
  unfold Lifecycle.step at h
  rw [DeviceProgram.run_ask_bind] at h
  obtain ⟨bits, u, rest, rfl, -, h₁⟩ := returns_request_bind.mp h
  refine ⟨bits, u, rest, rfl, ?_⟩
  split at h₁
  · next requested => exact Or.inl ⟨requested, h₁⟩
  · next unrequested =>
    rw [DeviceProgram.run_ask_bind] at h₁
    obtain ⟨loaded, phase, v, e, rfl, load, h₂⟩ := returns_bind.mp h₁
    refine Or.inr ⟨Bool.eq_false_iff.mpr unrequested, loaded, phase, v, e, rfl, load, ?_, ?_⟩
    · rintro rfl
      exact h₂
    · rintro rfl
      exact h₂

/-- What a cycle does with a reading that is no reason to publish. -/
lemma quiet_deliver {config : HatchConfig} {current : Reading}
    (none : config.publishReason current.time = none) :
    (Cycle.deliver device config current).run.Only Quiet := by
  rw [Cycle.run_deliver, none]
  exact only_bind (quiet_buffer current) fun _ => .done _

lemma quiet_finish (now : UInt32)
    (delivered : Except DeviceError (Option PublishOutcome × HatchConfig)) :
    (Cycle.finish now delivered).Only Quiet := by
  cases delivered with
  | error e => exact .done _
  | ok result =>
    refine only_bind (quiet_onBlobs _) fun stored => ?_
    cases stored with
    | ok _ => exact .done _
    | error e => exact .done _

/-- After a reading that is no reason to publish, measuring makes no call to the network or to the
cloud. -/
lemma offline_measure {stored : Stored (Option Bytes)} {climate : Climate} {now : UInt32}
    {rest : Dialogue Surroundings}
    (h : Returns B (Lifecycle.measure device).run s
      (⟨DeviceRequest.blob (.read HatchConfig.blob), stored⟩ ::
        ⟨DeviceRequest.sense, .ok climate⟩ :: ⟨DeviceRequest.time, now⟩ :: rest) y t)
    (noReason : ((HatchConfig.ofRead stored).record
      ((HatchConfig.ofRead stored).corrected climate.temperature)).publishReason now = none) :
    ∀ e ∈ rest, online e.request = false := by
  unfold Lifecycle.measure at h
  rw [ExceptT.run_bind, Cycle.run_cycle, bind_assoc] at h
  obtain ⟨d₁, config, u₁, e₁, split, loaded, h₁⟩ := returns_bind.mp h
  obtain ⟨stored', rfl, -, rfl⟩ := Cycle.returns_load loaded
  obtain ⟨read, rfl⟩ := List.cons.inj split
  obtain rfl : stored = stored' := by
    cases read
    rfl
  rw [bind_assoc] at h₁
  obtain ⟨u₂, -, h₂⟩ := h₁.answered
  dsimp only at h₂
  rw [bind_assoc] at h₂
  obtain ⟨u₃, -, h₃⟩ := h₂.answered
  refine (h₃.only (offline_of_quiet ?_)).1
  refine only_bind (only_bind (quiet_deliver noReason) (quiet_finish now)) fun outcome => ?_
  cases outcome with
  | error e => exact .done _
  | ok outcome =>
    cases outcome with
    | sleep seconds => exact .done _
    | resetRequested => exact .done _
    | hatchEnded => exact only_store_bind (quiet_onBlobs _) fun _ => .done _

section Steps

variable {bits : SignalBits} {loaded rest : Dialogue Surroundings} {u v : σ}
  (h : Returns B (Lifecycle.step device).run s d y t)

include h

/-- The first exchange of a step tells whether it is a factory reset. -/
lemma offline_of_reset (here : d = ⟨DeviceRequest.signals, bits⟩ :: rest)
    (requested : bits.contains .resetRequested = true) : ∀ e ∈ d, online e.request = false := by
  obtain ⟨bits', u, rest', rfl, course⟩ := returns_step h
  obtain ⟨same, rfl⟩ := List.cons.inj here
  obtain rfl : bits' = bits := by
    cases same
    rfl
  rcases course with ⟨-, reset⟩ | ⟨unrequested, -⟩
  · exact List.forall_mem_cons.mpr ⟨rfl, (reset.only (offline_of_quiet quiet_factoryReset)).1⟩
  · exact absurd (requested.symm.trans unrequested) Bool.false_ne_true.symm

/-- A step that loads the phase after its first exchange runs this phase. -/
lemma returns_phase {phase : Phase} (here : d = ⟨DeviceRequest.signals, bits⟩ :: (loaded ++ rest))
    (load : Returns B (onBlobs Phase.load) u loaded phase v) :
    (∀ e ∈ d, online e.request = false) ∨
      (∀ e ∈ loaded, online e.request = false) ∧ ∃ v',
        (phase = .provisioning → Returns B (Lifecycle.provision device).run v' rest y t) ∧
        (phase = .measuring → Returns B (Lifecycle.measure device).run v' rest y t) := by
  obtain ⟨bits', u', rest', rfl, course⟩ := returns_step h
  rcases course with ⟨requested, -⟩ | ⟨-, loaded', phase', v', e, rfl, load', provision, measure⟩
  · exact Or.inl (offline_of_reset h rfl requested)
  · obtain ⟨-, same⟩ := List.cons.inj here
    obtain ⟨rfl, rfl⟩ := load'.unique load same
    obtain rfl := List.append_cancel_left same
    exact Or.inr ⟨(load.only (offline_of_quiet (quiet_onBlobs _))).1, v', provision, measure⟩

lemma offline_of_provisioning (here : d = ⟨DeviceRequest.signals, bits⟩ :: (loaded ++ rest))
    (load : Returns B (onBlobs Phase.load) u loaded .provisioning v) :
    ∀ e ∈ d, online e.request = false := by
  rcases returns_phase h here load with offline | ⟨before, v', provision, -⟩
  · exact offline
  · rw [here, List.forall_mem_cons, List.forall_mem_append]
    exact ⟨rfl, before, ((provision rfl).only (offline_provision device)).1⟩

lemma offline_of_measuring {stored : Stored (Option Bytes)} {climate : Climate} {now : UInt32}
    (here : d = ⟨DeviceRequest.signals, bits⟩ :: (loaded ++
      ⟨DeviceRequest.blob (.read HatchConfig.blob), stored⟩ ::
        ⟨DeviceRequest.sense, .ok climate⟩ :: ⟨DeviceRequest.time, now⟩ :: rest))
    (load : Returns B (onBlobs Phase.load) u loaded .measuring v)
    (noReason : ((HatchConfig.ofRead stored).record
      ((HatchConfig.ofRead stored).corrected climate.temperature)).publishReason now = none) :
    ∀ e ∈ d, online e.request = false := by
  rcases returns_phase h here load with offline | ⟨before, v', -, measure⟩
  · exact offline
  · rw [here, List.forall_mem_cons, List.forall_mem_append]
    exact ⟨rfl, before, List.forall_mem_cons.mpr ⟨rfl, List.forall_mem_cons.mpr ⟨rfl,
      List.forall_mem_cons.mpr ⟨rfl, offline_measure (measure rfl) noReason⟩⟩⟩⟩

end Steps

end Offline

/-! ## The theorem -/

/-- Exchanges that belong inside a session with the cloud: none opens or closes one, and the network
is not left. -/
def InSession (e : Exchange Surroundings) : Prop :=
  match (e.request : DeviceRequest) with
  | .connect _ _ | .disconnect | .leave => False
  | _ => True

/-- The exchanges in the dialogue of one step match. -/
structure Bracketed {σ : Type} (B : Behaviour Surroundings σ) (d : Dialogue Surroundings) :
    Prop where
  /-- The network is left after every attempt to join it. -/
  left : ∀ before credentials timeout x after,
    d = before ++ ⟨DeviceRequest.join credentials timeout, x⟩ :: after →
    ∃ y ∈ after, y.request = DeviceRequest.leave
  /-- A session with the cloud that was opened is closed before another one is tried and before the
  network is left, which it is, and it is closed only once. -/
  closed : ∀ before name timeout after,
    d = before ++ ⟨DeviceRequest.connect name timeout, .ok ()⟩ :: after →
    ∃ during rest, after = during ++ ⟨DeviceRequest.disconnect, ()⟩ :: rest ∧
      (∀ y ∈ during, InSession y) ∧ (∃ y ∈ rest, y.request = DeviceRequest.leave) ∧
      ∀ between y later, rest = between ++ y :: later →
        (∀ z ∈ between, ∀ name timeout, z.request ≠ DeviceRequest.connect name timeout) →
        y.request ≠ DeviceRequest.disconnect
  /-- The shadow is asked for, the session is pumped and readings are published only in a session
  with the cloud. -/
  inside : ∀ before e after, d = before ++ e :: after → talks e.request = true →
    ∃ earlier name timeout during,
      before = earlier ++ ⟨DeviceRequest.connect name timeout, .ok ()⟩ :: during ∧
      ∀ y ∈ during, InSession y
  /-- A session with the cloud is tried only when the device is ready for it. -/
  ready : ∀ before name timeout x after,
    d = before ++ ⟨DeviceRequest.connect name timeout, x⟩ :: after → Ready before
  /-- A provisioning transport that was opened is closed, once. -/
  served : ∀ before session after,
    d = before ++ ⟨DeviceRequest.openProvisioning session, .ok ()⟩ :: after →
    ∃ during x rest, after = during ++ ⟨DeviceRequest.closeProvisioning, x⟩ :: rest ∧
      (∀ y ∈ during, y.request ≠ DeviceRequest.closeProvisioning) ∧
      ∀ between y later, rest = between ++ y :: later →
        (∀ z ∈ between, ∀ session, z.request ≠ DeviceRequest.openProvisioning session) →
        y.request ≠ DeviceRequest.closeProvisioning
  /-- A factory reset makes no call to the network or to the cloud. -/
  reset : ∀ (bits : SignalBits) rest, d = ⟨DeviceRequest.signals, bits⟩ :: rest →
    bits.contains .resetRequested = true → ∀ e ∈ d, online e.request = false
  /-- Neither does the provisioning phase. -/
  provisioning : ∀ (bits : SignalBits) loaded rest u v,
    d = ⟨DeviceRequest.signals, bits⟩ :: (loaded ++ rest) →
    Returns B (onBlobs Phase.load) u loaded .provisioning v → ∀ e ∈ d, online e.request = false
  /-- Neither does the measuring phase when its reading is no reason to publish. -/
  measuring : ∀ (bits : SignalBits) loaded (stored : Stored (Option Bytes)) climate (now : UInt32)
      rest u v,
    d = ⟨DeviceRequest.signals, bits⟩ :: (loaded ++
      ⟨DeviceRequest.blob (.read HatchConfig.blob), stored⟩ ::
        ⟨DeviceRequest.sense, .ok climate⟩ :: ⟨DeviceRequest.time, now⟩ :: rest) →
    Returns B (onBlobs Phase.load) u loaded .measuring v →
    ((HatchConfig.ofRead stored).record
      ((HatchConfig.ofRead stored).corrected climate.temperature)).publishReason now = none →
    ∀ e ∈ d, online e.request = false

section Matching

variable {d : Dialogue Surroundings}

lemma eq_disconnect_of_closes {e : Exchange Surroundings} (h : cloud e = some false) :
    e = ⟨DeviceRequest.disconnect, ()⟩ := by
  obtain ⟨r, x⟩ := e
  cases r with
  | disconnect => rfl
  | connect name timeout =>
    cases x with
    | ok _ => exact absurd h (by simp [cloud])
    | error e => exact absurd h (by simp [cloud])
  | _ => exact absurd h (by simp [cloud])

lemma exists_of_opens {e : Exchange Surroundings} (h : cloud e = some true) :
    ∃ name timeout, e = ⟨DeviceRequest.connect name timeout, .ok ()⟩ := by
  obtain ⟨r, x⟩ := e
  cases r with
  | connect name timeout =>
    cases x with
    | ok _ => exact ⟨name, timeout, rfl⟩
    | error e => exact absurd h (by simp [cloud])
  | _ => exact absurd h (by simp [cloud])

/-- What is lawful in an open session belongs there, unless it closes the session. -/
lemma inSession_of_lawful {e : Exchange Surroundings} (opened : cloud.isOpen past = true)
    (lawful : Lawful past e) (other : cloud e ≠ some false) : InSession e := by
  obtain ⟨r, x⟩ := e
  cases r with
  | disconnect => exact absurd rfl other
  | leave => exact absurd (opened.symm.trans lawful) Bool.false_ne_true.symm
  | connect name timeout => exact absurd (opened.symm.trans lawful.1) Bool.false_ne_true.symm
  | _ => trivial

lemma leave_of_closes {e : Exchange Surroundings} (h : network e = some false) :
    e.request = DeviceRequest.leave := by
  obtain ⟨r, x⟩ := e
  cases r <;> first | rfl | exact absurd h (by simp [network])

lemma closeProvisioning_of_closes {e : Exchange Surroundings} (h : transport e = some false) :
    ∃ x, e = ⟨DeviceRequest.closeProvisioning, x⟩ := by
  obtain ⟨r, x⟩ := e
  cases r with
  | closeProvisioning => exact ⟨x, rfl⟩
  | openProvisioning session =>
    cases x with
    | ok _ => exact absurd h (by simp [transport])
    | error e => exact absurd h (by simp [transport])
  | _ => exact absurd h (by simp [transport])

lemma not_opens_transport {e : Exchange Surroundings}
    (h : ∀ session, e.request ≠ DeviceRequest.openProvisioning session) :
    transport e ≠ some true := by
  obtain ⟨r, x⟩ := e
  cases r with
  | openProvisioning session => exact absurd rfl (h session)
  | _ => simp [transport]

/-- A network that is joined after an exchange is left later if it is not joined in the end. -/
lemma exists_leave (ended : Standing false false false d) {before after : Dialogue Surroundings}
    {e : Exchange Surroundings} (here : d = before ++ e :: after)
    (joined : network.isOpen (before ++ [e]) = true) :
    ∃ y ∈ after, y.request = DeviceRequest.leave := by
  have closed : network.isOpen (before ++ [e] ++ after) = false := by
    rw [List.append_assoc, List.singleton_append, ← here]
    exact ended.network
  obtain ⟨during, c, rest, rfl, shuts, -⟩ := Bracket.exists_closes joined closed
  exact ⟨c, by simp, leave_of_closes shuts⟩

variable (lawful : ∀ before e after, d = before ++ e :: after → Lawful before e)

include lawful

/-- In a lawful dialogue nothing is closed that is not open. -/
lemma isOpen_of_disconnect {before after : Dialogue Surroundings} {e : Exchange Surroundings}
    (here : d = before ++ e :: after) (closes : cloud e = some false) :
    cloud.isOpen before = true := by
  obtain rfl := eq_disconnect_of_closes closes
  exact lawful before _ after here

lemma isOpen_of_closeProvisioning {before after : Dialogue Surroundings}
    {e : Exchange Surroundings} (here : d = before ++ e :: after)
    (closes : transport e = some false) : transport.isOpen before = true := by
  obtain ⟨x, rfl⟩ := closeProvisioning_of_closes closes
  exact lawful before _ after here

/-- A session that was opened is closed in time, and once. -/
lemma closed_of_lawful (ended : Standing false false false d)
    {before after : Dialogue Surroundings} {name : String} {timeout : Nat}
    (here : d = before ++ ⟨DeviceRequest.connect name timeout, .ok ()⟩ :: after) :
    ∃ during rest, after = during ++ ⟨DeviceRequest.disconnect, ()⟩ :: rest ∧
      (∀ y ∈ during, InSession y) ∧ (∃ y ∈ rest, y.request = DeviceRequest.leave) ∧
      ∀ between y later, rest = between ++ y :: later →
        (∀ z ∈ between, ∀ name timeout, z.request ≠ DeviceRequest.connect name timeout) →
        y.request ≠ DeviceRequest.disconnect := by
  obtain ⟨during, c, rest, rfl, shuts, kept, once⟩ :=
    Bracket.matched (fun before e after here => isOpen_of_disconnect lawful here) ended.cloud
      here rfl
  obtain rfl := eq_disconnect_of_closes shuts
  have inside : ∀ y ∈ during, InSession y := by
    intro y hy
    obtain ⟨first, second, rfl⟩ := List.append_of_mem hy
    obtain ⟨opened, other⟩ := kept first y second rfl
    refine inSession_of_lawful opened
      (lawful _ y (second ++ ⟨DeviceRequest.disconnect, ()⟩ :: rest) ?_) other
    rw [here]
    simp
  obtain ⟨-, joined, -⟩ := lawful before _ _ here
  have still : network.isOpen
      (before ++ [⟨DeviceRequest.connect name timeout, .ok ()⟩]) = true := by
    rw [Bracket.isOpen_concat]
    exact joined
  obtain ⟨y, hy, leaves⟩ := exists_leave ended here still
  refine ⟨during, rest, rfl, inside, ⟨y, ?_, leaves⟩, fun between z later split none => ?_⟩
  · rcases List.mem_append.mp hy with hy | hy
    · have outside := inside y hy
      rw [InSession, leaves] at outside
      exact outside.elim
    · rcases List.mem_cons.mp hy with rfl | hy
      · exact nomatch leaves
      · exact hy
  · intro again
    have closes : cloud z = some false := by
      obtain ⟨r, x⟩ := z
      obtain rfl : r = DeviceRequest.disconnect := again
      rfl
    refine once between z later split (fun w hw opens => ?_) closes
    obtain ⟨name', timeout', rfl⟩ := exists_of_opens opens
    exact none _ hw name' timeout' rfl

/-- What needs a session happens in one. -/
lemma inside_of_lawful {before after : Dialogue Surroundings} {e : Exchange Surroundings}
    (here : d = before ++ e :: after) (needs : talks e.request = true) :
    ∃ earlier name timeout during,
      before = earlier ++ ⟨DeviceRequest.connect name timeout, .ok ()⟩ :: during ∧
      ∀ y ∈ during, InSession y := by
  have opened : cloud.isOpen before = true := by
    have allowed := lawful before e after here
    obtain ⟨r, x⟩ := e
    cases r <;> first | exact allowed | exact absurd needs Bool.false_ne_true
  obtain ⟨earlier, o, during, rfl, opens, idle⟩ := Bracket.exists_opens opened
  obtain ⟨name, timeout, rfl⟩ := exists_of_opens opens
  refine ⟨earlier, name, timeout, during, rfl, fun y hy => ?_⟩
  obtain ⟨first, second, rfl⟩ := List.append_of_mem hy
  have there : d = (earlier ++ ⟨DeviceRequest.connect name timeout, .ok ()⟩ :: first) ++
      y :: (second ++ e :: after) := by
    rw [here]
    simp
  have still : cloud.isOpen
      (earlier ++ ⟨DeviceRequest.connect name timeout, .ok ()⟩ :: first) = true := by
    have same : cloud.isOpen (earlier ++ [⟨DeviceRequest.connect name timeout, .ok ()⟩] ++ first)
        = cloud.isOpen (earlier ++ [⟨DeviceRequest.connect name timeout, .ok ()⟩]) :=
      Bracket.isOpen_append_of_idle fun x hx => idle x (List.mem_append_left _ hx)
    rw [List.append_assoc, Bracket.isOpen_concat] at same
    exact same
  exact inSession_of_lawful still (lawful _ y _ there) (by rw [idle y hy]; exact nofun)

/-- A transport that was opened is closed, once. -/
lemma served_of_lawful (ended : Standing false false false d)
    {before after : Dialogue Surroundings} {session : Session}
    (here : d = before ++ ⟨DeviceRequest.openProvisioning session, .ok ()⟩ :: after) :
    ∃ during x rest, after = during ++ ⟨DeviceRequest.closeProvisioning, x⟩ :: rest ∧
      (∀ y ∈ during, y.request ≠ DeviceRequest.closeProvisioning) ∧
      ∀ between y later, rest = between ++ y :: later →
        (∀ z ∈ between, ∀ session, z.request ≠ DeviceRequest.openProvisioning session) →
        y.request ≠ DeviceRequest.closeProvisioning := by
  have closes : ∀ y : Exchange Surroundings, y.request = DeviceRequest.closeProvisioning →
      transport y = some false := by
    rintro ⟨r, x⟩ same
    obtain rfl : r = DeviceRequest.closeProvisioning := same
    rfl
  obtain ⟨during, c, rest, rfl, shuts, kept, once⟩ :=
    Bracket.matched (fun before e after here => isOpen_of_closeProvisioning lawful here)
      ended.transport here rfl
  obtain ⟨x, rfl⟩ := closeProvisioning_of_closes shuts
  refine ⟨during, x, rest, rfl, fun y hy same => ?_, fun between y later split none same => ?_⟩
  · obtain ⟨first, second, rfl⟩ := List.append_of_mem hy
    exact (kept first y second rfl).2 (closes y same)
  · exact once between y later split (fun z hz => not_opens_transport (none z hz)) (closes y same)

end Matching

/-- Whatever the surroundings answer, and however the step ends: every attempt to join the network
is followed by leaving it; every session with the cloud that was opened is closed once, before the
next one is tried and before the network is left; the shadow is asked for, the session pumped and
readings published only inside; a session is tried only after the stored credentials were loaded,
their network was joined, the link was seen while no reset was requested and the clock was found to
be set; every provisioning transport that was opened is closed; and a factory reset, the
provisioning phase and a reading that is no reason to publish leave the network and the cloud alone.
-/
theorem radio_sessions_match {σ : Type} {B : Behaviour Surroundings σ} {device : DeviceSettings}
    {s t : σ} {d : Dialogue Surroundings} {y : Except DeviceError UInt32}
    (h : Returns B (Lifecycle.step device).run s d y t) : Bracketed B d := by
  have closed : Standing false false false [] := ⟨rfl, rfl, rfl⟩
  obtain ⟨lawful, ended⟩ := (conducts_step closed).returned h
  refine
    { left := ?_
      closed := fun before name timeout after here => closed_of_lawful lawful ended here
      inside := fun before e after here => inside_of_lawful lawful here
      ready := fun before name timeout x after here => (lawful before _ after here).2.2
      served := fun before session after here => served_of_lawful lawful ended here
      reset := fun bits rest here requested => offline_of_reset h here requested
      provisioning := fun bits loaded rest u v here load => offline_of_provisioning h here load
      measuring := fun bits loaded stored climate now rest u v here load noReason =>
        offline_of_measuring h here load noReason }
  intro before c timeout x after here
  have joined : network.isOpen (before ++ [⟨DeviceRequest.join c timeout, x⟩]) = true := by
    rw [Bracket.isOpen_concat]
    rfl
  exact exists_leave ended here joined

/-- The step of a device that was provisioned and asks for a hatch, in helpful surroundings. -/
def askingStep : Dialogue Surroundings × Except DeviceError UInt32 × World :=
  converse helpful (Lifecycle.step ⟨"", .standard⟩).run (helpfulStep ⟨.empty, .none, none⟩)

/-- Such a step opens a session with the cloud. -/
theorem asking_step_matches :
    ∃ d y t, Returns (World.answers Lifecycle.obligingLicence) (Lifecycle.step ⟨"", .standard⟩).run
        (helpfulStep ⟨.empty, .none, none⟩) d y t ∧
      (d.any fun e => cloud e == some true) = true ∧
      Bracketed (World.answers Lifecycle.obligingLicence) d := by
  have opens : (askingStep.1.any fun e => cloud e == some true) = true := by decide +kernel
  have returned := returns_converse answers_helpful (Lifecycle.step ⟨"", .standard⟩).run
    (helpfulStep ⟨.empty, .none, none⟩)
  rw [← askingStep] at returned
  rcases ran : askingStep with ⟨d, y, t⟩
  rw [ran] at opens returned
  exact ⟨d, y, t, returned, opens, radio_sessions_match returned⟩

end RadioUse

end HatchSensor
