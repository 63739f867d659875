import HatchSensor.Proofs.ConfigKept
import HatchSensor.Proofs.HelpfulWorld
import HatchSensor.Proofs.StoredCredentials

/-!
# No phase without what it needs

Configuring and measuring need credentials, and measuring needs a configuration.  Both are there
whenever the phase is stored, because the phase is stored last and given up first, and because no
session is open beyond provisioning: a client can spoil the credentials only while the device waits
for better ones.
-/

namespace HatchSensor

open Program World

variable {L : Licence} {device : DeviceSettings} {w w' : World} {d : Dialogue Surroundings}

namespace World

/-- What the stored phase needs is there, and beyond provisioning nobody else can take it away. -/
structure Supplied (w : World) : Prop where
  closed : w.phase ≠ .provisioning → w.session = none
  credentials : w.phase ≠ .provisioning → (Credentials.stored w.blobs).isSome
  config : w.phase = .measuring → (w.blobs.get? HatchConfig.blob).isSome

/-- The blob of the phase determines the phase. -/
lemma phase_congr (h : w'.blobs.get? Phase.blob = w.blobs.get? Phase.blob) : w'.phase = w.phase :=
  congrArg Phase.resumed h

lemma Acts.phase_eq (h : Acts L w w') : w'.phase = w.phase :=
  phase_congr (h.get?_eq Session.phase_notMem_blobs)

namespace Supplied

/-- Provisioning needs nothing. -/
lemma of_provisioning (h : w.phase = .provisioning) : Supplied w := by
  refine ⟨fun other => absurd h other, fun other => absurd h other, fun other => ?_⟩
  exact nomatch h.symm.trans other

lemma congr (h : Supplied w) (blobs : w'.blobs = w.blobs) (session : w'.session = none) :
    Supplied w' := by
  have phase : w'.phase = w.phase := phase_congr (by rw [blobs])
  refine ⟨fun _ => session, ?_, ?_⟩
  · rw [phase, blobs]
    exact h.credentials
  · rw [phase, blobs]
    exact h.config

lemma acts (h : Supplied w) (done : Acts L w w') : Supplied w' := by
  by_cases early : w.phase = .provisioning
  · exact of_provisioning (done.phase_eq.trans early)
  · obtain ⟨blobs, session, -⟩ := done.of_closed (h.closed early)
    exact h.congr blobs session

/-- A program that opens no session and changes at most the log takes nothing away. -/
lemma of_stays (h : Supplied w) {α : Type} {f : Footprint} {p q : Program Surroundings α}
    (reached : Reaches (answers L) p w d q w') (stays : p.Stays f) (opens : f.opens = false)
    (log : ∀ name ∈ f.names, name = ReadingLog.blob) : Supplied w' ∧ w'.phase = w.phase := by
  have other : ∀ name, name ≠ ReadingLog.blob → name ∉ f.names :=
    fun name different hit => different (log name hit)
  have phase : w'.phase = w.phase := phase_congr
    (get?_of_stays reached stays (other _ (by decide)) Session.phase_notMem_blobs)
  refine ⟨?_, phase⟩
  by_cases early : w.phase = .provisioning
  · exact of_provisioning (phase.trans early)
  · obtain ⟨closed, same⟩ := closed_of_stays reached stays opens (h.closed early)
    have credentials : Credentials.stored w'.blobs = Credentials.stored w.blobs :=
      Credentials.stored_congr (same _ (other _ (by decide))) (same _ (other _ (by decide)))
    refine ⟨fun _ => closed, ?_, ?_⟩
    · rw [phase, credentials]
      exact h.credentials
    · rw [phase, same _ (other _ (by decide))]
      exact h.config

/-- A configuration is stored. -/
lemma putConfig (h : Supplied w) (content : Bytes) :
    Supplied { w with blobs := w.blobs.put HatchConfig.blob content } := by
  have phase : World.phase { w with blobs := w.blobs.put HatchConfig.blob content } = w.phase :=
    phase_congr (BlobMap.get?_put_of_ne _ (by decide) _)
  have credentials : Credentials.stored (w.blobs.put HatchConfig.blob content)
      = Credentials.stored w.blobs :=
    Credentials.stored_congr (BlobMap.get?_put_of_ne _ (by decide) _)
      (BlobMap.get?_put_of_ne _ (by decide) _)
  refine ⟨?_, ?_, fun _ => ?_⟩
  · rw [phase]
    exact h.closed
  · rw [phase, credentials]
    exact h.credentials
  · rw [BlobMap.get?_put_self]
    rfl

/-- A phase is stored once its needs are met. -/
lemma enter (p : Phase) (closed : w.session = none)
    (credentials : (Credentials.stored w.blobs).isSome)
    (config : p = .measuring → (w.blobs.get? HatchConfig.blob).isSome) :
    Supplied { w with blobs := w.blobs.put Phase.blob (Bytes.ofWord p.word) } := by
  have phase : World.phase { w with blobs := w.blobs.put Phase.blob (Bytes.ofWord p.word) }
      = Phase.resumed (some (Bytes.ofWord p.word)) :=
    congrArg Phase.resumed (BlobMap.get?_put_self _ _ _)
  have same : Credentials.stored (w.blobs.put Phase.blob (Bytes.ofWord p.word))
      = Credentials.stored w.blobs :=
    Credentials.stored_congr (BlobMap.get?_put_of_ne _ (by decide) _)
      (BlobMap.get?_put_of_ne _ (by decide) _)
  refine ⟨fun _ => closed, fun _ => ?_, fun measures => ?_⟩
  · rw [same]
    exact credentials
  · rw [BlobMap.get?_put_of_ne _ (by decide)]
    refine config ?_
    rw [phase] at measures
    revert measures
    cases p <;> decide

end Supplied

/-- The device is in the given phase and has what it needs. -/
def In (p : Phase) (w : World) : Prop := Supplied w ∧ w.phase = p

end World

/-! ## Storing a phase -/

/-- Storing "provisioning" gives up every need. -/
lemma provisioning_of_save (writable : L.Writable) {y : Stored Unit}
    (h : Returns (answers L) (onBlobs (Phase.save .provisioning).run) w d y w') :
    y = .ok () ∧ w'.phase = .provisioning := by
  obtain ⟨ok, acts⟩ := acts_of_write writable h
  refine ⟨ok, acts.phase_eq.trans ?_⟩
  exact congrArg Phase.resumed (BlobMap.get?_put_self _ _ _)

lemma supplied_of_savePhase (writable : L.Writable) {p : Phase} {y : Stored Unit}
    (h : Returns (answers L) (onBlobs (Phase.save p).run) w d y w') (closed : w.session = none)
    (credentials : (Credentials.stored w.blobs).isSome)
    (config : p = .measuring → (w.blobs.get? HatchConfig.blob).isSome) :
    y = .ok () ∧ Supplied w' := by
  obtain ⟨ok, acts⟩ := acts_of_write writable h
  exact ⟨ok, (Supplied.enter p closed credentials config).acts acts⟩

/-- Whatever phase is loaded is stored then; and if it has needs, they are met. -/
lemma in_of_loadPhase (writable : L.Writable) {p : Phase}
    (h : Returns (answers L) (onBlobs Phase.load) w d p w') (before : Supplied w) : In p w' := by
  unfold Phase.load at h
  rw [onBlobs_bind] at h
  obtain ⟨d₁, found, w₁, d₂, -, reading, rest⟩ := returns_bind.mp h
  have stays : (onBlobs Phase.read.run).Stays .none :=
    stays_reading (only_run_bind Blob.changesOnly_read fun _ => .done _)
  obtain ⟨before₁, phase₁⟩ :=
    before.of_stays reading stays rfl fun _ hit => absurd hit List.not_mem_nil
  -- what was read names the phase only if it is stored
  have content : ∀ q, found = .ok (some q) → w.blobs.get? Phase.blob = some (Bytes.ofWord q.word) := by
    intro q same
    unfold Phase.read at reading
    rw [onBlobs_run_bind] at reading
    obtain ⟨y, w₂, d₄, -, answered, value⟩ := returns_request_bind.mp reading
    obtain ⟨blobs, read, -⟩ := exists_blobs_of_answers answered
    obtain ⟨-, rfl | ⟨-, e, rfl⟩⟩ := BlobMap.answers_read.mp read
    · obtain ⟨-, named, -⟩ := returns_done.mp value
      exact Phase.ofBlob_eq_ok_iff.mp (named.symm.trans same)
    · obtain ⟨-, failed, -⟩ := returns_done.mp value
      exact nomatch failed.symm.trans same
  have named : ∀ q, found = .ok (some q) → w.phase = Phase.resumed (some (Bytes.ofWord q.word)) :=
    fun q same => congrArg Phase.resumed (content q same)
  have falls : Returns (answers L) (onBlobs (Phase.save .provisioning).run >>= fun _ =>
      .done Phase.provisioning) w₁ d₂ p w' → In p w' := by
    intro saving
    obtain ⟨d₃, y, w₂, d₄, -, saved, halted⟩ := returns_bind.mp saving
    obtain ⟨-, rfl, rfl⟩ := returns_done.mp halted
    obtain ⟨-, provisioning⟩ := provisioning_of_save writable saved
    exact ⟨.of_provisioning provisioning, provisioning⟩
  rcases found with e | (_ | _ | _ | _ | _)
  · exact falls rest
  · exact falls rest
  · exact falls rest
  · obtain ⟨-, rfl, rfl⟩ := returns_done.mp rest
    exact ⟨before₁, phase₁.trans (named _ rfl)⟩
  · obtain ⟨-, rfl, rfl⟩ := returns_done.mp rest
    exact ⟨before₁, phase₁.trans (named _ rfl)⟩
  · obtain ⟨-, rfl, rfl⟩ := returns_done.mp rest
    exact ⟨before₁, phase₁.trans (named _ rfl)⟩

/-! ## Phases -/

namespace Lifecycle

/-- After a factory reset the device is to be provisioned. -/
lemma provisioning_of_factoryReset (writable : L.Writable) {y : Except DeviceError UInt32}
    (h : Returns (answers L) factoryReset.run w d y w') : w'.phase = .provisioning := by
  unfold factoryReset at h
  simp only [DeviceProgram.run_store_bind, DeviceProgram.run_ask_bind, Credentials.clear,
    onBlobs_run_bind] at h
  obtain ⟨d₁, y₁, w₁, e₁, -, config, h₁⟩ := returns_bind.mp h
  obtain ⟨rfl, -⟩ := acts_of_remove writable config
  obtain ⟨d₂, y₂, w₂, e₂, -, both, h₂⟩ := returns_bind.mp h₁
  obtain ⟨d₃, y₃, w₃, e₃, -, ssid, password⟩ := returns_bind.mp both
  obtain ⟨rfl, -⟩ := acts_of_remove writable ssid
  obtain ⟨rfl, -⟩ := acts_of_remove writable password
  obtain ⟨d₄, y₄, w₄, e₄, -, moved, h₄⟩ := returns_bind.mp h₂
  obtain ⟨rfl, provisioning⟩ := provisioning_of_save writable moved
  obtain ⟨d₅, _, w₅, e₅, -, cleared, halted⟩ := returns_bind.mp h₄
  obtain ⟨-, -, rfl⟩ := returns_done.mp halted
  have same : w'.blobs.get? Phase.blob = w₄.blobs.get? Phase.blob :=
    get?_of_stays (f := .none) cleared (only_request trivial) List.not_mem_nil
      Session.phase_notMem_blobs
  exact (phase_congr same).trans provisioning

lemma keeps_in {α : Type} {p : Phase} {f : Footprint} {q : Program Surroundings α}
    (stays : q.Stays f) (opens : f.opens = false)
    (log : ∀ name ∈ f.names, name = ReadingLog.blob) : Keeps L (In p) q := by
  intro w d a w' h before
  obtain ⟨supplied, phase⟩ := before.1.of_stays h stays opens log
  exact ⟨supplied, phase.trans before.2⟩

lemma keeps_in_of_quiet {α : Type} {p : Phase} {q : Program Surroundings α} (stays : q.Stays .none) :
    Keeps L (In p) q :=
  keeps_in stays rfl fun _ hit => absurd hit List.not_mem_nil

lemma keeps_in_saveConfig (writable : L.Writable) {p : Phase} (c : HatchConfig) :
    Keeps L (In p) (onBlobs c.save.run) := by
  intro w d y w' h before
  obtain ⟨-, acts⟩ := acts_of_write writable h
  have phase : World.phase { w with blobs := w.blobs.put HatchConfig.blob c.encode } = w.phase :=
    phase_congr (BlobMap.get?_put_of_ne _ (by decide) _)
  exact ⟨(before.1.putConfig c.encode).acts acts, (acts.phase_eq.trans phase).trans before.2⟩

/-- A measurement cycle takes nothing away. -/
lemma keeps_in_cycle (writable : L.Writable) {p : Phase} :
    Keeps L (In p) (Cycle.run device).run := by
  rw [Cycle.run_cycle]
  refine keeps_bind (keeps_in_of_quiet (stays_reading Session.changesOnly_loadConfig)) fun config =>
    keeps_bind (keeps_in_of_quiet stays_sense) fun sensed => ?_
  cases sensed with
  | error e => exact keeps_done _
  | ok climate =>
    refine keeps_bind (keeps_in_of_quiet stays_time) fun now =>
      keeps_bind (keeps_in (stays_deliver _ _) rfl (by simp)) fun delivered => ?_
    cases delivered with
    | error e => exact keeps_done _
    | ok result =>
      refine keeps_bind (keeps_in_saveConfig writable result.2) fun saved => ?_
      cases saved with
      | ok _ => exact keeps_done _
      | error e => exact keeps_done _

/-- A device that was measuring keeps its credentials when the hatch is over. -/
lemma supplied_of_measure (writable : L.Writable) {y : Except DeviceError UInt32}
    (h : Returns (answers L) (measure device).run w d y w') (before : In .measuring w) :
    Supplied w' := by
  unfold measure at h
  rw [ExceptT.run_bind] at h
  obtain ⟨d₁, z, w₁, d₂, -, cycle, rest⟩ := returns_bind.mp h
  obtain ⟨supplied, phase⟩ := keeps_in_cycle writable cycle before
  have later : w₁.phase ≠ .provisioning := by simp [phase]
  rcases z with e | (seconds | _ | _)
  · obtain ⟨-, -, rfl⟩ := returns_done.mp rest
    exact supplied
  · obtain ⟨-, -, rfl⟩ := returns_done.mp rest
    exact supplied
  · simp only [DeviceProgram.run_store_bind] at rest
    obtain ⟨d₃, moved, w₂, d₄, -, move, halted⟩ := returns_bind.mp rest
    obtain ⟨rfl, supplied₂⟩ := supplied_of_savePhase writable move (supplied.closed later)
      (supplied.credentials later) fun other => nomatch other
    obtain ⟨-, -, rfl⟩ := returns_done.mp halted
    exact supplied₂
  · obtain ⟨-, -, rfl⟩ := returns_done.mp rest
    exact supplied

/-- The configuring phase stores the configuration before it moves on. -/
lemma supplied_of_configure (writable : L.Writable) {y : Except DeviceError UInt32}
    (h : Returns (answers L) (configure device).run w d y w') (before : In .configuring w) :
    Supplied w' := by
  unfold configure at h
  simp only [DeviceProgram.run_ask_bind] at h
  obtain ⟨d₁, current, w₁, e₁, -, loaded, h₁⟩ := returns_bind.mp h
  have before₁ := keeps_in_of_quiet (stays_reading Session.changesOnly_loadConfig) loaded before
  obtain ⟨d₂, outcome, w₂, e₂, -, asked, h₂⟩ := returns_bind.mp h₁
  have before₂ := keeps_in_of_quiet (stays_askForHatch _ _) asked before₁
  rcases outcome with _ | (found | _ | _)
  · obtain ⟨-, -, rfl⟩ := returns_done.mp h₂
    exact before₂.1
  · simp only [DeviceProgram.run_ask_bind] at h₂
    obtain ⟨d₃, now, w₃, e₃, -, timed, h₃⟩ := returns_bind.mp h₂
    have before₃ := keeps_in_of_quiet stays_time timed before₂
    split at h₃
    · obtain ⟨-, -, rfl⟩ := returns_done.mp h₃
      exact before₃.1
    · simp only [DeviceProgram.run_store_bind] at h₃
      obtain ⟨d₄, saved, w₄, e₄, -, save, h₄⟩ := returns_bind.mp h₃
      obtain ⟨supplied, phase⟩ := keeps_in_saveConfig writable _ save before₃
      obtain ⟨rfl, acts⟩ := acts_of_write writable save
      have later : w₃.phase ≠ .provisioning := by simp [before₃.2]
      -- nobody comes between the two blobs, because no session is open
      obtain ⟨blobs, closed, -⟩ := acts.of_closed (before₃.1.closed later)
      have there : (w₄.blobs.get? HatchConfig.blob).isSome := by
        rw [blobs, BlobMap.get?_put_self]
        rfl
      obtain ⟨d₅, moved, w₅, e₅, -, move, halted⟩ := returns_bind.mp h₄
      obtain ⟨rfl, supplied₅⟩ := supplied_of_savePhase writable move closed
        (supplied.credentials (by simp [phase])) fun _ => there
      obtain ⟨-, -, rfl⟩ := returns_done.mp halted
      exact supplied₅
  · obtain ⟨-, -, rfl⟩ := returns_done.mp h₂
    exact before₂.1
  · obtain ⟨-, -, rfl⟩ := returns_done.mp h₂
    exact before₂.1

/-- What follows the wait of provisioning moves on only with credentials that load. -/
lemma supplied_of_afterWait (writable : L.Writable) {bits : SignalBits}
    {y : Except DeviceError UInt32} (h : Returns (answers L) (afterWait bits).run w d y w')
    (closed : w.session = none) (phase : w.phase = .provisioning) : Supplied w' := by
  have waiting : Supplied w := .of_provisioning phase
  unfold afterWait at h
  split_ifs at h with reset unready
  · obtain ⟨-, -, rfl⟩ := returns_done.mp h
    exact waiting
  · obtain ⟨-, -, rfl⟩ := returns_done.mp h
    exact waiting
  · simp only [DeviceProgram.run_ask_bind] at h
    obtain ⟨d₁, found, w₁, d₂, -, load, h₁⟩ := returns_bind.mp h
    obtain ⟨⟨e, loaded⟩, closed₁⟩ := blobs_of_returns load closed
    cases found with
    | none =>
      obtain ⟨-, -, rfl⟩ := returns_done.mp h₁
      exact (waiting.of_stays load (stays_reading (f := .none) Session.changesOnly_loadCredentials)
        rfl fun _ hit => absurd hit List.not_mem_nil).1
    | some credentials =>
      have stored : Credentials.stored w₁.blobs = some credentials := by
        rw [(Credentials.returns_load loaded).1]
        exact Credentials.stored_of_load loaded
      simp only [DeviceProgram.run_ask_bind, DeviceProgram.run_store_bind] at h₁
      obtain ⟨d₃, _, w₂, d₄, -, cleared, h₂⟩ := returns_bind.mp h₁
      obtain ⟨closed₂, same₂⟩ :=
        closed_of_stays (f := .none) cleared (only_request trivial) rfl closed₁
      have stored₂ : (Credentials.stored w₂.blobs).isSome := by
        rw [Credentials.stored_congr (same₂ _ List.not_mem_nil) (same₂ _ List.not_mem_nil), stored]
        rfl
      obtain ⟨d₅, moved, w₃, d₆, -, move, halted⟩ := returns_bind.mp h₂
      obtain ⟨rfl, supplied⟩ :=
        supplied_of_savePhase writable move closed₂ stored₂ fun other => nomatch other
      obtain ⟨-, -, rfl⟩ := returns_done.mp halted
      exact supplied

/-- Provisioning closes its session before it looks at the credentials. -/
lemma supplied_of_provision (writable : L.Writable) {y : Except DeviceError UInt32}
    (h : Returns (answers L) (provision device).run w d y w') (phase : w.phase = .provisioning) :
    Supplied w' := by
  have same : ∀ {α : Type} {p q : Program Surroundings α} {u u' : World}
      {e : Dialogue Surroundings}, Reaches (answers L) p u e q u' →
      p.Stays ⟨[], true, false, false⟩ → u.phase = .provisioning → u'.phase = .provisioning :=
    fun reached stays before => (phase_congr (get?_of_stays reached stays List.not_mem_nil
      Session.phase_notMem_blobs)).trans before
  unfold provision at h
  simp only [DeviceProgram.run_ask_bind] at h
  obtain ⟨d₁, _, w₁, e₁, -, cleared, h₁⟩ := returns_bind.mp h
  have phase₁ := same cleared (only_request trivial) phase
  obtain ⟨d₂, opened, w₂, e₂, -, opening, h₂⟩ := returns_bind.mp h₁
  have phase₂ := same opening (only_request rfl) phase₁
  cases opened with
  | error reason =>
    simp only [DeviceProgram.run_ask_bind] at h₂
    obtain ⟨d₃, _, w₃, e₃, -, reported, halted⟩ := returns_bind.mp h₂
    have phase₃ := same reported (only_request trivial) phase₂
    obtain ⟨-, -, rfl⟩ := returns_done.mp halted
    exact .of_provisioning phase₃
  | ok _ =>
    simp only [DeviceProgram.run_ask_bind] at h₂
    obtain ⟨d₃, bits, w₃, e₃, -, waited, h₃⟩ := returns_bind.mp h₂
    have phase₃ := same waited (stays_awaitSignal _ _) phase₂
    obtain ⟨d₄, _, w₄, e₄, -, closing, h₄⟩ := returns_bind.mp h₃
    have phase₄ := same closing (only_request trivial) phase₃
    have closed₄ := closed_of_closeProvisioning (returns_request.mp closing).2
    obtain ⟨d₅, _, w₅, e₅, -, timed, h₅⟩ := returns_bind.mp h₄
    have phase₅ := same timed stays_setRequestedTime phase₄
    obtain ⟨closed₅, -⟩ := closed_of_stays (f := .none) timed stays_setRequestedTime rfl closed₄
    exact supplied_of_afterWait writable h₅ closed₅ phase₅

lemma supplied_of_step (writable : L.Writable) {y : Except DeviceError UInt32}
    (h : Returns (answers L) (step device).run w d y w') (before : Supplied w) : Supplied w' := by
  unfold step at h
  simp only [DeviceProgram.run_ask_bind] at h
  obtain ⟨d₁, bits, w₁, e₁, -, looked, h₁⟩ := returns_bind.mp h
  obtain ⟨before₁, -⟩ := before.of_stays looked (stays_signals (f := .none)) rfl
    fun _ hit => absurd hit List.not_mem_nil
  split at h₁
  · exact .of_provisioning (provisioning_of_factoryReset writable h₁)
  · simp only [DeviceProgram.run_ask_bind] at h₁
    obtain ⟨d₂, phase, w₂, e₂, -, load, h₂⟩ := returns_bind.mp h₁
    have before₂ := in_of_loadPhase writable load before₁
    cases phase with
    | unknown => exact absurd before₂.2 (resumed_ne_unknown _)
    | provisioning => exact supplied_of_provision writable h₂ before₂.2
    | configuring => exact supplied_of_configure writable h₂ before₂
    | measuring => exact supplied_of_measure writable h₂ before₂

lemma supplied_of_settle (writable : L.Writable) {requested : UInt32} {remaining : Nat}
    {stage : Stage} (h : Returns (answers L) (Stage.settle requested remaining) w d stage w')
    (before : Supplied w) : Supplied w' := by
  have quiet : ∀ {α : Type} {p : Program Surroundings α} {u u' : World} {a : α}
      {e : Dialogue Surroundings}, Returns (answers L) p u e a u' →
      p.Stays ⟨[], false, false, true⟩ → Supplied u → Supplied u' :=
    fun returned stays before => (before.of_stays returned stays rfl
      fun _ hit => absurd hit List.not_mem_nil).1
  have asleep : ∀ remaining, (Stage.fallAsleep remaining).Stays ⟨[], false, false, true⟩ :=
    fun remaining => only_bind (only_request rfl) fun _ => .done _
  unfold Stage.settle at h
  obtain ⟨d₁, bits, w₁, e₁, -, looked, h₁⟩ := returns_bind.mp h
  have before₁ := quiet looked stays_signals before
  split at h₁
  · exact quiet h₁ (asleep _) before₁
  · obtain ⟨d₂, started, w₂, e₂, -, first, h₂⟩ := returns_bind.mp h₁
    have before₂ := quiet first stays_ticks before₁
    obtain ⟨d₃, bits', w₃, e₃, -, waited, h₃⟩ := returns_bind.mp h₂
    have before₃ := quiet waited (stays_awaitSignal _ _) before₂
    obtain ⟨d₄, ended, w₄, e₄, -, second, h₄⟩ := returns_bind.mp h₃
    have before₄ := quiet second stays_ticks before₃
    split at h₄
    · obtain ⟨d₅, y, w₅, e₅, -, reset, halted⟩ := returns_bind.mp h₄
      obtain ⟨-, -, rfl⟩ := returns_done.mp halted
      exact .of_provisioning (provisioning_of_factoryReset writable reset)
    · exact quiet h₄ (asleep _) before₄

lemma supplied_of_advance (writable : L.Writable) {stage stage' : Stage}
    (h : Returns (answers L) (stage.advance device) w d stage' w') (before : Supplied w) :
    Supplied w' := by
  cases stage with
  | awake =>
    obtain ⟨d₁, y, w₁, d₂, -, stepped, halted⟩ := returns_bind.mp h
    obtain ⟨-, -, rfl⟩ := returns_done.mp halted
    exact supplied_of_step writable stepped before
  | settling requested remaining => exact supplied_of_settle writable h before
  | asleep seconds =>
    obtain ⟨-, -, rfl⟩ := returns_done.mp h
    exact before
  | failed reason =>
    obtain ⟨-, -, rfl⟩ := returns_done.mp h
    exact before

end Lifecycle

/-- A device that nobody visits has what its phase needs, whatever happens to it. -/
lemma Reached.supplied (writable : L.Writable) (h : Reached L device False w) : Supplied w := by
  induction h with
  | unused bits => exact .of_provisioning rfl
  | advanced _ piece ih => exact Lifecycle.supplied_of_advance writable piece ih
  | reset _ piece _ => exact .of_provisioning (Lifecycle.provisioning_of_factoryReset writable piece)
  | meanwhile _ acts ih => exact ih.acts acts
  | visited _ allowed _ _ => exact allowed.elim
  | restarted _ bits ih => exact ih.congr rfl rfl

/-! ## What the device finds -/

/-- The credentials load, and a configuration is stored and decodes. -/
structure World.Equipped (w : World) : Prop where
  credentials : ∃ c, BlobMap.perform Credentials.load w.blobs = (some c, w.blobs)
  config : ∃ content c, w.blobs.get? HatchConfig.blob = some content ∧
    HatchConfig.decode content = some c

/-- In every world that a device with an empty store can come to, a device that is to go online has
credentials that load, and one that is to measure has a configuration as well.  This is also so at
the moment the device has loaded the phase in which it measures. -/
theorem no_phase_lacks_its_needs (writable : L.Writable) (h : Reached L device False w) :
    (w.phase = .configuring ∨ w.phase = .measuring →
      ∃ c, BlobMap.perform Credentials.load w.blobs = (some c, w.blobs)) ∧
    (w.phase = .measuring → Equipped w) ∧
    ∀ d w', Returns (answers L) (onBlobs Phase.load) w d .measuring w' → Equipped w' := by
  have loads : ∀ {u : World}, Supplied u → u.phase ≠ .provisioning →
      ∃ c, BlobMap.perform Credentials.load u.blobs = (some c, u.blobs) := by
    intro u supplied later
    obtain ⟨c, stored⟩ := Option.isSome_iff_exists.mp (supplied.credentials later)
    exact ⟨c, by rw [Credentials.perform_load, stored]⟩
  have equipped : ∀ {u : World}, Consistent L u → In .measuring u → Equipped u := by
    intro u consistent ⟨supplied, phase⟩
    obtain ⟨content, there⟩ := Option.isSome_iff_exists.mp (supplied.config phase)
    obtain ⟨c, decoded, -⟩ := consistent.sound.record content there
    exact ⟨loads supplied (by simp [phase]), content, c, there, decoded⟩
  refine ⟨?_, ?_, ?_⟩
  · intro online
    refine loads (h.supplied writable) fun early => ?_
    rcases online with phase | phase
    · exact nomatch early.symm.trans phase
    · exact nomatch early.symm.trans phase
  · intro phase
    exact equipped (h.consistent writable) ⟨h.supplied writable, phase⟩
  · intro d w' loaded
    exact equipped (Lifecycle.keeps_apart (Lifecycle.stays_loadPhase (by decide)) loaded
      (h.consistent writable))
      (in_of_loadPhase writable loaded (h.supplied writable))

/-! ## A device on its way to measuring -/

lemma Reached.helpfulStep {visits : Prop}
    (h : Reached Lifecycle.obligingLicence ⟨"", .standard⟩ visits w) :
    Reached Lifecycle.obligingLicence ⟨"", .standard⟩ visits (HatchSensor.helpfulStep w) :=
  .advanced h (returns_converse answers_helpful _ _)

/-- The world that a new device comes to with two phases. -/
def readyWorld : World := helpfulStep (helpfulStep ⟨.empty, .none, none⟩)

/-- A device that was provisioned and has heard of a hatch is to measure, and is equipped for it. -/
theorem ready_device_is_equipped :
    Lifecycle.obligingLicence.Writable ∧
      Reached Lifecycle.obligingLicence ⟨"", .standard⟩ False readyWorld ∧
      readyWorld.phase = .measuring ∧ Equipped readyWorld := by
  have writable : Lifecycle.obligingLicence.Writable := fun _ _ => not_false
  have reached : Reached Lifecycle.obligingLicence ⟨"", .standard⟩ False readyWorld :=
    (Reached.unused .none).helpfulStep.helpfulStep
  have phase : readyWorld.phase = .measuring := by decide +kernel
  exact ⟨writable, reached, phase, (no_phase_lacks_its_needs writable reached).2.1 phase⟩

end HatchSensor
