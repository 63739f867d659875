import HatchSensor.Proofs.Commands
import HatchSensor.Proofs.BenchParts

/-!
# Framed writes

What a client writes is unauthenticated bytes.  Whatever they are, the device replies exactly to the
messages among them, and a write that is reported as failed has left everything as it was.

The second half rests on the store: credentials are two blobs, and a store that takes the first and
refuses the second leaves half of a command behind.  The statements here are therefore about a store
whose changes all succeed, or all fail, while it serves one write.  Reading may fail at any time.

A command is made of steps that change nothing, followed by one change of the store, so it is enough
to know what the store does at that change: `Session.AllOrNothing`.
-/

namespace HatchSensor

open Program

/-! ## Steady stores -/

namespace BlobMap

/-- The store may fail to read.  Its changes all succeed if it `works`, and all fail if it does
not. -/
def Steady (works : Bool) : Behaviour Blobs BlobMap := fun r m x m' =>
  if works = true ∨ r.changes = none then
    Answers (fun request => request.changes = none) r m x m'
  else (∃ e, x = r.failed e) ∧ m' = m

/-- The two maps agree on all blobs but the named ones. -/
def AgreeOff (names : List String) (m m' : BlobMap) : Prop :=
  ∀ name, name ∉ names → m'.get? name = m.get? name

variable {works : Bool} {m m' : BlobMap}

lemma AgreeOff.refl (names : List String) (m : BlobMap) : AgreeOff names m m := fun _ _ => rfl

/-- A steady store keeps the promises of any store. -/
lemma Steady.answers {r : BlobRequest} {x : r.Answer} (h : Steady works r m x m') :
    Answers (fun _ => True) r m x m' := by
  unfold Steady at h
  split at h
  · rcases h with answered | ⟨-, failed⟩
    · exact Or.inl answered
    · exact Or.inr ⟨trivial, failed⟩
  · exact Or.inr ⟨trivial, h⟩

/-- A write goes the way of all changes. -/
lemma Steady.write {name : String} {content : Bytes} {x : Stored Unit}
    (h : Steady works (.write name content) m x m') :
    (works = true ∧ x = .ok () ∧ m' = m.put name content) ∨
      (works = false ∧ (∃ e, x = .error e) ∧ m' = m) := by
  have change : BlobRequest.changes (.write name content) ≠ none := Option.some_ne_none name
  cases works with
  | true =>
    have answered : Answers _ (.write name content) m x m' := (if_pos (Or.inl rfl)).mp h
    rcases answers_write.mp answered with done | ⟨read, -⟩
    · exact Or.inl ⟨rfl, done⟩
    · exact absurd read change
  | false =>
    have refused : ¬ ((false : Bool) = true ∨
        BlobRequest.changes (.write name content) = none) := by
      simp [change]
    exact Or.inr ⟨rfl, (if_neg refused).mp h⟩

/-- A steady store that can always be read. -/
def steadily (works : Bool) (r : BlobRequest) (m : BlobMap) : r.Answer × BlobMap :=
  if works = true ∨ r.changes = none then ((m.answer r).2, (m.answer r).1)
  else (r.failed (MemoryBlobs.writeFailure r.name), m)

lemma steady_steadily (r : BlobRequest) (m : BlobMap) :
    Steady works r m (steadily works r m).1 (steadily works r m).2 := by
  unfold Steady steadily
  split
  · exact Or.inl ⟨rfl, rfl⟩
  · exact ⟨⟨_, rfl⟩, rfl⟩

/-- A store program changes none but the named blobs of a steady store. -/
lemma agreeOff_of_returns {α : Type} {names : List String} {p : Program Blobs α}
    {d : Dialogue Blobs} {a : α} (h : Returns (Steady works) p m d a m')
    (within : p.ChangesOnly names) : AgreeOff names m m' := by
  intro name other
  refine h.keeps (I := fun now => now.get? name = m.get? name) ?_ within rfl
  intro r now x later allowed answered same
  rw [answered.answers.get?_eq fun hit => other (allowed name hit), same]

end BlobMap

open BlobMap

namespace Session

variable {works : Bool} {session later : Session} {m m' : BlobMap} {d : Dialogue Blobs}

/-! ## Steps that fail without a trace -/

/-- On a steady store the step changes no blob if it fails. -/
def AllOrNothing {α : Type} (step : Step α) : Prop :=
  ∀ (works : Bool) (session later : Session) (m m' : BlobMap) (d : Dialogue Blobs)
    (e : CommandError),
    Returns (Steady works) (step.run session) m d (.error e, later) m' → AgreeOff [] m m'

section Steps

variable {α β : Type}

/-- A step that changes nothing leaves no trace. -/
lemma allOrNothing_of_idle {step : Step α} (idle : ChangesOnly [] step) : AllOrNothing step :=
  fun _ session _ _ _ _ _ h => agreeOff_of_returns h (idle session)

/-- What comes before a step does not matter if it changes nothing. -/
lemma allOrNothing_bind {step : Step α} {next : α → Step β} (idle : ChangesOnly [] step)
    (rest : ∀ a, AllOrNothing (next a)) : AllOrNothing (step >>= next) := by
  intro works session later m m' d e h
  rw [run_bind] at h
  obtain ⟨d₁, ⟨outcome, between⟩, m₁, d₂, rfl, first, second⟩ := returns_bind.mp h
  have same : AgreeOff [] m m₁ := agreeOff_of_returns first (idle session)
  cases outcome with
  | ok a =>
    have traceless : AgreeOff [] m₁ m' := rest a works between later m₁ m' d₂ e second
    intro name other
    rw [traceless name other, same name other]
  | error reason =>
    obtain ⟨-, -, rfl⟩ := returns_done.mp second
    exact same

/-- A value that is handed on at the end cannot fail. -/
lemma allOrNothing_thenDone {step : Step Unit} (h : AllOrNothing step) :
    AllOrNothing (do step; return false : Step Bool) := by
  intro works session later m m' d e returned
  rw [run_bind] at returned
  obtain ⟨d₁, ⟨outcome, between⟩, m₁, d₂, rfl, first, second⟩ := returns_bind.mp returned
  cases outcome with
  | ok _ => exact nomatch (returns_done.mp second).2.1
  | error reason =>
    obtain ⟨-, -, rfl⟩ := returns_done.mp second
    exact h works session between m m' d₁ reason first

/-- A store operation that leaves no trace when it fails makes such a step. -/
lemma allOrNothing_store {explain : StoreError → CommandError} {p : BlobProgram α}
    (h : ∀ (works : Bool) (m m' : BlobMap) (d : Dialogue Blobs) (e : StoreError),
      Returns (Steady works) p.run m d (.error e) m' → AgreeOff [] m m') :
    AllOrNothing (store explain p) := by
  intro works session later m m' d e returned
  rw [run_store] at returned
  obtain ⟨d₁, outcome, m₁, d₂, rfl, first, second⟩ := returns_bind.mp returned
  cases outcome with
  | ok a => exact nomatch (returns_done.mp second).2.1
  | error reason =>
    obtain ⟨-, -, rfl⟩ := returns_done.mp second
    exact h works m m' d₁ reason first

end Steps

/-- A write that fails has changed nothing. -/
lemma agreeOff_of_write_error {name : String} {content : Bytes} {e : StoreError}
    (h : Returns (Steady works) (Blob.write name content).run m d (.error e) m') :
    AgreeOff [] m m' := by
  rcases (returns_request.mp h).2.write with ⟨-, done, -⟩ | ⟨-, -, rfl⟩
  · exact nomatch done
  · exact .refl [] _

/-- Saving credentials fails at the first of the two blobs, or not at all. -/
lemma agreeOff_of_save_error {c : Credentials} {e : StoreError}
    (h : Returns (Steady works) c.save.run m d (.error e) m') : AgreeOff [] m m' := by
  unfold Credentials.save at h
  rw [ExceptT.run_bind] at h
  obtain ⟨d₁, outcome, m₁, d₂, rfl, first, second⟩ := returns_bind.mp h
  rcases (returns_request.mp first).2.write with ⟨working, rfl, -⟩ | ⟨-, ⟨reason, rfl⟩, rfl⟩
  · rcases (returns_request.mp second).2.write with ⟨-, done, -⟩ | ⟨broken, -, -⟩
    · exact nomatch done
    · exact absurd (working.symm.trans broken) (by decide)
  · obtain ⟨-, -, rfl⟩ := returns_done.mp second
    exact .refl [] _

/-! ## Commands -/

lemma allOrNothing_refuse {α : Type} (reason : CommandError) :
    AllOrNothing (refuse reason : Step α) :=
  allOrNothing_of_idle (changesOnly_refuse reason)

lemma allOrNothing_storeCredentials (c : Credentials) : AllOrNothing (storeCredentials c) := by
  unfold storeCredentials
  split
  · exact allOrNothing_refuse _
  · exact allOrNothing_store fun _ _ _ _ _ => agreeOff_of_save_error

lemma allOrNothing_completeCredentials : AllOrNothing completeCredentials := by
  rintro works ⟨fallback, first, second, requested⟩ later m m' d e h
  cases first with
  | none => exact nomatch (returns_done.mp h).2.1
  | some ssid =>
    cases second with
    | none => exact nomatch (returns_done.mp h).2.1
    | some password => exact allOrNothing_storeCredentials _ works _ later m m' d e h

lemma allOrNothing_storeItem (item : IdentityItem) (text : String) :
    AllOrNothing (storeItem item text) := by
  unfold storeItem
  split
  · exact allOrNothing_refuse _
  · exact allOrNothing_store fun _ _ _ _ _ => agreeOff_of_write_error

lemma allOrNothing_storeUuid (text : String) : AllOrNothing (storeUuid text) := by
  unfold storeUuid
  split
  · exact allOrNothing_storeItem _ _
  · exact allOrNothing_refuse _

lemma allOrNothing_storeThresholds (update : ThresholdUpdate) :
    AllOrNothing (storeThresholds update) := by
  refine allOrNothing_bind (changesOnly_ask changesOnly_loadConfig) fun current => ?_
  split
  · exact allOrNothing_store fun _ _ _ _ _ => agreeOff_of_write_error
  · exact allOrNothing_refuse _

/-- A half of the credentials is remembered first, which changes no blob. -/
lemma allOrNothing_setHalf (change : Session → Session) :
    AllOrNothing (do remember change; completeCredentials; return false : Step Bool) :=
  allOrNothing_bind (changesOnly_remember change) fun _ =>
    allOrNothing_thenDone allOrNothing_completeCredentials

/-- Every command succeeds or leaves no trace. -/
theorem allOrNothing_execute (command : Command) : AllOrNothing (execute command) := by
  cases command with
  | setSsid text =>
    rw [execute]
    split
    · exact allOrNothing_bind (changesOnly_refuse _) fun _ => allOrNothing_setHalf _
    · exact allOrNothing_setHalf _
  | setPassword text =>
    rw [execute]
    split
    · exact allOrNothing_bind (changesOnly_refuse _) fun _ => allOrNothing_setHalf _
    · exact allOrNothing_setHalf _
  | setCertificate text =>
    rw [execute]
    exact allOrNothing_thenDone (allOrNothing_storeItem .certificate text)
  | setPrivateKey text =>
    rw [execute]
    exact allOrNothing_thenDone (allOrNothing_storeItem .privateKey text)
  | setRootCa text =>
    rw [execute]
    exact allOrNothing_thenDone (allOrNothing_storeItem .rootCa text)
  | setUuid text =>
    rw [execute]
    exact allOrNothing_thenDone (allOrNothing_storeUuid text)
  | setTime time =>
    exact allOrNothing_of_idle (changesOnly_execute (.setTime time))
  | setThresholds update =>
    rw [execute]
    exact allOrNothing_thenDone (allOrNothing_storeThresholds update)
  | startMeasuring =>
    exact allOrNothing_of_idle (changesOnly_execute .startMeasuring)

end Session

/-! ## Writes -/

/-- The register after a write: a client that has finished raises its signal, and nothing else
changes. -/
def WriteEffect.raised (effect : WriteEffect) (bits : SignalBits) : SignalBits :=
  if effect.finished then bits.union .credentialsReady else bits

/-- The blobs that a message can change: those of its command. -/
def MessageBody.blobs : MessageBody → List String
  | command c => c.blobs
  | versionQuery => []

namespace Session

/-- A write of `payload` took the blobs from `m` to `m'` and the register from `bits` to `bits'`,
and all of this was announced by the reply. -/
structure Framed (payload : Bytes) (reply : Option Reply) (m m' : BlobMap)
    (bits bits' : SignalBits) : Prop where
  /-- There is a reply exactly if the payload is a message. -/
  answered : reply.isSome = true ↔ ∃ message, ClientMessage.ofPayload? payload = some message
  /-- The reply carries the number of the message, in its first member. -/
  numbered : ∀ message r, ClientMessage.ofPayload? payload = some message → reply = some r →
    r.id = message.id ∧
      ∃ members, r.toText = Json.writeMembers (("id", message.id.toNat.repr) :: members)
  /-- The phase is as it was. -/
  phase : m'.get? Phase.blob = m.get? Phase.blob
  /-- The log is as it was. -/
  log : m'.get? ReadingLog.blob = m.get? ReadingLog.blob
  /-- The register has at most one signal more. -/
  signals : bits' = bits ∨ bits' = bits.union .credentialsReady
  /-- A reported failure has had no effect. -/
  failed : ∀ id reason, reply = some ⟨id, .failed reason⟩ → AgreeOff [] m m' ∧ bits' = bits
  /-- Without a reply nothing has happened, unless the payload holds acceptable credentials, and
  then no blobs but theirs have changed. -/
  silent : reply = none → (AgreeOff [] m m' ∧ bits' = bits) ∨
    (∃ c, Credentials.ofPayload payload = .ok c) ∧
      AgreeOff [Credentials.ssidBlob, Credentials.passwordBlob] m m'
  /-- A message has changed no blobs but those its command names. -/
  served : ∀ message, ClientMessage.ofPayload? payload = some message →
    AgreeOff message.body.blobs m m'

section Writes

variable {works : Bool} {session later : Session} {payload : Bytes} {m m' : BlobMap}
  {d : Dialogue Blobs} {effect : WriteEffect} {bits : SignalBits}

lemma raised_eq_or (effect : WriteEffect) (bits : SignalBits) :
    effect.raised bits = bits ∨ effect.raised bits = bits.union .credentialsReady := by
  unfold WriteEffect.raised
  split
  · exact Or.inr rfl
  · exact Or.inl rfl

lemma raised_of_unfinished (unfinished : effect.finished = false) (bits : SignalBits) :
    effect.raised bits = bits := by
  rw [WriteEffect.raised, if_neg (by simp [unfinished])]

lemma toText_head (r : Reply) :
    ∃ members, r.toText = Json.writeMembers (("id", r.id.toNat.repr) :: members) := by
  obtain ⟨id, body⟩ := r
  cases body <;> exact ⟨_, rfl⟩

/-- Carrying out a message gives a reply with its number, and a failure is without effect. -/
lemma replies_of_handle {message : ClientMessage}
    (h : Returns (Steady works) (handle session message) m d (effect, later) m') :
    ∃ body, effect.reply = some ⟨message.id, body⟩ ∧
      ∀ reason, body = .failed reason → AgreeOff [] m m' ∧ effect.finished = false := by
  unfold handle at h
  split at h
  · obtain ⟨-, same, -⟩ := returns_done.mp h
    obtain ⟨rfl, -⟩ := Prod.mk.inj same
    exact ⟨_, rfl, fun _ failed => nomatch failed⟩
  · next command _ =>
    obtain ⟨d₁, ⟨outcome, after⟩, m₁, d₂, rfl, executed, halted⟩ := returns_bind.mp h
    cases outcome with
    | ok finished =>
      obtain ⟨-, same, -⟩ := returns_done.mp halted
      obtain ⟨rfl, -⟩ := Prod.mk.inj same
      exact ⟨_, rfl, fun _ failed => nomatch failed⟩
    | error e =>
      obtain ⟨-, same, rfl⟩ := returns_done.mp halted
      obtain ⟨rfl, -⟩ := Prod.mk.inj same
      have traceless : AgreeOff [] m m' :=
        allOrNothing_execute command works session after m m' d₁ e executed
      exact ⟨_, rfl, fun _ _ => ⟨traceless, rfl⟩⟩

/-- A payload that is no message gets no reply; it is without effect unless it holds acceptable
credentials. -/
lemma silent_of_handleBare
    (h : Returns (Steady works) (handleBare session payload) m d (effect, later) m') :
    effect.reply = none ∧
      ((AgreeOff [] m m' ∧ effect.finished = false) ∨
        (∃ c, Credentials.ofPayload payload = .ok c) ∧
          AgreeOff [Credentials.ssidBlob, Credentials.passwordBlob] m m') := by
  have within : AgreeOff [Credentials.ssidBlob, Credentials.passwordBlob] m m' :=
    agreeOff_of_returns h (changesOnly_handleBare (by simp) (by simp) session payload)
  unfold handleBare at h
  split at h
  · obtain ⟨-, same, rfl⟩ := returns_done.mp h
    obtain ⟨rfl, -⟩ := Prod.mk.inj same
    exact ⟨rfl, Or.inl ⟨.refl [] _, rfl⟩⟩
  · next c accepted =>
    obtain ⟨d₁, ⟨outcome, after⟩, m₁, d₂, rfl, -, halted⟩ := returns_bind.mp h
    have unanswered : effect.reply = none := by
      cases outcome <;> exact congrArg (·.1.reply) (returns_done.mp halted).2.1
    exact ⟨unanswered, Or.inr ⟨⟨c, accepted⟩, within⟩⟩

/-- A message is framed by its reply. -/
lemma framed_of_handle {message : ClientMessage}
    (found : ClientMessage.ofPayload? payload = some message) (clients : AgreeOff blobs m m')
    (h : Returns (Steady works) (handle session message) m d (effect, later) m') :
    Framed payload effect.reply m m' bits (effect.raised bits) := by
  obtain ⟨body, replied, harmless⟩ := replies_of_handle h
  have within : AgreeOff message.body.blobs m m' := by
    refine agreeOff_of_returns h (changesOnly_handle session message fun command carried => ?_)
    rw [carried]
    exact fun name hit => hit
  refine
    { answered := iff_of_true (by rw [replied]; rfl) ⟨message, found⟩
      numbered := ?_
      phase := clients _ phase_notMem_blobs
      log := clients _ log_notMem_blobs
      signals := raised_eq_or effect bits
      failed := ?_
      silent := fun unanswered => nomatch replied.symm.trans unanswered
      served := ?_ }
  · intro message' r found' replied'
    obtain rfl := Option.some.inj (found.symm.trans found')
    obtain rfl := Option.some.inj (replied.symm.trans replied')
    exact ⟨rfl, toText_head _⟩
  · intro id reason replied'
    have failed : body = .failed reason :=
      congrArg Reply.body (Option.some.inj (replied.symm.trans replied'))
    obtain ⟨traceless, unfinished⟩ := harmless reason failed
    exact ⟨traceless, raised_of_unfinished unfinished bits⟩
  · intro message' found'
    obtain rfl := Option.some.inj (found.symm.trans found')
    exact within

/-- A payload that is no message is framed by getting no reply. -/
lemma framed_of_handleBare (missing : ClientMessage.ofPayload? payload = none)
    (clients : AgreeOff blobs m m')
    (h : Returns (Steady works) (handleBare session payload) m d (effect, later) m') :
    Framed payload effect.reply m m' bits (effect.raised bits) := by
  obtain ⟨unanswered, effects⟩ := silent_of_handleBare h
  have no_message : ∀ message, ClientMessage.ofPayload? payload ≠ some message :=
    fun message found => nomatch missing.symm.trans found
  refine
    { answered := iff_of_false (by rw [unanswered]; decide) fun ⟨message, found⟩ =>
        no_message message found
      numbered := fun message _ found => absurd found (no_message message)
      phase := clients _ phase_notMem_blobs
      log := clients _ log_notMem_blobs
      signals := raised_eq_or effect bits
      failed := fun _ _ replied => nomatch unanswered.symm.trans replied
      silent := fun _ => ?_
      served := fun message found => absurd found (no_message message) }
  rcases effects with ⟨traceless, unfinished⟩ | accepted
  · exact Or.inl ⟨traceless, raised_of_unfinished unfinished bits⟩
  · exact Or.inr accepted

/-- Every write of a client is framed by its reply. -/
lemma framed_of_write (h : Returns (Steady works) (session.write payload) m d (effect, later) m') :
    Framed payload effect.reply m m' bits (effect.raised bits) := by
  have clients : AgreeOff blobs m m' := agreeOff_of_returns h (write_changesOnly session payload)
  unfold write at h
  split at h
  · next message found => exact framed_of_handle found clients h
  · next missing => exact framed_of_handleBare missing clients h

end Writes

/-- On a store whose changes all succeed or all fail, every write of a client comes to an end, and
whatever comes out of it is framed by the reply: a message gets one with its number, a failure is
without effect, and beyond the reply lie only the blobs that the payload names and the signal of a
client that has finished. -/
theorem write_framed (works : Bool) (session : Session) (payload : Bytes) (m : BlobMap)
    (bits : SignalBits) :
    (∃ d effect later m', Returns (Steady works) (session.write payload) m d (effect, later) m') ∧
      ∀ d effect later m',
        Returns (Steady works) (session.write payload) m d (effect, later) m' →
          Framed payload effect.reply m m' bits (effect.raised bits) := by
  constructor
  · obtain ⟨d, ⟨effect, later⟩, m', returned⟩ :=
      exists_returns (B := Steady works) (fun r m => ⟨_, _, steady_steadily r m⟩)
        (session.write payload) m
    exact ⟨d, effect, later, m', returned⟩
  · intro d effect later m' returned
    exact framed_of_write returned

/-- A session to which the password has been sent. -/
def halfSession : Session := ⟨"", none, some "secret", none⟩

/-- The message with the name that completes its credentials. -/
def completingMessage : Bytes :=
  Bytes.encodeUtf8 "\x7b\"id\":7,\"command\":\x7b\"setWifiSsid\":\"net\"\x7d\x7d"

/-- The message met a store that takes no changes. -/
def refusedWrite : Dialogue Blobs × (WriteEffect × Session) × BlobMap :=
  converse (steadily false) (halfSession.write completingMessage) .empty

/-- A complete pair that could not be stored is reported under the number of the message, and
nothing has happened. -/
theorem refused_write_framed :
    ∃ d effect later m',
      Returns (Steady false) (halfSession.write completingMessage) .empty d (effect, later) m' ∧
        effect.reply = some ⟨7, .failed (.credentialsNotStored
          (MemoryBlobs.writeFailure Credentials.ssidBlob))⟩ ∧
        Framed completingMessage effect.reply .empty m' .none (effect.raised .none) := by
  have replied : refusedWrite.2.1.1.reply = some ⟨7, .failed (.credentialsNotStored
      (MemoryBlobs.writeFailure Credentials.ssidBlob))⟩ := by decide +kernel
  have returned := returns_converse (B := Steady false) steady_steadily
    (halfSession.write completingMessage) .empty
  rw [← refusedWrite] at returned
  rcases ran : refusedWrite with ⟨d, ⟨effect, later⟩, m'⟩
  rw [ran] at replied returned
  have framed := (write_framed false halfSession completingMessage .empty .none).2 d effect later m'
    returned
  exact ⟨d, effect, later, m', returned, replied, framed⟩

end Session

/-! ### The store of the bench -/

namespace Bench

variable {ρ : Type}

/-- If no change to the store of the bench was made to fail by name, the store is steady. -/
lemma steady_of_answerBlob (b : Bench ρ) (r : BlobRequest)
    (whole : r.changes ≠ none → b.storeFault r = none) :
    ∃ blobs, (b.answerBlob r).1 = { b with store := { b.store with blobs } } ∧
      Steady (!b.store.failWrites) r b.store.blobs (b.answerBlob r).2 blobs := by
  unfold answerBlob
  cases fault : b.storeFault r with
  | some reason =>
    have idle : r.changes = none :=
      Decidable.byContradiction fun change => nomatch fault.symm.trans (whole change)
    exact ⟨_, rfl, (if_pos (Or.inr idle)).mpr (Or.inr ⟨idle, ⟨reason, rfl⟩, rfl⟩)⟩
  | none =>
    dsimp only
    rw [MemoryBlobs.answer_eq]
    split
    · next fails =>
      have broken : ¬ ((!b.store.failWrites) = true ∨ r.changes = none) := by simp [fails]
      exact ⟨_, rfl, (if_neg broken).mpr ⟨⟨_, rfl⟩, rfl⟩⟩
    · next works =>
      have served : (!b.store.failWrites) = true ∨ r.changes = none := by
        cases failing : b.store.failWrites with
        | false => exact Or.inl rfl
        | true => exact Or.inr (Decidable.byContradiction fun change => works ⟨failing, change⟩)
      exact ⟨_, rfl, (if_pos served).mpr (Or.inl ⟨rfl, rfl⟩)⟩

/-- A store program on the bench is one with a steady store. -/
lemma returns_runBlobs {α : Type} (p : Program Blobs α) (b : Bench ρ)
    (whole : ∀ r : BlobRequest, r.changes ≠ none → b.storeFault r = none) :
    ∃ d, Returns (Steady (!b.store.failWrites)) p b.store.blobs d (b.runBlobs p).2
      (b.runBlobs p).1.store.blobs := by
  induction p generalizing b with
  | done a => exact ⟨[], .rest _ _⟩
  | ask r k ih =>
    obtain ⟨blobs, changed, answered⟩ := b.steady_of_answerBlob r (whole r)
    have first : b.runBlobs (.ask r k)
        = (b.answerBlob r).1.runBlobs (k (b.answerBlob r).2) := rfl
    obtain ⟨d, later⟩ := ih (b.answerBlob r).2 { b with store := { b.store with blobs } } whole
    rw [first, changed]
    exact ⟨_, Reaches.ask answered later⟩

/-- What the bench makes of a write is framed by the reply that it gives. -/
theorem writeTo_framed (b : Bench ρ) (session : Session) (payload : Bytes)
    (whole : ∀ r : BlobRequest, r.changes ≠ none → b.storeFault r = none) :
    ∃ reply, (b.writeTo session payload).2.2 = reply.map Reply.toText ∧
      Session.Framed payload reply b.store.blobs (b.writeTo session payload).1.store.blobs
        b.register.bits (b.writeTo session payload).1.register.bits := by
  obtain ⟨d, returned⟩ := returns_runBlobs (session.write payload) b whole
  obtain ⟨blobs, same⟩ := b.runBlobs_fst (session.write payload)
  have framed : Session.Framed payload _ b.store.blobs _ b.register.bits _ :=
    Session.framed_of_write returned
  refine ⟨(b.runBlobs (session.write payload)).2.1.reply, rfl, ?_⟩
  have register : (b.writeTo session payload).1.register.bits
      = (b.runBlobs (session.write payload)).2.1.raised b.register.bits := by
    unfold writeTo WriteEffect.raised
    dsimp only
    rw [same]
    split <;> rfl
  rw [register]
  exact framed

end Bench

end HatchSensor
