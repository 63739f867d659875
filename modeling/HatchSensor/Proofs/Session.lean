import HatchSensor.Proofs.Blobs
import HatchSensor.Device.Phase
import HatchSensor.Provisioning.Session
import HatchSensor.Reading.Log

/-!
# What a provisioning client can change

A client writes messages while a session is open, at times the device does not choose.  Whatever it
writes, only the blobs of `Session.blobs` can change: the credentials, the identity and the
configuration.  The phase and the log are out of its reach.
-/

namespace HatchSensor

namespace Session

open Program

/-- The blobs a client can change. -/
def blobs : List String :=
  [Credentials.ssidBlob, Credentials.passwordBlob, IdentityItem.uuid.blob,
    IdentityItem.certificate.blob, IdentityItem.privateKey.blob, IdentityItem.rootCa.blob,
    HatchConfig.blob]

/-- Whatever the session remembers, the step changes none but the named blobs. -/
def ChangesOnly {α : Type} (names : List String) (m : Step α) : Prop :=
  ∀ session, Program.ChangesOnly names (m.run session)

section Steps

variable {α β : Type} {names : List String}

/-- A sequence of steps changes what its parts change. -/
lemma changesOnly_bind {m : Step α} {f : α → Step β} (first : ChangesOnly names m)
    (second : ∀ a, ChangesOnly names (f a)) : ChangesOnly names (m >>= f) := by
  intro session
  refine only_bind (first session) fun y => ?_
  obtain ⟨_ | a, later⟩ := y
  · exact .done _
  · exact second a later

lemma changesOnly_pure (a : α) : ChangesOnly names (pure a : Step α) := fun _ => .done _

lemma changesOnly_refuse (reason : CommandError) :
    ChangesOnly names (refuse reason : Step α) := fun _ => .done _

lemma changesOnly_remember (change : Session → Session) :
    ChangesOnly names (remember change) := fun _ => .done _

/-- A step on the store changes what the store program changes. -/
lemma changesOnly_store {explain : StoreError → CommandError} {p : BlobProgram α}
    (h : Program.ChangesOnly names p.run) : ChangesOnly names (store explain p) := by
  intro session
  refine only_bind h fun y => ?_
  cases y with
  | ok a => exact .done _
  | error e => exact .done _

/-- A question to the store changes what the question changes. -/
lemma changesOnly_ask {p : Program Blobs α} (h : Program.ChangesOnly names p) :
    ChangesOnly names (ask p) :=
  fun _ => only_bind h fun _ => .done _

end Steps

/-! ## Commands -/

/-- A text is read from its blob. -/
lemma readsOnly_readText {names : List String} {name : String} (h : name ∈ names) :
    Program.ReadsOnly names (Blob.readText name) := by
  refine only_bind (Blob.readsOnly_read h) fun y => ?_
  split <;> exact .done _

/-- The credentials are read from their two blobs. -/
lemma readsOnly_loadCredentials :
    Program.ReadsOnly [Credentials.ssidBlob, Credentials.passwordBlob] Credentials.load := by
  refine only_bind (readsOnly_readText (by simp)) fun ssid => ?_
  cases ssid with
  | none => exact .done _
  | some ssid =>
    refine only_bind (readsOnly_readText (by simp)) fun password => ?_
    cases password with
    | none => exact .done _
    | some password => exact .done _

/-- Loading the credentials changes nothing. -/
lemma changesOnly_loadCredentials {names : List String} :
    Program.ChangesOnly names Credentials.load :=
  readsOnly_loadCredentials.changesOnly

/-- Loading the configuration changes nothing. -/
lemma changesOnly_loadConfig {names : List String} :
    Program.ChangesOnly names HatchConfig.load := by
  refine only_bind Blob.changesOnly_read fun y => ?_
  cases y with
  | ok content => exact .done _
  | error e => exact .done _

/-- A store operation on credentials changes their two blobs. -/
lemma changesOnly_storeCredentials {names : List String} (ssid : Credentials.ssidBlob ∈ names)
    (password : Credentials.passwordBlob ∈ names) (c : Credentials) :
    ChangesOnly names (storeCredentials c) := by
  unfold storeCredentials
  split
  · exact changesOnly_refuse _
  · exact changesOnly_store <| only_run_bind (Blob.changesOnly_write ssid)
      fun _ => Blob.changesOnly_write password

lemma changesOnly_completeCredentials {names : List String} (ssid : Credentials.ssidBlob ∈ names)
    (password : Credentials.passwordBlob ∈ names) : ChangesOnly names completeCredentials := by
  rintro ⟨fallback, first, second, requested⟩
  cases first with
  | none => exact .done _
  | some text =>
    cases second with
    | none => exact .done _
    | some text' => exact changesOnly_storeCredentials ssid password _ _

lemma changesOnly_storeItem (item : IdentityItem) (text : String) :
    ChangesOnly [item.blob] (storeItem item text) := by
  unfold storeItem
  split
  · exact changesOnly_refuse _
  · exact changesOnly_store (Blob.changesOnly_write (List.mem_singleton.mpr rfl))

lemma changesOnly_storeUuid (text : String) :
    ChangesOnly [IdentityItem.uuid.blob] (storeUuid text) := by
  unfold storeUuid
  split
  · exact changesOnly_storeItem _ _
  · exact changesOnly_refuse _

lemma changesOnly_storeThresholds (update : ThresholdUpdate) :
    ChangesOnly [HatchConfig.blob] (storeThresholds update) := by
  refine changesOnly_bind (changesOnly_ask changesOnly_loadConfig) fun current => ?_
  split
  · exact changesOnly_store (Blob.changesOnly_write (List.mem_singleton.mpr rfl))
  · exact changesOnly_refuse _

/-- A half of the credentials is remembered, and stored once the other half is there. -/
lemma changesOnly_setHalf (change : Session → Session) :
    ChangesOnly [Credentials.ssidBlob, Credentials.passwordBlob]
      (do remember change; completeCredentials; return false : Step Bool) :=
  changesOnly_bind (changesOnly_remember _) fun _ =>
    changesOnly_bind (changesOnly_completeCredentials (by simp) (by simp)) fun _ =>
      changesOnly_pure _

/-- A step whose success is all it has to say. -/
lemma changesOnly_thenDone {names : List String} {m : Step Unit} (h : ChangesOnly names m) :
    ChangesOnly names (do m; return false : Step Bool) :=
  changesOnly_bind h fun _ => changesOnly_pure _

end Session

/-- The blobs that a command can change. -/
def Command.blobs : Command → List String
  | setSsid _ => [Credentials.ssidBlob, Credentials.passwordBlob]
  | setPassword _ => [Credentials.ssidBlob, Credentials.passwordBlob]
  | setCertificate _ => [IdentityItem.certificate.blob]
  | setPrivateKey _ => [IdentityItem.privateKey.blob]
  | setRootCa _ => [IdentityItem.rootCa.blob]
  | setUuid _ => [IdentityItem.uuid.blob]
  | setTime _ => []
  | setThresholds _ => [HatchConfig.blob]
  | startMeasuring => []

namespace Session

open Program

lemma blobs_subset_of_command (command : Command) : command.blobs ⊆ blobs := by
  cases command <;> simp [Command.blobs, blobs]

/-- Every command keeps to its blobs. -/
lemma changesOnly_execute (command : Command) : ChangesOnly command.blobs (execute command) := by
  cases command with
  | setSsid text =>
    rw [execute]
    split
    · exact changesOnly_bind (changesOnly_refuse _) fun _ => changesOnly_setHalf _
    · exact changesOnly_setHalf _
  | setPassword text =>
    rw [execute]
    split
    · exact changesOnly_bind (changesOnly_refuse _) fun _ => changesOnly_setHalf _
    · exact changesOnly_setHalf _
  | setCertificate text =>
    rw [execute]
    exact changesOnly_thenDone (changesOnly_storeItem .certificate text)
  | setPrivateKey text =>
    rw [execute]
    exact changesOnly_thenDone (changesOnly_storeItem .privateKey text)
  | setRootCa text =>
    rw [execute]
    exact changesOnly_thenDone (changesOnly_storeItem .rootCa text)
  | setUuid text =>
    rw [execute]
    exact changesOnly_thenDone (changesOnly_storeUuid text)
  | setTime time =>
    rw [execute]
    exact changesOnly_thenDone (changesOnly_remember fun s => { s with requestedTime := some time })
  | setThresholds update =>
    rw [execute]
    exact changesOnly_thenDone (changesOnly_storeThresholds update)
  | startMeasuring =>
    rw [execute]
    refine changesOnly_bind (changesOnly_ask changesOnly_loadCredentials) fun found => ?_
    cases found with
    | none => exact changesOnly_refuse _
    | some c => exact changesOnly_pure _

/-! ## Writes -/

/-- A message changes what its command changes. -/
lemma changesOnly_handle {names : List String} (session : Session) (message : ClientMessage)
    (h : ∀ command, message.body = .command command → ∀ name ∈ command.blobs, name ∈ names) :
    Program.ChangesOnly names (handle session message) := by
  unfold handle
  split
  · exact .done _
  · next command body =>
    have within : Program.ChangesOnly names ((execute command).run session) :=
      (changesOnly_execute command session).mono fun _ hit name same =>
        h command body name (hit name same)
    refine only_bind within fun y => ?_
    obtain ⟨_ | finished, later⟩ := y <;> exact .done _

/-- A bare credential object changes the credentials. -/
lemma changesOnly_handleBare {names : List String} (ssid : Credentials.ssidBlob ∈ names)
    (password : Credentials.passwordBlob ∈ names) (session : Session) (payload : Bytes) :
    Program.ChangesOnly names (handleBare session payload) := by
  unfold handleBare
  split
  · exact .done _
  · refine only_bind (changesOnly_storeCredentials ssid password _ session) fun y => ?_
    obtain ⟨_ | _, later⟩ := y <;> exact .done _

/-- Whatever a client writes, it changes none but its blobs. -/
theorem write_changesOnly (session : Session) (payload : Bytes) :
    Program.ChangesOnly blobs (write session payload) := by
  unfold write
  split
  · exact changesOnly_handle session _ fun command _ _ hit => blobs_subset_of_command command hit
  · exact changesOnly_handleBare (by simp [blobs]) (by simp [blobs]) session payload

/-- The phase is no blob of a client. -/
lemma phase_notMem_blobs : Phase.blob ∉ blobs := by decide

/-- The log is no blob of a client. -/
lemma log_notMem_blobs : ReadingLog.blob ∉ blobs := by decide

end Session

end HatchSensor
