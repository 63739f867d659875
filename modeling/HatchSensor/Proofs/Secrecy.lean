import HatchSensor.Proofs.CredentialsInForce
import HatchSensor.Proofs.FramedWrites
import Mathlib.Data.List.Forall2

/-!
# Secrets stay on the device

A client may send the password of the network and the key of the certificate, but what it gets to
see does not depend on them.  This is a property of two runs: two sessions on two stores that differ
in nothing but these secrets are told the same, up to the secrets, and show the same.

The two runs are compared by `Program.Alike`, a judgement about two programs side by side.  Its
rules go along the program text, as those of a judgement about one program do; only the rules for
the two secret blobs speak of contents that differ.  The stores may fail, and the text of a failure
goes back to the client, so a plan says which requests fail in both runs: it knows what is asked
for, but not what is in a blob.
-/

namespace HatchSensor

open Program

/-! ## Stores that fail by a plan -/

/-- Which requests fail, and why.  The plan knows how many requests there were before, what is done
and the name of the blob. -/
abbrev FaultPlan := Nat → String → String → Option StoreError

/-- A store that fails by a plan. -/
structure FaultyStore where
  blobs : BlobMap
  /-- How many requests it has had. -/
  served : Nat

namespace FaultyStore

/-- A request that the plan fails changes no blob. -/
def answer (faults : FaultPlan) (r : BlobRequest) : StateM FaultyStore r.Answer := fun s =>
  match faults s.served r.verb r.name with
  | some reason => (r.failed reason, ⟨s.blobs, s.served + 1⟩)
  | none => ((s.blobs.answer r).2, ⟨(s.blobs.answer r).1, s.served + 1⟩)

/-- Carry out a store program: its value and the store it leaves. -/
def serve {α : Type} (faults : FaultPlan) (s : FaultyStore) (p : Program Blobs α) :
    α × FaultyStore :=
  Id.run ((Program.run (m := StateM FaultyStore) (answer faults) p).run s)

variable {α β : Type} {faults : FaultPlan}

/-- A sequence is carried out piece by piece. -/
lemma serve_bind (p : Program Blobs α) (f : α → Program Blobs β) (s : FaultyStore) :
    s.serve faults (p >>= f) = (s.serve faults p).2.serve faults (f (s.serve faults p).1) := by
  induction p generalizing s with
  | done a => rfl
  | ask r k ih => exact ih (answer faults r s).1 (answer faults r s).2

end FaultyStore

/-! ## What may differ -/

/-- The blobs whose contents a client must not learn. -/
def secretBlobs : List String := [Credentials.passwordBlob, IdentityItem.privateKey.blob]

/-- The two texts are the same, or both are there and acceptable. -/
def EqualOrBoth (accepted : String → Prop) (x y : Option String) : Prop :=
  x = y ∨ ∃ a b, x = some a ∧ y = some b ∧ accepted a ∧ accepted b

/-- A text that is accepted as a password when the credentials are loaded. -/
def Credentials.IsPassword (text : String) : Prop := fits passwordLimit text = true

/-- A password that is stored and read back as it is. -/
def Credentials.StorablePassword (text : String) : Prop := Half.password.Storable text

/-- The maps differ in nothing but the secrets.  A password can be loaded from both or is the same,
and the keys are arbitrary. -/
structure BlobMap.Indistinct (m m' : BlobMap) : Prop where
  /-- All other blobs are the same. -/
  others : ∀ name, name ∉ secretBlobs → m.get? name = m'.get? name
  /-- The password is the same, or it can be loaded from both. -/
  password : EqualOrBoth Credentials.IsPassword (Blob.textIn m Credentials.passwordBlob)
    (Blob.textIn m' Credentials.passwordBlob)

/-- The sessions differ in nothing but the password, which both have or neither has. -/
structure Session.Indistinct (s s' : Session) : Prop where
  fallback : s.fallback = s'.fallback
  ssid : s.ssid = s'.ssid
  password : EqualOrBoth Credentials.StorablePassword s.password s'.password
  requestedTime : s.requestedTime = s'.requestedTime

/-- The commands differ in nothing but a secret that is accepted in both. -/
inductive Command.Indistinct : Command → Command → Prop
  /-- The commands are the same. -/
  | same (c : Command) : Indistinct c c
  /-- Both set a password. -/
  | password {a b : String} (first : Credentials.StorablePassword a)
      (second : Credentials.StorablePassword b) : Indistinct (.setPassword a) (.setPassword b)
  /-- Both set a key. -/
  | privateKey {a b : String} (first : (Text.trim a).isEmpty = false)
      (second : (Text.trim b).isEmpty = false) : Indistinct (.setPrivateKey a) (.setPrivateKey b)

/-- The writes differ in nothing but a secret that is accepted in both. -/
inductive IndistinctWrites : Bytes → Bytes → Prop
  /-- The writes are the same. -/
  | same (payload : Bytes) : IndistinctWrites payload payload
  /-- Both are messages with the same number. -/
  | message {payload payload' : Bytes} {id : UInt32} {c c' : Command}
      (first : ClientMessage.ofPayload? payload = some ⟨id, .command c⟩)
      (second : ClientMessage.ofPayload? payload' = some ⟨id, .command c'⟩)
      (commands : c.Indistinct c') : IndistinctWrites payload payload'
  /-- Both are bare credentials for the same network. -/
  | bare {payload payload' : Bytes} {ssid a b : String}
      (noMessage : ClientMessage.ofPayload? payload = none)
      (noMessage' : ClientMessage.ofPayload? payload' = none)
      (first : Credentials.ofPayload payload = .ok ⟨ssid, a⟩)
      (second : Credentials.ofPayload payload' = .ok ⟨ssid, b⟩)
      (password : Credentials.StorablePassword a) (password' : Credentials.StorablePassword b) :
      IndistinctWrites payload payload'
  /-- Neither is a message or credentials that are accepted. -/
  | ignored {payload payload' : Bytes} {e e' : CredentialError}
      (noMessage : ClientMessage.ofPayload? payload = none)
      (noMessage' : ClientMessage.ofPayload? payload' = none)
      (first : Credentials.ofPayload payload = .error e)
      (second : Credentials.ofPayload payload' = .error e') : IndistinctWrites payload payload'

/-- The stores have had as many requests, and their blobs differ in nothing but the secrets. -/
structure FaultyStore.Indistinct (s t : FaultyStore) : Prop where
  served : s.served = t.served
  blobs : s.blobs.Indistinct t.blobs

namespace BlobMap.Indistinct

variable {m m' : BlobMap}

lemma refl (m : BlobMap) : m.Indistinct m := ⟨fun _ _ => rfl, Or.inl rfl⟩

/-- Whether a change of one blob leaves the maps alike only depends on this blob. -/
lemma of_change {n n' : BlobMap} {name : String} (h : m.Indistinct m')
    (frame : ∀ other, other ≠ name → n.get? other = m.get? other)
    (frame' : ∀ other, other ≠ name → n'.get? other = m'.get? other)
    (others : name ∉ secretBlobs → n.get? name = n'.get? name)
    (password : name = Credentials.passwordBlob →
      EqualOrBoth Credentials.IsPassword (Blob.textIn n name) (Blob.textIn n' name)) :
    n.Indistinct n' where
  others other plain := by
    by_cases same : other = name
    · exact same ▸ others (same ▸ plain)
    · rw [frame other same, frame' other same]
      exact h.others other plain
  password := by
    by_cases same : Credentials.passwordBlob = name
    · exact same ▸ password same.symm
    · unfold Blob.textIn
      rw [frame _ same, frame' _ same]
      exact h.password

/-- The same content is put into a blob. -/
lemma put (h : m.Indistinct m') (name : String) (content : Bytes) :
    (m.put name content).Indistinct (m'.put name content) :=
  h.of_change (fun _ other => get?_put_of_ne m other content)
    (fun _ other => get?_put_of_ne m' other content) (fun _ => by simp)
    fun _ => Or.inl (by simp [Blob.textIn])

/-- A blob is deleted. -/
lemma erase (h : m.Indistinct m') (name : String) :
    (m.erase name).Indistinct (m'.erase name) :=
  h.of_change (fun _ other => get?_erase_of_ne m other) (fun _ other => get?_erase_of_ne m' other)
    (fun _ => by simp) fun _ => Or.inl (by simp [Blob.textIn])

/-- Both maps get a password. -/
lemma put_password (h : m.Indistinct m') {a b : String} (first : Credentials.StorablePassword a)
    (second : Credentials.StorablePassword b) :
    (m.put Credentials.passwordBlob (Bytes.encodeUtf8 a)).Indistinct
      (m'.put Credentials.passwordBlob (Bytes.encodeUtf8 b)) := by
  have found : ∀ (n : BlobMap) {text : String}, Credentials.StorablePassword text →
      Blob.textIn (n.put Credentials.passwordBlob (Bytes.encodeUtf8 text))
        Credentials.passwordBlob = some text := by
    rintro n text ⟨fits, plain⟩
    rw [Blob.textIn, get?_put_self]
    exact Blob.textOf_encodeUtf8 (Credentials.textSize_ne_zero_of_fits fits) plain
  exact h.of_change (fun _ other => get?_put_of_ne m other _)
    (fun _ other => get?_put_of_ne m' other _) (fun plain => absurd plain (by decide))
    fun _ => Or.inr ⟨a, b, found m first, found m' second, first.1, second.1⟩

/-- Both maps get a key. -/
lemma put_privateKey (h : m.Indistinct m') (content content' : Bytes) :
    (m.put IdentityItem.privateKey.blob content).Indistinct
      (m'.put IdentityItem.privateKey.blob content') :=
  h.of_change (fun _ other => get?_put_of_ne m other _) (fun _ other => get?_put_of_ne m' other _)
    (fun plain => absurd plain (by decide)) fun same => absurd same (by decide)

/-- A request about another blob gets the same answer from both. -/
lemma answer (h : m.Indistinct m') {r : BlobRequest} (plain : r.name ∉ secretBlobs) :
    (m.answer r).2 = (m'.answer r).2 ∧ (m.answer r).1.Indistinct (m'.answer r).1 := by
  have found : m.get? r.name = m'.get? r.name := h.others r.name plain
  cases r with
  | read name => exact ⟨congrArg Except.ok found, h⟩
  | size name =>
    exact ⟨congrArg (fun old : Option Bytes => (.ok (old.getD []).length : Stored Nat)) found, h⟩
  | write name content => exact ⟨rfl, h.put name content⟩
  | append name content =>
    have same : (m'.get? name).getD [] ++ content = (m.get? name).getD [] ++ content :=
      congrArg (fun old => old.getD [] ++ content) found.symm
    have later : (m.put name ((m.get? name).getD [] ++ content)).Indistinct
        (m'.put name ((m'.get? name).getD [] ++ content)) := by
      rw [same]
      exact h.put name _
    exact ⟨rfl, later⟩
  | remove name => exact ⟨rfl, h.erase name⟩

end BlobMap.Indistinct

/-! ## Two programs side by side -/

namespace Program

variable {α β γ δ : Type} {faults : FaultPlan} {R : α → β → Prop} {Q : γ → δ → Prop}

/-- On stores that differ in nothing but the secrets the programs come to related values, and their
stores differ in nothing else afterwards. -/
def Alike (faults : FaultPlan) (R : α → β → Prop) (p : Program Blobs α) (q : Program Blobs β) :
    Prop :=
  ∀ s t : FaultyStore, s.Indistinct t →
    R (s.serve faults p).1 (t.serve faults q).1 ∧
      (s.serve faults p).2.Indistinct (t.serve faults q).2

lemma alike_done {a : α} {b : β} (h : R a b) : Alike faults R (.done a) (.done b) :=
  fun _ _ alike => ⟨h, alike⟩

/-- Sequences are alike if their parts are. -/
lemma alike_bind {p : Program Blobs α} {q : Program Blobs β} {f : α → Program Blobs γ}
    {g : β → Program Blobs δ} (first : Alike faults R p q)
    (second : ∀ a b, R a b → Alike faults Q (f a) (g b)) :
    Alike faults Q (p >>= f) (q >>= g) := by
  intro s t alike
  rw [FaultyStore.serve_bind, FaultyStore.serve_bind]
  obtain ⟨values, stores⟩ := first s t alike
  exact second _ _ values _ _ stores

/-- A request to both stores that fails in both or is answered alike. -/
lemma alike_of_answers (r r' : BlobRequest) {R : r.Answer → r'.Answer → Prop}
    (verb : r.verb = r'.verb) (name : r.name = r'.name)
    (failed : ∀ reason, R (r.failed reason) (r'.failed reason))
    (served : ∀ m m' : BlobMap, m.Indistinct m' →
      R (m.answer r).2 (m'.answer r').2 ∧ (m.answer r).1.Indistinct (m'.answer r').1) :
    Alike faults R (request (S := Blobs) r) (request (S := Blobs) r') := by
  rintro s t ⟨same, blobs⟩
  show R (FaultyStore.answer faults r s).1 (FaultyStore.answer faults r' t).1 ∧
    (FaultyStore.answer faults r s).2.Indistinct (FaultyStore.answer faults r' t).2
  unfold FaultyStore.answer
  rw [same, verb, name]
  cases faults t.served r'.verb r'.name with
  | some reason => exact ⟨failed reason, rfl, blobs⟩
  | none =>
    obtain ⟨answers, later⟩ := served s.blobs t.blobs blobs
    exact ⟨answers, rfl, later⟩

/-- A program that does not touch a secret cannot tell the stores apart. -/
lemma alike_of_only {p : Program Blobs α}
    (plain : p.Only fun r => BlobRequest.name r ∉ secretBlobs) : Alike faults Eq p p := by
  induction plain with
  | done a => exact alike_done rfl
  | @ask r k other _ ih =>
    have answered : Alike faults Eq (request (S := Blobs) r) (request r) :=
      alike_of_answers r r rfl rfl (fun _ => rfl) fun _ _ alike => alike.answer other
    exact alike_bind answered fun x _ same => same ▸ ih x

/-- Two writes to one blob that leave the stores alike. -/
lemma alike_write {name : String} {content content' : Bytes}
    (h : ∀ m m' : BlobMap, m.Indistinct m' →
      (m.put name content).Indistinct (m'.put name content')) :
    Alike faults Eq (Blob.write name content).run (Blob.write name content').run :=
  alike_of_answers (.write name content) (.write name content') rfl rfl (fun _ => rfl)
    fun m m' alike => ⟨rfl, h m m' alike⟩

end Program

/-! ## Steps of a session side by side -/

/-- Both have failed for the same reason, or both have come to related values. -/
inductive SameOutcome {ε α β : Type} (R : α → β → Prop) : Except ε α → Except ε β → Prop
  /-- Both have a value. -/
  | ok {a : α} {b : β} (values : R a b) : SameOutcome R (.ok a) (.ok b)
  /-- Both have failed. -/
  | error (e : ε) : SameOutcome R (.error e) (.error e)

namespace Session

variable {α β γ δ : Type} {faults : FaultPlan} {R : α → β → Prop} {Q : γ → δ → Prop}

lemma Indistinct.refl (s : Session) : s.Indistinct s := ⟨rfl, rfl, Or.inl rfl, rfl⟩

/-- In sessions that differ in nothing but the password the steps come to the same outcome, and the
sessions differ in nothing else afterwards. -/
def AlikeSteps (faults : FaultPlan) (R : α → β → Prop) (m : Step α) (n : Step β) : Prop :=
  ∀ s s' : Session, s.Indistinct s' →
    Program.Alike faults (fun y y' => SameOutcome R y.1 y'.1 ∧ y.2.Indistinct y'.2) (m.run s)
      (n.run s')

section Rules

lemma alikeSteps_pure {a : α} {b : β} (h : R a b) :
    AlikeSteps faults R (pure a : Step α) (pure b : Step β) :=
  fun _ _ sessions => alike_done ⟨.ok h, sessions⟩

lemma alikeSteps_refuse (reason : CommandError) :
    AlikeSteps faults R (refuse reason : Step α) (refuse reason : Step β) :=
  fun _ _ sessions => alike_done ⟨.error reason, sessions⟩

/-- The sessions remember something that leaves them alike. -/
lemma alikeSteps_remember {change change' : Session → Session}
    (h : ∀ s s' : Session, s.Indistinct s' → (change s).Indistinct (change' s')) :
    AlikeSteps faults Eq (remember change) (remember change') :=
  fun _ _ sessions => alike_done ⟨.ok rfl, h _ _ sessions⟩

/-- Sequences of steps are alike if their steps are. -/
lemma alikeSteps_bind {m : Step α} {n : Step β} {f : α → Step γ} {g : β → Step δ}
    (first : AlikeSteps faults R m n) (second : ∀ a b, R a b → AlikeSteps faults Q (f a) (g b)) :
    AlikeSteps faults Q (m >>= f) (n >>= g) := by
  intro s s' sessions
  rw [run_bind, run_bind]
  refine alike_bind (first s s' sessions) ?_
  rintro ⟨_, t⟩ ⟨_, t'⟩ ⟨outcome, later⟩
  cases outcome with
  | ok values => exact second _ _ values t t' later
  | error e => exact alike_done ⟨.error e, later⟩

/-- Store operations that are alike make such steps. -/
lemma alikeSteps_store {explain : StoreError → CommandError} {p q : BlobProgram α}
    (h : Alike faults Eq p.run q.run) :
    AlikeSteps faults Eq (store explain p) (store explain q) := by
  intro s s' sessions
  rw [run_store, run_store]
  refine alike_bind h ?_
  rintro y _ rfl
  cases y with
  | ok a => exact alike_done ⟨.ok rfl, sessions⟩
  | error e => exact alike_done ⟨.error _, sessions⟩

/-- Questions to the store that are alike make such steps. -/
lemma alikeSteps_ask {p : Program Blobs α} {q : Program Blobs β} (h : Alike faults R p q) :
    AlikeSteps faults R (ask p) (ask q) :=
  fun _ _ sessions => alike_bind h fun _ _ values => alike_done ⟨.ok values, sessions⟩

/-- Steps whose success is all they have to say. -/
lemma alikeSteps_thenDone {m n : Step Unit} (h : AlikeSteps faults Eq m n) :
    AlikeSteps faults Eq (do m; return false : Step Bool) (do n; return false : Step Bool) :=
  alikeSteps_bind h fun _ _ _ => alikeSteps_pure rfl

end Rules

/-! ### Commands -/

/-- Passwords that are the same or accepted, with the same name, are checked alike. -/
lemma validate_congr {ssid a b : String} (first : Credentials.IsPassword a)
    (second : Credentials.IsPassword b) :
    Credentials.validate ⟨ssid, a⟩ = Credentials.validate ⟨ssid, b⟩ := by
  unfold Credentials.IsPassword at first second
  unfold Credentials.validate
  rw [first, second]
  rfl

/-- Saving the credentials of one network with two passwords. -/
lemma alike_save {ssid a b : String} (first : Credentials.StorablePassword a)
    (second : Credentials.StorablePassword b) :
    Alike faults Eq (Credentials.save ⟨ssid, a⟩).run (Credentials.save ⟨ssid, b⟩).run := by
  unfold Credentials.save
  rw [ExceptT.run_bind, ExceptT.run_bind]
  refine alike_bind (alike_write fun _ _ alike => alike.put _ _) ?_
  rintro y _ rfl
  cases y with
  | error e => exact alike_done rfl
  | ok _ => exact alike_write fun _ _ alike => alike.put_password first second

/-- Saving the same credentials. -/
lemma alike_save_self (c : Credentials) : Alike faults Eq c.save.run c.save.run := by
  unfold Credentials.save
  rw [ExceptT.run_bind]
  refine alike_bind (alike_write fun _ _ alike => alike.put _ _) ?_
  rintro y _ rfl
  cases y with
  | error e => exact alike_done rfl
  | ok _ => exact alike_write fun _ _ alike => alike.put _ _

lemma alikeSteps_storeCredentials {ssid a b : String} (first : Credentials.StorablePassword a)
    (second : Credentials.StorablePassword b) :
    AlikeSteps faults Eq (storeCredentials ⟨ssid, a⟩) (storeCredentials ⟨ssid, b⟩) := by
  unfold storeCredentials
  rw [validate_congr first.1 second.1]
  split
  · exact alikeSteps_refuse _
  · exact alikeSteps_store (alike_save first second)

lemma alikeSteps_storeCredentials_self (c : Credentials) :
    AlikeSteps faults Eq (storeCredentials c) (storeCredentials c) := by
  unfold storeCredentials
  split
  · exact alikeSteps_refuse _
  · exact alikeSteps_store (alike_save_self c)

/-- Both sessions have both halves, or neither has. -/
lemma alikeSteps_completeCredentials :
    AlikeSteps faults Eq completeCredentials completeCredentials := by
  rintro ⟨fallback, ssid, password, time⟩ ⟨_, _, password', _⟩ ⟨rfl, rfl, passwords, rfl⟩
  have rest : Session.Indistinct ⟨fallback, ssid, password, time⟩
      ⟨fallback, ssid, password', time⟩ := ⟨rfl, rfl, passwords, rfl⟩
  rw [run_completeCredentials, run_completeCredentials]
  cases ssid with
  | none => cases password <;> cases password' <;> exact alike_done ⟨.ok rfl, rest⟩
  | some ssid =>
    rcases passwords with rfl | ⟨a, b, rfl, rfl, first, second⟩
    · cases password with
      | none => exact alike_done ⟨.ok rfl, rest⟩
      | some a => exact alikeSteps_storeCredentials_self _ _ _ rest
    · exact alikeSteps_storeCredentials first second _ _ rest

/-- The sessions remember a half that is the same in both, or an accepted password. -/
lemma Indistinct.setHalf {s s' : Session} (h : s.Indistinct s') {half : Half} {a b : String}
    (texts : a = b ∨ half = .password ∧ Credentials.StorablePassword a ∧
      Credentials.StorablePassword b) : (s.setHalf half a).Indistinct (s'.setHalf half b) := by
  rcases texts with rfl | ⟨rfl, first, second⟩
  · cases half with
    | ssid => exact ⟨h.fallback, rfl, h.password, h.requestedTime⟩
    | password => exact ⟨h.fallback, h.ssid, Or.inl rfl, h.requestedTime⟩
  · exact ⟨h.fallback, h.ssid, Or.inr ⟨a, b, rfl, rfl, first, second⟩, h.requestedTime⟩

/-- A half of the credentials is set, the same in both or an accepted password. -/
lemma alikeSteps_execute_half (half : Half) {a b : String}
    (texts : a = b ∨ half = .password ∧ Credentials.StorablePassword a ∧
      Credentials.StorablePassword b) :
    AlikeSteps faults Eq (execute (half.command a)) (execute (half.command b)) := by
  have sizes : Credentials.fits half.limit a = Credentials.fits half.limit b := by
    rcases texts with rfl | ⟨rfl, first, second⟩
    · rfl
    · exact first.1.trans second.1.symm
  intro s s' sessions
  rw [run_execute_half, run_execute_half, sizes]
  split
  · exact alikeSteps_thenDone alikeSteps_completeCredentials _ _ (sessions.setHalf texts)
  · exact alike_done ⟨.error _, sessions⟩

/-- An item of the identity is stored, the same in both or a key. -/
lemma alikeSteps_storeItem {item : IdentityItem} {a b : String}
    (h : a = b ∨ item = .privateKey ∧ (Text.trim a).isEmpty = false ∧
      (Text.trim b).isEmpty = false) :
    AlikeSteps faults Eq (storeItem item a) (storeItem item b) := by
  unfold storeItem
  rcases h with rfl | ⟨rfl, first, second⟩
  · split
    · exact alikeSteps_refuse _
    · exact alikeSteps_store (alike_write fun _ _ alike => alike.put _ _)
  · rw [first, second]
    exact alikeSteps_store (alike_write fun _ _ alike => alike.put_privateKey _ _)

lemma alikeSteps_storeUuid (text : String) :
    AlikeSteps faults Eq (storeUuid text) (storeUuid text) := by
  unfold storeUuid
  split
  · exact alikeSteps_storeItem (Or.inl rfl)
  · exact alikeSteps_refuse _

/-- The configuration is no secret. -/
lemma alikeSteps_storeThresholds (update : ThresholdUpdate) :
    AlikeSteps faults Eq (storeThresholds update) (storeThresholds update) := by
  have load : Alike faults Eq HatchConfig.load HatchConfig.load := by
    refine alike_of_only (only_bind (only_request (by decide)) fun y => ?_)
    cases y <;> exact .done _
  refine alikeSteps_bind (alikeSteps_ask load) ?_
  rintro current _ rfl
  split
  · exact alikeSteps_store (alike_write fun _ _ alike => alike.put _ _)
  · exact alikeSteps_refuse _

/-- A text that is no secret is read alike. -/
lemma only_readText {name : String} (plain : name ∉ secretBlobs) :
    (Blob.readText name).Only fun r => BlobRequest.name r ∉ secretBlobs := by
  refine only_bind (only_request plain) fun y => ?_
  split <;> exact .done _

/-- The password is the same in both, or there are two that can be loaded. -/
lemma alike_readPassword :
    Alike faults (EqualOrBoth Credentials.IsPassword) (Blob.readText Credentials.passwordBlob)
      (Blob.readText Credentials.passwordBlob) := by
  refine alike_bind (R := fun y y' => EqualOrBoth Credentials.IsPassword
    (y.toOption.join.bind Blob.textOf) (y'.toOption.join.bind Blob.textOf)) ?_ fun y y' found => ?_
  · exact alike_of_answers (.read Credentials.passwordBlob) (.read Credentials.passwordBlob) rfl rfl
      (fun _ => Or.inl rfl) fun _ _ alike => ⟨alike.password, alike⟩
  · rcases y with _ | _ | _ <;> rcases y' with _ | _ | _ <;> exact alike_done found

/-- Whether there are credentials does not depend on the password. -/
lemma alike_loadCredentials :
    Alike faults (fun c c' : Option Credentials => c.isSome = c'.isSome) Credentials.load
      Credentials.load := by
  refine alike_bind (alike_of_only (only_readText (by decide))) ?_
  rintro ssid _ rfl
  cases ssid with
  | none => exact alike_done rfl
  | some ssid =>
    refine alike_bind alike_readPassword ?_
    rintro password _ (rfl | ⟨a, b, rfl, rfl, first, second⟩)
    · cases password <;> exact alike_done rfl
    · refine alike_done ?_
      unfold Credentials.accept
      rw [validate_congr first second]
      split <;> rfl

/-- Commands that differ in a secret come to the same outcome. -/
lemma alikeSteps_execute {c c' : Command} (h : c.Indistinct c') :
    AlikeSteps faults Eq (execute c) (execute c') := by
  cases h with
  | password first second => exact alikeSteps_execute_half .password (Or.inr ⟨rfl, first, second⟩)
  | privateKey first second =>
    exact alikeSteps_thenDone (alikeSteps_storeItem (Or.inr ⟨rfl, first, second⟩))
  | same =>
    cases c with
    | setSsid text => exact alikeSteps_execute_half .ssid (Or.inl rfl)
    | setPassword text => exact alikeSteps_execute_half .password (Or.inl rfl)
    | setCertificate text => exact alikeSteps_thenDone (alikeSteps_storeItem (Or.inl rfl))
    | setPrivateKey text => exact alikeSteps_thenDone (alikeSteps_storeItem (Or.inl rfl))
    | setRootCa text => exact alikeSteps_thenDone (alikeSteps_storeItem (Or.inl rfl))
    | setUuid text => exact alikeSteps_thenDone (alikeSteps_storeUuid text)
    | setTime time =>
      exact alikeSteps_thenDone (alikeSteps_remember fun _ _ alike =>
        ⟨alike.fallback, alike.ssid, alike.password, rfl⟩)
    | setThresholds update => exact alikeSteps_thenDone (alikeSteps_storeThresholds update)
    | startMeasuring =>
      refine alikeSteps_bind (alikeSteps_ask alike_loadCredentials) fun found found' same => ?_
      cases found <;> cases found'
      · exact alikeSteps_refuse _
      · exact nomatch same
      · exact nomatch same
      · exact alikeSteps_pure rfl

/-! ### Writes and reads -/

/-- The effects are the same, and the sessions differ in nothing but the password. -/
def AlikeEffects (y y' : WriteEffect × Session) : Prop := y.1 = y'.1 ∧ y.2.Indistinct y'.2

variable {session session' : Session}

/-- Messages that differ in a secret have the same effect. -/
lemma alike_handle (sessions : session.Indistinct session') (id : UInt32) {c c' : Command}
    (commands : c.Indistinct c') :
    Alike faults AlikeEffects (handle session ⟨id, .command c⟩)
      (handle session' ⟨id, .command c'⟩) := by
  refine alike_bind (alikeSteps_execute commands session session' sessions) ?_
  rintro ⟨_, t⟩ ⟨_, t'⟩ ⟨outcome, later⟩
  cases outcome with
  | ok values => exact alike_done ⟨by rw [values], later⟩
  | error e => exact alike_done ⟨rfl, later⟩

/-- Storing bare credentials has the same effect if the steps that store them are alike. -/
lemma alike_handleBare (sessions : session.Indistinct session') {payload payload' : Bytes}
    {c c' : Credentials} (first : Credentials.ofPayload payload = .ok c)
    (second : Credentials.ofPayload payload' = .ok c')
    (stored : AlikeSteps faults Eq (storeCredentials c) (storeCredentials c')) :
    Alike faults AlikeEffects (handleBare session payload) (handleBare session' payload') := by
  unfold handleBare
  rw [first, second]
  refine alike_bind (stored session session' sessions) ?_
  rintro ⟨_, t⟩ ⟨_, t'⟩ ⟨outcome, later⟩
  cases outcome with
  | ok _ => exact alike_done ⟨rfl, later⟩
  | error e => exact alike_done ⟨rfl, later⟩

/-- Writes that differ in a secret have the same effect. -/
lemma alike_sessionWrite (sessions : session.Indistinct session') {payload payload' : Bytes}
    (writes : IndistinctWrites payload payload') :
    Alike faults AlikeEffects (session.write payload) (session'.write payload') := by
  unfold write
  cases writes with
  | message first second commands =>
    rw [first, second]
    exact alike_handle sessions _ commands
  | bare noMessage noMessage' first second password password' =>
    rw [noMessage, noMessage']
    exact alike_handleBare sessions first second (alikeSteps_storeCredentials password password')
  | ignored noMessage noMessage' first second =>
    rw [noMessage, noMessage']
    unfold handleBare
    rw [first, second]
    exact alike_done ⟨rfl, sessions⟩
  | same =>
    cases ClientMessage.ofPayload? payload with
    | some message =>
      obtain ⟨id, c | _⟩ := message
      · exact alike_handle sessions id (.same c)
      · exact alike_done ⟨rfl, sessions⟩
    | none =>
      cases given : Credentials.ofPayload payload with
      | ok c => exact alike_handleBare sessions given given (alikeSteps_storeCredentials_self c)
      | error e =>
        unfold handleBare
        rw [given]
        exact alike_done ⟨rfl, sessions⟩

/-- The identity that a client reads is no secret. -/
lemma alike_read (sessions : session.Indistinct session') :
    Alike faults Eq session.read session'.read := by
  unfold read cloudName
  rw [sessions.fallback]
  exact alike_of_only (only_bind (only_bind (only_readText (by decide)) fun _ => .done _)
    fun _ => .done _)

end Session

/-! ## What a client sees -/

/-- What a client does while a session is open. -/
inductive ClientAct where
  /-- Write a payload. -/
  | write (payload : Bytes)
  /-- Read the identity. -/
  | read

/-- The acts differ in nothing but a secret that is accepted in both. -/
inductive ClientAct.Indistinct : ClientAct → ClientAct → Prop
  /-- Both are writes. -/
  | write {payload payload' : Bytes} (writes : IndistinctWrites payload payload') :
      Indistinct (.write payload) (.write payload')
  /-- Both are reads. -/
  | read : Indistinct .read .read

/-- What there is to see after an act, apart from the secrets. -/
structure View where
  /-- What the client was told. -/
  reply : Option String
  /-- The signals. -/
  bits : SignalBits
  /-- All blobs that are no secrets. -/
  blobs : String → Option Bytes

/-- A session, with the register and the store it works on. -/
structure AttendedSession where
  session : Session
  bits : SignalBits
  store : FaultyStore

namespace AttendedSession

/-- What the session shows. -/
def view (a : AttendedSession) (reply : Option String) : View :=
  ⟨reply, a.bits, fun name => if name ∈ secretBlobs then none else a.store.blobs.get? name⟩

/-- The session after an act, with what the client was told. -/
def after (faults : FaultPlan) (a : AttendedSession) :
    ClientAct → AttendedSession × Option String
  | .write payload =>
    match a.store.serve faults (a.session.write payload) with
    | ((effect, session), store) =>
      (⟨session, effect.raised a.bits, store⟩, effect.reply.map Reply.toText)
  | .read =>
    match a.store.serve faults a.session.read with
    | (identity, store) => ({ a with store }, some identity)

/-- What there is to see after each of the acts. -/
def views (faults : FaultPlan) (a : AttendedSession) : List ClientAct → List View
  | [] => []
  | act :: acts =>
    match a.after faults act with
    | (later, reply) => later.view reply :: later.views faults acts

/-- A session that has just been opened. -/
def opened (fallback : String) (bits : SignalBits) (m : BlobMap) : AttendedSession :=
  ⟨.start fallback, bits, ⟨m, 0⟩⟩

/-- The sessions differ in nothing but the secrets. -/
structure Indistinct (a b : AttendedSession) : Prop where
  session : a.session.Indistinct b.session
  bits : a.bits = b.bits
  store : a.store.Indistinct b.store

variable {a b : AttendedSession}

/-- Sessions that differ in nothing but the secrets show the same. -/
lemma Indistinct.view_eq (h : a.Indistinct b) (reply : Option String) :
    a.view reply = b.view reply := by
  unfold view
  rw [h.bits]
  congr 1
  funext name
  split
  · rfl
  · next plain => exact h.store.blobs.others name plain

/-- After an act that differs in a secret the client was told the same, and the sessions differ in
nothing but the secrets. -/
lemma Indistinct.after (h : a.Indistinct b) (faults : FaultPlan) {act act' : ClientAct}
    (acts : act.Indistinct act') :
    (a.after faults act).2 = (b.after faults act').2 ∧
      (a.after faults act).1.Indistinct (b.after faults act').1 := by
  cases acts with
  | write writes =>
    have written : Alike faults Session.AlikeEffects _ _ :=
      Session.alike_sessionWrite h.session writes
    obtain ⟨⟨effects, sessions⟩, stores⟩ := written _ _ h.store
    refine ⟨?_, sessions, ?_, stores⟩
    · exact congrArg (fun effect : WriteEffect => effect.reply.map Reply.toText) effects
    · exact congrArg₂ WriteEffect.raised effects h.bits
  | read =>
    have read : Alike faults Eq _ _ := Session.alike_read h.session
    obtain ⟨identities, stores⟩ := read _ _ h.store
    exact ⟨congrArg some identities, h.session, h.bits, stores⟩

/-- Along acts that differ in secrets the sessions show the same after each of them. -/
lemma Indistinct.views_eq (h : a.Indistinct b) (faults : FaultPlan) {acts acts' : List ClientAct}
    (same : List.Forall₂ ClientAct.Indistinct acts acts') :
    a.views faults acts = b.views faults acts' := by
  induction same generalizing a b with
  | nil => rfl
  | cons first _ ih =>
    obtain ⟨replies, later⟩ := h.after faults first
    unfold views
    dsimp only
    rw [replies, later.view_eq, ih later]

end AttendedSession

/-- The secrets do not flow back.  Two sessions begin on stores that differ in nothing but the
password of the network, which both can load or neither has, and the key; they meet the same
failures of the store, and are told the same except for passwords and keys that are accepted in
both.  Then after every act the replies and the identity read are the same, and so are the signals
and all blobs that are no secrets. -/
theorem secrets_do_not_flow_back (faults : FaultPlan) (fallback : String) (bits : SignalBits)
    {m m' : BlobMap} (stores : m.Indistinct m') {acts acts' : List ClientAct}
    (told : List.Forall₂ ClientAct.Indistinct acts acts') :
    (AttendedSession.opened fallback bits m).views faults acts
      = (AttendedSession.opened fallback bits m').views faults acts' := by
  have opened : (AttendedSession.opened fallback bits m).Indistinct
      (AttendedSession.opened fallback bits m') := ⟨.refl _, rfl, rfl, stores⟩
  exact opened.views_eq faults told

/-- The message that sets a password. -/
def passwordMessage (text : String) : Bytes :=
  Bytes.encodeUtf8
    ("\x7b\"id\":3,\"command\":\x7b\"setWifiPassword\":" ++ Json.writeString text
      ++ "\x7d\x7d")

/-- A client that sets a password, with a name that goes before it, and reads the identity. -/
def settingUp (password : String) : List ClientAct :=
  [.write Session.nameMessage, .write (passwordMessage password), .read,
    .write (passwordMessage password), .write Session.startMessage]

/-- The second request meets a full store. -/
def fullOnce : FaultPlan := fun served _ name =>
  if served = 1 then some (.backend ("no space for " ++ name)) else none

/-- A store with another password, and with a key. -/
def otherNetwork : BlobMap :=
  (Credentials.savedIn ⟨"old", "another secret"⟩ .empty).put IdentityItem.privateKey.blob [107]

/-- Neither the stored passwords nor the new ones can be told from what is shown, although a write
of the password has failed. -/
theorem views_of_two_passwords :
    Session.knownNetwork.Indistinct otherNetwork ∧
      List.Forall₂ ClientAct.Indistinct (settingUp "alpha") (settingUp "a longer one") ∧
      Session.knownNetwork.get? Credentials.passwordBlob
        ≠ otherNetwork.get? Credentials.passwordBlob ∧
      ((AttendedSession.opened "hatch" .none Session.knownNetwork).views fullOnce
        (settingUp "alpha")).map View.reply
        = [some "\x7b\"id\":1,\"type\":\"commandResult\",\"status\":\"success\"\x7d",
          some ("\x7b\"id\":3,\"type\":\"commandResult\",\"status\":\"error\",\"error\":"
            ++ "\"Failed to save WiFi credentials: Storage backend error: "
            ++ "no space for wifi_pass\"\x7d"),
          some "\x7b\"uuid\":\"hatch\"\x7d",
          some "\x7b\"id\":3,\"type\":\"commandResult\",\"status\":\"success\"\x7d",
          some "\x7b\"id\":2,\"type\":\"commandResult\",\"status\":\"success\"\x7d"] ∧
      (AttendedSession.opened "hatch" .none Session.knownNetwork).views fullOnce (settingUp "alpha")
        = (AttendedSession.opened "hatch" .none otherNetwork).views fullOnce
          (settingUp "a longer one") := by
  have storable : ∀ text ∈ ["secret", "another secret", "alpha", "a longer one"],
      Credentials.fits Half.password.limit text = true ∧ '\x00' ∉ text.toList := by
    decide +kernel
  have stores : Session.knownNetwork.Indistinct otherNetwork := by
    have networks : Session.knownNetwork.Indistinct
        (Credentials.savedIn ⟨"old", "another secret"⟩ .empty) :=
      BlobMap.Indistinct.put_password (.refl _) (storable _ (by simp)) (storable _ (by simp))
    refine ⟨fun name plain => ?_, networks.password⟩
    have other : name ≠ IdentityItem.privateKey.blob := by
      rintro rfl
      exact plain (by decide)
    exact (networks.others name plain).trans (BlobMap.get?_put_of_ne _ other _).symm
  have first : Credentials.StorablePassword "alpha" := storable _ (by simp)
  have second : Credentials.StorablePassword "a longer one" := storable _ (by simp)
  have said : ∀ text ∈ ["alpha", "a longer one"], ClientMessage.ofPayload? (passwordMessage text)
      = some ⟨3, .command (.setPassword text)⟩ := by
    decide +kernel
  have write : ClientAct.Indistinct (.write (passwordMessage "alpha"))
      (.write (passwordMessage "a longer one")) :=
    .write (.message (said _ (by simp)) (said _ (by simp)) (.password first second))
  have told : List.Forall₂ ClientAct.Indistinct (settingUp "alpha") (settingUp "a longer one") :=
    .cons (.write (.same _)) <| .cons write <| .cons .read <| .cons write <|
      .cons (.write (.same _)) .nil
  exact ⟨stores, told, by decide +kernel, by decide +kernel,
    secrets_do_not_flow_back fullOnce "hatch" .none stores told⟩

end HatchSensor
