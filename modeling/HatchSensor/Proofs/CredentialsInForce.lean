import HatchSensor.Proofs.Acknowledged
import HatchSensor.Proofs.Commands
import HatchSensor.Proofs.StoredCredentials

/-!
# The credentials a session leaves in force

A session is followed write by write, from any content of the store.  It remembers the halves that
were sent alone, and the store holds what the acknowledgements leave in force: `Session.Accounted`.
A client that may start to measure therefore finds `Ack.inForce` in the store, and by
`Ack.latest_iff_harmless` this is what it was told last exactly if no lone half does harm.
-/

namespace HatchSensor

open Program

/-! ## Halves in a session -/

namespace Session

def half (session : Session) : Half → Option String
  | .ssid => session.ssid
  | .password => session.password

def setHalf (session : Session) : Half → String → Session
  | .ssid, text => { session with ssid := some text }
  | .password, text => { session with password := some text }

lemma half_setHalf (session : Session) (half one : Half) (text : String) :
    (session.setHalf half text).half one = if half = one then some text else session.half one := by
  cases half <;> cases one <;> rfl

/-- What holds of the remembered halves and of the new one still holds. -/
lemma forall_setHalf {P : Half → String → Prop} {session : Session} {half : Half} {text : String}
    (new : P half text) (old : ∀ one said, session.half one = some said → P one said) (one : Half)
    (said : String) (there : (session.setHalf half text).half one = some said) : P one said := by
  rw [half_setHalf] at there
  split at there
  · next same =>
    obtain rfl := Option.some.inj there
    exact same ▸ new
  · exact old one said there

end Session

namespace Half

/-- The command that sends this half alone. -/
def command : Half → String → Command
  | ssid, text => .setSsid text
  | password, text => .setPassword text

/-- A text of this half has a wrong size. -/
def sizeError : Half → CommandError
  | ssid => .ssidSize
  | password => .passwordSize

/-- The text can be stored and read back as this half. -/
def Storable (half : Half) (text : String) : Prop :=
  Credentials.fits half.limit text = true ∧ '\x00' ∉ text.toList

end Half

/-- The half that a command sends alone. -/
def Command.half? : Command → Option (Half × String)
  | setSsid text => some (.ssid, text)
  | setPassword text => some (.password, text)
  | _ => none

lemma Command.eq_of_half? {command : Command} {half : Half} {text : String}
    (h : command.half? = some (half, text)) : command = half.command text := by
  cases command with
  | setSsid said =>
    obtain ⟨rfl, rfl⟩ := Prod.mk.inj (Option.some.inj h)
    rfl
  | setPassword said =>
    obtain ⟨rfl, rfl⟩ := Prod.mk.inj (Option.some.inj h)
    rfl
  | _ => exact nomatch h

namespace Session

variable {refuses : BlobRequest → Prop} {session later : Session} {m m' m₀ : BlobMap}
  {d : Dialogue Blobs} {c : Credentials}

/-! ## Commands with a half -/

/-- Credentials that are stored are acceptable, and others change nothing. -/
lemma returns_storeCredentials (writable : BlobMap.Writable refuses)
    {y : Except CommandError Unit}
    (h : Returns (BlobMap.Answers refuses) ((storeCredentials c).run session) m d (y, later) m') :
    later = session ∧
      ((c.validate = .ok () ∧ y = .ok () ∧ m' = c.savedIn m) ∨
        (c.validate ≠ .ok () ∧ (∃ e, y = .error e) ∧ m' = m)) := by
  unfold storeCredentials at h
  split at h
  · next e invalid =>
    obtain ⟨-, same, rfl⟩ := returns_done.mp h
    obtain ⟨rfl, rfl⟩ := Prod.mk.inj same
    refine ⟨rfl, Or.inr ⟨?_, ⟨_, rfl⟩, rfl⟩⟩
    rw [invalid]
    exact nofun
  · next valid =>
    obtain ⟨result, saved, rfl, rfl⟩ := returns_store h
    obtain ⟨rfl, rfl⟩ := Credentials.returns_save writable saved
    exact ⟨rfl, Or.inl ⟨valid, rfl, rfl⟩⟩

/-- Both halves are stored as soon as they are there. -/
lemma run_completeCredentials (session : Session) :
    completeCredentials.run session = match Credentials.ofHalves session.half with
      | some c => (storeCredentials c).run session
      | none => .done (.ok (), session) := by
  obtain ⟨fallback, ssid, password, requested⟩ := session
  cases ssid <;> cases password <;> rfl

/-- A half of a wrong size is refused, and any other is remembered before anything is stored. -/
lemma execute_half (half : Half) (text : String) :
    execute (half.command text) = (do
      if !Credentials.fits half.limit text then refuse half.sizeError
      remember fun s => s.setHalf half text
      completeCredentials
      return false : Step Bool) := by
  cases half <;> rfl

lemma run_execute_half (half : Half) (text : String) (session : Session) :
    (execute (half.command text)).run session =
      if Credentials.fits half.limit text then
        (do completeCredentials; return false : Step Bool).run (session.setHalf half text)
      else .done (.error half.sizeError, session) := by
  rw [execute_half]
  cases Credentials.fits half.limit text <;> rfl

/-- A half of the right size is taken, and both are stored as soon as they are there. -/
lemma returns_execute_half (writable : BlobMap.Writable refuses) {half : Half} {text : String}
    (sizes : ∀ one said, (session.setHalf half text).half one = some said →
      Credentials.fits one.limit said = true)
    {outcome : Except CommandError Bool}
    (executed : Returns (BlobMap.Answers refuses) ((execute (half.command text)).run session) m d
      (outcome, later) m') :
    outcome = .ok false ∧ later = session.setHalf half text ∧
      match Credentials.ofHalves later.half with
      | some c => c.validate = .ok () ∧ m' = c.savedIn m
      | none => m' = m := by
  have taken : (session.setHalf half text).half half = some text := by
    rw [half_setHalf, if_pos rfl]
  rw [run_execute_half, if_pos (sizes half text taken), run_bind] at executed
  obtain ⟨d₁, ⟨result, after⟩, m₁, d₂, -, complete, rest⟩ := returns_bind.mp executed
  rw [run_completeCredentials] at complete
  cases made : Credentials.ofHalves (session.setHalf half text).half with
  | none =>
    rw [made] at complete
    obtain ⟨-, same, rfl⟩ := returns_done.mp complete
    obtain ⟨rfl, rfl⟩ := Prod.mk.inj same
    obtain ⟨-, same, rfl⟩ := returns_done.mp rest
    obtain ⟨rfl, rfl⟩ := Prod.mk.inj same
    refine ⟨rfl, rfl, ?_⟩
    rw [made]
  | some c =>
    rw [made] at complete
    have parts := Credentials.ofHalves_eq_some_iff.mp made
    have valid : c.validate = .ok () := Credentials.validate_eq_ok_iff.mpr
      ⟨sizes .ssid c.ssid (parts .ssid), sizes .password c.password (parts .password)⟩
    obtain ⟨rfl, ⟨-, rfl, rfl⟩ | ⟨invalid, -⟩⟩ := returns_storeCredentials writable complete
    · obtain ⟨-, same, rfl⟩ := returns_done.mp rest
      obtain ⟨rfl, rfl⟩ := Prod.mk.inj same
      refine ⟨rfl, rfl, ?_⟩
      rw [made]
      exact ⟨valid, rfl⟩
    · exact absurd valid invalid

/-! ## The other commands -/

/-- Whatever the store answers, the step leaves the remembered halves alone. -/
def KeepsHalves {α : Type} (step : Step α) : Prop :=
  ∀ {refuses : BlobRequest → Prop} {session later : Session} {m m' : BlobMap}
    {d : Dialogue Blobs} {y : Except CommandError α},
    Returns (BlobMap.Answers refuses) (step.run session) m d (y, later) m' →
      later.half = session.half

section KeepsHalves

variable {α β : Type}

lemma keepsHalves_bind {step : Step α} {f : α → Step β} (first : KeepsHalves step)
    (second : ∀ a, KeepsHalves (f a)) : KeepsHalves (step >>= f) := by
  intro _ _ _ _ _ _ _ h
  rw [run_bind] at h
  obtain ⟨d₁, ⟨y, after⟩, m₁, d₂, -, one, two⟩ := returns_bind.mp h
  cases y with
  | ok a => exact (second a two).trans (first one)
  | error e =>
    obtain ⟨-, same, -⟩ := returns_done.mp two
    obtain ⟨-, rfl⟩ := Prod.mk.inj same
    exact first one

lemma keepsHalves_pure (a : α) : KeepsHalves (pure a : Step α) := by
  intro _ _ _ _ _ _ _ h
  obtain ⟨-, same, -⟩ := returns_done.mp h
  exact congrArg half (Prod.mk.inj same).2

lemma keepsHalves_refuse (reason : CommandError) : KeepsHalves (refuse reason : Step α) := by
  intro _ _ _ _ _ _ _ h
  obtain ⟨-, same, -⟩ := returns_done.mp h
  exact congrArg half (Prod.mk.inj same).2

lemma keepsHalves_remember {change : Session → Session}
    (h : ∀ session, (change session).half = session.half) : KeepsHalves (remember change) := by
  intro _ session _ _ _ _ _ done
  obtain ⟨-, same, -⟩ := returns_done.mp done
  exact (congrArg half (Prod.mk.inj same).2).trans (h session)

lemma keepsHalves_store {explain : StoreError → CommandError} {p : BlobProgram α} :
    KeepsHalves (store explain p) := by
  intro _ _ _ _ _ _ _ h
  obtain ⟨-, -, rfl, -⟩ := returns_store h
  rfl

lemma keepsHalves_ask {p : Program Blobs α} : KeepsHalves (ask p) := by
  intro _ _ _ _ _ _ _ h
  obtain ⟨d₁, a, m₁, d₂, -, -, done⟩ := returns_bind.mp h
  obtain ⟨-, same, -⟩ := returns_done.mp done
  exact congrArg half (Prod.mk.inj same).2

end KeepsHalves

lemma keepsHalves_storeItem (item : IdentityItem) (text : String) :
    KeepsHalves (storeItem item text) := by
  unfold storeItem
  split
  · exact keepsHalves_refuse _
  · exact keepsHalves_store

lemma keepsHalves_storeUuid (text : String) : KeepsHalves (storeUuid text) := by
  unfold storeUuid
  split
  · exact keepsHalves_storeItem _ _
  · exact keepsHalves_refuse _

lemma keepsHalves_storeThresholds (update : ThresholdUpdate) :
    KeepsHalves (storeThresholds update) := by
  refine keepsHalves_bind keepsHalves_ask fun current => ?_
  split
  · exact keepsHalves_store
  · exact keepsHalves_refuse _

lemma keepsHalves_thenDone {step : Step Unit} (h : KeepsHalves step) :
    KeepsHalves (do step; return false : Step Bool) :=
  keepsHalves_bind h fun _ => keepsHalves_pure _

/-- A command that sends no half leaves the halves alone. -/
lemma keepsHalves_execute {command : Command} (other : command.half? = none) :
    KeepsHalves (execute command) := by
  cases command with
  | setSsid text => exact nomatch other
  | setPassword text => exact nomatch other
  | setCertificate text =>
    rw [execute]
    exact keepsHalves_thenDone (keepsHalves_storeItem .certificate text)
  | setPrivateKey text =>
    rw [execute]
    exact keepsHalves_thenDone (keepsHalves_storeItem .privateKey text)
  | setRootCa text =>
    rw [execute]
    exact keepsHalves_thenDone (keepsHalves_storeItem .rootCa text)
  | setUuid text =>
    rw [execute]
    exact keepsHalves_thenDone (keepsHalves_storeUuid text)
  | setTime time =>
    rw [execute]
    refine keepsHalves_thenDone (keepsHalves_remember fun session => ?_)
    funext half
    cases half <;> rfl
  | setThresholds update =>
    rw [execute]
    exact keepsHalves_thenDone (keepsHalves_storeThresholds update)
  | startMeasuring =>
    rw [execute]
    refine keepsHalves_bind keepsHalves_ask fun found => ?_
    cases found with
    | none => exact keepsHalves_refuse _
    | some c => exact keepsHalves_pure _

/-- A command that sends no half leaves the stored credentials alone. -/
lemma stored_of_execute {command : Command} (other : command.half? = none)
    {outcome : Except CommandError Bool}
    (h : Returns (BlobMap.Answers refuses) ((execute command).run session) m d (outcome, later) m') :
    Credentials.stored m' = Credentials.stored m := by
  have elsewhere : Credentials.ssidBlob ∉ command.blobs ∧
      Credentials.passwordBlob ∉ command.blobs := by
    cases command with
    | setSsid text => exact nomatch other
    | setPassword text => exact nomatch other
    | _ =>
      simp only [Command.blobs]
      decide
  have within := changesOnly_execute command session
  exact Credentials.stored_congr (h.get?_eq within elsewhere.1) (h.get?_eq within elsewhere.2)

/-! ## Sessions -/

/-- What a write has told the client to be taken. -/
def acknowledged (payload : Bytes) (effect : WriteEffect) : Option Ack :=
  match ClientMessage.ofPayload? payload with
  | some ⟨id, .command command⟩ =>
    if effect.reply = some ⟨id, .done⟩ then
      command.half?.map fun (half, text) => .single half text
    else none
  | some ⟨_, .versionQuery⟩ => none
  | none =>
    if effect.finished then (Credentials.ofPayload payload).toOption.map .object else none

/-- A session on a store with the content `m₀` has served writes of a client, with these
acknowledgements. -/
inductive Served (refuses : BlobRequest → Prop) (fallback : String) (m₀ : BlobMap) :
    List Ack → Session → BlobMap → Prop
  /-- The session is opened. -/
  | opened : Served refuses fallback m₀ [] (.start fallback) m₀
  /-- The client writes. -/
  | written {acks : List Ack} {session later : Session} {m m' : BlobMap} {payload : Bytes}
      {d : Dialogue Blobs} {effect : WriteEffect} (before : Served refuses fallback m₀ acks session m)
      (write : Returns (BlobMap.Answers refuses) (session.write payload) m d (effect, later) m') :
      Served refuses fallback m₀ ((acknowledged payload effect).toList ++ acks) later m'

/-- The session remembers the halves that were sent alone, and the store holds what the
acknowledgements leave in force. -/
structure Accounted (initial : Option Credentials) (acks : List Ack) (session : Session)
    (m : BlobMap) : Prop where
  halves : ∀ half, session.half half = Ack.lastAlone half acks
  storable : ∀ half text, session.half half = some text → half.Storable text
  stored : Credentials.stored m = Ack.inForce initial acks

namespace Accounted

variable {initial : Option Credentials} {acks : List Ack}

lemma start (fallback : String) : Accounted (Credentials.stored m) [] (.start fallback) m := by
  refine ⟨fun half => ?_, fun half text said => ?_, rfl⟩
  · cases half <;> rfl
  · cases half <;> exact nomatch said

/-- Nothing was acknowledged. -/
lemma congr (h : Accounted initial acks session m) (halves : later.half = session.half)
    (stored : Credentials.stored m' = Credentials.stored m) : Accounted initial acks later m' := by
  refine ⟨?_, ?_, stored.trans h.stored⟩
  · rw [halves]
    exact h.halves
  · rw [halves]
    exact h.storable

/-- Once a half of the right size is set, all the remembered halves have the right size. -/
lemma sizes (h : Accounted initial acks session m) {half : Half} {text : String}
    (fits : Credentials.fits half.limit text = true) (one : Half) (said : String)
    (there : (session.setHalf half text).half one = some said) :
    Credentials.fits one.limit said = true :=
  forall_setHalf fits (fun one said remembered => (h.storable one said remembered).1) one said there

/-- A half is taken, and stored with the other half if that is remembered. -/
lemma single (writable : BlobMap.Writable refuses) (h : Accounted initial acks session m)
    {half : Half} {text : String} (storable : half.Storable text)
    {outcome : Except CommandError Bool}
    (executed : Returns (BlobMap.Answers refuses) ((execute (half.command text)).run session) m d
      (outcome, later) m') :
    Accounted initial (.single half text :: acks) later m' := by
  obtain ⟨-, rfl, kept⟩ := returns_execute_half writable (h.sizes storable.1) executed
  have halves : ∀ one, (session.setHalf half text).half one
      = Ack.lastAlone one (.single half text :: acks) := by
    intro one
    rw [half_setHalf]
    split
    · next same => rw [same, Ack.lastAlone_single_self]
    · next different => rw [Ack.lastAlone_of_ne different, h.halves]
  have remembered : ∀ one said, (session.setHalf half text).half one = some said →
      one.Storable said := forall_setHalf storable h.storable
  have paired : Credentials.ofHalves (session.setHalf half text).half
      = Ack.pair (.single half text :: acks) := congrArg Credentials.ofHalves (funext halves)
  refine ⟨halves, remembered, ?_⟩
  rw [paired] at kept
  cases made : Ack.pair (.single half text :: acks) with
  | none =>
    rw [made] at kept
    rw [kept, Ack.inForce, made, Option.none_or]
    exact h.stored
  | some c =>
    rw [made] at kept
    obtain ⟨valid, rfl⟩ := kept
    have parts := Credentials.ofHalves_eq_some_iff.mp (paired.trans made)
    rw [Ack.inForce_of_pair made]
    exact Credentials.stored_savedIn valid (remembered .ssid c.ssid (parts .ssid)).2
      (remembered .password c.password (parts .password)).2

/-- An object is stored, and the remembered halves are kept. -/
lemma object (h : Accounted initial acks session m) (valid : c.validate = .ok ())
    (plain : ∀ half : Half, '\x00' ∉ (half.of c).toList) :
    Accounted initial (.object c :: acks) session (c.savedIn m) :=
  ⟨h.halves, h.storable, Credentials.stored_savedIn valid (plain .ssid) (plain .password)⟩

/-- A command is carried out. -/
lemma command (writable : BlobMap.Writable refuses) (h : Accounted initial acks session m)
    {payload : Bytes} {id : UInt32} {command : Command} {effect : WriteEffect}
    (read : ClientMessage.ofPayload? payload = some ⟨id, .command command⟩)
    (plain : ∀ ack, acknowledged payload effect = some ack → ack.Plain)
    (handled : Returns (BlobMap.Answers refuses) (handle session ⟨id, .command command⟩) m d
      (effect, later) m') :
    Accounted initial ((acknowledged payload effect).toList ++ acks) later m' := by
  obtain ⟨outcome, executed, reply⟩ := returns_handle rfl handled
  cases sent : command.half? with
  | none =>
    have silent : acknowledged payload effect = none := by
      simp [acknowledged, read, sent]
    rw [silent]
    exact h.congr (keepsHalves_execute sent executed) (stored_of_execute sent executed)
  | some part =>
    obtain ⟨half, text⟩ := part
    obtain rfl := Command.eq_of_half? sent
    cases fits : Credentials.fits half.limit text with
    | false =>
      rw [run_execute_half, fits] at executed
      obtain ⟨-, same, rfl⟩ := returns_done.mp executed
      obtain ⟨rfl, rfl⟩ := Prod.mk.inj same
      have failed : effect.reply ≠ some ⟨id, .done⟩ := by
        intro done
        obtain ⟨finished, impossible⟩ := reply.mp done
        exact nomatch impossible
      have silent : acknowledged payload effect = none := by
        simp [acknowledged, read, failed]
      rw [silent]
      exact h
    | true =>
      obtain ⟨taken, -⟩ := returns_execute_half writable (h.sizes fits) executed
      have said : acknowledged payload effect = some (.single half text) := by
        simp [acknowledged, read, reply.mpr ⟨false, taken⟩, sent]
      rw [said]
      exact h.single writable ⟨fits, plain _ said half text (if_pos rfl)⟩ executed

/-- A bare object is taken, or nothing happens. -/
lemma bare (writable : BlobMap.Writable refuses) (h : Accounted initial acks session m)
    {payload : Bytes} {effect : WriteEffect} (read : ClientMessage.ofPayload? payload = none)
    (plain : ∀ ack, acknowledged payload effect = some ack → ack.Plain)
    (handled : Returns (BlobMap.Answers refuses) (handleBare session payload) m d
      (effect, later) m') :
    Accounted initial ((acknowledged payload effect).toList ++ acks) later m' := by
  unfold handleBare at handled
  cases given : Credentials.ofPayload payload with
  | error reason =>
    rw [given] at handled
    obtain ⟨-, same, rfl⟩ := returns_done.mp handled
    obtain ⟨rfl, rfl⟩ := Prod.mk.inj same
    have silent : acknowledged payload ⟨none, false, none⟩ = none := by
      simp [acknowledged, read]
    rw [silent]
    exact h
  | ok c =>
    rw [given] at handled
    obtain ⟨d₁, ⟨result, after⟩, m₁, d₂, -, storing, rest⟩ := returns_bind.mp handled
    obtain ⟨rfl, ⟨valid, rfl, rfl⟩ | ⟨-, ⟨e, rfl⟩, rfl⟩⟩ :=
      returns_storeCredentials writable storing
    · obtain ⟨-, same, rfl⟩ := returns_done.mp rest
      obtain ⟨rfl, rfl⟩ := Prod.mk.inj same
      have said : acknowledged payload ⟨none, true, none⟩ = some (.object c) := by
        simp [acknowledged, read, given, Except.toOption]
      rw [said]
      exact h.object valid fun half => plain _ said half _ rfl
    · obtain ⟨-, same, rfl⟩ := returns_done.mp rest
      obtain ⟨rfl, rfl⟩ := Prod.mk.inj same
      have silent : acknowledged payload ⟨none, false, some e⟩ = none := by
        simp [acknowledged, read]
      rw [silent]
      exact h

/-- Every write keeps the account. -/
lemma write (writable : BlobMap.Writable refuses) (h : Accounted initial acks session m)
    {payload : Bytes} {effect : WriteEffect}
    (plain : ∀ ack, acknowledged payload effect = some ack → ack.Plain)
    (written : Returns (BlobMap.Answers refuses) (session.write payload) m d (effect, later) m') :
    Accounted initial ((acknowledged payload effect).toList ++ acks) later m' := by
  unfold Session.write at written
  cases read : ClientMessage.ofPayload? payload with
  | none =>
    rw [read] at written
    exact h.bare writable read plain written
  | some message =>
    rw [read] at written
    obtain ⟨id, body⟩ := message
    cases body with
    | command command => exact h.command writable read plain written
    | versionQuery =>
      obtain ⟨-, same, rfl⟩ := returns_done.mp written
      obtain ⟨rfl, rfl⟩ := Prod.mk.inj same
      have silent : ∀ effect, acknowledged payload effect = none := by
        intro effect
        simp [acknowledged, read]
      rw [silent]
      exact h

end Accounted

/-- However the session goes, it is accounted for. -/
lemma Served.accounted (writable : BlobMap.Writable refuses) {fallback : String} {acks : List Ack}
    (served : Served refuses fallback m₀ acks session m) (plain : ∀ ack ∈ acks, ack.Plain) :
    Accounted (Credentials.stored m₀) acks session m := by
  induction served with
  | opened => exact .start fallback
  | @written acks session later m m' payload d effect before write ih =>
    have earlier := ih fun ack there => plain ack (List.mem_append_right _ there)
    refine earlier.write writable (fun ack said => ?_) write
    exact plain ack (List.mem_append_left _ (Option.mem_toList.mpr said))

/-- The client may start to measure only with credentials. -/
lemma stored_of_startMeasuring {payload : Bytes} {id : UInt32} {effect : WriteEffect}
    (start : ClientMessage.ofPayload? payload = some ⟨id, .command .startMeasuring⟩)
    (written : Returns (BlobMap.Answers refuses) (session.write payload) m d (effect, later) m')
    (success : effect.reply = some ⟨id, .done⟩) :
    m' = m ∧ ∃ c, Credentials.stored m = some c := by
  unfold write at written
  rw [start] at written
  obtain ⟨outcome, executed, reply⟩ := returns_handle rfl written
  obtain ⟨finished, rfl⟩ := reply.mp success
  rw [execute, run_ask_bind] at executed
  obtain ⟨d₁, found, m₁, d₂, -, load, rest⟩ := returns_bind.mp executed
  obtain ⟨rfl, -⟩ := Credentials.returns_load load
  cases found with
  | none =>
    obtain ⟨-, same, -⟩ := returns_done.mp rest
    exact absurd (Prod.mk.inj same).1 (by simp)
  | some c =>
    obtain ⟨-, -, rfl⟩ := returns_done.mp rest
    exact ⟨rfl, c, Credentials.stored_of_load load⟩

/-- Once the client may start to measure, the credentials that load are those that the
acknowledgements leave in force, and they are what was acknowledged last exactly if no lone half
does harm. -/
theorem latest_credentials_load_iff (writable : BlobMap.Writable refuses) {fallback : String}
    {acks : List Ack} (served : Served refuses fallback m₀ acks session m)
    (plain : ∀ ack ∈ acks, ack.Plain) {payload : Bytes} {id : UInt32} {effect : WriteEffect}
    (start : ClientMessage.ofPayload? payload = some ⟨id, .command .startMeasuring⟩)
    (written : Returns (BlobMap.Answers refuses) (session.write payload) m d (effect, later) m')
    (success : effect.reply = some ⟨id, .done⟩) :
    ∃ c, BlobMap.perform Credentials.load m' = (some c, m') ∧
      Ack.inForce (Credentials.stored m₀) acks = some c ∧
      (Ack.IsLatest acks c ↔ Ack.Harmless (Credentials.stored m₀) acks) := by
  obtain ⟨rfl, c, stored⟩ := stored_of_startMeasuring start written success
  have inForce := (served.accounted writable plain).stored.symm.trans stored
  refine ⟨c, ?_, inForce, Ack.latest_iff_harmless inForce⟩
  rw [Credentials.perform_load, stored]


/-! ### A network that was renamed -/

/-- The session serves writes, the newest first, with a store that refuses nothing. -/
def serve (fallback : String) (m₀ : BlobMap) : List Bytes → List Ack × Session × BlobMap
  | [] => ([], .start fallback, m₀)
  | payload :: earlier =>
    match serve fallback m₀ earlier with
    | (acks, session, m) =>
      match BlobMap.perform (session.write payload) m with
      | ((effect, later), m') => ((acknowledged payload effect).toList ++ acks, later, m')

lemma served_serve (fallback : String) (payloads : List Bytes) :
    Served refuses fallback m₀ (serve fallback m₀ payloads).1 (serve fallback m₀ payloads).2.1
      (serve fallback m₀ payloads).2.2 := by
  induction payloads with
  | nil => exact .opened
  | cons payload earlier ih =>
    rw [serve]
    revert ih
    rcases serve fallback m₀ earlier with ⟨acks, session, m⟩
    intro ih
    simp only
    rcases said : BlobMap.perform (session.write payload) m with ⟨⟨effect, later⟩, m'⟩
    obtain ⟨d, written⟩ : ∃ d, Returns (BlobMap.Answers refuses) (session.write payload) m d
        (effect, later) m' := BlobMap.returns_of_perform said
    exact .written ih written

/-- A store that knows a network. -/
def knownNetwork : BlobMap := Credentials.savedIn ⟨"old", "secret"⟩ .empty

def nameMessage : Bytes :=
  Bytes.encodeUtf8 "\x7b\"id\":1,\"command\":\x7b\"setWifiSsid\":\"new\"\x7d\x7d"

/-- The client sends a new name, and nothing else. -/
def renamed : List Ack × Session × BlobMap := serve "" knownNetwork [nameMessage]

def startMessage : Bytes := Bytes.encodeUtf8 "\x7b\"id\":2,\"command\":\"startMeasuring\"\x7d"

/-- Then it starts to measure. -/
def started : (WriteEffect × Session) × BlobMap :=
  BlobMap.perform (renamed.2.1.write startMessage) renamed.2.2

/-- The new name is acknowledged, and so is the start, but the old name is in force. -/
theorem acknowledged_name_is_not_in_force :
    BlobMap.Writable (fun _ => False) ∧
      Served (fun _ => False) "" knownNetwork renamed.1 renamed.2.1 renamed.2.2 ∧
      renamed.1 = [.single .ssid "new"] ∧ (∀ ack ∈ renamed.1, ack.Plain) ∧
      ClientMessage.ofPayload? startMessage = some ⟨2, .command .startMeasuring⟩ ∧
      started.1.1.reply = some ⟨2, .done⟩ ∧
      ∃ c, BlobMap.perform Credentials.load started.2 = (some c, started.2) ∧
        Ack.inForce (Credentials.stored knownNetwork) renamed.1 = some c ∧
        c = ⟨"old", "secret"⟩ ∧ ¬ Ack.IsLatest renamed.1 c := by
  have writable : BlobMap.Writable fun _ => False := fun _ _ => not_false
  have served : Served (fun _ => False) "" knownNetwork renamed.1 renamed.2.1 renamed.2.2 := by
    unfold renamed
    exact served_serve "" [nameMessage]
  have acks : renamed.1 = [.single .ssid "new"] := by decide +kernel
  have plain : ∀ ack ∈ renamed.1, ack.Plain := by
    rw [acks]
    intro ack there half text said
    obtain rfl := List.mem_singleton.mp there
    cases half with
    | ssid =>
      obtain rfl := Option.some.inj said
      decide
    | password => exact nomatch said
  have start : ClientMessage.ofPayload? startMessage = some ⟨2, .command .startMeasuring⟩ := by
    decide +kernel
  have success : started.1.1.reply = some ⟨2, .done⟩ := by decide +kernel
  refine ⟨writable, served, acks, plain, start, success, ?_⟩
  rcases said : started with ⟨⟨effect, later⟩, m'⟩
  obtain ⟨d, written⟩ : ∃ d, Returns (BlobMap.Answers fun _ => False)
      (renamed.2.1.write startMessage) renamed.2.2 d (effect, later) m' :=
    BlobMap.returns_of_perform said
  rw [said] at success
  obtain ⟨c, loads, inForce, -⟩ :=
    latest_credentials_load_iff writable served plain start written success
  have old : Ack.inForce (Credentials.stored knownNetwork) renamed.1 = some ⟨"old", "secret"⟩ := by
    decide +kernel
  obtain rfl := Option.some.inj (old.symm.trans inForce)
  refine ⟨_, loads, old, rfl, fun isLatest => ?_⟩
  rw [acks] at isLatest
  exact absurd (isLatest .ssid "new" rfl) (by decide)

end Session

end HatchSensor
