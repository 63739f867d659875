import HatchSensor.Proofs.World
import HatchSensor.Device.Lifecycle

/-!
# What a phase can touch

The footprint of a program names the blobs it can change and says whether it can open a session,
publish or put the device to sleep.  Everything else it asks for leaves the blobs alone, so that
most of the code of a phase drops out of a statement about the store.
-/

namespace HatchSensor

open Program

/-! ## Phases as programs -/

/-- A store program of a phase, piece by piece. -/
lemma onBlobs_bind {α β : Type} (p : Program Blobs α) (f : α → Program Blobs β) :
    onBlobs (p >>= f) = onBlobs p >>= fun a => onBlobs (f a) :=
  expand_bind _ p f

/-- A store program of a phase that may fail, piece by piece. -/
lemma onBlobs_run_bind {α β : Type} (p : BlobProgram α) (f : α → BlobProgram β) :
    onBlobs (p >>= f).run = onBlobs p.run >>= fun
      | .ok a => onBlobs (f a).run
      | .error e => .done (.error e) := by
  rw [ExceptT.run_bind, onBlobs_bind]
  congr 1
  funext y
  cases y <;> rfl

/-- An exchange with the store, as one of a phase. -/
def Exchange.ofBlobs (e : Exchange Blobs) : Exchange Surroundings :=
  ⟨DeviceRequest.blob e.request, e.answer⟩

/-- A phase comes as far with a store program as the program comes with the store. -/
lemma reaches_onBlobs {σ α : Type} {B : Behaviour Surroundings σ} {p : Program Blobs α}
    {q : Program Surroundings α} {s t : σ} {d : Dialogue Surroundings}
    (h : Reaches B (onBlobs p) s d q t) :
    ∃ d' q', Reaches (fun request => B (DeviceRequest.blob request)) p s d' q' t ∧
      d = d'.map Exchange.ofBlobs ∧ q = onBlobs q' := by
  induction p generalizing s d with
  | done a =>
    obtain ⟨rfl, rfl, rfl⟩ := reaches_done.mp h
    exact ⟨[], .done a, .rest _ _, rfl, rfl⟩
  | ask r k ih =>
    have first : onBlobs (.ask r k)
        = .ask (DeviceRequest.blob r) fun x => onBlobs (k x) := rfl
    rw [first] at h
    rcases reaches_ask.mp h with ⟨rfl, rfl, rfl⟩ | ⟨x, u, d₁, rfl, answered, later⟩
    · exact ⟨[], .ask r k, .rest _ _, rfl, rfl⟩
    · obtain ⟨d', q', rest, rfl, rfl⟩ := ih x later
      exact ⟨⟨r, x⟩ :: d', q', .ask answered rest, rfl, rfl⟩

namespace DeviceProgram

variable {α β : Type}

/-- A finished phase. -/
@[simp]
lemma run_pure (a : α) : (pure a : DeviceProgram α).run = .done (.ok a) := rfl

/-- A phase that first asks the surroundings. -/
@[simp]
lemma run_ask_bind (p : Program Surroundings α) (f : α → DeviceProgram β) :
    (DeviceProgram.ask p >>= f).run = p >>= fun a => (f a).run := by
  have first : (DeviceProgram.ask p).run = p >>= fun a => .done (.ok a) := rfl
  rw [ExceptT.run_bind, first, bind_assoc]
  rfl

/-- A phase that first carries out a store operation. -/
@[simp]
lemma run_store_bind (explain : StoreError → DeviceError) (p : BlobProgram α)
    (f : α → DeviceProgram β) :
    (DeviceProgram.store explain p >>= f).run = onBlobs p.run >>= fun
      | .ok a => (f a).run
      | .error e => .done (.error (explain e)) := by
  have first : (DeviceProgram.store explain p).run = onBlobs p.run >>= fun
      | .ok a => .done (.ok a)
      | .error e => .done (.error (explain e)) := rfl
  rw [ExceptT.run_bind, first, bind_assoc]
  congr 1
  funext y
  cases y <;> rfl

end DeviceProgram

/-- Nothing follows a stage at which the device is done. -/
lemma Lifecycle.advanceMany_of_isOver {device : DeviceSettings} {rounds : Nat}
    {stage : Stage} (isOver : stage.isOver = true) :
    Stage.advanceMany device rounds stage = .done stage := by
  cases rounds with
  | zero => rfl
  | succ n => rw [Stage.advanceMany, if_pos isOver]

/-- What holds of every piece of the life of the device, of a program that is over and of every
sequence of such programs, holds of a power period. -/
lemma Lifecycle.live_of_advance {P : Program Surroundings Stage → Prop} {device : DeviceSettings}
    (stops : ∀ stage, P (.done stage))
    (sequence : ∀ (p : Program Surroundings Stage) (k : Stage → Program Surroundings Stage),
      P p → (∀ stage, P (k stage)) → P (p >>= k))
    (piece : ∀ stage : Stage, P (stage.advance device)) (rounds periods : Nat) :
    P (live device rounds periods) := by
  have pieces : ∀ rounds (stage : Stage), P (Stage.advanceMany device rounds stage) := by
    intro rounds
    induction rounds with
    | zero => exact stops
    | succ rounds ih =>
      intro stage
      rw [Stage.advanceMany]
      split
      · exact stops stage
      · exact sequence _ _ (piece stage) ih
  induction periods with
  | zero => exact stops _
  | succ periods ih =>
    refine sequence _ _ (pieces rounds .awake) fun stage => ?_
    cases stage with
    | failed reason => exact stops _
    | awake => exact ih
    | settling requested remaining => exact ih
    | asleep seconds => exact ih

/-- A phase that comes to its end has had its store operation carried out. -/
lemma Program.returns_ok_of_store_bind {σ α β : Type} {B : Behaviour Surroundings σ} {s t : σ}
    {d : Dialogue Surroundings} {explain : StoreError → DeviceError} {p : BlobProgram α}
    {k : α → DeviceProgram β} {b : β}
    (h : Returns B (DeviceProgram.store explain p >>= k).run s d (.ok b) t) :
    ∃ d₁ a u d₂, d = d₁ ++ d₂ ∧ Returns B (onBlobs p.run) s d₁ (.ok a) u ∧
      Returns B (k a).run u d₂ (.ok b) t := by
  rw [DeviceProgram.run_store_bind] at h
  obtain ⟨d₁, y, u, d₂, rfl, stored, later⟩ := returns_bind.mp h
  cases y with
  | ok a => exact ⟨d₁, a, u, d₂, rfl, stored, later⟩
  | error e => exact nomatch (returns_done.mp later).2.1

/-! ## Footprints -/

/-- What a program can touch. -/
structure Footprint where
  /-- The blobs it can change. -/
  names : List String
  /-- It can open a session. -/
  opens : Bool
  /-- It can publish. -/
  publishes : Bool
  /-- It can put the device to sleep. -/
  sleeps : Bool

/-- The footprint of a program that can only look and talk. -/
def Footprint.none : Footprint := ⟨[], false, false, false⟩

/-- Whether a request stays within a footprint.  No phase raises a signal but the one that says that
a shadow document has arrived. -/
def Footprint.allows (f : Footprint) : DeviceRequest → Prop
  | .blob request => ∀ name, request.changes = some name → name ∈ f.names
  | .raise bits => bits = .shadowReceived
  | .openProvisioning _ => f.opens = true
  | .publish _ _ _ => f.publishes = true
  | .sleep _ => f.sleeps = true
  | _ => True

namespace Program

variable {α β : Type} {f : Footprint}

/-- The program stays within a footprint. -/
def Stays (f : Footprint) (p : Program Surroundings α) : Prop := p.Only f.allows

/-- What stays within a footprint stays within a wider one. -/
lemma Stays.widen {g : Footprint} {p : Program Surroundings α} (h : p.Stays f)
    (names : ∀ name ∈ f.names, name ∈ g.names) (opens : f.opens = true → g.opens = true)
    (publishes : f.publishes = true → g.publishes = true)
    (sleeps : f.sleeps = true → g.sleeps = true) : p.Stays g := by
  refine h.mono fun r allowed => ?_
  cases r with
  | blob request => exact fun name hit => names name (allowed name hit)
  | openProvisioning session => exact opens allowed
  | publish topic payload timeout => exact publishes allowed
  | sleep seconds => exact sleeps allowed
  | raise bits => exact allowed
  | _ => trivial

/-- The requests of a store program, as requests of a phase. -/
lemma only_onBlobs {P : BlobRequest → Prop} {Q : DeviceRequest → Prop} {p : Program Blobs α}
    (h : p.Only P) (imp : ∀ request, P request → Q (.blob request)) : (onBlobs p).Only Q := by
  have asks : ∀ request, P request → (Surroundings.ask (.blob request)).Only Q :=
    fun request holds => only_request (imp request holds)
  exact only_expand asks h

/-- A store program that changes some blobs stays within every footprint with these blobs. -/
lemma stays_onBlobs {p : Program Blobs α} {names : List String} (h : p.ChangesOnly names)
    (known : ∀ name ∈ names, name ∈ f.names) : (onBlobs p).Stays f :=
  only_onBlobs h fun _ changes name hit => known name (changes name hit)

/-- A store program that changes nothing stays within every footprint. -/
lemma stays_reading {p : Program Blobs α} (h : p.ChangesOnly []) : (onBlobs p).Stays f :=
  stays_onBlobs h fun _ hit => absurd hit List.not_mem_nil

/-- A store operation of a phase. -/
lemma only_store_bind {P : DeviceRequest → Prop} {explain : StoreError → DeviceError}
    {p : BlobProgram α} {k : α → DeviceProgram β} (first : (onBlobs p.run).Only P)
    (second : ∀ a, (k a).run.Only P) : (DeviceProgram.store explain p >>= k).run.Only P := by
  rw [DeviceProgram.run_store_bind]
  refine only_bind first fun y => ?_
  cases y with
  | ok a => exact second a
  | error e => exact .done _

/-- A question of a phase. -/
lemma only_ask_bind {P : DeviceRequest → Prop} {p : Program Surroundings α}
    {k : α → DeviceProgram β} (first : p.Only P) (second : ∀ a, (k a).run.Only P) :
    (DeviceProgram.ask p >>= k).run.Only P := by
  rw [DeviceProgram.run_ask_bind]
  exact only_bind first second

lemma stays_store_bind {explain : StoreError → DeviceError} {p : BlobProgram α}
    {k : α → DeviceProgram β} (first : (onBlobs p.run).Stays f)
    (second : ∀ a, (k a).run.Stays f) : (DeviceProgram.store explain p >>= k).run.Stays f :=
  only_store_bind first second

lemma stays_ask_bind {p : Program Surroundings α} {k : α → DeviceProgram β} (first : p.Stays f)
    (second : ∀ a, (k a).run.Stays f) : (DeviceProgram.ask p >>= k).run.Stays f :=
  only_ask_bind first second

end Program

/-! ## What a footprint says about the world -/

namespace World

variable {L : Licence} {f : Footprint} {α : Type} {p q : Program Surroundings α} {w w' : World}
  {d : Dialogue Surroundings} {name : String}

/-- An allowed request changes no blob outside the footprint. -/
lemma changes_of_allows {r : DeviceRequest} (h : f.allows r) (other : name ∉ f.names) :
    r.changes ≠ some name := by
  cases r with
  | blob request => exact fun hit => other (h name hit)
  | _ => simp [DeviceRequest.changes]

/-- A blob that is neither in the footprint nor one of a client keeps its content. -/
lemma get?_of_stays (h : Reaches (answers L) p w d q w') (stays : p.Stays f)
    (other : name ∉ f.names) (hidden : name ∉ Session.blobs) :
    w'.blobs.get? name = w.blobs.get? name := by
  refine h.keeps (I := fun v => v.blobs.get? name = w.blobs.get? name) ?_ stays rfl
  intro r u x v allowed answered same
  rw [answers_get?_eq answered (changes_of_allows allowed other) hidden, same]

/-- While no session is open and none is opened, the others change no blob, and the device changes
none outside its footprint. -/
lemma closed_of_stays (h : Reaches (answers L) p w d q w') (stays : p.Stays f)
    (opens : f.opens = false) (closed : w.session = none) :
    w'.session = none ∧ ∀ name, name ∉ f.names → w'.blobs.get? name = w.blobs.get? name := by
  refine h.keeps (I := fun v =>
    v.session = none ∧ ∀ name, name ∉ f.names → v.blobs.get? name = w.blobs.get? name) ?_ stays
    ⟨closed, fun _ _ => rfl⟩
  rintro r u x v allowed ⟨u', reply, others⟩ ⟨shut, same⟩
  suffices step : u'.session = none ∧
      ∀ name, name ∉ f.names → u'.blobs.get? name = u.blobs.get? name by
    obtain ⟨blobs, session, -⟩ := others.acts.of_closed step.1
    refine ⟨session, fun name other => ?_⟩
    rw [blobs, step.2 name other, same name other]
  cases r with
  | blob request =>
    obtain ⟨blobs, answered, rfl⟩ := reply
    exact ⟨shut, fun name other => answered.get?_eq fun hit => other (allowed name hit)⟩
  | park id mask deadline timer =>
    obtain ⟨blobs, session, -⟩ := reply.1.of_closed shut
    exact ⟨session, fun name _ => by rw [blobs]⟩
  | openProvisioning session => exact absurd (opens.symm.trans allowed) Bool.false_ne_true
  | sleep seconds =>
    obtain ⟨bits, rfl⟩ := reply
    exact ⟨rfl, fun _ _ => rfl⟩
  | closeProvisioning =>
    obtain rfl := reply
    exact ⟨rfl, fun _ _ => rfl⟩
  | raise | clear =>
    obtain rfl := reply
    exact ⟨shut, fun _ _ => rfl⟩
  | signals | look =>
    obtain ⟨-, rfl⟩ := reply
    exact ⟨shut, fun _ _ => rfl⟩
  | _ =>
    obtain rfl := reply
    exact ⟨shut, fun _ _ => rfl⟩

/-- A program that cannot put the device to sleep does not ask for it. -/
lemma not_asks_sleep {seconds : UInt32} (stays : p.Stays f) (awake : f.sleeps = false) :
    ¬ Asks (answers L) p w d (.sleep seconds) w' :=
  not_asks_of_only stays fun h => absurd (awake.symm.trans h) Bool.false_ne_true

end World

/-! ## Going online -/

section Online

variable {f : Footprint}

lemma stays_signals : Surroundings.signals.Stays f := only_request trivial

lemma stays_ticks : Surroundings.ticks.Stays f := only_request trivial

/-- Requests of a wait: its own, and those that look at the register. -/
def DeviceRequest.waits : DeviceRequest → Bool
  | .openWait | .instant | .look _ _ | .park _ _ _ _ | .signals | .closeWait _ => true
  | _ => false

lemma only_awaitSignal (mask : SignalBits) (timeout : Nat) :
    (awaitSignal mask timeout).Only fun r => DeviceRequest.waits r = true := by
  refine only_bind (only_request rfl) fun id => only_bind (only_request rfl) fun start =>
    only_bind (only_request rfl) fun found => ?_
  have closes : ∀ bits : SignalBits, (Surroundings.closeWait id >>= fun _ => pure bits).Only
      fun r => DeviceRequest.waits r = true :=
    fun bits => only_bind (only_request rfl) fun _ => .done _
  cases found with
  | some bits => exact closes bits
  | none =>
    refine only_bind (only_request rfl) fun wake => ?_
    cases wake with
    | signalled bits => exact closes bits
    | expired => exact only_bind (only_request rfl) closes
    | elapsed => exact only_bind (only_request rfl) closes

lemma stays_awaitSignal (mask : SignalBits) (timeout : Nat) :
    (awaitSignal mask timeout).Stays f := by
  refine (only_awaitSignal mask timeout).mono fun r waits => ?_
  cases r <;> trivial

/-- What going online asks for: the stored credentials, the network, the clock, and some waits. -/
def DeviceRequest.Links : DeviceRequest → Prop
  | .blob (.read name) => name ∈ [Credentials.ssidBlob, Credentials.passwordBlob]
  | .clear _ | .join _ _ | .time | .startTimeSync => True
  | r => r.waits = true

lemma DeviceRequest.links_of_waits {r : DeviceRequest} (h : r.waits = true) : r.Links := by
  cases r <;> first | exact h | exact trivial | exact absurd h Bool.false_ne_true

lemma DeviceRequest.Links.allows {r : DeviceRequest} (h : r.Links) : f.allows r := by
  cases r with
  | blob request =>
    cases request with
    | read name => exact nofun
    | _ => exact absurd h Bool.false_ne_true
  | raise | openProvisioning | publish | sleep => exact absurd h Bool.false_ne_true
  | _ => trivial

lemma only_awaitTime (interval retries : Nat) :
    (awaitTime interval retries).Only DeviceRequest.Links := by
  induction retries with
  | zero => exact .done _
  | succ retries ih =>
    refine only_bind ((only_awaitSignal _ _).mono fun _ => DeviceRequest.links_of_waits)
      fun bits => ?_
    split
    · exact .done _
    · refine only_bind (only_request trivial) fun now => ?_
      split
      · exact .done _
      · exact ih

lemma only_syncTime (timing : DeviceTiming) : (syncTime timing).Only DeviceRequest.Links := by
  refine only_bind (only_request trivial) fun now => ?_
  split
  · exact .done _
  · refine only_bind (only_request trivial) fun started => ?_
    cases started with
    | error e => exact .done _
    | ok _ => exact only_awaitTime _ _

lemma only_bringUp (timing : DeviceTiming) : (bringUp timing).Only DeviceRequest.Links := by
  refine only_bind (only_onBlobs Session.readsOnly_loadCredentials ?_) fun found => ?_
  · rintro _ ⟨name, known, rfl⟩
    exact known
  cases found with
  | none => exact .done _
  | some credentials =>
    refine only_bind (only_request trivial) fun _ =>
      only_bind (only_request trivial) fun joined => ?_
    cases joined with
    | error e => exact .done _
    | ok _ =>
      refine only_bind ((only_awaitSignal _ _).mono fun _ => DeviceRequest.links_of_waits)
        fun bits => ?_
      split
      · exact .done _
      · split
        · exact .done _
        · refine only_bind (only_syncTime _) fun set => ?_
          split
          · exact .done _
          · refine only_bind (only_request (DeviceRequest.links_of_waits rfl)) fun bits => ?_
            split
            · exact .done _
            · exact .done _

lemma stays_bringUp (timing : DeviceTiming) : (bringUp timing).Stays f :=
  (only_bringUp timing).mono fun _ links => links.allows

/-- What a shadow exchange asks for: the cloud, and the register as far as its own signal and some
waits are concerned. -/
def ShadowExchange.Talks (own : UInt32 → Prop) : DeviceRequest → Prop
  | .raise bits => bits = .shadowReceived
  | .clear bits => bits = .shadowReceived
  | .look id _ => own id
  | .park id _ _ _ => own id
  | .signals => True
  | .openWait => True
  | .closeWait _ => True
  | .instant => True
  | .connect _ _ => True
  | .requestShadow _ => True
  | .pump _ => True
  | .disconnect => True
  | _ => False

/-- What the conversation inside an open session asks for: all this, but no other session. -/
def ShadowExchange.Converses (own : UInt32 → Prop) : DeviceRequest → Prop
  | .connect _ _ => False
  | .disconnect => False
  | r => Talks own r

section Talks

variable {own : UInt32 → Prop}

lemma ShadowExchange.Talks.allows {r : DeviceRequest} (h : Talks own r) : f.allows r := by
  cases r <;> first | exact h | exact trivial | exact h.elim

lemma ShadowExchange.Converses.talks {r : DeviceRequest} (h : Converses own r) : Talks own r := by
  cases r <;> first | exact h | exact h.elim

lemma only_collect (current : HatchConfig) (received : Option HatchConfig)
    (documents : List Bytes) :
    (ShadowExchange.collect current received documents).Only (ShadowExchange.Converses own) := by
  induction documents generalizing received with
  | nil => exact .done _
  | cons document rest ih =>
    rw [ShadowExchange.collect]
    split
    · exact ih _
    · exact only_bind (only_request rfl) fun _ => ih _

lemma only_pumpAll (s : PumpSchedule) (current : HatchConfig) {id : UInt32} (mine : own id)
    (deadline pumps : Nat) (received : Option HatchConfig) :
    (ShadowExchange.pumpAll s current id deadline pumps received).Only
      (ShadowExchange.Converses own) := by
  induction pumps generalizing received with
  | zero => exact .done _
  | succ pumps ih =>
    refine only_bind (only_request trivial) fun pumped =>
      only_bind (only_collect _ _ _) fun received => ?_
    split
    · exact .done _
    · refine only_bind (only_request trivial) fun now =>
        only_bind (only_request mine) fun wake => ?_
      cases wake with
      | signalled bits => exact .done _
      | expired => exact .done _
      | elapsed => exact ih _

/-- What the conversation comes to once the session was pumped. -/
def ShadowExchange.conclude (id : UInt32) (pumped : Attempt (Option HatchConfig)) :
    Program Surroundings (Except ExchangeError ShadowOutcome) := do
  Surroundings.closeWait id
  match pumped with
  | .error reason => return .error (.pump reason)
  | .ok received =>
    let bits ← Surroundings.signals
    if bits.contains .resetRequested then return .ok .resetRequested
    else
      match received with
      | some config => return .ok (.updated config)
      | none => return .ok .notReceived

lemma only_conclude (id : UInt32) (pumped : Attempt (Option HatchConfig)) :
    (ShadowExchange.conclude id pumped).Only (ShadowExchange.Converses own) := by
  refine only_bind (only_request trivial) fun _ => ?_
  cases pumped with
  | error reason => exact .done _
  | ok received =>
    refine only_bind (only_request trivial) fun bits => ?_
    split
    · exact .done _
    · cases received with
      | none => exact .done _
      | some config => exact .done _

end Talks

lemma only_converse (s : PumpSchedule) (thing : String) (current : HatchConfig) :
    (ShadowExchange.converse s thing current).Only (ShadowExchange.Converses fun _ => True) := by
  refine only_bind (only_request trivial) fun requested => ?_
  cases requested with
  | error e => exact .done _
  | ok _ =>
    refine only_bind (only_request trivial) fun id => only_bind (only_request trivial) fun start =>
      only_bind (only_request trivial) fun found => ?_
    cases found with
    | some bits => exact only_conclude id (.ok none)
    | none => exact only_bind (only_pumpAll _ _ trivial _ _ _) (only_conclude id)

lemma only_fetch (s : PumpSchedule) (thing : String) (current : HatchConfig) :
    (ShadowExchange.fetch s thing current).Only (ShadowExchange.Talks fun _ => True) := by
  refine only_bind (only_request rfl) fun _ =>
    only_bind (only_request trivial) fun connected => ?_
  cases connected with
  | error e => exact .done _
  | ok _ =>
    exact only_bind ((only_converse _ _ _).mono fun _ inside => inside.talks) fun _ =>
      only_bind (only_request trivial) fun _ => only_bind (only_request rfl) fun _ => .done _

lemma stays_fetch (s : PumpSchedule) (thing : String) (current : HatchConfig) :
    (ShadowExchange.fetch s thing current).Stays f :=
  (only_fetch s thing current).mono fun _ talks => talks.allows

/-- The name of the device is read from its blob. -/
lemma readsOnly_cloudName (fallback : String) :
    (cloudName fallback).ReadsOnly [IdentityItem.uuid.blob] :=
  only_bind (Session.readsOnly_readText (List.mem_singleton.mpr rfl)) fun _ => .done _

lemma changesOnly_cloudName {names : List String} (fallback : String) :
    (cloudName fallback).ChangesOnly names :=
  (readsOnly_cloudName fallback).changesOnly

lemma stays_fetchShadow (device : DeviceSettings) (current : HatchConfig) :
    (fetchShadow device current).Stays f := by
  refine only_bind (stays_reading (changesOnly_cloudName _)) fun name =>
    only_bind (stays_fetch _ _ _) fun outcome => ?_
  cases outcome with
  | error e => exact .done _
  | ok outcome => exact .done _

end Online

/-! ## Phases -/

namespace Lifecycle

section Phases

variable {f : Footprint}

/-- A factory reset gives up the configuration and the credentials, and starts over. -/
lemma stays_factoryReset (config : HatchConfig.blob ∈ f.names)
    (ssid : Credentials.ssidBlob ∈ f.names) (password : Credentials.passwordBlob ∈ f.names)
    (phase : Phase.blob ∈ f.names) : factoryReset.run.Stays f := by
  have known : ∀ name ∈ f.names, name ∈ f.names := fun _ h => h
  exact stays_store_bind (stays_onBlobs (Blob.changesOnly_remove config) known) fun _ =>
    stays_store_bind (stays_onBlobs (only_run_bind (Blob.changesOnly_remove ssid)
      fun _ => Blob.changesOnly_remove password) known) fun _ =>
    stays_store_bind (stays_onBlobs (Blob.changesOnly_write phase) known) fun _ =>
    stays_ask_bind (only_request trivial) fun _ => .done _

/-- Setting the clock asks for the time that was left, and sets it. -/
lemma only_setRequestedTime {P : DeviceRequest → Prop} (takes : P .takeRequestedTime)
    (sets : ∀ time, P (.setTime time)) : setRequestedTime.Only P := by
  refine only_bind (only_request takes) fun requested => ?_
  cases requested with
  | none => exact .done _
  | some time => exact only_bind (only_request (sets time)) fun _ => .done _

lemma stays_setRequestedTime : setRequestedTime.Stays f :=
  only_setRequestedTime trivial fun _ => trivial

/-- Storing a phase. -/
lemma stays_savePhase (phase : Phase.blob ∈ f.names) (p : Phase) :
    (onBlobs (Phase.save p).run).Stays f :=
  stays_onBlobs (Blob.changesOnly_write phase) fun _ h => h

/-- What provisioning asks for: the transport, the clock, a wait, the credentials, and the phase. -/
def Provisions : DeviceRequest → Prop
  | .blob (.read name) => name ∈ [Credentials.ssidBlob, Credentials.passwordBlob]
  | .blob (.write name _) => name = Phase.blob
  | .clear _ | .openProvisioning _ | .closeProvisioning | .takeRequestedTime | .setTime _
  | .report _ => True
  | r => r.waits = true

lemma provisions_of_waits {r : DeviceRequest} (h : r.waits = true) : Provisions r := by
  cases r <;> first | exact h | exact trivial | exact absurd h Bool.false_ne_true

lemma only_provision (device : DeviceSettings) : (provision device).run.Only Provisions := by
  refine only_ask_bind (only_request trivial) fun _ =>
    only_ask_bind (only_request trivial) fun opened => ?_
  cases opened with
  | error e => exact only_ask_bind (only_request trivial) fun _ => .done _
  | ok _ =>
    refine only_ask_bind ((only_awaitSignal _ _).mono fun _ => provisions_of_waits) fun bits =>
      only_ask_bind (only_request trivial) fun _ =>
      only_ask_bind (only_setRequestedTime trivial fun _ => trivial) fun _ => ?_
    split
    · exact .done _
    · split
      · exact .done _
      · refine only_ask_bind (only_onBlobs Session.readsOnly_loadCredentials ?_) fun found => ?_
        · rintro _ ⟨name, known, rfl⟩
          exact known
        cases found with
        | none => exact .done _
        | some c =>
          have saves : (Phase.save .configuring).run.Only fun r =>
              r = BlobRequest.write Phase.blob (Bytes.ofWord Phase.configuring.word) :=
            only_request rfl
          refine only_ask_bind (only_request trivial) fun _ =>
            only_store_bind (only_onBlobs saves ?_) fun _ => .done _
          rintro _ rfl
          exact rfl

/-- Provisioning opens a session and stores the next phase. -/
lemma stays_provision (opens : f.opens = true) (phase : Phase.blob ∈ f.names)
    (device : DeviceSettings) : (provision device).run.Stays f := by
  refine (only_provision device).mono fun r allowed => ?_
  cases r with
  | blob request =>
    cases request with
    | read name => exact nofun
    | write name content =>
      obtain rfl : name = Phase.blob := allowed
      rintro _ ⟨⟩
      exact phase
    | _ => exact absurd allowed Bool.false_ne_true
  | openProvisioning session => exact opens
  | raise | publish | sleep => exact absurd allowed Bool.false_ne_true
  | _ => trivial

lemma stays_askForHatch (device : DeviceSettings) (current : HatchConfig) :
    (askForHatch device current).Stays f := by
  have leaves : ∀ outcome : Option ShadowOutcome,
      Stays f (Surroundings.leave >>= fun _ => pure outcome) :=
    fun outcome => only_bind (only_request trivial) fun _ => .done _
  refine only_bind (stays_bringUp _) fun status => ?_
  cases status with
  | up => exact only_bind (stays_fetchShadow _ _) leaves
  | down => exact leaves none
  | resetRequested => exact leaves (some .resetRequested)

/-- Configuring stores a configuration and the next phase. -/
lemma stays_configure (config : HatchConfig.blob ∈ f.names) (phase : Phase.blob ∈ f.names)
    (device : DeviceSettings) : (configure device).run.Stays f := by
  refine stays_ask_bind (stays_reading Session.changesOnly_loadConfig) fun current =>
    stays_ask_bind (stays_askForHatch _ _) fun outcome => ?_
  cases outcome with
  | none => exact .done _
  | some outcome =>
    cases outcome with
    | resetRequested => exact .done _
    | notReceived => exact .done _
    | updated found =>
      refine stays_ask_bind (only_request trivial) fun now => ?_
      split
      · exact .done _
      · exact stays_store_bind (stays_onBlobs (Blob.changesOnly_write config) fun _ h => h) fun _ =>
          stays_store_bind (stays_savePhase phase _) fun _ => .done _

/-- Loading the phase is about its blob. -/
lemma only_loadPhase : Phase.load.Only fun r => BlobRequest.name r = Phase.blob := by
  refine only_bind (only_run_bind (only_request rfl) fun _ => .done _) fun y => ?_
  split
  · exact .done _
  · exact .done _
  · exact .done _
  · exact only_bind (only_request rfl) fun _ => .done _

/-- Reading the phase may store the one it falls back to. -/
lemma stays_loadPhase (phase : Phase.blob ∈ f.names) : (onBlobs Phase.load).Stays f := by
  have changes : Phase.load.ChangesOnly [Phase.blob] :=
    changesOnly_of_name (only_loadPhase.mono fun _ about => List.mem_singleton.mpr about)
  exact stays_onBlobs changes fun name known => List.mem_singleton.mp known ▸ phase

end Phases

/-! ## Factory reset -/

/-- A factory reset that succeeds asks for a short sleep, and clears the request at its end. -/
lemma clears_of_factoryReset {σ : Type} {B : Behaviour Surroundings σ} {s t : σ}
    {d : Dialogue Surroundings} {seconds : UInt32}
    (h : Returns B factoryReset.run s d (.ok seconds) t) :
    seconds = handOff ∧ ∃ u, B (.clear .resetRequested) u () t := by
  unfold factoryReset at h
  obtain ⟨d₁, _, u₁, e₁, -, -, h₁⟩ := returns_ok_of_store_bind h
  obtain ⟨d₂, _, u₂, e₂, -, -, h₂⟩ := returns_ok_of_store_bind h₁
  obtain ⟨d₃, _, u₃, e₃, -, -, h₃⟩ := returns_ok_of_store_bind h₂
  rw [DeviceProgram.run_ask_bind] at h₃
  obtain ⟨_, u₄, e₄, -, cleared, h₄⟩ := returns_request_bind.mp h₃
  obtain ⟨-, value, rfl⟩ := returns_done.mp h₄
  exact ⟨Except.ok.inj value, u₃, cleared⟩

/-- The request is gone, unless others have raised it again. -/
lemma cleared_of_factoryReset {L : Licence} {w w' : World} {d : Dialogue Surroundings}
    {seconds : UInt32} (h : Returns (World.answers L) factoryReset.run w d (.ok seconds) w') :
    seconds = handOff ∧
      ∃ v : World, World.Others L { v with bits := v.bits.without .resetRequested } w' := by
  obtain ⟨asked, v, _, rfl, others⟩ := clears_of_factoryReset h
  exact ⟨asked, v, others⟩

end Lifecycle

end HatchSensor
