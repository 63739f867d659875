import HatchSensor.Proofs.Accounts
import HatchSensor.Proofs.NotedWorld
import HatchSensor.Proofs.PhaseRows

/-!
# Requests under a name

Whatever the device tells the cloud, it tells it under its name.  The name is read before it is
used, and no session is open in between, so that it is still the name of the device when it is used.

A program is `Guarded` if, from a world without a session in which the noted identity is stored, it
uses no other names.  Every phase is; in provisioning, which does open a session, no name is used at
all.  So it is all through a waking period: `covered_of_advanceMany`.
-/

namespace HatchSensor

open Program

/-! ## Requests under a name -/

namespace DeviceRequest

/-- A request that leaves the identity alone, opens no session, and uses none but this name. -/
def Speaks (name : String) : DeviceRequest → Prop
  | .blob request => request.changes ≠ some identityBlob
  | .connect client _ => client = name
  | .requestShadow thing => thing = name
  | .publish _ payload _ => ∃ hatch r, payload = Cycle.payload name hatch r
  | .openProvisioning _ => False
  | _ => True

/-- A request that uses no name at all, leaves the identity alone and opens no session. -/
def Plain (r : DeviceRequest) : Prop := ∀ name, r.Speaks name

/-- A request uses none but this name. -/
def NamedBy (name : String) : DeviceRequest → Prop
  | .connect client _ => client = name
  | .requestShadow thing => thing = name
  | .publish _ payload _ => ∃ hatch r, payload = Cycle.payload name hatch r
  | _ => True

variable {r : DeviceRequest} {name : String}

lemma Speaks.namedBy (h : r.Speaks name) : r.NamedBy name := by
  cases r <;> first | exact h | trivial

lemma Speaks.changes (h : r.Speaks name) : r.changes ≠ some identityBlob := by
  cases r <;> first | exact h | exact nofun

lemma Speaks.not_opens (h : r.Speaks name) : ¬ Noted.Opens r := by
  cases r <;> first | exact h.elim | exact id

lemma plain_of_waits (h : r.waits = true) : r.Plain := by
  intro name
  cases r <;> first | exact absurd h Bool.false_ne_true | trivial

lemma Links.plain (h : r.Links) : r.Plain := by
  intro name
  cases r with
  | blob request =>
    cases request with
    | read other => exact nofun
    | _ => exact absurd h Bool.false_ne_true
  | _ => first | exact absurd h Bool.false_ne_true | trivial

end DeviceRequest

namespace Noted

variable {L : Licence} {device : DeviceSettings} {s t : Noted} {d : Dialogue Surroundings}
  {α β : Type}

/-- The device goes by the name. -/
def Called (L : Licence) (fallback : String) (s : Noted) (name : String) : Prop :=
  ∀ text, s.identity = some text → IsName L.refuses fallback text name

/-- A request that the device is about to make is made under a name that it goes by. -/
def Named (L : Licence) (device : DeviceSettings) (s : Noted) (r : DeviceRequest) : Prop :=
  ∃ name, r.NamedBy name ∧ Called L device.fallbackName s name

/-- A request that uses no name is made under every name. -/
lemma named_of_unnamed {r : DeviceRequest} (unnamed : ∀ name, r.NamedBy name) (s : Noted) :
    Named L device s r :=
  ⟨s.identity.getD "", unnamed _, fun text noted => Or.inl (by rw [noted, Option.getD_some])⟩

/-- A program has come to `q`: what is noted is stored, the request that it is about to make, if
any, is made under a name that the device goes by, and if this is the end it is as in `post`. -/
structure Covered (L : Licence) (device : DeviceSettings) (post : α → Noted → Prop)
    (q : Program Surroundings α) (t : Noted) : Prop where
  sound : Sound t
  named : ∀ r k, q = .ask r k → Named L device t r
  ended : ∀ a, q = .done a → post a t

lemma covered_done {post : α → Noted → Prop} {a : α} {q : Program Surroundings α}
    (h : Reaches (answers L) (.done a) s d q t) (sound : Sound s) (ended : post a s) :
    Covered L device post q t := by
  obtain ⟨-, rfl, rfl⟩ := reaches_done.mp h
  refine ⟨sound, nofun, ?_⟩
  rintro _ ⟨⟩
  exact ended

lemma covered_bind {post : α → Noted → Prop} {post' : β → Noted → Prop}
    {p : Program Surroundings α} {f : α → Program Surroundings β} {q : Program Surroundings β}
    (h : Reaches (answers L) (p >>= f) s d q t)
    (first : ∀ {d q t}, Reaches (answers L) p s d q t → Covered L device post q t)
    (second : ∀ {a d u d'}, Returns (answers L) p s d a u → post a u → Sound u →
      Reaches (answers L) (f a) u d' q t → Covered L device post' q t) :
    Covered L device post' q t := by
  rcases reaches_bind.mp h with ⟨r, k, part, rfl⟩ | ⟨d₁, a, u, d₂, rfl, part, rest⟩
  · refine ⟨(first part).sound, ?_, nofun⟩
    rintro _ _ ⟨⟩
    exact (first part).named r k rfl
  · exact second part ((first part).ended a rfl) (first part).sound rest

/-- From worlds in which no session is open and what is noted is stored, the program makes its
requests under names that the device goes by, sets no identity, and comes to an end in `post`. -/
def Guarded (L : Licence) (device : DeviceSettings) (post : α → Noted → Prop)
    (p : Program Surroundings α) : Prop :=
  ∀ ⦃s d q t⦄, Reaches (answers L) p s d q t → Closed s → Sound s → Covered L device post q t

/-- The program ends without a session. -/
abbrev shut : α → Noted → Prop := fun _ => Closed

lemma guarded_done (a : α) : Guarded L device shut (.done a) :=
  fun _ _ _ _ h closed sound => covered_done h sound closed

lemma guarded_bind {post : β → Noted → Prop} {p : Program Surroundings α}
    {f : α → Program Surroundings β} (first : Guarded L device shut p)
    (second : ∀ a, Guarded L device post (f a)) : Guarded L device post (p >>= f) :=
  fun _ _ _ _ h closed sound => covered_bind h (fun part => first part closed sound)
    fun _ closed sound rest => second _ rest closed sound

/-- A program that speaks under one name that the device goes by. -/
lemma covered_of_speaks {name : String} {p : Program Surroundings α}
    (speaks : p.Only (DeviceRequest.Speaks name)) {q : Program Surroundings α}
    (h : Reaches (answers L) p s d q t) (closed : Closed s) (sound : Sound s)
    (called : Called L device.fallbackName s name) : Covered L device shut q t := by
  obtain ⟨kept, shut, called⟩ := h.keeps
    (I := fun u => Sound u ∧ Closed u ∧ Called L device.fallbackName u name)
    (by
      rintro r u x v speaks answered ⟨sound, closed, called⟩
      obtain ⟨shut, same⟩ := closed_of_answers answered speaks.not_opens closed
      refine ⟨sound_of_answers answered speaks.changes sound, shut, fun text noted => ?_⟩
      exact called text (same ▸ noted))
    speaks ⟨sound, closed, called⟩
  refine ⟨kept, ?_, fun _ _ => shut⟩
  rintro r k rfl
  cases (h.only speaks).2 with
  | ask first _ => exact ⟨name, first.namedBy, called⟩

/-- A program that uses no name. -/
lemma guarded_of_plain {p : Program Surroundings α} (plain : p.Only DeviceRequest.Plain) :
    Guarded L device shut p := by
  intro s d q t h closed sound
  have called : Called L device.fallbackName s (s.identity.getD "") :=
    fun text noted => Or.inl (by rw [noted, Option.getD_some])
  exact covered_of_speaks (plain.mono fun r h => h _) h closed sound called

/-- A store program that does not set the identity uses no name. -/
lemma plain_onBlobs (names : List String) {p : Program Blobs α} (changes : p.ChangesOnly names)
    (other : identityBlob ∉ names) : (onBlobs p).Only DeviceRequest.Plain :=
  only_onBlobs changes fun _ known _ hit => other (known _ hit)

/-- So does one that writes nothing. -/
lemma plain_of_reading {p : Program Blobs α} (reading : p.ChangesOnly []) :
    (onBlobs p).Only DeviceRequest.Plain :=
  plain_onBlobs [] reading List.not_mem_nil

/-- The name that the device reads is one that it goes by. -/
lemma called_of_cloudName {name : String} (closed : Closed s) (sound : Sound s)
    (h : Returns (answers L) (onBlobs (cloudName device.fallbackName)) s d name t) :
    Called L device.fallbackName t name := by
  have plain : (onBlobs (cloudName device.fallbackName)).Only DeviceRequest.Plain :=
    plain_of_reading (changesOnly_cloudName _)
  obtain ⟨-, identity⟩ := h.keeps (I := fun u => Closed u ∧ u.identity = s.identity)
    (by
      rintro r u x v plain answered ⟨closed, same⟩
      obtain ⟨shut, same'⟩ := closed_of_answers answered (plain "").not_opens closed
      exact ⟨shut, same'.trans same⟩)
    plain ⟨closed, rfl⟩
  have alone := h.project Noted.world fun _ _ _ _ answered => world_of_answers answered
  obtain ⟨⟨e, read⟩, -⟩ := World.blobs_of_returns alone closed
  intro text noted
  obtain ⟨canonical, stored⟩ := sound text (identity ▸ noted)
  exact isName_of_cloudName canonical stored read

/-- A name is read, and what follows speaks under this name. -/
lemma guarded_cloudName_bind {f : String → Program Surroundings β}
    (speaks : ∀ name, (f name).Only (DeviceRequest.Speaks name)) :
    Guarded L device shut (onBlobs (cloudName device.fallbackName) >>= f) := by
  intro s d q t h closed sound
  have reading : Guarded L device shut (onBlobs (cloudName device.fallbackName)) :=
    guarded_of_plain (plain_of_reading (changesOnly_cloudName _))
  exact covered_bind h (fun part => reading part closed sound) fun read shut kept rest =>
    covered_of_speaks (speaks _) rest shut kept (called_of_cloudName closed sound read)

/-! ### Phases -/

lemma guarded_run_bind {post : Except DeviceError β → Noted → Prop} {x : DeviceProgram α}
    {f : α → DeviceProgram β} (first : Guarded L device shut x.run)
    (failed : ∀ e t, Closed t → post (.error e) t)
    (second : ∀ a, Guarded L device post (f a).run) : Guarded L device post (x >>= f).run := by
  rw [ExceptT.run_bind]
  refine guarded_bind first fun y => ?_
  cases y with
  | ok a => exact second a
  | error e => exact fun _ _ _ _ h closed sound => covered_done h sound (failed e _ closed)

end Noted

/-! ## What a phase says -/

section Phases

variable {L : Licence} {device : DeviceSettings} {name : String}

open Noted DeviceRequest

lemma plain_savePhase (p : Phase) : (onBlobs (Phase.save p).run).Only Plain :=
  plain_onBlobs [Phase.blob] (Blob.changesOnly_write (List.mem_singleton_self _)) (by decide)

lemma plain_awaitSignal (mask : SignalBits) (timeout : Nat) :
    (awaitSignal mask timeout).Only Plain :=
  (only_awaitSignal mask timeout).mono fun _ => plain_of_waits

lemma plain_clearLog : (onBlobs ReadingLog.clear.run).Only Plain :=
  plain_onBlobs [ReadingLog.blob] (Blob.changesOnly_remove (List.mem_singleton_self _)) (by decide)

lemma plain_clearConfig : (onBlobs HatchConfig.clear.run).Only Plain :=
  plain_onBlobs [HatchConfig.blob] (Blob.changesOnly_remove (List.mem_singleton_self _)) (by decide)

lemma plain_clearCredentials : (onBlobs Credentials.clear.run).Only Plain :=
  plain_onBlobs [Credentials.ssidBlob, Credentials.passwordBlob]
    (only_run_bind (Blob.changesOnly_remove (by simp)) fun _ => Blob.changesOnly_remove (by simp))
    (by decide)

lemma plain_factoryReset : Lifecycle.factoryReset.run.Only Plain :=
  only_store_bind plain_clearConfig fun _ => only_store_bind plain_clearCredentials fun _ =>
    only_store_bind (plain_savePhase _) fun _ =>
      only_ask_bind (only_request fun _ => trivial) fun _ => .done _

/-! ### The shadow exchange -/

lemma plain_collect (current : HatchConfig) (received : Option HatchConfig)
    (documents : List Bytes) :
    (ShadowExchange.collect current received documents).Only Plain := by
  induction documents generalizing received with
  | nil => exact .done _
  | cons document rest ih =>
    rw [ShadowExchange.collect]
    split
    · exact ih _
    · exact only_bind (only_request fun _ => trivial) fun _ => ih _

lemma plain_pumpAll (s : PumpSchedule) (current : HatchConfig) (id : UInt32)
    (deadline pumps : Nat) (received : Option HatchConfig) :
    (ShadowExchange.pumpAll s current id deadline pumps received).Only Plain := by
  induction pumps generalizing received with
  | zero => exact .done _
  | succ pumps ih =>
    refine only_bind (only_request fun _ => trivial) fun pumped =>
      only_bind (plain_collect _ _ _) fun received => ?_
    split
    · exact .done _
    · refine only_bind (only_request fun _ => trivial) fun now =>
        only_bind (only_request fun _ => trivial) fun wake => ?_
      cases wake with
      | signalled bits => exact .done _
      | expired => exact .done _
      | elapsed => exact ih _

lemma plain_conclude (id : UInt32) (pumped : Attempt (Option HatchConfig)) :
    (ShadowExchange.conclude id pumped).Only Plain := by
  refine only_bind (only_request fun _ => trivial) fun _ => ?_
  cases pumped with
  | error reason => exact .done _
  | ok received =>
    refine only_bind (only_request fun _ => trivial) fun bits => ?_
    split
    · exact .done _
    · cases received with
      | none => exact .done _
      | some config => exact .done _

/-- The conversation is about the thing of this name. -/
lemma speaks_converse (s : PumpSchedule) (name : String) (current : HatchConfig) :
    (ShadowExchange.converse s name current).Only (Speaks name) := by
  have plain : ∀ {α : Type} {p : Program Surroundings α}, p.Only Plain → p.Only (Speaks name) :=
    fun h => h.mono fun _ h => h name
  refine only_bind (only_request rfl) fun requested => ?_
  cases requested with
  | error e => exact .done _
  | ok _ =>
    refine only_bind (only_request trivial) fun id => only_bind (only_request trivial) fun start =>
      only_bind (only_request trivial) fun found => ?_
    cases found with
    | some bits => exact plain (plain_conclude id (.ok none))
    | none =>
      exact only_bind (plain (plain_pumpAll _ _ _ _ _ _)) fun pumped =>
        plain (plain_conclude id pumped)

lemma speaks_fetch (s : PumpSchedule) (name : String) (current : HatchConfig) :
    (ShadowExchange.fetch s name current).Only (Speaks name) := by
  refine only_bind (only_request trivial) fun _ => only_bind (only_request rfl) fun connected => ?_
  cases connected with
  | error e => exact .done _
  | ok _ =>
    exact only_bind (speaks_converse _ _ _) fun _ =>
      only_bind (only_request trivial) fun _ => only_bind (only_request trivial) fun _ => .done _

/-- The shadow is asked for under the name of the device. -/
lemma guarded_fetchShadow (current : HatchConfig) :
    Guarded L device shut (fetchShadow device current) := by
  refine guarded_cloudName_bind fun name => only_bind (speaks_fetch _ _ _) fun outcome => ?_
  cases outcome with
  | ok outcome => exact .done _
  | error e => exact .done _

/-! ### Publishing -/

lemma speaks_publishAll (name hatch : String) (readings : List Reading) :
    (Cycle.publishAll name hatch readings).Only (Speaks name) := by
  induction readings with
  | nil => exact .done _
  | cons r rest ih =>
    refine only_bind (only_request ⟨hatch, r, rfl⟩) fun sent => ?_
    cases sent with
    | ok _ => exact ih
    | error e => exact .done _

/-- Readings are published under the name of the device. -/
lemma guarded_publishLog (hatch : String) (current : Reading) :
    Guarded L device shut (Cycle.publishLog device hatch current) := by
  refine guarded_bind (guarded_of_plain (plain_of_reading Cycle.changesOnly_readAll))
    fun read => ?_
  cases read with
  | error e => exact guarded_done _
  | ok readings =>
    refine guarded_cloudName_bind fun name => only_bind (only_request rfl) fun opened => ?_
    cases opened with
    | error e => exact .done _
    | ok _ =>
      exact only_bind (speaks_publishAll _ _ _) fun _ =>
        only_bind (only_request trivial) fun _ => .done _

lemma guarded_bringUp : Guarded L device shut (bringUp device.timing) :=
  guarded_of_plain ((only_bringUp _).mono fun _ links => links.plain)

lemma guarded_publishOnline (config : HatchConfig) (current : Reading) :
    Guarded L device shut (Cycle.publishOnline device config current) := by
  have publishes : ∀ hatch (force : HatchConfig), Guarded L device shut
      (Cycle.publishLog device hatch current >>= fun outcome => pure (outcome, force)) :=
    fun hatch force => guarded_bind (guarded_publishLog hatch current) fun _ => guarded_done _
  refine guarded_bind guarded_bringUp fun status => ?_
  cases status with
  | down => exact guarded_done _
  | resetRequested => exact guarded_done _
  | up =>
    refine guarded_bind (guarded_fetchShadow config) fun fetched => ?_
    rcases fetched with _ | (refreshed | _ | _)
    · exact guarded_done _
    · exact publishes refreshed.uuid refreshed
    · exact publishes config.uuid config
    · exact guarded_done _

lemma guarded_publish (config : HatchConfig) (current : Reading) :
    Guarded L device shut (Cycle.publish device config current) :=
  guarded_bind (guarded_publishOnline config current) fun _ =>
    guarded_bind (guarded_of_plain (only_request fun _ => trivial)) fun _ => guarded_done _

/-! ### Cycles -/

lemma plain_buffer (r : Reading) : (Cycle.buffer r).Only Plain := by
  refine only_bind (plain_onBlobs _ (Cycle.changesOnly_append r) (by decide)) fun y => ?_
  cases y with
  | ok _ => exact .done _
  | error e => exact only_request fun _ => trivial

lemma guarded_deliver (config : HatchConfig) (current : Reading) :
    Guarded L device shut (Cycle.deliver device config current).run := by
  have buffers : ∀ {α : Type} (a : α), Guarded L device shut
      (Cycle.buffer current >>= fun _ => .done a) :=
    fun a => guarded_of_plain (only_bind (plain_buffer current) fun _ => .done _)
  rw [Cycle.run_deliver]
  cases config.publishReason current.time with
  | none => exact buffers _
  | some why =>
    refine guarded_bind (guarded_publish config current) fun result => ?_
    obtain ⟨outcome, force⟩ := result
    cases outcome with
    | failed => exact buffers _
    | offline => exact buffers _
    | resetRequested => exact buffers _
    | published =>
      refine guarded_bind (guarded_of_plain plain_clearLog) fun y => ?_
      cases y with
      | ok _ => exact guarded_done _
      | error e => exact guarded_done _

lemma guarded_loadConfig : Guarded L device shut (onBlobs HatchConfig.load) :=
  guarded_of_plain (plain_of_reading Session.changesOnly_loadConfig)

lemma plain_saveConfig (config : HatchConfig) : (onBlobs config.save.run).Only Plain :=
  plain_onBlobs [HatchConfig.blob] (Blob.changesOnly_write (List.mem_singleton_self _)) (by decide)

lemma guarded_cycle : Guarded L device shut (Cycle.run device).run := by
  rw [Cycle.run_cycle]
  refine guarded_bind guarded_loadConfig fun config =>
    guarded_bind (guarded_of_plain (only_request fun _ => trivial)) fun sensed => ?_
  cases sensed with
  | error e => exact guarded_done _
  | ok climate =>
    refine guarded_bind (guarded_of_plain (only_request fun _ => trivial)) fun now =>
      guarded_bind (guarded_deliver _ _) fun delivered => ?_
    cases delivered with
    | error e => exact guarded_done _
    | ok result =>
      refine guarded_bind (guarded_of_plain (plain_saveConfig _)) fun y => ?_
      cases y with
      | ok _ => exact guarded_done _
      | error e => exact guarded_done _

lemma guarded_measure : Guarded L device shut (Lifecycle.measure device).run := by
  refine guarded_run_bind guarded_cycle (fun _ _ closed => closed) fun outcome => ?_
  cases outcome with
  | sleep seconds => exact guarded_done _
  | hatchEnded =>
    exact guarded_of_plain (only_store_bind (plain_savePhase _) fun _ => .done _)
  | resetRequested => exact guarded_done _

/-! ### Configuring -/

lemma guarded_askForHatch (current : HatchConfig) :
    Guarded L device shut (Lifecycle.askForHatch device current) := by
  have leaves : ∀ outcome : Option ShadowOutcome, Guarded L device shut
      (Surroundings.leave >>= fun _ => pure outcome) := fun outcome =>
    guarded_of_plain (only_bind (only_request fun _ => trivial) fun _ => .done _)
  refine guarded_bind guarded_bringUp fun status => ?_
  cases status with
  | up => exact guarded_bind (guarded_fetchShadow current) leaves
  | down => exact leaves _
  | resetRequested => exact leaves _

lemma guarded_configure : Guarded L device shut (Lifecycle.configure device).run := by
  unfold Lifecycle.configure
  rw [DeviceProgram.run_ask_bind]
  refine guarded_bind guarded_loadConfig fun current => ?_
  rw [DeviceProgram.run_ask_bind]
  refine guarded_bind (guarded_askForHatch current) fun outcome => ?_
  rcases outcome with _ | (found | _ | _)
  · exact guarded_done _
  · refine guarded_of_plain (only_ask_bind (only_request fun _ => trivial) fun now => ?_)
    split
    · exact .done _
    · exact only_store_bind (plain_saveConfig _) fun _ =>
        only_store_bind (plain_savePhase _) fun _ => .done _
  · exact guarded_done _
  · exact guarded_done _

/-! ### Provisioning -/

/-- A request that uses no name and leaves the identity alone, but may open a session. -/
def Unnamed (r : DeviceRequest) : Prop := r.Plain ∨ Opens r

lemma Unnamed.namedBy {r : DeviceRequest} (h : Unnamed r) (name : String) : r.NamedBy name := by
  rcases h with plain | opens
  · exact (plain name).namedBy
  · cases r <;> first | exact opens.elim | trivial

lemma Unnamed.changes {r : DeviceRequest} (h : Unnamed r) : r.changes ≠ some identityBlob := by
  rcases h with plain | opens
  · exact (plain "").changes
  · cases r <;> first | exact opens.elim | exact nofun

variable {s t : Noted} {d : Dialogue Surroundings} {α : Type} {p q : Program Surroundings α}

/-- Whatever clients do meanwhile, what is noted stays what is stored. -/
lemma covered_of_unnamed {post : α → Noted → Prop} (unnamed : p.Only Unnamed)
    (h : Reaches (answers L) p s d q t) (sound : Sound s) (ended : ∀ a, q = .done a → post a t) :
    Covered L device post q t := by
  refine ⟨h.keeps (I := Sound) (fun r u x v free answered sound =>
    sound_of_answers answered free.changes sound) unnamed sound, ?_, ended⟩
  rintro r k rfl
  cases (h.only unnamed).2 with
  | ask first _ => exact named_of_unnamed first.namedBy t

lemma Noted.Guarded.mono {post post' : α → Noted → Prop} (h : Guarded L device post p)
    (imp : ∀ a t, post a t → post' a t) : Guarded L device post' p := by
  intro s d q t reached closed sound
  obtain ⟨kept, named, ended⟩ := h reached closed sound
  exact ⟨kept, named, fun a last => imp a t (ended a last)⟩

lemma unnamed_provision : (Lifecycle.provision device).run.Only Unnamed := by
  refine (Lifecycle.only_provision device).mono fun r allowed => ?_
  cases r with
  | blob request =>
    refine Or.inl fun name => ?_
    cases request with
    | read other => exact nofun
    | write other content =>
      obtain rfl : other = Phase.blob := allowed
      exact (by decide : some Phase.blob ≠ some identityBlob)
    | _ => exact absurd allowed Bool.false_ne_true
  | openProvisioning session => exact Or.inr trivial
  | connect | requestShadow | publish => exact absurd allowed Bool.false_ne_true
  | _ => exact Or.inl fun name => trivial

/-- No session is opened by a program that uses no name. -/
lemma closed_of_plain (plain : p.Only Plain) (h : Reaches (answers L) p s d q t)
    (closed : Closed s) : Closed t :=
  h.keeps (I := Closed) (fun _ _ _ _ plain answered closed =>
    (closed_of_answers answered (plain "").not_opens closed).1) plain closed

/-- Provisioning asks for the next phase only once the session is closed. -/
lemma closed_of_provision
    (h : Returns (answers L) (Lifecycle.provision device).run s d (.ok 0) t) : Closed t := by
  unfold Lifecycle.provision at h
  simp only [DeviceProgram.run_ask_bind] at h
  obtain ⟨_, _, _, _, -, -, h⟩ := returns_bind.mp h
  obtain ⟨_, opened, _, _, -, -, h⟩ := returns_bind.mp h
  cases opened with
  | error reason =>
    simp only [DeviceProgram.run_ask_bind] at h
    obtain ⟨_, _, _, _, -, -, h⟩ := returns_bind.mp h
    exact nomatch (Except.ok.inj (returns_done.mp h).2.1 : (0 : UInt32) = Lifecycle.retryInterval)
  | ok _ =>
    simp only [DeviceProgram.run_ask_bind] at h
    obtain ⟨_, bits, u, _, -, -, h⟩ := returns_bind.mp h
    obtain ⟨_, _, v, _, -, closing, h⟩ := returns_bind.mp h
    have closed : Closed v :=
      Lifecycle.closed_of_closeProvisioning (world_of_answers (returns_request.mp closing).2)
    have sets : Lifecycle.setRequestedTime.Only Plain :=
      Lifecycle.only_setRequestedTime (fun _ => trivial) fun _ _ => trivial
    have ends : (Lifecycle.afterWait bits).run.Only Plain := by
      unfold Lifecycle.afterWait
      split
      · exact .done _
      · split
        · exact .done _
        · refine only_ask_bind (plain_of_reading Session.changesOnly_loadCredentials)
            fun found => ?_
          cases found with
          | none => exact .done _
          | some c =>
            exact only_ask_bind (only_request fun _ => trivial) fun _ =>
              only_store_bind (plain_savePhase _) fun _ => .done _
    exact closed_of_plain (only_bind sets fun _ => ends) h closed

/-! ### The life of the device -/

/-- What a phase comes to: no session is open if the device goes on with the next phase. -/
def NextShut (y : Except DeviceError UInt32) (t : Noted) : Prop := y = .ok 0 → Closed t

lemma guarded_provision : Guarded L device NextShut (Lifecycle.provision device).run := by
  intro s d q t h _ sound
  refine covered_of_unnamed unnamed_provision h sound ?_
  rintro y rfl rfl
  exact closed_of_provision h

lemma guarded_step : Guarded L device NextShut (Lifecycle.step device).run := by
  have shut : ∀ {p : Program Surroundings (Except DeviceError UInt32)}, Guarded L device shut p →
      Guarded L device NextShut p := fun h => h.mono fun _ _ closed _ => closed
  have signals : Guarded L device Noted.shut Surroundings.signals :=
    guarded_of_plain (only_request fun _ => trivial)
  have loads : Guarded L device Noted.shut (onBlobs Phase.load) := by
    have changes : Phase.load.ChangesOnly [Phase.blob] := changesOnly_of_name
      (Lifecycle.only_loadPhase.mono fun _ about => List.mem_singleton.mpr about)
    exact guarded_of_plain (plain_onBlobs _ changes (by decide))
  unfold Lifecycle.step
  rw [DeviceProgram.run_ask_bind]
  refine guarded_bind signals fun bits => ?_
  split
  · exact shut (guarded_of_plain plain_factoryReset)
  · rw [DeviceProgram.run_ask_bind]
    refine guarded_bind loads fun phase => ?_
    cases phase with
    | unknown =>
      exact shut (guarded_of_plain (only_store_bind (plain_savePhase _) fun _ => .done _))
    | provisioning => exact guarded_provision
    | configuring => exact shut guarded_configure
    | measuring => exact shut guarded_measure

open Lifecycle (Stage)

lemma plain_settle (requested : UInt32) (remaining : Nat) :
    (Stage.settle requested remaining).Only Plain := by
  have asleep : ∀ remaining, (Stage.fallAsleep remaining).Only Plain :=
    fun remaining => only_bind (only_request fun _ => trivial) fun _ => .done _
  refine only_bind (only_request fun _ => trivial) fun bits => ?_
  split
  · exact asleep _
  · refine only_bind (only_request fun _ => trivial) fun started =>
      only_bind (plain_awaitSignal _ _) fun bits =>
        only_bind (only_request fun _ => trivial) fun ended => ?_
    split
    · exact only_bind plain_factoryReset fun _ => .done _
    · exact asleep _

/-- A device that is about to sleep does not run another phase. -/
lemma settle_ne_awake {requested : UInt32} {remaining : Nat} {stage : Stage}
    (h : Returns (answers L) (Stage.settle requested remaining) s d stage t) :
    stage ≠ .awake := by
  have asleep : ∀ {remaining : Nat} {s : Noted} {d : Dialogue Surroundings},
      Returns (answers L) (Stage.fallAsleep remaining) s d stage t → stage ≠ .awake := by
    intro remaining s d h
    obtain ⟨_, _, _, _, -, -, ended⟩ := returns_bind.mp h
    obtain ⟨-, rfl, -⟩ := returns_done.mp ended
    exact nofun
  obtain ⟨_, bits, _, _, -, -, h⟩ := returns_bind.mp h
  split at h
  · exact asleep h
  · obtain ⟨_, started, _, _, -, -, h⟩ := returns_bind.mp h
    obtain ⟨_, bits, _, _, -, -, h⟩ := returns_bind.mp h
    obtain ⟨_, ended, _, _, -, -, h⟩ := returns_bind.mp h
    split at h
    · obtain ⟨_, y, _, _, -, reset, ended⟩ := returns_bind.mp h
      obtain ⟨-, rfl, -⟩ := returns_done.mp ended
      cases y with
      | error e => exact nofun
      | ok seconds =>
        obtain ⟨rfl, -⟩ := Lifecycle.clears_of_factoryReset reset
        exact (by decide : Stage.afterStep (.ok Lifecycle.handOff) ≠ .awake)
    · exact asleep h

/-- The device goes on with the next phase only if the last one asks for no sleep. -/
lemma eq_zero_of_afterStep {y : Except DeviceError UInt32} (h : Stage.afterStep y = .awake) :
    y = .ok 0 := by
  cases y with
  | error e => exact nomatch h
  | ok seconds =>
    rw [Stage.afterStep] at h
    split at h
    · next zero => rw [zero]
    · exact nomatch h

/-- Where a device may be between two pieces of its life: awake it has no session. -/
def AwakeShut (stage : Stage) (t : Noted) : Prop := stage = .awake → Closed t

lemma covered_of_advance {stage : Stage} {q : Program Surroundings Stage}
    (h : Reaches (answers L) (stage.advance device) s d q t) (sound : Sound s)
    (closed : AwakeShut stage s) : Covered L device AwakeShut q t := by
  cases stage with
  | awake =>
    exact covered_bind h (fun part => guarded_step part (closed rfl) sound)
      fun _ next sound rest =>
        covered_done rest sound fun awake => next (eq_zero_of_afterStep awake)
  | settling requested remaining =>
    refine covered_of_unnamed ((plain_settle requested remaining).mono fun _ => Or.inl) h sound ?_
    rintro later rfl awake
    exact absurd awake (settle_ne_awake h)
  | asleep seconds => exact covered_done h sound nofun
  | failed reason => exact covered_done h sound nofun

/-- A waking period, however far it has come. -/
lemma covered_of_advanceMany {rounds : Nat} {stage : Stage} {q : Program Surroundings Stage}
    (h : Reaches (answers L) (Stage.advanceMany device rounds stage) s d q t) (sound : Sound s)
    (closed : AwakeShut stage s) : Covered L device AwakeShut q t := by
  induction rounds generalizing s d stage with
  | zero => exact covered_done h sound closed
  | succ rounds ih =>
    rw [Stage.advanceMany] at h
    split at h
    · exact covered_done h sound closed
    · exact covered_bind h (fun part => covered_of_advance part sound closed)
        fun _ closed sound rest => ih rest sound closed

end Phases

end HatchSensor
