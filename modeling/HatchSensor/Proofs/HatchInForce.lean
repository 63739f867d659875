import HatchSensor.Proofs.Conduct
import HatchSensor.Proofs.LogKept
import HatchSensor.Proofs.Received
import HatchSensor.Proofs.SoundConfig

/-!
# The hatch in force

A reading lies in the log without a word about the hatch it was taken in.  The hatch is named when
the message of the reading is made, and that may be much later.  Which hatch it is can be told from
the dialogue alone: the one of the configuration that was loaded last, or of the last usable shadow
document since then.  `inForce` keeps track of it.

`Attributed` says what the exchanges have to do with it.  Every piece of the life of the device
conducts itself accordingly, whatever the surroundings answer: `Attribution.conducted_live`.
-/

namespace HatchSensor

open Program ShadowExchange

/-- What the device goes by. -/
structure InForce where
  /-- The configuration that was loaded last, with the reading counted that was taken since. -/
  config : HatchConfig
  /-- The hatch of the last usable document since then, or else of that configuration. -/
  hatch : String

namespace InForce

/-- A configuration was loaded. -/
def loaded (c : HatchConfig) : InForce := ⟨c, c.uuid⟩

/-- What the device goes by after an exchange.  Usable documents replace the hatch whether or not
the exchange of the shadow succeeds in the end. -/
def after (f : InForce) : Exchange Surroundings → InForce
  | ⟨.blob (.read name), stored⟩ =>
    if name = HatchConfig.blob then loaded (.ofRead stored) else f
  | ⟨.sense, .ok climate⟩ =>
    { f with config := f.config.record (f.config.corrected climate.temperature) }
  | e => { f with
    hatch := ((usable f.config e.documents).getLast?.map HatchConfig.uuid).getD f.hatch }

end InForce

/-- What the device goes by after a dialogue. -/
def inForce (d : Dialogue Surroundings) : InForce := d.foldl InForce.after (.loaded .default)

lemma inForce_append (d e : Dialogue Surroundings) :
    inForce (d ++ e) = e.foldl InForce.after (inForce d) :=
  List.foldl_append

@[simp]
lemma inForce_concat (d : Dialogue Surroundings) (e : Exchange Surroundings) :
    inForce (d ++ [e]) = (inForce d).after e :=
  inForce_append d [e]

/-- The device has read the reading from its log, or has taken it. -/
def Known (r : Reading) (past : Dialogue Surroundings) : Prop :=
  (∃ content, ⟨DeviceRequest.blob (.read ReadingLog.blob), .ok content⟩ ∈ past ∧
    r ∈ ReadingLog.readings (content.getD [])) ∨
  ∃ earlier cycle, past = earlier ++ cycle ∧ Cycle.Took r cycle

/-- The identity is that of the loaded configuration, or the hatch in force. -/
def HatchConfig.Stands (c : HatchConfig) (f : InForce) : Prop :=
  c.uuid = f.config.uuid ∨ c.uuid = f.hatch

/-- An exchange is as it should be after a dialogue: a reading is taken right after the
configuration was loaded, what is published is the message of a known reading and names the hatch in
force, and what is stored as configuration stands. -/
def Attributed (past : Dialogue Surroundings) (e : Exchange Surroundings) : Prop :=
  match (e.request : DeviceRequest) with
  | .sense => ∃ earlier stored,
      past = earlier ++ [⟨DeviceRequest.blob (.read HatchConfig.blob), stored⟩]
  | .publish _ payload _ => ∃ name r, Known r past ∧
      payload = Cycle.payload name (inForce past).hatch r
  | .blob (.write name content) => name = HatchConfig.blob →
      ∃ c : HatchConfig, content = c.encode ∧ c.Stands (inForce past)
  | .blob (.append name _) => name ≠ HatchConfig.blob
  | _ => True

/-- Counting a reading leaves the hatch in force. -/
lemma loaded_record (c : HatchConfig) (temperature : Single) :
    InForce.loaded (c.record temperature) = ⟨c.record temperature, c.uuid⟩ := by
  rw [InForce.loaded, HatchConfig.uuid_record]

namespace Attribution

variable {I : Dialogue Surroundings → Prop} {past : Dialogue Surroundings}
  {e : Exchange Surroundings} {α β : Type}

/-! ## Requests aside -/

/-- Requests that leave what is in force as it is and are always as they should be.  Of those about
the configuration this is only its removal. -/
def Aside : DeviceRequest → Prop
  | .blob request => request.name = HatchConfig.blob → request = .remove HatchConfig.blob
  | .sense | .pump _ | .publish _ _ _ => False
  | _ => True

lemma after_of_aside {r : DeviceRequest} (aside : Aside r) (x : r.Answer) (f : InForce) :
    f.after ⟨r, x⟩ = f := by
  cases r with
  | blob request =>
    cases request with
    | read name => exact if_neg fun same => nomatch aside same
    | _ => rfl
  | sense | pump | publish => exact aside.elim
  | _ => rfl

lemma attributed_of_aside {r : DeviceRequest} (aside : Aside r) (x : r.Answer) :
    Attributed past ⟨r, x⟩ := by
  cases r with
  | blob request =>
    cases request with
    | write name content => exact fun same => nomatch aside same
    | append name content => exact fun same => nomatch aside same
    | _ => trivial
  | sense | pump | publish => exact aside.elim
  | _ => trivial

/-- What is kept by requests aside. -/
def Lasting (I : Dialogue Surroundings → Prop) : Prop :=
  ∀ past e, Aside e.request → I past → I (past ++ [e])

lemma lasting_inForce (P : InForce → Prop) : Lasting fun past => P (inForce past) := by
  rintro past ⟨r, x⟩ aside h
  have same : (inForce past).after ⟨r, x⟩ = inForce past := after_of_aside aside x _
  rwa [inForce_concat, same]

/-- A program that makes only requests aside. -/
lemma conducts_aside (lasting : Lasting I) {p : Program Surroundings α} (aside : p.Only Aside)
    (h : I past) : Conducts Attributed (fun _ => I) p past :=
  conducts_of_only aside (fun _ x past allowed holds =>
    ⟨attributed_of_aside allowed x, lasting past _ allowed holds⟩) h

lemma aside_onBlobs {p : Program Blobs α}
    (about : p.Only fun r => BlobRequest.name r ≠ HatchConfig.blob) : (onBlobs p).Only Aside :=
  only_onBlobs about fun _ other same => absurd same other

lemma aside_reading {p : Program Blobs α} {names : List String} (reads : p.ReadsOnly names)
    (other : HatchConfig.blob ∉ names) : (onBlobs p).Only Aside := by
  refine aside_onBlobs (reads.mono ?_)
  rintro _ ⟨name, known, rfl⟩ same
  exact other (same ▸ known)

lemma aside_savePhase (p : Phase) : (onBlobs (Phase.save p).run).Only Aside :=
  have other : Phase.blob ≠ HatchConfig.blob := by decide
  aside_onBlobs (only_request other)

lemma aside_loadPhase : (onBlobs Phase.load).Only Aside :=
  aside_onBlobs (Lifecycle.only_loadPhase.mono fun _ about same =>
    absurd (about.symm.trans same) (by decide))

lemma aside_of_waits {r : DeviceRequest} (waits : r.waits = true) : Aside r := by
  cases r <;> trivial

lemma aside_awaitSignal (mask : SignalBits) (timeout : Nat) :
    (awaitSignal mask timeout).Only Aside :=
  (only_awaitSignal mask timeout).mono fun _ => aside_of_waits

lemma aside_bringUp (timing : DeviceTiming) : (bringUp timing).Only Aside := by
  refine (only_bringUp timing).mono fun r links => ?_
  cases r with
  | blob request =>
    cases request with
    | read name =>
      have known : name ∈ [Credentials.ssidBlob, Credentials.passwordBlob] := links
      rintro rfl
      exact absurd known (by decide)
    | _ => exact absurd links Bool.false_ne_true
  | sense | pump | publish => exact absurd links Bool.false_ne_true
  | _ => trivial

lemma aside_provision (device : DeviceSettings) :
    (Lifecycle.provision device).run.Only Aside := by
  refine (Lifecycle.only_provision device).mono fun r allowed => ?_
  cases r with
  | blob request =>
    cases request with
    | read name =>
      have known : name ∈ [Credentials.ssidBlob, Credentials.passwordBlob] := allowed
      rintro rfl
      exact absurd known (by decide)
    | write name content =>
      have phase : name = Phase.blob := allowed
      rintro rfl
      exact absurd phase (by decide)
    | _ => exact absurd allowed Bool.false_ne_true
  | sense | pump | publish => exact absurd allowed Bool.false_ne_true
  | _ => trivial

lemma aside_factoryReset : Lifecycle.factoryReset.run.Only Aside := by
  have clears : (onBlobs HatchConfig.clear.run).Only Aside :=
    only_onBlobs (P := (· = BlobRequest.remove HatchConfig.blob)) (only_request rfl)
      fun _ removal _ => removal
  have forgets : (onBlobs Credentials.clear.run).Only Aside :=
    aside_onBlobs (only_run_bind (only_request (by decide)) fun _ => only_request (by decide))
  exact only_store_bind clears fun _ => only_store_bind forgets fun _ =>
    only_store_bind (aside_savePhase _) fun _ => only_ask_bind (only_request trivial) fun _ =>
      .done _

lemma aside_buffer (r : Reading) : (Cycle.buffer r).Only Aside := by
  refine only_bind (aside_onBlobs ((ReadingLog.only_append r).mono fun q adds same => ?_))
    fun y => ?_
  · exact absurd (adds.1.symm.trans same) (by decide)
  cases y with
  | ok _ => exact .done _
  | error e => exact only_request trivial

/-! ## Readings that are known -/

lemma known_concat {r : Reading} (h : Known r past) : Known r (past ++ [e]) := by
  rcases h with ⟨content, there, holds⟩ | ⟨earlier, cycle, rfl, took⟩
  · exact Or.inl ⟨content, List.mem_append_left _ there, holds⟩
  · obtain ⟨stored, climate, now, rest, rfl, same⟩ := took
    exact Or.inr ⟨earlier, _, List.append_assoc _ _ _, stored, climate, now, rest ++ [e],
      List.append_assoc _ _ _, same⟩

/-- The readings that are read from the log are known. -/
lemma conducts_readAll (lasting : Lasting I) (h : I past) :
    Conducts Attributed (fun y later => I later ∧ ∀ l, y = .ok l → ∀ r ∈ l, Known r later)
      (onBlobs ReadingLog.readAll.run) past := by
  have aside : Aside (.blob (.read ReadingLog.blob)) := fun same => absurd same (by decide)
  unfold ReadingLog.readAll
  rw [onBlobs_run_bind]
  refine conducts_request_bind fun read => ⟨attributed_of_aside aside read, ?_⟩
  have kept := lasting past ⟨DeviceRequest.blob (.read ReadingLog.blob), read⟩ aside h
  cases read with
  | error e => exact ⟨kept, nofun⟩
  | ok content =>
    refine ⟨kept, ?_⟩
    rintro l ⟨⟩ r there
    exact Or.inl ⟨content, by simp, there⟩

/-! ## Shadow exchanges -/

/-- What is said in a shadow exchange replaces the hatch if there are usable documents in it. -/
lemma after_of_talks {own : UInt32 → Prop} {d : Dialogue Surroundings}
    (talks : ∀ e ∈ d, Talks own e.request) (f : InForce) :
    d.foldl InForce.after f = { f with
      hatch := ((merged f.config d).getLast?.map HatchConfig.uuid).getD f.hatch } := by
  induction d generalizing f with
  | nil => rfl
  | cons e d ih =>
    obtain ⟨first, rest⟩ := List.forall_mem_cons.mp talks
    have step : f.after e = { f with
        hatch := ((usable f.config e.documents).getLast?.map HatchConfig.uuid).getD f.hatch } := by
      obtain ⟨r, x⟩ := e
      cases r <;> first | rfl | exact first.elim
    rw [List.foldl_cons, step, ih rest, merged_cons, List.getLast?_append]
    cases (merged f.config d).getLast? <;> rfl

/-- After the shadow was asked for, the hatch of the refreshed configuration is in force, unless the
exchange has failed or was cut short by a reset. -/
def Refreshed (current : HatchConfig) (outcome : Option ShadowOutcome) (f : InForce) : Prop :=
  f.config = current ∧ (outcome ≠ none → outcome ≠ some .resetRequested →
    f.hatch = (current.refreshed outcome).uuid)

lemma conducts_exchange (s : PumpSchedule) (thing : String) {current : HatchConfig}
    (h : inForce past = .loaded current) :
    Conducts Attributed (fun outcome later => Refreshed current outcome.toOption (inForce later))
      (ShadowExchange.fetch s thing current) past := by
  refine conducts_of_returns (only_fetch _ _ _) ?_ fun d outcome ended => ?_
  · intro r x past talks
    cases r <;> trivial
  · rw [inForce_append, h, after_of_talks (ended.only (only_fetch _ _ _)).1]
    refine ⟨rfl, fun answered known => ?_⟩
    cases outcome with
    | error e => exact absurd rfl answered
    | ok outcome =>
      have last := merged_of_fetch ended fun same => known (congrArg some same)
      have force : (InForce.loaded current).config = current := rfl
      dsimp only
      rw [force, last]
      cases outcome with
      | updated config => rfl
      | notReceived => rfl
      | resetRequested => exact absurd rfl known

lemma conducts_fetchShadow {device : DeviceSettings} {current : HatchConfig}
    (h : inForce past = .loaded current) :
    Conducts Attributed (fun outcome later => Refreshed current outcome (inForce later))
      (fetchShadow device current) past := by
  refine conducts_bind (conducts_aside (lasting_inForce (· = .loaded current))
    (aside_reading (readsOnly_cloudName _) (by decide)) h) fun name past named => ?_
  refine conducts_bind (conducts_exchange _ _ named) fun outcome later refreshed => ?_
  cases outcome with
  | ok outcome => exact refreshed
  | error e => exact refreshed

/-! ## Publishing -/

/-- What is published is the message of a known reading and names the hatch in force. -/
lemma conducts_publishAll {name : String} {f : InForce} {rs : List Reading}
    (h : inForce past = f) (known : ∀ r ∈ rs, Known r past) :
    Conducts Attributed (fun _ later => inForce later = f) (Cycle.publishAll name f.hatch rs)
      past := by
  induction rs generalizing past with
  | nil => exact h
  | cons r rs ih =>
    obtain ⟨first, rest⟩ := List.forall_mem_cons.mp known
    refine conducts_request_bind fun x => ⟨⟨name, r, first, by rw [h]; rfl⟩, ?_⟩
    have still : inForce (past ++ [⟨DeviceRequest.publish Cycle.topic
        (Bytes.encodeUtf8 (r.message name f.hatch)) Cycle.publishTimeout, x⟩]) = f := by
      rw [inForce_concat, h]
      rfl
    cases x with
    | error e => exact still
    | ok _ => exact ih still fun r there => known_concat (rest r there)

lemma conducts_publishLog {device : DeviceSettings} {current : Reading} {f : InForce}
    (h : inForce past = f) (taken : Known current past) :
    Conducts Attributed (fun _ later => inForce later = f)
      (Cycle.publishLog device f.hatch current) past := by
  have lasting := lasting_inForce (· = f)
  refine conducts_bind ((conducts_readAll lasting h).frame (fun _ _ => known_concat) taken)
    fun y past holds => ?_
  obtain ⟨⟨h, found⟩, taken⟩ := holds
  cases y with
  | error e => exact h
  | ok readings =>
    have known : ∀ r ∈ readings ++ [current], Known r past := by
      intro r there
      rcases List.mem_append.mp there with there | there
      · exact found readings rfl r there
      · rwa [List.mem_singleton.mp there]
    have remembers : ∀ past e, (∀ r ∈ readings ++ [current], Known r past) →
        ∀ r ∈ readings ++ [current], Known r (past ++ [e]) :=
      fun _ _ known r there => known_concat (known r there)
    refine conducts_bind ((conducts_aside lasting
      (aside_reading (readsOnly_cloudName _) (by decide)) h).frame remembers known)
      fun name past named => ?_
    have connects : (Surroundings.connect name ShadowExchange.connectTimeout).Only Aside :=
      only_request trivial
    refine conducts_bind ((conducts_aside lasting connects named.1).frame remembers named.2)
      fun opened past connected => ?_
    cases opened with
    | error e => exact connected.1
    | ok _ =>
      refine conducts_bind (conducts_publishAll connected.1 connected.2) fun outcome past sent => ?_
      have closes : (Surroundings.disconnect >>= fun _ => pure outcome).Only Aside :=
        only_bind (only_request trivial) fun _ => .done _
      exact conducts_aside lasting closes sent

/-- Publishing online leaves a configuration that stands. -/
lemma conducts_publishOnline {device : DeviceSettings} {config : HatchConfig} {current : Reading}
    (h : inForce past = .loaded config) (taken : Known current past) :
    Conducts Attributed (fun result later => result.2.Stands (inForce later))
      (Cycle.publishOnline device config current) past := by
  have stays : ∀ {past : Dialogue Surroundings} {f : InForce}, inForce past = f →
      f.config = config → config.Stands (inForce past) := by
    rintro past f rfl same
    exact Or.inl (congrArg HatchConfig.uuid same.symm)
  refine conducts_bind ((conducts_aside (lasting_inForce (· = .loaded config))
    (aside_bringUp _) h).frame (fun _ _ => known_concat) taken) fun status past linked => ?_
  obtain ⟨h, taken⟩ := linked
  cases status with
  | down => exact stays h rfl
  | resetRequested => exact stays h rfl
  | up =>
    refine conducts_bind ((conducts_fetchShadow h).frame (fun _ _ => known_concat) taken)
      fun outcome past fetched => ?_
    obtain ⟨⟨same, hatch⟩, taken⟩ := fetched
    rcases outcome with _ | (refreshed | _ | _)
    · exact stays rfl same
    · have named : refreshed.uuid = (inForce past).hatch := (hatch nofun nofun).symm
      dsimp only
      rw [named]
      exact conducts_bind (conducts_publishLog rfl taken) fun _ _ sent => Or.inr (sent ▸ named)
    · have named : config.uuid = (inForce past).hatch := (hatch nofun nofun).symm
      dsimp only
      rw [named]
      exact conducts_bind (conducts_publishLog rfl taken) fun _ _ sent => Or.inr (sent ▸ named)
    · exact stays rfl same

/-- So does publishing, after which the network is left. -/
lemma conducts_publish {device : DeviceSettings} {config : HatchConfig} {current : Reading}
    (h : inForce past = .loaded config) (taken : Known current past) :
    Conducts Attributed (fun result later => result.2.Stands (inForce later))
      (Cycle.publish device config current) past := by
  refine conducts_bind (conducts_publishOnline h taken) fun result past stands => ?_
  have aside : Aside .leave := trivial
  refine conducts_request_bind fun _ => ⟨attributed_of_aside aside (), ?_⟩
  exact lasting_inForce result.2.Stands past ⟨DeviceRequest.leave, ()⟩ aside stands

/-! ## One cycle -/

/-- Delivering a reading leaves a configuration that stands. -/
lemma conducts_deliver {device : DeviceSettings} {config : HatchConfig} {current : Reading}
    (h : inForce past = .loaded config) (taken : Known current past) :
    Conducts Attributed (fun y later => ∀ result, y = .ok result → result.2.Stands (inForce later))
      (Cycle.deliver device config current).run past := by
  have buffers : ∀ {past : Dialogue Surroundings} {o : Option PublishOutcome} {c : HatchConfig},
      c.Stands (inForce past) →
      Conducts Attributed
        (fun (y : Except DeviceError (Option PublishOutcome × HatchConfig)) later =>
          ∀ result, y = .ok result → result.2.Stands (inForce later))
        (Cycle.buffer current >>= fun _ => .done (.ok (o, c))) past := by
    intro past o c stands
    refine conducts_bind (conducts_aside (lasting_inForce c.Stands) (aside_buffer current) stands)
      fun _ past stands => ?_
    rintro _ ⟨⟩
    exact stands
  rw [Cycle.run_deliver]
  cases config.publishReason current.time with
  | none =>
    refine buffers (Or.inl ?_)
    rw [h]
    rfl
  | some reason =>
    refine conducts_bind (conducts_publish h taken) fun result past stands => ?_
    obtain ⟨outcome, force⟩ := result
    cases outcome with
    | failed => exact buffers stands
    | offline => exact buffers stands
    | resetRequested => exact buffers stands
    | published =>
      have clears : (onBlobs ReadingLog.clear.run).Only Aside :=
        aside_onBlobs (only_request (show ReadingLog.blob ≠ HatchConfig.blob by decide))
      refine conducts_bind (conducts_aside (lasting_inForce force.Stands) clears stands)
        fun y past stands => ?_
      cases y with
      | error e => exact nofun
      | ok _ =>
        -- the counters do not bear on the identity
        rintro _ ⟨⟩
        exact stands

/-- All that the life of the device asks of its conduct. -/
abbrev Conducted (p : Program Surroundings α) : Prop :=
  ∀ past, Conducts Attributed (fun _ _ => True) p past

lemma conducted_aside {p : Program Surroundings α} (aside : p.Only Aside) : Conducted p :=
  fun _ => conducts_aside (I := fun _ => True) (fun _ _ _ _ => trivial) aside trivial

lemma conducted_bind {p : Program Surroundings α} {k : α → Program Surroundings β}
    (first : Conducted p) (second : ∀ a, Conducted (k a)) : Conducted (p >>= k) :=
  fun past => conducts_bind (first past) fun a later _ => second a later

/-- Storing a configuration that stands. -/
lemma conducts_saveConfig {c : HatchConfig} (stands : c.Stands (inForce past)) :
    Conducts Attributed (fun _ _ => True) (onBlobs c.save.run) past :=
  conducts_request fun _ => ⟨fun _ => ⟨c, rfl, stands⟩, trivial⟩

/-- The configuration that was loaded is in force. -/
lemma conducts_loadConfig (past : Dialogue Surroundings) :
    Conducts Attributed (fun c later => ∃ stored,
      later = past ++ [⟨DeviceRequest.blob (.read HatchConfig.blob), stored⟩] ∧
      c = .ofRead stored) (onBlobs HatchConfig.load) past := by
  unfold HatchConfig.load
  rw [onBlobs_bind]
  refine conducts_request_bind fun stored => ⟨trivial, ?_⟩
  cases stored with
  | ok content => exact ⟨_, rfl, rfl⟩
  | error e => exact ⟨_, rfl, rfl⟩

lemma inForce_loaded (past : Dialogue Surroundings) (stored : Stored (Option Bytes)) :
    inForce (past ++ [⟨DeviceRequest.blob (.read HatchConfig.blob), stored⟩])
      = .loaded (.ofRead stored) :=
  inForce_concat _ _

lemma conducted_cycle (device : DeviceSettings) : Conducted (Cycle.run device).run := by
  intro past
  rw [Cycle.run_cycle]
  refine conducts_bind (conducts_loadConfig past) fun config later loaded => ?_
  obtain ⟨stored, rfl, rfl⟩ := loaded
  refine conducts_request_bind fun sensed => ⟨⟨past, stored, rfl⟩, ?_⟩
  cases sensed with
  | error e => trivial
  | ok climate =>
    refine conducts_request_bind fun now => ⟨trivial, ?_⟩
    have force : inForce (past ++ [⟨DeviceRequest.blob (.read HatchConfig.blob), stored⟩] ++
        [⟨DeviceRequest.sense, .ok climate⟩] ++ [⟨DeviceRequest.time, now⟩])
        = .loaded ((HatchConfig.ofRead stored).record
          (Cycle.readingOf (.ofRead stored) climate now).temperature) := by
      rw [inForce_concat, inForce_concat, inForce_loaded, loaded_record]
      rfl
    refine conducts_bind (conducts_deliver force ?_) fun y later delivered => ?_
    · exact Or.inr ⟨past, _, List.append_assoc _ _ _ |>.trans (List.append_assoc _ _ _), stored,
        climate, now, [], rfl, rfl⟩
    cases y with
    | error e => trivial
    | ok result =>
      obtain ⟨published, config⟩ := result
      refine conducts_bind (conducts_saveConfig (delivered _ rfl)) fun y later _ => ?_
      cases y <;> trivial

/-! ## The life of the device -/

lemma conducted_measure (device : DeviceSettings) : Conducted (Lifecycle.measure device).run := by
  intro past
  refine conducts_run_bind (conducted_cycle device past) (fun _ _ _ => trivial)
    fun outcome past _ => ?_
  cases outcome with
  | sleep seconds => trivial
  | hatchEnded =>
    have saves : (do DeviceProgram.store .store (Phase.save .configuring); return 0 :
        DeviceProgram UInt32).run.Only Aside :=
      only_store_bind (aside_savePhase _) fun _ => .done _
    exact conducted_aside saves past
  | resetRequested => trivial

lemma conducts_askForHatch {device : DeviceSettings} {current : HatchConfig}
    (h : inForce past = .loaded current) :
    Conducts Attributed (fun outcome later => Refreshed current outcome (inForce later))
      (Lifecycle.askForHatch device current) past := by
  have leaves : ∀ {past : Dialogue Surroundings} {outcome : Option ShadowOutcome},
      Refreshed current outcome (inForce past) →
      Conducts Attributed (fun outcome later => Refreshed current outcome (inForce later))
        (Surroundings.leave >>= fun _ => pure outcome) past := by
    intro past outcome refreshed
    have aside : Aside .leave := trivial
    refine conducts_request_bind fun _ => ⟨attributed_of_aside aside (), ?_⟩
    exact lasting_inForce (Refreshed current outcome) past ⟨DeviceRequest.leave, ()⟩ aside refreshed
  refine conducts_bind (conducts_aside (lasting_inForce (· = .loaded current)) (aside_bringUp _) h)
    fun status past linked => ?_
  have same : (inForce past).config = current := congrArg InForce.config linked
  cases status with
  | up => exact conducts_bind (conducts_fetchShadow linked) fun _ _ => leaves
  | down => exact leaves ⟨same, fun missing => absurd rfl missing⟩
  | resetRequested => exact leaves ⟨same, fun _ reset => absurd rfl reset⟩

/-- The configuration that is stored is what the last usable document has made of the loaded one. -/
lemma conducted_configure (device : DeviceSettings) :
    Conducted (Lifecycle.configure device).run := by
  intro past
  refine DeviceProgram.conducts_ask_bind (conducts_loadConfig past) fun current past loaded => ?_
  have force : inForce past = .loaded current := by
    obtain ⟨stored, rfl, rfl⟩ := loaded
    exact inForce_loaded _ _
  refine DeviceProgram.conducts_ask_bind (conducts_askForHatch force) fun outcome past asked => ?_
  rcases outcome with _ | (found | _ | _)
  · trivial
  · have stands : found.resetCounters.Stands (inForce past) := Or.inr (asked.2 nofun nofun).symm
    have looks : Surroundings.time.Only Aside := only_request trivial
    refine DeviceProgram.conducts_ask_bind
      (conducts_aside (lasting_inForce found.resetCounters.Stands) looks stands)
      fun now past stands => ?_
    split
    · trivial
    · have saves : (do DeviceProgram.store .store (Phase.save .measuring); return 0 :
          DeviceProgram UInt32).run.Only Aside :=
        only_store_bind (aside_savePhase _) fun _ => .done _
      exact DeviceProgram.conducts_store_bind (conducts_saveConfig stands)
        (fun _ _ _ => trivial) fun _ past _ => conducted_aside saves past
  · trivial
  · trivial

lemma conducted_step (device : DeviceSettings) : Conducted (Lifecycle.step device).run := by
  intro past
  have looks : Surroundings.signals.Only Aside := only_request trivial
  refine DeviceProgram.conducts_ask_bind (conducted_aside looks past) fun bits past _ => ?_
  split
  · exact conducted_aside aside_factoryReset past
  · refine DeviceProgram.conducts_ask_bind (conducted_aside aside_loadPhase past)
      fun phase past _ => ?_
    cases phase with
    | unknown =>
      have saves : (do DeviceProgram.store .store (Phase.save .provisioning); return 0 :
          DeviceProgram UInt32).run.Only Aside :=
        only_store_bind (aside_savePhase _) fun _ => .done _
      exact conducted_aside saves past
    | provisioning => exact conducted_aside (aside_provision device) past
    | configuring => exact conducted_configure device past
    | measuring => exact conducted_measure device past

lemma aside_settle (requested : UInt32) (remaining : Nat) :
    (Lifecycle.Stage.settle requested remaining).Only Aside := by
  have asleep : ∀ remaining, (Lifecycle.Stage.fallAsleep remaining).Only Aside :=
    fun remaining => only_bind (only_request trivial) fun _ => .done _
  refine only_bind (only_request trivial) fun bits => ?_
  split
  · exact asleep _
  · refine only_bind (only_request trivial) fun started =>
      only_bind (aside_awaitSignal _ _) fun bits => only_bind (only_request trivial) fun ended => ?_
    split
    · exact only_bind aside_factoryReset fun _ => .done _
    · exact asleep _

/-- Every piece of the life of the device conducts itself as it should. -/
lemma conducted_advance (device : DeviceSettings) (stage : Lifecycle.Stage) :
    Conducted (stage.advance device) := by
  cases stage with
  | awake => exact conducted_bind (conducted_step device) fun _ _ => trivial
  | settling requested remaining => exact conducted_aside (aside_settle requested remaining)
  | asleep seconds => exact fun _ => trivial
  | failed reason => exact fun _ => trivial

/-- A power period conducts itself as it should. -/
lemma conducted_live (device : DeviceSettings) (rounds periods : Nat) :
    Conducted (Lifecycle.live device rounds periods) :=
  Lifecycle.live_of_advance (fun _ _ => trivial) (fun _ _ => conducted_bind)
    (conducted_advance device) rounds periods

end Attribution

end HatchSensor
