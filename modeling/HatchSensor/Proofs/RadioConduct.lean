import HatchSensor.Proofs.Brackets
import HatchSensor.Proofs.Conduct
import HatchSensor.Proofs.Publishing
import HatchSensor.Proofs.Waits

/-!
# The conduct of the radio

A step of the device may join the network, open sessions with the cloud, and let a client provision
it.  Each of the three is a bracket.  Along every step no exchange happens while its bracket is in
the wrong state, a session with the cloud is opened only when the device is `RadioUse.Ready` for it,
and in the end nothing is open: `RadioUse.conducts_step`.

The phases are followed as their text goes.  What a piece of a phase begins with is one of a few
positions, `RadioUse.Standing`, `RadioUse.Online` and `RadioUse.Talking`, and most requests leave
all of them as they are.
-/

namespace HatchSensor

open Program

/-! ## The brackets of a step -/

namespace RadioUse

/-- The network: joined, however that turns out, and left. -/
def network : Bracket Surroundings
  | ⟨.join _ _, _⟩ => some true
  | ⟨.leave, _⟩ => some false
  | _ => none

/-- The session with the cloud: opened, if that succeeds, and closed. -/
def cloud : Bracket Surroundings
  | ⟨.connect _ _, .ok _⟩ => some true
  | ⟨.disconnect, _⟩ => some false
  | _ => none

/-- The provisioning transport: opened, if that succeeds, and closed. -/
def transport : Bracket Surroundings
  | ⟨.openProvisioning _, .ok _⟩ => some true
  | ⟨.closeProvisioning, _⟩ => some false
  | _ => none

/-- Requests to the network and to the cloud. -/
def online : DeviceRequest → Bool
  | .join _ _ | .leave | .connect _ _ | .requestShadow _ | .pump _ | .publish _ _ _
  | .disconnect => true
  | _ => false

/-- Requests that open and close nothing. -/
def steady : DeviceRequest → Bool
  | .join _ _ | .leave | .connect _ _ | .disconnect | .openProvisioning _
  | .closeProvisioning => false
  | _ => true

/-- Requests that need a session with the cloud. -/
def talks : DeviceRequest → Bool
  | .requestShadow _ | .pump _ | .publish _ _ _ => true
  | _ => false

/-! ### On the way to the cloud -/

/-- Such an exchange has happened, at a time when the dialogue before it satisfied `earlier`, and
the network has not been left since. -/
def Since (such : Exchange Surroundings → Prop) (earlier : Dialogue Surroundings → Prop)
    (past : Dialogue Surroundings) : Prop :=
  ∃ before e after, past = before ++ e :: after ∧ such e ∧ earlier before ∧
    ∀ x ∈ after, x.request ≠ DeviceRequest.leave

/-- A blob was read, and this text was in it. -/
def ReadText (name text : String) (past : Dialogue Surroundings) : Prop :=
  ∃ content, ⟨DeviceRequest.blob (.read name), .ok (some content)⟩ ∈ past ∧
    Blob.textOf content = some text

/-- Acceptable credentials were read from the store. -/
def Loaded (c : Credentials) (past : Dialogue Surroundings) : Prop :=
  ReadText Credentials.ssidBlob c.ssid past ∧ ReadText Credentials.passwordBlob c.password past ∧
    c.validate = .ok ()

/-- The network of the stored credentials was joined. -/
def Joined (past : Dialogue Surroundings) : Prop :=
  ∃ c timeout, Since (fun e => e = ⟨DeviceRequest.join c timeout, .ok ()⟩) (Loaded c) past

/-- The link was then seen to be up while no reset was requested. -/
def LinkSeen (past : Dialogue Surroundings) : Prop :=
  ∃ bits : SignalBits, bits.contains .linkUp = true ∧ bits.contains .resetRequested = false ∧
    Since (fun e => e.Saw bits) Joined past

/-- Then the clock was looked at and found to be set. -/
def ClockSeen (earlier : Dialogue Surroundings → Prop) (past : Dialogue Surroundings) : Prop :=
  ∃ now : UInt32, isValidTime now = true ∧
    Since (fun e => e = ⟨DeviceRequest.time, now⟩) earlier past

/-- The stored credentials were loaded, their network was joined, the link was seen and the clock
found to be set, in this order, and the network has not been left since. -/
def Ready (past : Dialogue Surroundings) : Prop := ClockSeen LinkSeen past

/-! ### Legality -/

/-- No exchange happens while its bracket is in the wrong state, and a session with the cloud is
opened only when the device is ready for it. -/
def Lawful (past : Dialogue Surroundings) (e : Exchange Surroundings) : Prop :=
  match (e.request : DeviceRequest) with
  | .leave => cloud.isOpen past = false
  | .connect _ _ => cloud.isOpen past = false ∧ network.isOpen past = true ∧ Ready past
  | .requestShadow _ | .pump _ | .publish _ _ _ | .disconnect => cloud.isOpen past = true
  | .openProvisioning _ => transport.isOpen past = false
  | .closeProvisioning => transport.isOpen past = true
  | _ => True

/-- The state of the three brackets. -/
structure Standing (joined connected serving : Bool) (past : Dialogue Surroundings) : Prop where
  network : network.isOpen past = joined
  cloud : cloud.isOpen past = connected
  transport : transport.isOpen past = serving

/-- The device can open a session with the cloud. -/
structure Online (past : Dialogue Surroundings) : Prop where
  standing : Standing true false false past
  ready : Ready past

/-- The device is in a session with the cloud. -/
structure Talking (past : Dialogue Surroundings) : Prop where
  standing : Standing true true false past
  ready : Ready past

/-! ### What lasts -/

/-- What is kept while nothing is opened or closed. -/
def Lasting (I : Dialogue Surroundings → Prop) : Prop :=
  ∀ past e, steady e.request = true → I past → I (past ++ [e])

variable {I J : Dialogue Surroundings → Prop} {past : Dialogue Surroundings}

lemma Lasting.and (first : Lasting I) (second : Lasting J) : Lasting fun past => I past ∧ J past :=
  fun past e still h => ⟨first past e still h.1, second past e still h.2⟩

/-- An exchange opens and closes what its brackets say. -/
lemma Standing.concat {joined connected serving : Bool} (h : Standing joined connected serving past)
    (e : Exchange Surroundings) :
    Standing ((RadioUse.network e).getD joined) ((RadioUse.cloud e).getD connected)
      ((RadioUse.transport e).getD serving) (past ++ [e]) where
  network := by rw [Bracket.isOpen_concat, h.network]
  cloud := by rw [Bracket.isOpen_concat, h.cloud]
  transport := by rw [Bracket.isOpen_concat, h.transport]

lemma lasting_standing (joined connected serving : Bool) :
    Lasting (Standing joined connected serving) := by
  rintro past ⟨r, x⟩ still h
  cases r <;> first | exact h.concat ⟨_, x⟩ | exact absurd still Bool.false_ne_true

/-- The network is not left by other exchanges. -/
lemma Since.concat {such : Exchange Surroundings → Prop} {earlier : Dialogue Surroundings → Prop}
    (h : Since such earlier past) {e : Exchange Surroundings}
    (other : e.request ≠ DeviceRequest.leave) : Since such earlier (past ++ [e]) := by
  obtain ⟨before, first, after, rfl, found, then_, stayed⟩ := h
  refine ⟨before, first, after ++ [e], by simp, found, then_, fun x hx => ?_⟩
  rcases List.mem_append.mp hx with hx | hx
  · exact stayed x hx
  · rwa [List.mem_singleton.mp hx]

lemma Since.mono {such : Exchange Surroundings → Prop}
    {earlier other : Dialogue Surroundings → Prop} (h : Since such earlier past)
    (weaker : ∀ before, earlier before → other before) : Since such other past := by
  obtain ⟨before, e, after, split, found, then_, stayed⟩ := h
  exact ⟨before, e, after, split, found, weaker before then_, stayed⟩

/-- The exchange that was waited for has happened just now. -/
lemma since_now {such : Exchange Surroundings → Prop} {earlier : Dialogue Surroundings → Prop}
    {e : Exchange Surroundings} (found : such e) (h : earlier past) :
    Since such earlier (past ++ [e]) :=
  ⟨past, e, [], rfl, found, h, by simp⟩

lemma ne_leave_of_steady {e : Exchange Surroundings} (still : steady e.request = true) :
    e.request ≠ DeviceRequest.leave := by
  intro leaves
  rw [leaves] at still
  exact absurd still Bool.false_ne_true

lemma lasting_joined : Lasting Joined := by
  rintro past e still ⟨c, timeout, h⟩
  exact ⟨c, timeout, h.concat (ne_leave_of_steady still)⟩

lemma lasting_linkSeen : Lasting LinkSeen := by
  rintro past e still ⟨bits, up, unrequested, h⟩
  exact ⟨bits, up, unrequested, h.concat (ne_leave_of_steady still)⟩

lemma Ready.concat (h : Ready past) {e : Exchange Surroundings}
    (other : e.request ≠ DeviceRequest.leave) : Ready (past ++ [e]) := by
  obtain ⟨now, valid, since⟩ := h
  exact ⟨now, valid, since.concat other⟩

lemma lasting_readText (name text : String) : Lasting (ReadText name text) := by
  rintro past e - ⟨content, there, holds⟩
  exact ⟨content, List.mem_append_left _ there, holds⟩

lemma lasting_talking : Lasting Talking := fun past e still h =>
  ⟨lasting_standing _ _ _ past e still h.standing, h.ready.concat (ne_leave_of_steady still)⟩

lemma lasting_online : Lasting Online := fun past e still h =>
  ⟨lasting_standing _ _ _ past e still h.standing, h.ready.concat (ne_leave_of_steady still)⟩

/-! ## Local programs -/

/-- Requests that open and close nothing and need no session. -/
def Quiet (r : DeviceRequest) : Prop := steady r = true ∧ talks r = false

section Programs

variable {α β : Type} {post : α → Dialogue Surroundings → Prop}

/-- A request is legal if it needs neither an open bracket nor a closed one. -/
lemma lawful_of_quiet {r : DeviceRequest} {x : r.Answer} (h : Quiet r) : Lawful past ⟨r, x⟩ := by
  obtain ⟨still, silent⟩ := h
  cases r <;> trivial

/-- A program that opens and closes nothing and needs no session. -/
lemma conducts_quiet (lasting : Lasting I) {p : Program Surroundings α} (quiet : p.Only Quiet)
    (h : I past) : Conducts Lawful (fun _ => I) p past :=
  conducts_of_only quiet (fun r x past allowed holds =>
    ⟨lawful_of_quiet allowed, lasting past ⟨r, x⟩ allowed.1 holds⟩) h

/-- A program that talks to the cloud in an open session. -/
lemma conducts_talking {p : Program Surroundings α} (only : p.Only fun r => steady r = true)
    (h : Talking past) : Conducts Lawful (fun _ => Talking) p past := by
  refine conducts_of_only only
    (fun r x past still holds => ⟨?_, lasting_talking past _ still holds⟩) h
  cases r <;> first | trivial | exact holds.standing.cloud

lemma quiet_onBlobs (p : Program Blobs α) : (onBlobs p).Only Quiet := by
  induction p with
  | done a => exact .done a
  | ask r k ih => exact .ask ⟨rfl, rfl⟩ ih

/-- Anything that is done with the blobs keeps what lasts. -/
lemma conducts_onBlobs (lasting : Lasting I) (p : Program Blobs α) (h : I past) :
    Conducts Lawful (fun _ => I) (onBlobs p) past :=
  conducts_quiet lasting (quiet_onBlobs p) h

/-- A text that is found was read. -/
lemma conducts_readText (lasting : Lasting I) (name : String) (h : I past) :
    Conducts Lawful (fun found later => I later ∧ ∀ text, found = some text →
      ReadText name text later) (onBlobs (Blob.readText name)) past := by
  unfold Blob.readText
  rw [onBlobs_bind]
  refine conducts_request_bind fun read => ⟨trivial, ?_⟩
  have kept := lasting past ⟨DeviceRequest.blob (.read name), read⟩ rfl h
  cases read with
  | error e => exact ⟨kept, fun text missing => nomatch missing⟩
  | ok content =>
    cases content with
    | none => exact ⟨kept, fun text missing => nomatch missing⟩
    | some content =>
      exact ⟨kept, fun text found => ⟨content, by simp, found⟩⟩

/-- Credentials that are found were read. -/
lemma conducts_loadCredentials (lasting : Lasting I) (h : I past) :
    Conducts Lawful (fun found later => I later ∧ ∀ c, found = some c → Loaded c later)
      (onBlobs Credentials.load) past := by
  unfold Credentials.load
  rw [onBlobs_bind]
  refine conducts_bind (conducts_readText lasting Credentials.ssidBlob h) fun ssid later first => ?_
  obtain ⟨kept, read⟩ := first
  cases ssid with
  | none => exact ⟨kept, fun c missing => nomatch missing⟩
  | some ssid =>
    have first := read ssid rfl
    rw [onBlobs_bind]
    refine conducts_bind (conducts_readText (lasting.and (lasting_readText _ ssid))
      Credentials.passwordBlob ⟨kept, first⟩) fun password later' second => ?_
    obtain ⟨⟨kept', first'⟩, read'⟩ := second
    cases password with
    | none => exact ⟨kept', fun c missing => nomatch missing⟩
    | some password =>
      refine ⟨kept', fun c accepted => ?_⟩
      unfold Credentials.accept at accepted
      split at accepted
      · next valid =>
        obtain rfl := Option.some.inj accepted
        exact ⟨first', read' password rfl, valid⟩
      · exact nomatch accepted

/-- The bits that a wait returns were seen. -/
lemma conducts_awaitSignal (lasting : Lasting I) (mask : SignalBits) (timeout : Nat) (h : I past) :
    Conducts Lawful (fun bits later => I later ∧ Since (fun e => e.Saw bits) I later)
      (awaitSignal mask timeout) past := by
  unfold awaitSignal
  refine conducts_request_bind fun id => ⟨trivial, ?_⟩
  have opened := lasting _ ⟨DeviceRequest.openWait, id⟩ rfl h
  refine conducts_request_bind fun start => ⟨trivial, ?_⟩
  have timed := lasting _ ⟨DeviceRequest.instant, start⟩ rfl opened
  -- once the bits were seen, all that is left is to close the wait
  have closes : ∀ (bits : SignalBits) (later : Dialogue Surroundings) (e : Exchange Surroundings),
      e.Saw bits → steady e.request = true → I later →
      Conducts Lawful (fun bits later => I later ∧ Since (fun e => e.Saw bits) I later)
        (Surroundings.closeWait id >>= fun _ => pure bits) (later ++ [e]) := by
    intro bits later e saw still holds
    refine conducts_request_bind fun _ => ⟨trivial, ?_⟩
    have kept := lasting later e still holds
    exact ⟨lasting _ ⟨DeviceRequest.closeWait id, ()⟩ rfl kept,
      (since_now saw holds).concat (ne_leave_of_steady rfl)⟩
  have asks : ∀ later, I later →
      Conducts Lawful (fun bits later => I later ∧ Since (fun e => e.Saw bits) I later)
        (Surroundings.signals >>= fun bits => Surroundings.closeWait id >>= fun _ => pure bits)
        later := by
    intro later holds
    refine conducts_request_bind fun bits => ⟨trivial, ?_⟩
    exact closes bits later _ (.signals bits) rfl holds
  refine conducts_request_bind fun found => ⟨trivial, ?_⟩
  cases found with
  | some bits => exact closes bits _ _ (.look _ _ bits) rfl timed
  | none =>
    have looked := lasting _ ⟨DeviceRequest.look id (SignalRegister.waitMask mask), none⟩ rfl timed
    refine conducts_request_bind fun wake => ⟨trivial, ?_⟩
    cases wake with
    | signalled bits => exact closes bits _ _ (.park _ _ _ _ bits) rfl looked
    | expired => exact asks _ (lasting _ ⟨DeviceRequest.park _ _ _ _, Wake.expired⟩ rfl looked)
    | elapsed => exact asks _ (lasting _ ⟨DeviceRequest.park _ _ _ _, Wake.elapsed⟩ rfl looked)

/-- A clock that was found to be set was looked at. -/
lemma conducts_awaitTime (lasting : Lasting I) (interval retries : Nat) (h : I past) :
    Conducts Lawful (fun set later => I later ∧ (set = true → ClockSeen I later))
      (awaitTime interval retries) past := by
  induction retries generalizing past with
  | zero => exact ⟨h, fun unset => nomatch unset⟩
  | succ retries ih =>
    refine conducts_bind (conducts_awaitSignal lasting .none interval h) fun bits later waited => ?_
    split
    · exact ⟨waited.1, fun unset => nomatch unset⟩
    · refine conducts_request_bind fun now => ⟨trivial, ?_⟩
      have looked := lasting _ ⟨DeviceRequest.time, now⟩ rfl waited.1
      split
      · next valid => exact ⟨looked, fun _ => ⟨now, valid, since_now rfl waited.1⟩⟩
      · exact ih looked

lemma conducts_syncTime (lasting : Lasting I) (timing : DeviceTiming) (h : I past) :
    Conducts Lawful (fun set later => I later ∧ (set = true → ClockSeen I later))
      (syncTime timing) past := by
  unfold syncTime
  refine conducts_request_bind fun now => ⟨trivial, ?_⟩
  have looked := lasting _ ⟨DeviceRequest.time, now⟩ rfl h
  split
  · next valid => exact ⟨looked, fun _ => ⟨now, valid, since_now rfl h⟩⟩
  · refine conducts_request_bind fun started => ⟨trivial, ?_⟩
    have tried := lasting _ ⟨DeviceRequest.startTimeSync, started⟩ rfl looked
    cases started with
    | error e => exact ⟨tried, fun unset => nomatch unset⟩
    | ok _ => exact conducts_awaitTime lasting _ _ tried

/-! ## Going online -/

/-- The link is reported to be up only when the device is ready for the cloud. -/
lemma conducts_bringUp (timing : DeviceTiming) (h : Standing false false false past) :
    Conducts Lawful (fun status later => (∃ joined, Standing joined false false later) ∧
      (status = .up → Online later)) (bringUp timing) past := by
  unfold bringUp
  refine conducts_bind (conducts_loadCredentials (lasting_standing _ _ _) h)
    fun found later held => ?_
  obtain ⟨apart, loaded⟩ := held
  cases found with
  | none => exact ⟨⟨_, apart⟩, fun up => nomatch up⟩
  | some c =>
    obtain ⟨ssid, password, valid⟩ := loaded c rfl
    refine conducts_request_bind fun _ => ⟨trivial, ?_⟩
    have cleared : Loaded c
        (later ++ [⟨DeviceRequest.clear (SignalBits.linkUp.union .linkDown), ()⟩]) :=
      ⟨lasting_readText _ _ _ _ rfl ssid, lasting_readText _ _ _ _ rfl password, valid⟩
    have apart' := lasting_standing _ _ _ _
      ⟨DeviceRequest.clear (SignalBits.linkUp.union .linkDown), ()⟩ rfl apart
    refine conducts_request_bind fun answer => ⟨trivial, ?_⟩
    have inside := apart'.concat ⟨DeviceRequest.join c timing.linkTimeout, answer⟩
    cases answer with
    | error e => exact ⟨⟨_, inside⟩, fun up => nomatch up⟩
    | ok _ =>
      have joined : Joined (later ++ [⟨DeviceRequest.clear (SignalBits.linkUp.union .linkDown), ()⟩]
          ++ [⟨DeviceRequest.join c timing.linkTimeout, .ok ()⟩]) :=
        ⟨c, timing.linkTimeout, since_now rfl cleared⟩
      have lasting := (lasting_standing true false false).and lasting_joined
      refine conducts_bind (conducts_awaitSignal lasting .linkUp _ ⟨inside, joined⟩)
        fun bits waited seen => ?_
      obtain ⟨⟨standing, -⟩, saw⟩ := seen
      split
      · exact ⟨⟨_, standing⟩, fun up => nomatch up⟩
      · next unrequested =>
        split
        · exact ⟨⟨_, standing⟩, fun up => nomatch up⟩
        · next up =>
          have linkSeen : LinkSeen waited :=
            ⟨bits, by simpa using up, by simpa using unrequested, saw.mono fun _ held => held.2⟩
          have lasting' := (lasting_standing true false false).and lasting_linkSeen
          refine conducts_bind (conducts_syncTime lasting' timing ⟨standing, linkSeen⟩)
            fun set synced clock => ?_
          obtain ⟨⟨standing', -⟩, known⟩ := clock
          split
          · next isSet =>
            obtain ⟨now, valid, told⟩ := known isSet
            have ready : Ready synced := ⟨now, valid, told.mono fun _ held => held.2⟩
            exact ⟨⟨_, standing'⟩, fun _ => ⟨standing', ready⟩⟩
          · refine conducts_request_bind fun bits => ⟨trivial, ?_⟩
            have standing'' := lasting_standing _ _ _ _ ⟨DeviceRequest.signals, bits⟩ rfl standing'
            split
            · exact ⟨⟨_, standing''⟩, fun up => nomatch up⟩
            · exact ⟨⟨_, standing''⟩, fun up => nomatch up⟩

/-- A session with the cloud is opened, or it is not. -/
lemma conducts_connect {name : String} {timeout : Nat} {f : Attempt Unit → Program Surroundings α}
    (h : Online past)
    (refused : ∀ e later, Online later → Conducts Lawful post (f (.error e)) later)
    (opened : ∀ later, Talking later → Conducts Lawful post (f (.ok ())) later) :
    Conducts Lawful post (Surroundings.connect name timeout >>= f) past := by
  obtain ⟨standing, ready⟩ := h
  refine conducts_request_bind fun answer =>
    ⟨⟨standing.cloud, standing.network, ready⟩, ?_⟩
  have ready' := ready.concat (e := ⟨DeviceRequest.connect name timeout, answer⟩)
    fun same => nomatch same
  have standing' := standing.concat ⟨DeviceRequest.connect name timeout, answer⟩
  cases answer with
  | error e => exact refused e _ ⟨standing', ready'⟩
  | ok _ => exact opened _ ⟨standing', ready'⟩

/-- A session with the cloud is closed. -/
lemma conducts_disconnect {f : Unit → Program Surroundings α} (h : Talking past)
    (next : ∀ later, Online later → Conducts Lawful post (f ()) later) :
    Conducts Lawful post (Surroundings.disconnect >>= f) past := by
  obtain ⟨standing, ready⟩ := h
  refine conducts_request_bind fun _ => ⟨standing.cloud, ?_⟩
  exact next _ ⟨standing.concat ⟨DeviceRequest.disconnect, ()⟩,
    ready.concat fun same => nomatch same⟩

/-- The network is left, whether it was joined or not. -/
lemma conducts_leave {joined : Bool} {f : Unit → Program Surroundings α}
    (h : Standing joined false false past)
    (next : ∀ later, Standing false false false later → Conducts Lawful post (f ()) later) :
    Conducts Lawful post (Surroundings.leave >>= f) past :=
  conducts_request_bind fun _ => ⟨h.cloud, next _ (h.concat ⟨DeviceRequest.leave, ()⟩)⟩

/-! ## In a session -/

/-- The conversation opens and closes nothing. -/
lemma steady_converse (s : PumpSchedule) (thing : String) (current : HatchConfig) :
    (ShadowExchange.converse s thing current).Only fun r => steady r = true := by
  refine (only_converse s thing current).mono fun r inside => ?_
  cases r <;> first | rfl | exact False.elim inside

/-- Publishing opens and closes nothing. -/
lemma steady_publishAll (name hatch : String) (readings : List Reading) :
    (Cycle.publishAll name hatch readings).Only fun r => steady r = true := by
  induction readings with
  | nil => exact .done _
  | cons r rest ih =>
    refine only_bind (only_request rfl) fun sent => ?_
    cases sent with
    | error e => exact .done _
    | ok _ => exact ih

/-- The shadow exchange opens one session and closes it. -/
lemma conducts_fetch (s : PumpSchedule) (thing : String) (current : HatchConfig)
    (h : Online past) :
    Conducts Lawful (fun _ => Online) (ShadowExchange.fetch s thing current) past := by
  unfold ShadowExchange.fetch
  refine conducts_request_bind fun _ => ⟨trivial, ?_⟩
  have cleared := lasting_online _ ⟨DeviceRequest.clear .shadowReceived, ()⟩ rfl h
  refine conducts_connect cleared (fun e later online => online) fun later talking => ?_
  refine conducts_bind (conducts_talking (steady_converse _ _ _) talking)
    fun outcome later talking => ?_
  refine conducts_disconnect talking fun later online => ?_
  refine conducts_request_bind fun _ => ⟨trivial, ?_⟩
  exact lasting_online _ ⟨DeviceRequest.clear .shadowReceived, ()⟩ rfl online

lemma conducts_fetchShadow (device : DeviceSettings) (current : HatchConfig) (h : Online past) :
    Conducts Lawful (fun _ => Online) (fetchShadow device current) past := by
  unfold fetchShadow
  refine conducts_bind (conducts_onBlobs lasting_online _ h) fun name later online => ?_
  refine conducts_bind (conducts_fetch _ _ _ online) fun outcome later online => ?_
  cases outcome with
  | error e => exact online
  | ok outcome => exact online

/-- Publishing the log opens one session and closes it. -/
lemma conducts_publishLog (device : DeviceSettings) (hatch : String) (current : Reading)
    (h : Online past) :
    Conducts Lawful (fun _ => Online) (Cycle.publishLog device hatch current) past := by
  unfold Cycle.publishLog
  refine conducts_bind (conducts_onBlobs lasting_online _ h) fun logged later online => ?_
  cases logged with
  | error e => exact online
  | ok readings =>
    refine conducts_bind (conducts_onBlobs lasting_online _ online) fun name later online => ?_
    refine conducts_connect online (fun e later online => online) fun later talking => ?_
    refine conducts_bind (conducts_talking (steady_publishAll _ _ _) talking)
      fun outcome later talking => ?_
    exact conducts_disconnect talking fun later online => online

/-- Whatever comes of going online, no session is open in the end. -/
lemma conducts_publishOnline (device : DeviceSettings) (config : HatchConfig) (current : Reading)
    (h : Standing false false false past) :
    Conducts Lawful (fun _ later => ∃ joined, Standing joined false false later)
      (Cycle.publishOnline device config current) past := by
  unfold Cycle.publishOnline
  refine conducts_bind (conducts_bringUp _ h) fun status later reached => ?_
  obtain ⟨apart, up⟩ := reached
  cases status with
  | down => exact apart
  | resetRequested => exact apart
  | up =>
    refine conducts_bind (conducts_fetchShadow device config (up rfl))
      fun outcome later online => ?_
    cases outcome with
    | none => exact ⟨_, online.standing⟩
    | some outcome =>
      cases outcome with
      | resetRequested => exact ⟨_, online.standing⟩
      | notReceived =>
        exact conducts_bind (conducts_publishLog _ _ _ online) fun _ _ online =>
          ⟨_, online.standing⟩
      | updated refreshed =>
        exact conducts_bind (conducts_publishLog _ _ _ online) fun _ _ online =>
          ⟨_, online.standing⟩

/-- Publishing ends with the network left. -/
lemma conducts_publish (device : DeviceSettings) (config : HatchConfig) (current : Reading)
    (h : Standing false false false past) :
    Conducts Lawful (fun _ => Standing false false false)
      (Cycle.publish device config current) past := by
  unfold Cycle.publish
  refine conducts_bind (conducts_publishOnline device config current h)
    fun outcome later apart => ?_
  obtain ⟨joined, standing⟩ := apart
  exact conducts_leave standing fun later standing => standing

/-- So does asking for a hatch. -/
lemma conducts_askForHatch (device : DeviceSettings) (current : HatchConfig)
    (h : Standing false false false past) :
    Conducts Lawful (fun _ => Standing false false false)
      (Lifecycle.askForHatch device current) past := by
  have leaves : ∀ (outcome : Option ShadowOutcome) (later : Dialogue Surroundings) (joined : Bool),
      Standing joined false false later →
      Conducts Lawful (fun _ => Standing false false false)
        (Surroundings.leave >>= fun _ => pure outcome) later :=
    fun outcome later joined standing => conducts_leave standing fun _ standing => standing
  unfold Lifecycle.askForHatch
  refine conducts_bind (conducts_bringUp _ h) fun status later reached => ?_
  obtain ⟨⟨joined, standing⟩, up⟩ := reached
  cases status with
  | down => exact leaves none later joined standing
  | resetRequested => exact leaves (some .resetRequested) later joined standing
  | up =>
    exact conducts_bind (conducts_fetchShadow device current (up rfl)) fun outcome later online =>
      leaves outcome later true online.standing

end Programs

/-! ## Phases -/

section Phases

variable {device : DeviceSettings}

/-- The postcondition of all phases: nothing is open. -/
abbrev Ends {ε : Type} : ε → Dialogue Surroundings → Prop := fun _ => Standing false false false

lemma quiet_factoryReset : Lifecycle.factoryReset.run.Only Quiet :=
  only_store_bind (quiet_onBlobs _) fun _ => only_store_bind (quiet_onBlobs _) fun _ =>
    only_store_bind (quiet_onBlobs _) fun _ => only_ask_bind (only_request ⟨rfl, rfl⟩) fun _ =>
      .done _

lemma quiet_setRequestedTime : Lifecycle.setRequestedTime.Only Quiet :=
  Lifecycle.only_setRequestedTime ⟨rfl, rfl⟩ fun _ => ⟨rfl, rfl⟩

lemma quiet_buffer (r : Reading) : (Cycle.buffer r).Only Quiet := by
  refine only_bind (quiet_onBlobs _) fun stored => ?_
  cases stored with
  | ok _ => exact .done _
  | error e => exact only_request ⟨rfl, rfl⟩

/-- A store operation that is all there is left to do, but for a value. -/
lemma conducts_store_last {α : Type} {explain : StoreError → DeviceError} {p : BlobProgram Unit}
    {a : α} (h : Standing false false false past) :
    Conducts Lawful Ends (do DeviceProgram.store explain p; return a : DeviceProgram α).run past :=
  DeviceProgram.conducts_store_bind (conducts_onBlobs (lasting_standing _ _ _) _ h)
    (fun _ _ standing => standing) fun _ _ standing => standing

lemma conducts_provision (h : Standing false false false past) :
    Conducts Lawful Ends (Lifecycle.provision device).run past := by
  unfold Lifecycle.provision
  have lasting := lasting_standing false false false
  refine DeviceProgram.conducts_ask_bind
    (conducts_quiet lasting (only_request ⟨rfl, rfl⟩) h) fun _ later standing => ?_
  rw [DeviceProgram.run_ask_bind]
  refine conducts_request_bind fun opened => ⟨standing.transport, ?_⟩
  have standing' := standing.concat
    ⟨DeviceRequest.openProvisioning (Session.start device.fallbackName), opened⟩
  cases opened with
  | error e =>
    exact DeviceProgram.conducts_ask_bind
      (conducts_quiet lasting (only_request ⟨rfl, rfl⟩) standing') fun _ _ standing => standing
  | ok _ =>
    refine DeviceProgram.conducts_ask_bind
      (conducts_awaitSignal (lasting_standing false false true) _ _ standing')
      fun bits later waited => ?_
    rw [DeviceProgram.run_ask_bind]
    refine conducts_request_bind fun closed => ⟨waited.1.transport, ?_⟩
    refine DeviceProgram.conducts_ask_bind (conducts_quiet lasting quiet_setRequestedTime
      (waited.1.concat ⟨DeviceRequest.closeProvisioning, closed⟩)) fun _ later standing => ?_
    split
    · exact standing
    · split
      · exact standing
      · refine DeviceProgram.conducts_ask_bind (conducts_onBlobs lasting _ standing)
          fun found later standing => ?_
        cases found with
        | none => exact standing
        | some c =>
          refine DeviceProgram.conducts_ask_bind
            (conducts_quiet lasting (only_request ⟨rfl, rfl⟩) standing) fun _ later standing => ?_
          exact conducts_store_last standing

lemma conducts_configure (h : Standing false false false past) :
    Conducts Lawful Ends (Lifecycle.configure device).run past := by
  unfold Lifecycle.configure
  have lasting := lasting_standing false false false
  refine DeviceProgram.conducts_ask_bind (conducts_onBlobs lasting _ h)
    fun current later standing => ?_
  refine DeviceProgram.conducts_ask_bind (conducts_askForHatch device current standing)
    fun outcome later standing => ?_
  cases outcome with
  | none => exact standing
  | some outcome =>
    cases outcome with
    | resetRequested => exact standing
    | notReceived => exact standing
    | updated config =>
      refine DeviceProgram.conducts_ask_bind
        (conducts_quiet lasting (only_request ⟨rfl, rfl⟩) standing) fun now later standing => ?_
      split
      · exact standing
      · exact DeviceProgram.conducts_store_bind (conducts_onBlobs lasting _ standing)
          (fun _ _ standing => standing) fun _ later standing => conducts_store_last standing

lemma conducts_deliver (config : HatchConfig) (current : Reading)
    (h : Standing false false false past) :
    Conducts Lawful Ends (Cycle.deliver device config current).run past := by
  have lasting := lasting_standing false false false
  have logged : ∀ (later : Dialogue Surroundings) (a : Option PublishOutcome × HatchConfig),
      Standing false false false later → Conducts Lawful Ends
        (do DeviceProgram.ask (Cycle.buffer current); return a :
          DeviceProgram (Option PublishOutcome × HatchConfig)).run later :=
    fun later a standing => DeviceProgram.conducts_ask_bind
      (conducts_quiet lasting (quiet_buffer _) standing) fun _ _ standing => standing
  unfold Cycle.deliver
  split
  · exact logged past _ h
  · refine DeviceProgram.conducts_ask_bind (conducts_publish device config current h)
      fun published later standing => ?_
    obtain ⟨outcome, config'⟩ := published
    cases outcome with
    | published => exact conducts_store_last standing
    | failed => exact logged later _ standing
    | offline => exact logged later _ standing
    | resetRequested => exact logged later _ standing

lemma conducts_measure (h : Standing false false false past) :
    Conducts Lawful Ends (Lifecycle.measure device).run past := by
  have lasting := lasting_standing false false false
  have cycle : Conducts Lawful Ends (Cycle.run device).run past := by
    unfold Cycle.run
    refine DeviceProgram.conducts_ask_bind (conducts_onBlobs lasting _ h)
      fun config later standing => ?_
    refine DeviceProgram.conducts_ask_bind
      (conducts_quiet lasting (only_request ⟨rfl, rfl⟩) standing) fun sensed later standing => ?_
    cases sensed with
    | error e => exact standing
    | ok climate =>
      refine DeviceProgram.conducts_ask_bind
        (conducts_quiet lasting (only_request ⟨rfl, rfl⟩) standing) fun now later standing => ?_
      refine conducts_run_bind (conducts_deliver _ _ standing) (fun _ _ standing => standing)
        fun delivered later standing => ?_
      exact conducts_store_last standing
  unfold Lifecycle.measure
  refine conducts_run_bind cycle (fun _ _ standing => standing) fun outcome later standing => ?_
  cases outcome with
  | sleep seconds => exact standing
  | resetRequested => exact standing
  | hatchEnded => exact conducts_store_last standing

/-- Every step of the device is lawful, and in the end nothing is open. -/
lemma conducts_step (h : Standing false false false past) :
    Conducts Lawful Ends (Lifecycle.step device).run past := by
  have lasting := lasting_standing false false false
  unfold Lifecycle.step
  refine DeviceProgram.conducts_ask_bind
    (conducts_quiet lasting (only_request ⟨rfl, rfl⟩) h) fun bits later standing => ?_
  split
  · exact conducts_quiet lasting quiet_factoryReset standing
  · refine DeviceProgram.conducts_ask_bind (conducts_onBlobs lasting _ standing)
      fun phase later standing => ?_
    cases phase with
    | unknown => exact conducts_store_last standing
    | provisioning => exact conducts_provision standing
    | configuring => exact conducts_configure standing
    | measuring => exact conducts_measure standing

end Phases

end RadioUse

end HatchSensor
