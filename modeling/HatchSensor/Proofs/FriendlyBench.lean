import HatchSensor.Proofs.BenchRuns
import HatchSensor.Proofs.Holdings

/-!
# Friendly benches

Nothing happens by itself on a friendly bench, nothing has been broken on it, its network and its
cloud can be reached, and the cloud has a document.  What a device can find there is a `Scene`.
The virtual time, the parked waits and the counts of calls are not part of it, so that a scene says
what is to come and no more.

Every request turns a scene into another one.  `TimedBench.Does` says that a program gives a value
on every friendly bench that shows a scene, and leaves the bench showing another.
-/

namespace HatchSensor

open Program

/-- What a device can find on a friendly bench. -/
structure Scene (ρ : Type) where
  holdings : Holdings
  /-- The bits of the register. -/
  bits : SignalBits
  /-- The calendar clock. -/
  time : UInt32
  /-- The device has joined the network. -/
  joined : Bool
  /-- A session with the cloud is open. -/
  online : Bool
  /-- A shadow request is unanswered. -/
  asked : Bool
  /-- The document that answers it. -/
  document : String
  /-- Everything that was published. -/
  published : List Publication
  /-- The provisioning transport. -/
  transport : BenchTransport
  sensor : ρ
  /-- The sleeps so far, in seconds. -/
  sleeps : List UInt32

/-- The cloud can be reached and answers in the first step after a request, and publishing is not
limited. -/
structure BenchCloud.Serves {ρ : Type} (c : BenchCloud) (s : Scene ρ) : Prop where
  reachable : c.reachable = true
  faultless : c.faults = []
  unlimited : c.budget = none
  prompt : c.deliverAt ≤ 1
  online : c.connected = s.online
  asked : c.awaiting = s.asked
  document : c.document = some s.document
  published : c.published = s.published

/-- The calendar clock after some seconds.  It stops at its last second. -/
@[irreducible]
def later (time seconds : UInt32) : UInt32 :=
  UInt32.ofNat (min (time.toNat + seconds.toNat) 0xffffffff)

lemma toNat_later (time seconds : UInt32) :
    (later time seconds).toNat = min (time.toNat + seconds.toNat) 0xffffffff := by
  have bound : min (time.toNat + seconds.toNat) 0xffffffff < UInt32.size := by
    have size : UInt32.size = 4294967296 := rfl
    omega
  unfold later
  exact UInt32.toNat_ofNat_of_lt' bound

/-- The calendar clock does not go back. -/
lemma le_later (time seconds : UInt32) : time ≤ later time seconds := by
  have bound := time.toNat_lt
  rw [UInt32.le_iff_toNat_le, toNat_later]
  omega

/-- The device has slept for some seconds. -/
def Scene.slept {ρ : Type} (s : Scene ρ) (seconds : UInt32) : Scene ρ :=
  { s with time := later s.time seconds, sleeps := s.sleeps ++ [seconds] }

/-- A session has been opened, and the write that was waiting has been delivered to it. -/
def BenchTransport.opened (t : BenchTransport) (session : Session) (effect : WriteEffect) :
    BenchTransport :=
  { t with
    enabled := true
    session := some session
    queued := []
    replies := t.replies ++ (effect.reply.map Reply.toText).toList }

namespace TimedBench

variable {ρ ε : Type} {rules : BenchRules ρ ε} {s s' s'' : Scene ρ}

/-- The bench is friendly, and this is what a device finds there. -/
structure Shows (t : TimedBench ρ ε) (s : Scene ρ) : Prop where
  pending : t.pending = []
  sampleDue : t.sampleDue = none
  readable : t.world.storeFaults = []
  writable : t.world.store.failWrites = false
  holds : t.world.store.blobs.Holds s.holdings
  bits : t.world.register.bits = s.bits
  time : t.world.clock.time = s.time
  reachable : t.world.link.reachable = true
  audible : t.world.link.silent = false
  joined : t.world.link.connected = s.joined
  cloud : t.world.cloud.Serves s
  transport : t.world.transport = s.transport
  sensor : t.world.sensor = s.sensor
  sleeps : t.world.power.sleeps = s.sleeps

/-- On every bench that shows the scene the program gives a value and leaves another scene. -/
def Does {α : Type} (rules : BenchRules ρ ε) (p : Program Surroundings α) (s : Scene ρ) (a : α)
    (s' : Scene ρ) : Prop :=
  ∀ t : TimedBench ρ ε, t.Shows s → (run rules p t).1 = a ∧ (run rules p t).2.Shows s'

/-! ## Sequences -/

section Sequences

variable {α β : Type} {p : Program Surroundings α} {f : α → Program Surroundings β} {a : α} {b : β}

lemma run_bind (rules : BenchRules ρ ε) (p : Program Surroundings α)
    (f : α → Program Surroundings β) (t : TimedBench ρ ε) :
    run rules (p >>= f) t = run rules (f (run rules p t).1) (run rules p t).2 := by
  induction p generalizing t with
  | done a => rfl
  | ask r k ih => exact ih _ _

lemma does_done (a : α) : Does rules (.done a) s a s := fun _ shows => ⟨rfl, shows⟩

lemma does_bind (first : Does rules p s a s') (second : Does rules (f a) s' b s'') :
    Does rules (p >>= f) s b s'' := by
  intro t shows
  obtain ⟨value, left⟩ := first t shows
  rw [run_bind, value]
  exact second _ left

/-- What is not part of the scene may be anything. -/
lemma does_bind_any (first : ∀ t : TimedBench ρ ε, t.Shows s → (run rules p t).2.Shows s')
    (second : ∀ a, Does rules (f a) s' b s'') : Does rules (p >>= f) s b s'' := by
  intro t shows
  rw [run_bind]
  exact second _ _ (first t shows)

lemma does_ask_bind {k : α → DeviceProgram β} {y : Except DeviceError β}
    (first : Does rules p s a s') (second : Does rules (k a).run s' y s'') :
    Does rules (DeviceProgram.ask p >>= k).run s y s'' := by
  rw [DeviceProgram.run_ask_bind]
  exact does_bind first second

/-- A step of a phase that may fail does not fail. -/
lemma does_run_bind {x : DeviceProgram α} {k : α → DeviceProgram β} {y : Except DeviceError β}
    (first : Does rules x.run s (.ok a) s') (second : Does rules (k a).run s' y s'') :
    Does rules (x >>= k).run s y s'' := by
  rw [ExceptT.run_bind]
  exact does_bind first second

end Sequences

/-! ## The store -/

section Store

variable {α : Type} {a : α} {h : Holdings} {b : Bench ρ} {t : TimedBench ρ ε}

/-- A store without faults answers as its map does. -/
lemma answerBlob_eq (readable : b.storeFaults = []) (writable : b.store.failWrites = false)
    (r : BlobRequest) : b.answerBlob r
      = ({ b with store := { b.store with blobs := (b.store.blobs.answer r).1 } },
        (b.store.blobs.answer r).2) := by
  have faultless : b.storeFault r = none := by
    unfold Bench.storeFault
    rw [readable]
    rfl
  have takes : ¬ (b.store.failWrites = true ∧ r.changes ≠ none) :=
    fun fails => Bool.false_ne_true (writable.symm.trans fails.1)
  rw [Bench.answerBlob, faultless]
  dsimp only
  rw [MemoryBlobs.answer_eq, if_neg takes]
  rfl

/-- So a program comes to what it comes to on the map. -/
lemma runBlobs_eq (readable : b.storeFaults = []) (writable : b.store.failWrites = false)
    (p : Program Blobs α) : b.runBlobs p
      = ({ b with store := { b.store with blobs := (BlobMap.perform p b.store.blobs).2 } },
        (BlobMap.perform p b.store.blobs).1) := by
  induction p generalizing b with
  | done a => rfl
  | ask r k ih =>
    have first : ∀ x, b.answerBlob r = x → b.runBlobs (.ask r k) = x.1.runBlobs (k x.2) := by
      rintro _ rfl
      rfl
    rw [first _ (answerBlob_eq readable writable r)]
    exact ih _ readable writable

/-- A store program of a phase is carried out by the store of the bench. -/
lemma run_onBlobs (p : Program Blobs α) (t : TimedBench ρ ε) : run rules (onBlobs p) t
    = ((t.world.runBlobs p).2, { t with world := (t.world.runBlobs p).1 }) := by
  induction p generalizing t with
  | done a => rfl
  | ask r k ih => exact ih _ _

/-- A store program gives what it gives on the holdings, and leaves another scene. -/
lemma Shows.runBlobs (shows : t.Shows s) {p : Program Blobs α} (gives : Gives p s.holdings a h) :
    (t.world.runBlobs p).2 = a ∧
      Shows { t with world := (t.world.runBlobs p).1 } { s with holdings := h } := by
  obtain ⟨value, left⟩ := gives _ shows.holds
  rw [runBlobs_eq shows.readable shows.writable]
  exact ⟨value, { shows with holds := left, cloud := { shows.cloud with } }⟩

/-- So it does in a phase. -/
lemma does_onBlobs {p : Program Blobs α} (gives : Gives p s.holdings a h) :
    Does rules (onBlobs p) s a { s with holdings := h } := by
  intro t shows
  rw [run_onBlobs]
  exact shows.runBlobs gives

/-- A step of a phase that stores something succeeds. -/
lemma does_store_bind {β : Type} {explain : StoreError → DeviceError} {p : BlobProgram α}
    {k : α → DeviceProgram β} {y : Except DeviceError β}
    (gives : Gives p.run s.holdings (.ok a) h)
    (second : Does rules (k a).run { s with holdings := h } y s'') :
    Does rules (DeviceProgram.store explain p >>= k).run s y s'' := by
  rw [DeviceProgram.run_store_bind]
  exact does_bind (does_onBlobs gives) second

end Store

/-! ## The register -/

section Register

lemma does_signals : Does rules Surroundings.signals s s.bits s := fun _ shows =>
  ⟨shows.bits, shows⟩

lemma does_raise {bits all : SignalBits} (united : s.bits.union bits = all) :
    Does rules (Surroundings.raise bits) s () { s with bits := all } := by
  intro t shows
  have raised : (t.world.register.set bits).bits = s.bits.union bits :=
    congrArg (SignalBits.union · bits) shows.bits
  exact ⟨rfl, { shows with bits := raised.trans united, cloud := { shows.cloud with } }⟩

lemma does_clear {bits rest : SignalBits} (left : s.bits.without bits = rest) :
    Does rules (Surroundings.clear bits) s () { s with bits := rest } := by
  intro t shows
  have cleared : (t.world.register.clear bits).bits = s.bits.without bits :=
    congrArg (SignalBits.without · bits) shows.bits
  exact ⟨rfl, { shows with bits := cleared.trans left, cloud := { shows.cloud with } }⟩

/-- The virtual time and the parked waits are not part of the scene. -/
lemma Shows.rested {t t' : TimedBench ρ ε} (shows : t.Shows s) (rested : Rested t t') :
    t'.Shows s := by
  obtain ⟨now, waiters, rfl⟩ := rested
  exact { shows with cloud := { shows.cloud with } }

lemma shows_openWait (t : TimedBench ρ ε) (shows : t.Shows s) :
    (run rules Surroundings.openWait t).2.Shows s :=
  { shows with cloud := { shows.cloud with } }

lemma shows_instant (t : TimedBench ρ ε) (shows : t.Shows s) :
    (run rules Surroundings.instant t).2.Shows s := shows

lemma does_closeWait (id : UInt32) : Does rules (Surroundings.closeWait id) s () s :=
  fun t shows => ⟨rfl, shows.rested ⟨t.now, _, rfl⟩⟩

/-- A look finds nothing if no bit is set that it looks for. -/
lemma does_look_unseen (id : UInt32) {mask : SignalBits} (unseen : s.bits.intersects mask = false) :
    Does rules (Surroundings.look id mask) s none s := by
  intro t shows
  obtain ⟨rested, seen⟩ := look_spec t id mask
  rw [shows.bits, unseen] at seen
  exact ⟨seen, shows.rested rested⟩

/-- Otherwise it finds all bits. -/
lemma does_look_seen (id : UInt32) {mask : SignalBits} (raised : s.bits.intersects mask = true) :
    Does rules (Surroundings.look id mask) s (some s.bits) s := by
  intro t shows
  obtain ⟨rested, seen⟩ := look_spec t id mask
  rw [shows.bits, raised] at seen
  exact ⟨seen, shows.rested rested⟩

/-- A wait whose bit has been raised since it looked is woken at once. -/
lemma does_park (plain : rules.Plain) (id : UInt32) {mask : SignalBits} (deadline : Nat)
    (timer : Option Nat) (raised : s.bits.intersects mask = true) :
    Does rules (Surroundings.park id mask deadline timer) s (.signalled s.bits) s := by
  intro t shows
  obtain ⟨rested, seen⟩ := look_spec t id mask
  rw [shows.bits, if_pos raised] at seen
  have alone : Alone t := ⟨shows.pending, shows.sampleDue⟩
  have rechecked : Timed.recheck rules.reactions id mask t
      = ({ t with world := (t.world.look id mask).1 }, some (.signalled s.bits)) := by
    rw [Timed.recheck, plain]
    dsimp only
    rw [seen]
    rfl
  have examined : Timed.examine rules.reactions id mask deadline timer t
      = ({ t with world := (t.world.look id mask).1 }, some (.signalled s.bits)) := by
    rw [Timed.examine, plain]
    dsimp only
    rw [seen]
  have woken : Timed.awake rules.reactions id mask deadline timer t
      = ({ t with world := (t.world.look id mask).1 }, some (.signalled s.bits)) := by
    rw [Timed.awake, rechecked, examined, ite_self]
  have parked : Timed.park rules.reactions id mask deadline timer t
      = ({ t with world := (t.world.look id mask).1 }, .woken (.signalled s.bits)) := by
    rw [Timed.park, alone.sampleIfDue, woken]
  have answered : run rules (Surroundings.park id mask deadline timer) t
      = (.signalled s.bits, { t with world := (t.world.look id mask).1 }) := by
    show TimedBench.park rules id mask deadline timer t = _
    rw [TimedBench.park, parked]
  rw [answered]
  exact ⟨rfl, shows.rested rested⟩

/-- A wait whose bit is set already is not parked. -/
lemma does_awaitSignal {mask : SignalBits} (timeout : Nat)
    (raised : s.bits.intersects (SignalRegister.waitMask mask) = true) :
    Does rules (awaitSignal mask timeout) s s.bits s := by
  refine does_bind_any shows_openWait fun id => ?_
  refine does_bind_any shows_instant fun start => ?_
  refine does_bind (does_look_seen id raised) ?_
  refine does_bind (does_done s.bits) ?_
  exact does_bind (does_closeWait id) (does_done s.bits)

end Register

/-! ## The clocks, the sensor and the power supply -/

section Instruments

lemma does_time : Does rules Surroundings.time s s.time s := fun _ shows => ⟨shows.time, shows⟩

lemma does_sense : Does rules Surroundings.sense s (rules.read s.sensor).2
    { s with sensor := (rules.read s.sensor).1 } := by
  intro t shows
  have value : (rules.read t.world.sensor).2 = (rules.read s.sensor).2 := by rw [shows.sensor]
  have sensor : (rules.read t.world.sensor).1 = (rules.read s.sensor).1 := by rw [shows.sensor]
  exact ⟨value, { shows with sensor, cloud := { shows.cloud with } }⟩

lemma does_sleep (seconds : UInt32) :
    Does rules (Surroundings.sleep seconds) s () (s.slept seconds) := by
  intro t shows
  have time : (t.world.clock.advance seconds).time = later s.time seconds := by
    rw [← shows.time, later]
    rfl
  have sleeps : t.world.power.sleeps ++ [seconds] = s.sleeps ++ [seconds] := by rw [shows.sleeps]
  exact ⟨rfl, { shows with time, sleeps, cloud := { shows.cloud with } }⟩

end Instruments

/-! ## The network and the cloud -/

section Network

/-- Joining the network raises its signal. -/
lemma does_join (credentials : Credentials) (timeout : Nat) (bits : s.bits = .none) :
    Does rules (Surroundings.join credentials timeout) s (.ok ())
      { s with bits := .linkUp, joined := true } := by
  intro t shows
  have joined : t.world.link.join credentials = ({ t.world.link with
      attempts := t.world.link.attempts + 1, lastSsid := some credentials.ssid,
      connected := true }, .ok ()) := by
    rw [BenchLink.join, if_pos shows.reachable]
  have raised : ∀ l : BenchLink, l.silent = false →
      (l.joined t.world.register).bits = .linkUp := by
    intro l audible
    have united : t.world.register.bits.union .linkUp = .linkUp := by
      rw [shows.bits, bits]
      decide
    rw [BenchLink.joined, audible]
    exact united
  have answered : t.world.join credentials = ({ t.world with
      link := (t.world.link.join credentials).1,
      register := (t.world.link.join credentials).1.joined t.world.register }, .ok ()) := by
    rw [Bench.join, joined]
    rfl
  have ran : run rules (Surroundings.join credentials timeout) t
      = ((t.world.join credentials).2, { t with world := (t.world.join credentials).1 }) := rfl
  rw [ran, answered, joined]
  exact ⟨rfl, { shows with
    bits := raised _ shows.audible, joined := rfl, cloud := { shows.cloud with } }⟩

/-- Leaving it swaps the signals. -/
lemma does_leave (joined : s.joined = true) (bits : s.bits = .linkUp) :
    Does rules Surroundings.leave s () { s with bits := .linkDown, joined := false } := by
  intro t shows
  have swapped : (t.world.register.bits.without .linkUp).union .linkDown = .linkDown := by
    rw [shows.bits, bits]
    decide
  have left : (t.world.link.left t.world.register).bits = .linkDown := by
    rw [BenchLink.left, if_pos (shows.joined.trans joined)]
    exact swapped
  exact ⟨rfl, { shows with bits := left, joined := rfl, cloud := { shows.cloud with } }⟩

/-- No call fails of a cloud that nothing was broken in. -/
lemma Serves.meter {c : BenchCloud} (serves : c.Serves s) (call : CloudCall) :
    c.meter call = (c, .ok ()) := by
  rw [BenchCloud.meter, serves.faultless]
  rfl

/-- The cloud changes, and nothing else. -/
lemma Shows.withCloud {t : TimedBench ρ ε} (shows : t.Shows s) {c : BenchCloud}
    {online asked : Bool} {published : List Publication}
    (serves : c.Serves { s with online, asked, published }) :
    Shows { t with world := { t.world with cloud := c } }
      { s with online, asked, published } :=
  { shows with cloud := serves }

lemma does_connect (client : String) (timeout : Nat) :
    Does rules (Surroundings.connect client timeout) s (.ok ()) { s with online := true } := by
  intro t shows
  have connected : t.world.cloud.connect client
      = ({ t.world.cloud with connected := true }, .ok ()) := by
    rw [BenchCloud.connect, Serves.meter shows.cloud]
    dsimp only
    rw [if_pos shows.cloud.reachable]
  have ran : run rules (Surroundings.connect client timeout) t
      = ((t.world.cloud.connect client).2,
        { t with world := { t.world with cloud := (t.world.cloud.connect client).1 } }) := rfl
  rw [ran, connected]
  exact ⟨rfl, shows.withCloud { shows.cloud with online := rfl }⟩

lemma does_requestShadow (thing : String) (online : s.online = true) :
    Does rules (Surroundings.requestShadow thing) s (.ok ()) { s with asked := true } := by
  intro t shows
  have requested : t.world.cloud.requestShadow thing = ({ t.world.cloud with
      things := t.world.cloud.things ++ [thing], awaiting := true, steps := 0 }, .ok ()) := by
    rw [BenchCloud.requestShadow, Serves.meter shows.cloud]
    dsimp only
    rw [if_pos (shows.cloud.online.trans online)]
  have ran : run rules (Surroundings.requestShadow thing) t
      = ((t.world.cloud.requestShadow thing).2,
        { t with world := { t.world with cloud := (t.world.cloud.requestShadow thing).1 } }) := rfl
  rw [ran, requested]
  exact ⟨rfl, shows.withCloud { shows.cloud with asked := rfl }⟩

/-- The first step after a request brings the document. -/
lemma does_pump (timeout : Nat) (online : s.online = true) (asked : s.asked = true) :
    Does rules (Surroundings.pump timeout) s ⟨[Bytes.encodeUtf8 s.document], .ok ()⟩
      { s with asked := false } := by
  intro t shows
  have connected : ¬ (!t.world.cloud.connected) = true := by
    rw [shows.cloud.online, online]
    exact Bool.false_ne_true
  have awaiting : t.world.cloud.awaiting = true := shows.cloud.asked.trans asked
  have prompt : ¬ t.world.cloud.steps + 1 < t.world.cloud.deliverAt := by
    have := shows.cloud.prompt
    omega
  have pumped : t.world.cloud.pump = ({ t.world.cloud with
      calls := t.world.cloud.calls + 1, steps := t.world.cloud.steps + 1, awaiting := false },
      ⟨[Bytes.encodeUtf8 s.document], .ok ()⟩) := by
    rw [BenchCloud.pump, if_neg connected]
    dsimp only
    rw [if_pos awaiting, BenchCloud.deliver]
    dsimp only
    rw [if_neg prompt, shows.cloud.document]
  have ran : run rules (Surroundings.pump timeout) t = ((t.world.cloud.pump).2,
      { t with
        now := t.now + t.world.pumpTime
        world := { t.world with cloud := (t.world.cloud.pump).1 } }) := by
    show TimedBench.pump.run t = _
    rw [TimedBench.pump, StateT.run_bind, run_queryCloud, Serves.meter shows.cloud]
    rfl
  rw [ran, pumped]
  exact ⟨rfl, { shows with cloud := { shows.cloud with asked := rfl } }⟩

lemma does_publish (topic : String) (payload : Bytes) (timeout : Nat) (online : s.online = true) :
    Does rules (Surroundings.publish topic payload timeout) s (.ok ())
      { s with published := s.published ++ [⟨topic, payload⟩] } := by
  intro t shows
  have connected : ¬ (!t.world.cloud.connected) = true := by
    rw [shows.cloud.online, online]
    exact Bool.false_ne_true
  have kept : t.world.cloud.publish topic payload
      = (t.world.cloud.keep topic payload, .ok ()) := by
    rw [BenchCloud.publish, if_neg connected, shows.cloud.unlimited]
  have published : t.world.cloud.published ++ [⟨topic, payload⟩]
      = s.published ++ [⟨topic, payload⟩] := by rw [shows.cloud.published]
  have ran : run rules (Surroundings.publish topic payload timeout) t
      = ((t.world.cloud.publish topic payload).2,
        { t with world := { t.world with cloud := (t.world.cloud.publish topic payload).1 } }) :=
    rfl
  rw [ran, kept]
  exact ⟨rfl, shows.withCloud { shows.cloud with published }⟩

lemma does_disconnect : Does rules Surroundings.disconnect s ()
    { s with online := false, asked := false } :=
  fun _ shows => ⟨rfl, shows.withCloud { shows.cloud with online := rfl, asked := rfl }⟩

end Network

/-! ## The provisioning transport -/

section Transport

/-- A write that ends a session. -/
lemma writeTo_eq {b : Bench ρ} {session session' : Session} {payload : Bytes} {effect : WriteEffect}
    {blobs : BlobMap} (readable : b.storeFaults = []) (writable : b.store.failWrites = false)
    (performed : BlobMap.perform (session.write payload) b.store.blobs
      = ((effect, session'), blobs)) (finished : effect.finished = true) :
    b.writeTo session payload = ({ b with
      store := { b.store with blobs }, register := b.register.set .credentialsReady },
      session', effect.reply.map Reply.toText) := by
  rw [Bench.writeTo, runBlobs_eq readable writable, performed]
  dsimp only
  rw [if_pos finished]

/-- A client whose write was waiting provisions the device as soon as a session is open. -/
lemma does_openProvisioning {session session' : Session} {payload : Bytes} {effect : WriteEffect}
    {h : Holdings} (welcome : s.transport.refusesOpening = false)
    (queued : s.transport.queued = [payload])
    (gives : Gives (session.write payload) s.holdings (effect, session') h)
    (finished : effect.finished = true) :
    Does rules (Surroundings.openProvisioning session) s (.ok ())
      { s with
        holdings := h
        bits := s.bits.union .credentialsReady
        transport := s.transport.opened session' effect } := by
  intro t shows
  obtain ⟨value, left⟩ := gives _ shows.holds
  rcases performed : BlobMap.perform (session.write payload) t.world.store.blobs with ⟨_, blobs⟩
  rw [performed] at value left
  obtain rfl : _ = (effect, session') := value
  have opens : ¬ t.world.transport.refusesOpening = true := by
    rw [shows.transport, welcome]
    exact Bool.false_ne_true
  have waiting : t.world.transport.queued = [payload] := shows.transport ▸ queued
  have opened : t.world.openTransport session = ({ t.world with
      store := { t.world.store with blobs }
      register := t.world.register.set .credentialsReady
      transport := t.world.transport.opened session' effect }, .ok ()) := by
    have wrote := writeTo_eq (b := { t.world with
      transport := { t.world.transport with enabled := true, queued := [] } })
      shows.readable shows.writable performed finished
    rw [Bench.openTransport, if_neg opens, waiting]
    dsimp only
    rw [Bench.deliver, wrote]
    rfl
  have bits : (t.world.register.set .credentialsReady).bits
      = s.bits.union .credentialsReady :=
    congrArg (SignalBits.union · .credentialsReady) shows.bits
  have ran : run rules (Surroundings.openProvisioning session) t
      = ((t.world.openTransport session).2,
        { t with world := (t.world.openTransport session).1 }) := rfl
  rw [ran, opened, shows.transport]
  exact ⟨rfl, { shows with
    holds := left, bits, transport := rfl, cloud := { shows.cloud with } }⟩

lemma does_closeProvisioning : Does rules Surroundings.closeProvisioning s
    s.transport.close.2 { s with transport := s.transport.close.1 } := by
  intro t shows
  have value : t.world.transport.close.2 = s.transport.close.2 := by rw [shows.transport]
  have transport : t.world.transport.close.1 = s.transport.close.1 := by rw [shows.transport]
  exact ⟨value, { shows with transport, cloud := { shows.cloud with } }⟩

lemma does_takeRequestedTime : Does rules Surroundings.takeRequestedTime s
    s.transport.takeRequestedTime.2 { s with transport := s.transport.takeRequestedTime.1 } := by
  intro t shows
  have value : t.world.transport.takeRequestedTime.2 = s.transport.takeRequestedTime.2 := by
    rw [shows.transport]
  have transport : t.world.transport.takeRequestedTime.1 = s.transport.takeRequestedTime.1 := by
    rw [shows.transport]
  exact ⟨value, { shows with transport, cloud := { shows.cloud with } }⟩

end Transport

end TimedBench

end HatchSensor
