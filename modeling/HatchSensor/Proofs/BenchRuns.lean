import HatchSensor.Proofs.BenchParts
import HatchSensor.Proofs.Unrequested
import HatchSensor.Bench.Run

/-!
# The bench as surroundings

The bench answers every request by a function of its state, so a run on it is one of the dialogues
of the program that was run: `TimedBench.returns_run`.  If nothing is going to happen to the bench
by itself, it is known what a phase leaves of it and what the phase can be told: `TimedBench.ran`.

Apart from provisioning, what such a bench does is something that the world around a device may do,
so that what holds in every world holds on the bench: `TimedBench.reaches_toWorld`.
-/

namespace HatchSensor

open Program World

/-- Waits look at the register of the bench. -/
def BenchRules.Plain {ρ ε : Type} (rules : BenchRules ρ ε) : Prop :=
  ∀ id mask (b : Bench ρ), rules.reactions.look id mask b = b.look id mask

namespace TimedBench

variable {ρ ε : Type} {rules : BenchRules ρ ε} {t t' t'' : TimedBench ρ ε}

/-- The bench answers by a function of its state. -/
def answers (rules : BenchRules ρ ε) : Behaviour Surroundings (TimedBench ρ ε) :=
  fun r t x t' => (answer rules r).run t = (x, t')

/-- A run is one of the dialogues of the program. -/
lemma returns_run {α : Type} (rules : BenchRules ρ ε) (p : Program Surroundings α)
    (t : TimedBench ρ ε) :
    ∃ d, Returns (answers rules) p t d (run rules p t).1 (run rules p t).2 := by
  induction p generalizing t with
  | done a => exact ⟨[], .rest _ _⟩
  | ask r k ih =>
    obtain ⟨d, later⟩ := ih ((answer rules r).run t).1 ((answer rules r).run t).2
    exact ⟨_, Reaches.ask rfl later⟩

/-- Nothing is going to happen to the bench by itself. -/
structure Alone (t : TimedBench ρ ε) : Prop where
  pending : t.pending = []
  sampleDue : t.sampleDue = none

/-- Nothing happens to a bench that is alone. -/
lemma Alone.catchUp (alone : Alone t) (r : Reactions (Bench ρ) ε) : t.catchUp r = t := by
  obtain ⟨world, now, pending, sampleDue, horizon⟩ := t
  obtain rfl : pending = [] := alone.pending
  rfl

/-- Nobody samples the button of a bench that is alone. -/
lemma Alone.sampleIfDue (alone : Alone t) (r : Reactions (Bench ρ) ε) : t.sampleIfDue r = t := by
  have never : t.sampleIsDue = false := by
    unfold Timed.sampleIsDue
    rw [alone.sampleDue]
    rfl
  rw [Timed.sampleIfDue, never]
  rfl

/-! ## Parked waits -/

/-- Time has passed and waits have been parked, and nothing else has happened. -/
def Rested (t t' : TimedBench ρ ε) : Prop :=
  ∃ now waiters, t' = { t with
    now, world := { t.world with register := { t.world.register with waiters } } }

lemma Rested.trans (first : Rested t t') (second : Rested t' t'') : Rested t t'' := by
  obtain ⟨now, waiters, rfl⟩ := first
  obtain ⟨later, others, rfl⟩ := second
  exact ⟨later, others, rfl⟩

lemma Rested.alone (h : Rested t t') (alone : Alone t) : Alone t' := by
  obtain ⟨now, waiters, rfl⟩ := h
  exact ⟨alone.pending, alone.sampleDue⟩

/-- The bench has rested, and the wait is woken, if at all, for a reason that fits its register. -/
def Waited (mask : SignalBits) (timer : Option Nat) (t : TimedBench ρ ε) (woken : Option Wake)
    (t' : TimedBench ρ ε) : Prop :=
  Rested t t' ∧ ∀ wake, woken = some wake → wake.fits mask t.world.register.bits timer

section Parked

variable {id : UInt32} {mask : SignalBits} {deadline : Nat} {timer : Option Nat}
  {woken : Option Wake}

lemma Waited.after (h : Waited mask timer t' woken t'') (rested : Rested t t') :
    Waited mask timer t woken t'' := by
  refine ⟨rested.trans h.1, ?_⟩
  obtain ⟨now, waiters, rfl⟩ := rested
  exact h.2

lemma Waited.of_rested (h : Rested t t') : Waited mask timer t none t' :=
  ⟨h, fun _ other => nomatch other⟩

lemma Waited.of_fits {wake : Wake} (h : Rested t t')
    (fits : wake.fits mask t.world.register.bits timer) : Waited mask timer t (some wake) t' := by
  refine ⟨h, fun _ same => ?_⟩
  cases same
  exact fits

/-- A look says whether a bit of the mask is set, and changes at most the waits that are parked. -/
lemma look_spec (t : TimedBench ρ ε) (id : UInt32) (mask : SignalBits) :
    Rested t { t with world := (t.world.look id mask).1 } ∧
      (t.world.look id mask).2 = if t.world.register.bits.intersects mask
        then some t.world.register.bits else none := by
  unfold Bench.look SignalRegister.look
  dsimp only
  split
  · exact ⟨⟨t.now, t.world.register.waiters, rfl⟩, rfl⟩
  · exact ⟨⟨t.now, _, rfl⟩, rfl⟩

lemma waited_of_recheck (plain : rules.Plain)
    (h : Timed.recheck rules.reactions id mask t = (t', woken)) :
    Waited mask timer t woken t' := by
  obtain ⟨rested, seen⟩ := look_spec t id mask
  unfold Timed.recheck at h
  rw [plain] at h
  dsimp only at h
  rw [seen] at h
  obtain ⟨rfl, rfl⟩ := Prod.mk.inj h
  split
  · next meets => exact .of_fits rested ⟨rfl, meets⟩
  · exact .of_rested rested

lemma waited_of_examine (plain : rules.Plain)
    (h : Timed.examine rules.reactions id mask deadline timer t = (t', woken)) :
    Waited mask timer t woken t' := by
  obtain ⟨rested, seen⟩ := look_spec t id mask
  unfold Timed.examine at h
  rw [plain] at h
  dsimp only at h
  rw [seen] at h
  by_cases meets : t.world.register.bits.intersects mask = true
  · rw [if_pos meets] at h
    obtain ⟨rfl, rfl⟩ := Prod.mk.inj h
    exact .of_fits rested ⟨rfl, meets⟩
  · rw [if_neg meets] at h
    dsimp only at h
    split at h
    · obtain ⟨rfl, rfl⟩ := Prod.mk.inj h
      exact .of_fits rested trivial
    · split at h
      · next due =>
        obtain ⟨rfl, rfl⟩ := Prod.mk.inj h
        exact .of_fits rested (Option.isSome_of_any due)
      · obtain ⟨rfl, rfl⟩ := Prod.mk.inj h
        exact .of_rested rested

/-- Moving on takes time, and that is all. -/
lemma rested_of_moveOn {instant : Nat} {goesOn : Bool} (h : t.moveOn instant = (t', goesOn)) :
    Rested t t' := by
  unfold Timed.moveOn at h
  split at h
  · split at h
    · obtain ⟨rfl, -⟩ := Prod.mk.inj h
      exact ⟨_, _, rfl⟩
    · obtain ⟨rfl, -⟩ := Prod.mk.inj h
      exact ⟨_, _, rfl⟩
  · obtain ⟨rfl, -⟩ := Prod.mk.inj h
    exact ⟨_, _, rfl⟩

/-- Why a wait goes on, unless the bench is cut off. -/
def cause : Parked → Option Wake
  | .woken wake => some wake
  | .cutOff => none

lemma waited_of_parkWithin (plain : rules.Plain) (alone : Alone t) {span : Nat} {parked : Parked}
    (h : Timed.parkWithin rules.reactions id mask deadline timer span t = (t', parked)) :
    Waited mask timer t (cause parked) t' := by
  induction span generalizing t with
  | zero =>
    obtain ⟨rfl, rfl⟩ := Prod.mk.inj h
    exact .of_fits ⟨t.now, t.world.register.waiters, rfl⟩ trivial
  | succ span ih =>
    unfold Timed.parkWithin at h
    rcases moved : t.moveOn (t.nextInstant deadline timer) with ⟨u, _ | _⟩
    · have rested := rested_of_moveOn moved
      rw [moved] at h
      obtain ⟨rfl, rfl⟩ := Prod.mk.inj h
      exact .of_rested rested
    · have rested := rested_of_moveOn moved
      have alone₁ := rested.alone alone
      simp only [moved, alone₁.catchUp] at h
      rcases looked : Timed.examine rules.reactions id mask deadline timer u with ⟨v, _ | wake⟩
      · have first : Waited mask timer u none v := waited_of_examine plain looked
        have alone₂ := first.1.alone alone₁
        simp only [looked, alone₂.sampleIfDue] at h
        rcases again : Timed.recheck rules.reactions id mask v with ⟨v', _ | wake⟩
        · have second : Waited mask timer v none v' := waited_of_recheck plain again
          simp only [again] at h
          exact (ih (second.1.alone alone₂) h).after ((rested.trans first.1).trans second.1)
        · have second : Waited mask timer v (some wake) v' := waited_of_recheck plain again
          simp only [again] at h
          obtain ⟨rfl, rfl⟩ := Prod.mk.inj h
          exact second.after (rested.trans first.1)
      · have first : Waited mask timer u (some wake) v := waited_of_examine plain looked
        simp only [looked] at h
        obtain ⟨rfl, rfl⟩ := Prod.mk.inj h
        exact first.after rested

/-- Nothing happens to a bench that is alone while a wait is parked. -/
lemma waited_of_park (plain : rules.Plain) (alone : Alone t) {wake : Wake}
    (h : answers rules (.park id mask deadline timer) t wake t') :
    Waited mask timer t (some wake) t' := by
  have parks : ∀ {u : TimedBench ρ ε} {parked : Parked},
      Timed.park rules.reactions id mask deadline timer t = (u, parked) →
        Waited mask timer t (cause parked) u := by
    intro u parked parking
    unfold Timed.park at parking
    rw [alone.sampleIfDue] at parking
    rcases first : Timed.awake rules.reactions id mask deadline timer t with ⟨v, _ | cause⟩
    · have looked : Waited mask timer t none v := by
        unfold Timed.awake at first
        split at first
        · exact waited_of_examine plain first
        · exact waited_of_recheck plain first
      simp only [first] at parking
      exact (waited_of_parkWithin plain (looked.1.alone alone) parking).after looked.1
    · have looked : Waited mask timer t (some cause) v := by
        unfold Timed.awake at first
        split at first
        · exact waited_of_examine plain first
        · exact waited_of_recheck plain first
      simp only [first] at parking
      obtain ⟨rfl, rfl⟩ := Prod.mk.inj parking
      exact looked
  have parked : TimedBench.park rules id mask deadline timer t = (wake, t') := h
  unfold TimedBench.park at parked
  rcases parking : Timed.park rules.reactions id mask deadline timer t with ⟨u, cause | _⟩
  · rw [parking] at parked
    obtain ⟨rfl, rfl⟩ := Prod.mk.inj parked
    exact parks parking
  · rw [parking] at parked
    obtain ⟨rfl, rfl⟩ := Prod.mk.inj parked
    exact .of_fits (parks parking).1 trivial

end Parked

/-! ## Answers -/

/-- Whatever may happen beside a device, with the store of the bench. -/
def licence (t : TimedBench ρ ε) : Licence := ⟨t.world.refuses, fun _ _ => True, True⟩

/-- The world around a device on the bench, while no session is open. -/
def toWorld (t : TimedBench ρ ε) : World := ⟨t.world.store.blobs, t.world.register.bits, none⟩

/-- What an exchange with a bench that is alone says about it, and what it leaves of it. -/
structure Answered (t : TimedBench ρ ε) (e : Exchange Surroundings) (t' : TimedBench ρ ε) :
    Prop where
  alone : Alone t'
  fixed : t.world.Fixed t'.world
  /-- If the cloud delivers anything, it is its document. -/
  documents : ∀ content ∈ e.documents, ∃ text, t.world.cloud.document = some text ∧
    content = Bytes.encodeUtf8 text
  /-- What is seen is the register. -/
  saw : ∀ bits, e.Saw bits → bits = t.world.register.bits
  /-- Apart from provisioning it is something that may happen in the world. -/
  imitates : (∀ session, e.request ≠ .openProvisioning session) →
    World.answers t.licence e.request t.toWorld e.answer t'.toWorld

/-- Where everything is allowed, the register may change at any time. -/
lemma others_toWorld {u : World} (blobs : u.blobs = t'.world.store.blobs)
    (closed : u.session = none) : Others t.licence u t'.toWorld := by
  have stirred : Act t.licence u { u with bits := t'.world.register.bits } := .stir trivial
  have same : { u with bits := t'.world.register.bits } = t'.toWorld := by
    rw [toWorld, ← blobs, ← closed]
  exact Or.inr ⟨trivial, .single (same ▸ stirred)⟩

/-- A request that neither looks nor brings a document, and that leaves the store alone. -/
lemma Answered.of_reply {r : DeviceRequest} {x : r.Answer} (alone : Alone t')
    (fixed : t.world.Fixed t'.world) (silent : Exchange.documents ⟨r, x⟩ = [])
    (blind : r.looks = false) {u : World} (reply : World.Reply t.licence r t.toWorld x u)
    (blobs : u.blobs = t'.world.store.blobs) (closed : u.session = none) :
    Answered t ⟨r, x⟩ t' where
  alone := alone
  fixed := fixed
  documents := by
    rw [silent]
    exact fun _ h => absurd h List.not_mem_nil
  saw := by
    intro bits saw
    cases saw <;> exact nomatch blind
  imitates := fun _ => ⟨u, reply, others_toWorld blobs closed⟩

/-- A question to the bench gets what its function says. -/
lemma eq_of_query {α : Type} (change : Bench ρ → Bench ρ × α) {a : α}
    (h : (query change).run t = (a, t')) :
    (change t.world).2 = a ∧ { t with world := (change t.world).1 } = t' :=
  Prod.mk.inj h

/-- A glance at the bench leaves it as it is. -/
lemma eq_of_glance {r : DeviceRequest} {x : r.Answer} {d : Dialogue Surroundings}
    (glance : Bench ρ → r.Answer) (looks : answer rules r = query fun b => (b, glance b))
    (h : Returns (answers rules) (Surroundings.ask r) t d x t') :
    x = glance t.world ∧ t = t' := by
  have answered : (answer rules r).run t = (x, t') := (returns_request.mp h).2
  rw [looks] at answered
  obtain ⟨rfl, rfl⟩ := Prod.mk.inj answered
  exact ⟨rfl, rfl⟩

lemma eq_of_signals {bits : SignalBits} {d : Dialogue Surroundings}
    (h : Returns (answers rules) Surroundings.signals t d bits t') :
    bits = t.world.register.bits ∧ t = t' :=
  eq_of_glance (r := .signals) (fun b => b.register.bits) rfl h

lemma eq_of_time {now : UInt32} {d : Dialogue Surroundings}
    (h : Returns (answers rules) Surroundings.time t d now t') :
    now = t.world.clock.time ∧ t = t' :=
  eq_of_glance (r := .time) (fun b => b.clock.time) rfl h

lemma eq_of_ticks {now : UInt32} {d : Dialogue Surroundings}
    (h : Returns (answers rules) Surroundings.ticks t d now t') :
    now = t.world.clock.ticks ∧ t = t' :=
  eq_of_glance (r := .ticks) (fun b => b.clock.ticks) rfl h

lemma run_queryCloud {α : Type} (change : BenchCloud → BenchCloud × α) (t : TimedBench ρ ε) :
    (queryCloud change).run t = ((change t.world.cloud).2,
      { t with world := { t.world with cloud := (change t.world.cloud).1 } }) := rfl

/-- A step of the cloud session takes time, and delivers the document of the cloud, if anything. -/
lemma pump_spec {timeout : Nat} {x : Pumped} (h : answers rules (.pump timeout) t x t') :
    ∃ now cloud, t' = { t with now, world := { t.world with cloud } } ∧
      cloud.document = t.world.cloud.document ∧
      ∀ content ∈ x.documents, ∃ text, t.world.cloud.document = some text ∧
        content = Bytes.encodeUtf8 text := by
  have metered := t.world.cloud.document_meter .process
  have worked : pump.run t = (x, t') := h
  rw [pump, StateT.run_bind, run_queryCloud] at worked
  rcases called : t.world.cloud.meter .process with ⟨cloud, reason | _⟩
  · rw [called] at worked metered
    obtain ⟨rfl, rfl⟩ := Prod.mk.inj worked
    exact ⟨_, cloud, rfl, metered, fun _ h => absurd h List.not_mem_nil⟩
  · obtain ⟨kept, delivered⟩ := cloud.pump_spec
    rw [called] at worked metered
    obtain ⟨rfl, rfl⟩ := Prod.mk.inj worked
    rw [← metered]
    exact ⟨_, _, rfl, kept, delivered⟩

/-- A look sees the register, and the bench rests. -/
lemma answered_look (alone : Alone t) {id : UInt32} {mask : SignalBits} {x : Option SignalBits}
    (h : answers rules (.look id mask) t x t') : Answered t ⟨DeviceRequest.look id mask, x⟩ t' := by
  obtain ⟨⟨now, waiters, rested⟩, seen⟩ := look_spec t id mask
  obtain ⟨rfl, rfl⟩ := eq_of_query (fun b => b.look id mask) h
  rw [rested]
  refine ⟨⟨alone.pending, alone.sampleDue⟩, ⟨rfl, rfl, rfl, rfl, fun after => after⟩,
    fun _ h => absurd h List.not_mem_nil, fun bits saw => ?_,
    fun _ => ⟨t.toWorld, ⟨seen, rfl⟩, others_toWorld rfl rfl⟩⟩
  have found : (t.world.look id mask).2 = some bits := by
    generalize (t.world.look id mask).2 = found at saw
    cases saw
    rfl
  rw [seen] at found
  split at found
  · exact (Option.some.inj found).symm
  · exact nomatch found

/-- So does a wait that was parked. -/
lemma answered_park (plain : rules.Plain) (alone : Alone t) {id : UInt32} {mask : SignalBits}
    {deadline : Nat} {timer : Option Nat} {wake : Wake}
    (h : answers rules (.park id mask deadline timer) t wake t') :
    Answered t ⟨DeviceRequest.park id mask deadline timer, wake⟩ t' := by
  obtain ⟨⟨now, waiters, rfl⟩, fits⟩ := waited_of_park plain alone h
  refine ⟨⟨alone.pending, alone.sampleDue⟩, ⟨rfl, rfl, rfl, rfl, fun after => after⟩,
    fun _ h => absurd h List.not_mem_nil, fun bits saw => ?_,
    fun _ => ⟨t.toWorld, ⟨.refl, fits wake rfl⟩, others_toWorld rfl rfl⟩⟩
  cases saw
  exact (fits _ rfl).1

/-- The answer of a bench that is alone. -/
lemma answered (plain : rules.Plain) (alone : Alone t) {f : Footprint} {r : DeviceRequest}
    {x : r.Answer} (h : answers rules r t x t') (allowed : f.allows r) (awake : f.sleeps = false) :
    Answered t ⟨r, x⟩ t' := by
  have still : ∀ world : Bench ρ, Alone { t with world } :=
    fun _ => ⟨alone.pending, alone.sampleDue⟩
  cases r with
  | blob request =>
    obtain ⟨blobs, changed, stored⟩ := t.world.answerBlob_spec request
    obtain ⟨rfl, rfl⟩ := eq_of_query (fun b => b.answerBlob request) h
    rw [changed]
    exact .of_reply (still _) ⟨rfl, rfl, rfl, rfl, id⟩ rfl rfl ⟨blobs, stored, rfl⟩ rfl rfl
  | signals =>
    obtain ⟨rfl, rfl⟩ := Prod.mk.inj h
    exact ⟨alone, .refl _, fun _ h => absurd h List.not_mem_nil, fun bits saw => by cases saw; rfl,
      fun _ => ⟨t.toWorld, ⟨rfl, rfl⟩, .refl⟩⟩
  | look id mask => exact answered_look alone h
  | park id mask deadline timer => exact answered_park plain alone h
  | raise bits =>
    obtain rfl : bits = .shadowReceived := allowed
    obtain ⟨rfl, rfl⟩ := Prod.mk.inj h
    exact .of_reply (still _) ⟨rfl, rfl, rfl, rfl, Bench.not_requested_of_set (by decide)⟩ rfl rfl
      rfl rfl rfl
  | clear bits =>
    obtain ⟨rfl, rfl⟩ := Prod.mk.inj h
    exact .of_reply (still _) ⟨rfl, rfl, rfl, rfl, SignalBits.requested_of_without⟩ rfl rfl rfl
      rfl rfl
  | setTime time =>
    obtain ⟨fixed, store⟩ := t.world.setTime_spec time
    obtain ⟨rfl, rfl⟩ := eq_of_query (fun b => b.setTime time) h
    exact .of_reply (still _) fixed rfl rfl rfl (congrArg MemoryBlobs.blobs store.symm) rfl
  | startTimeSync =>
    obtain ⟨fixed, store⟩ := t.world.synchronise_spec
    obtain ⟨rfl, rfl⟩ := eq_of_query Bench.synchronise h
    exact .of_reply (still _) fixed rfl rfl rfl (congrArg MemoryBlobs.blobs store.symm) rfl
  | join credentials timeout =>
    obtain ⟨rfl, rfl⟩ := eq_of_query (fun b => b.join credentials) h
    exact .of_reply (still _) (t.world.fixed_join credentials) rfl rfl rfl rfl rfl
  | leave =>
    obtain ⟨rfl, rfl⟩ := Prod.mk.inj h
    exact .of_reply (still _) t.world.fixed_leave rfl rfl rfl rfl rfl
  | connect client timeout =>
    obtain ⟨rfl, rfl⟩ := Prod.mk.inj h
    exact .of_reply (still _) ⟨rfl, rfl, BenchCloud.document_connect _ _, rfl, id⟩ rfl rfl rfl
      rfl rfl
  | requestShadow thing =>
    obtain ⟨rfl, rfl⟩ := Prod.mk.inj h
    exact .of_reply (still _) ⟨rfl, rfl, BenchCloud.document_requestShadow _ _, rfl, id⟩ rfl rfl
      rfl rfl rfl
  | publish topic payload timeout =>
    obtain ⟨rfl, rfl⟩ := Prod.mk.inj h
    exact .of_reply (still _) ⟨rfl, rfl, BenchCloud.document_publish _ _ _, rfl, id⟩ rfl rfl rfl
      rfl rfl
  | pump timeout =>
    obtain ⟨now, cloud, rfl, kept, delivered⟩ := pump_spec h
    exact ⟨⟨alone.pending, alone.sampleDue⟩, ⟨rfl, rfl, kept, rfl, id⟩, delivered,
      fun bits saw => (nomatch saw), fun _ => ⟨t.toWorld, rfl, others_toWorld rfl rfl⟩⟩
  | openProvisioning session =>
    obtain ⟨rfl, rfl⟩ := eq_of_query (fun b => b.openTransport session) h
    exact ⟨still _, t.world.fixed_openTransport session, fun _ h => absurd h List.not_mem_nil,
      fun bits saw => (nomatch saw), fun other => absurd rfl (other session)⟩
  | sleep seconds => exact absurd (awake.symm.trans allowed) Bool.false_ne_true
  | _ =>
    obtain ⟨rfl, rfl⟩ := Prod.mk.inj h
    exact .of_reply (still _) ⟨rfl, rfl, rfl, rfl, id⟩ rfl rfl rfl rfl rfl

/-! ## Runs -/

variable {α : Type} {f : Footprint} {p q : Program Surroundings α} {d : Dialogue Surroundings}

/-- Which requests to the store fail does not change. -/
lemma licence_eq (fixed : t.world.Fixed t'.world) : t'.licence = t.licence := by
  have same : t'.world.refuses = t.world.refuses := by
    funext r
    unfold Bench.refuses Bench.storeFault
    rw [fixed.storeFaults, fixed.failWrites]
  rw [licence, same, licence]

/-- What a stretch of a dialogue with a bench that is alone says about it, and what it leaves of
it. -/
structure Ran (t : TimedBench ρ ε) (d : Dialogue Surroundings) (t' : TimedBench ρ ε) : Prop where
  alone : Alone t'
  fixed : t.world.Fixed t'.world
  documents : ∀ e ∈ d, ∀ content ∈ e.documents, ∃ text, t.world.cloud.document = some text ∧
    content = Bytes.encodeUtf8 text
  unseen : ¬ t.world.Requested → Unseen d

/-- A phase on a bench that is alone, as far as it has come. -/
lemma ran (plain : rules.Plain) (alone : Alone t) (h : Reaches (answers rules) p t d q t')
    (stays : p.Stays f) (awake : f.sleeps = false) : Ran t d t' := by
  induction h with
  | rest p t => exact ⟨alone, .refl _, by simp, fun _ => by simp [Unseen]⟩
  | ask answer later ih =>
    cases stays with
    | ask first rest =>
      have now := answered plain alone answer first awake
      have then_ := ih now.alone (rest _)
      refine ⟨then_.alone, now.fixed.trans then_.fixed, ?_, ?_⟩
      · refine List.forall_mem_cons.mpr ⟨now.documents, ?_⟩
        rw [← now.fixed.document]
        exact then_.documents
      · intro calm
        refine List.forall_mem_cons.mpr
          ⟨fun bits saw => ?_, then_.unseen fun after => calm (now.fixed.requested after)⟩
        rw [now.saw bits saw]
        exact Bool.eq_false_iff.mpr calm

/-- Apart from provisioning, what a phase does on the bench it may do in the world. -/
lemma reaches_toWorld (plain : rules.Plain) (alone : Alone t)
    (h : Reaches (answers rules) p t d q t') (stays : p.Stays f) (awake : f.sleeps = false)
    (opens : f.opens = false) : Reaches (World.answers t.licence) p t.toWorld d q t'.toWorld := by
  induction h with
  | rest p t => exact .rest _ _
  | @ask r _ _ _ _ _ _ _ answer later ih =>
    cases stays with
    | ask first rest =>
      have now := answered plain alone answer first awake
      have closed : ∀ session, r ≠ DeviceRequest.openProvisioning session := by
        rintro session rfl
        exact absurd (opens.symm.trans first) Bool.false_ne_true
      have goesOn := ih now.alone (rest _)
      rw [licence_eq now.fixed] at goesOn
      exact .ask (now.imitates closed) goesOn

/-! ## Store programs -/

/-- The bench with other blobs. -/
def withBlobs (t : TimedBench ρ ε) (blobs : BlobMap) : TimedBench ρ ε :=
  { t with world := { t.world with store := { t.world.store with blobs } } }

/-- A store program changes the blobs of the bench and nothing else. -/
lemma returns_onBlobs {p : Program Blobs α} {a : α}
    (h : Returns (answers rules) (onBlobs p) t d a t') :
    ∃ e blobs, Returns (BlobMap.Answers t.world.refuses) p t.world.store.blobs e a blobs ∧
      t' = t.withBlobs blobs := by
  induction p generalizing t d with
  | done b =>
    obtain ⟨-, rfl, rfl⟩ := returns_done.mp h
    exact ⟨[], _, .rest _ _, rfl⟩
  | ask r k ih =>
    have first : onBlobs (.ask r k) = Surroundings.ask (.blob r) >>= fun x => onBlobs (k x) := rfl
    rw [first] at h
    obtain ⟨x, t₁, d₂, -, answered, later⟩ := returns_request_bind.mp h
    obtain ⟨blobs, changed, stored⟩ := t.world.answerBlob_spec r
    obtain ⟨rfl, rfl⟩ := eq_of_query (fun b => b.answerBlob r) answered
    rw [changed] at later
    obtain ⟨e, blobs', rest, rfl⟩ := ih _ later
    exact ⟨_, blobs', Reaches.ask stored rest, rfl⟩

/-- A blob is written. -/
lemma eq_of_written {name : String} {content : Bytes}
    (h : Returns (answers rules) (onBlobs (Blob.write name content).run) t d (.ok ()) t') :
    t' = t.withBlobs (t.world.store.blobs.put name content) := by
  obtain ⟨e, blobs, written, rfl⟩ := returns_onBlobs h
  rcases BlobMap.answers_write.mp (returns_request.mp written).2 with ⟨-, rfl⟩ | ⟨-, ⟨_, other⟩, -⟩
  · rfl
  · exact nomatch other

end TimedBench

end HatchSensor
