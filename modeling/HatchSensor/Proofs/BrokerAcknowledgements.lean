import HatchSensor.Board.Assembly
import HatchSensor.Proofs.HatchOfReadings
import HatchSensor.Proofs.LogKept
import HatchSensor.Stand.Chip

/-!
# Acknowledged by the broker

On the board a payload counts as published once the broker has acknowledged the message it was sent
in.  Whatever else is in the queue of the session meanwhile, `Broker.publish` succeeds only with the
acknowledgement of the number that this message was given.

The device above knows nothing of numbers.  It is followed here over surroundings whose cloud is the
broker client, `Wired`: a request to the cloud is a task of the board, and everything that is said
to the chip is noted.  Since a cycle asks to remove the log only after it has published all of it,
each record and the reading of the cycle have an acknowledgement of their own by then.
-/

namespace HatchSensor

open Program World

/-! ## Waiting for an acknowledgement -/

namespace Broker

variable {σ : Type} {B : Behaviour Platform σ} {s t : σ} {d : Dialogue Platform}

/-- An event was taken from the queue that is not the right one, and with which the session was not
lost. -/
def PassedOver (timeout : Nat) (isRight : BrokerEvent → Bool) (e : Exchange Platform) : Prop :=
  ∃ event, e = ⟨PlatformRequest.chip (.receive timeout), .event event⟩ ∧ isRight event = false ∧
    event ≠ .disconnected

/-- A wait succeeds with the first right event, unless the session is lost or the queue closed
before, or the time is over. -/
lemma returns_awaitWithin {timeout events : Nat} {what : String} {isRight : BrokerEvent → Bool}
    (h : Returns B (awaitWithin timeout what isRight events) s d (.ok ()) t) :
    ∃ during event, d = during ++ [⟨PlatformRequest.chip (.receive timeout), .event event⟩] ∧
      isRight event = true ∧ ∀ e ∈ during, PassedOver timeout isRight e := by
  induction events generalizing s d with
  | zero => exact nomatch (returns_done.mp h).2.1
  | succ events ih =>
    rw [awaitWithin] at h
    obtain ⟨arrival, u, d', rfl, -, later⟩ := returns_request_bind.mp h
    cases arrival with
    | timeout => exact nomatch (returns_done.mp later).2.1
    | closed => exact nomatch (returns_done.mp later).2.1
    | event event =>
      dsimp only at later
      split at later
      · next right =>
        obtain ⟨rfl, -, -⟩ := returns_done.mp later
        exact ⟨[], event, rfl, right, fun _ none => absurd none List.not_mem_nil⟩
      · next wrong =>
        split at later
        · exact nomatch (returns_done.mp later).2.1
        · next kept =>
          obtain ⟨during, last, rfl, right, passed⟩ := ih later
          refine ⟨_ :: during, last, rfl, right, List.forall_mem_cons.mpr ⟨?_, passed⟩⟩
          exact ⟨event, rfl, Bool.eq_false_iff.mpr wrong, kept⟩

/-- A payload was sent in a message of its own, and this message was acknowledged: events were taken
from the queue one by one, up to the acknowledgement of its number.  None of them was the loss of
the session, and no look at the queue was in vain. -/
def Acknowledged (topic : String) (payload : Bytes) (timeout id : Nat) (d : Dialogue Platform) :
    Prop :=
  ∃ during, d = ⟨PlatformRequest.chip (.publish topic payload), .ok id⟩ ::
      (during ++ [⟨PlatformRequest.chip (.receive timeout), .event (.published id)⟩]) ∧
    ∀ e ∈ during, PassedOver timeout (· == .published id) e

/-- Publishing succeeds only with the acknowledgement of that very message. -/
lemma acknowledged_of_publish {topic : String} {payload : Bytes} {timeout : Nat}
    {session : Option BrokerSession}
    (h : Returns B (publish topic payload timeout session) s d (.ok ()) t) :
    ∃ id, Acknowledged topic payload timeout id d := by
  cases session with
  | none => exact nomatch (returns_done.mp h).2.1
  | some session =>
    rw [publish] at h
    obtain ⟨sent, u, d', rfl, -, later⟩ := returns_request_bind.mp h
    cases sent with
    | error reason => exact nomatch (returns_done.mp later).2.1
    | ok id =>
      obtain ⟨during, event, rfl, right, passed⟩ := returns_awaitWithin later
      obtain rfl := beq_iff_eq.mp right
      exact ⟨id, during, rfl, passed⟩

/-! ## Numbers of messages -/

/-- The number that a message was given. -/
def numbered : Exchange Platform → Option Nat
  | ⟨.chip (.subscribe _), .ok id⟩ => some id
  | ⟨.chip (.publish _ _), .ok id⟩ => some id
  | ⟨.chip (.enqueue _ _), .ok id⟩ => some id
  | _ => none

/-- A session with the broker begins. -/
def begins (e : Exchange Platform) : Bool :=
  match (e.request : PlatformRequest) with
  | .chip (.openBroker _) => true
  | _ => false

/-- The messages of one session have different numbers. -/
def DistinctNumbers (said : Dialogue Platform) : Prop :=
  ∀ before session after, said = before ++ session ++ after →
    (∀ e ∈ session, begins e = false) → (session.filterMap numbered).Nodup

/-- Between what was said before and after it, a message is the only one of its session with this
number. -/
def SoleNumber (before : Dialogue Platform) (id : Nat) (after : Dialogue Platform) : Prop :=
  ∀ earlier later, earlier <:+ before → later <+: after →
    (∀ e ∈ earlier ++ later, begins e = false) → id ∉ (earlier ++ later).filterMap numbered

lemma PassedOver.plain {timeout : Nat} {isRight : BrokerEvent → Bool} {e : Exchange Platform}
    (h : PassedOver timeout isRight e) : numbered e = none ∧ begins e = false := by
  obtain ⟨event, rfl, -⟩ := h
  exact ⟨rfl, rfl⟩

namespace Acknowledged

variable {topic : String} {payload : Bytes} {timeout id : Nat}

/-- What is said until the acknowledgement gives one number, and begins no session. -/
lemma plain (h : Acknowledged topic payload timeout id d) :
    d.filterMap numbered = [id] ∧ ∀ e ∈ d, begins e = false := by
  obtain ⟨during, rfl, passed⟩ := h
  have silent : during.filterMap numbered = [] :=
    List.filterMap_eq_nil_iff.mpr fun e here => (passed e here).plain.1
  refine ⟨?_, List.forall_mem_cons.mpr ⟨rfl, List.forall_mem_append.mpr ⟨?_, by simp [begins]⟩⟩⟩
  · rw [List.filterMap_cons, List.filterMap_append, silent]
    rfl
  · exact fun e here => (passed e here).plain.2

/-- If the messages of a session have different numbers, this message is the only one with its
own. -/
lemma sole (h : Acknowledged topic payload timeout id d) {before after : Dialogue Platform}
    (distinct : DistinctNumbers (before ++ d ++ after)) : SoleNumber before id after := by
  rintro earlier later ⟨first, rfl⟩ ⟨last, rfl⟩ same there
  obtain ⟨numbers, plain⟩ := h.plain
  obtain ⟨mine, yours⟩ := List.forall_mem_append.mp same
  have nodup := distinct first (earlier ++ d ++ later) last (by simp)
    (List.forall_mem_append.mpr ⟨List.forall_mem_append.mpr ⟨mine, plain⟩, yours⟩)
  rw [List.filterMap_append, List.filterMap_append, numbers] at nodup
  rw [List.filterMap_append, List.mem_append] at there
  obtain ⟨first, -, apart⟩ := List.nodup_append.mp nodup
  rcases there with there | there
  · exact (List.nodup_append.mp first).2.2 id there id (by simp) rfl
  · exact apart id (by simp) id there rfl

end Acknowledged

/-- A payload with the number of its message and what was said until it was acknowledged. -/
structure Message where
  payload : Bytes
  id : Nat
  said : Dialogue Platform

/-- What was said for a row of messages. -/
def saidFor (messages : List Message) : Dialogue Platform := messages.flatMap Message.said

/-- The payloads were sent one after the other, each in a message that was acknowledged and is the
only one of its session with its number. -/
def EachAcknowledged (topic : String) (timeout : Nat) (payloads : List Bytes)
    (said : Dialogue Platform) : Prop :=
  ∃ front messages back, said = front ++ saidFor messages ++ back ∧
    messages.map Message.payload = payloads ∧
    ∀ earlier m later, messages = earlier ++ m :: later →
      Acknowledged topic m.payload timeout m.id m.said ∧
        SoleNumber (front ++ saidFor earlier) m.id (saidFor later ++ back)

/-- Messages that were acknowledged have acknowledgements of their own if the numbers are
distinct. -/
lemma eachAcknowledged_of_distinct {topic : String} {timeout : Nat} {messages : List Message}
    {front back : Dialogue Platform}
    (acknowledged : ∀ m ∈ messages, Acknowledged topic m.payload timeout m.id m.said)
    (distinct : DistinctNumbers (front ++ saidFor messages ++ back)) :
    EachAcknowledged topic timeout (messages.map Message.payload)
      (front ++ saidFor messages ++ back) := by
  refine ⟨front, messages, back, rfl, rfl, ?_⟩
  rintro earlier m later rfl
  have there := acknowledged m (by simp)
  refine ⟨there, there.sole ?_⟩
  have around : front ++ saidFor (earlier ++ m :: later) ++ back
      = front ++ saidFor earlier ++ m.said ++ (saidFor later ++ back) := by
    simp [saidFor]
  rwa [around] at distinct

end Broker

/-! ## A device with a broker client -/

/-- The surroundings of a device whose cloud is the broker client of a board. -/
structure Wired (η σ : Type) where
  /-- The blobs, the register and the session of the provisioning client. -/
  world : World
  /-- What the drivers remember. -/
  board : Board η
  /-- The chip, in whatever state. -/
  chip : σ
  /-- All that was said to the chip. -/
  said : Dialogue Platform

namespace Wired

open Broker

variable {η σ : Type} {L : Licence} {B : Behaviour Platform σ}
  {stored : IdentityItem → Program Platform (Option String)} {s t : Wired η σ}

/-- The task of the board that answers a request to the cloud. -/
def cloudTask (stored : IdentityItem → Program Platform (Option String)) :
    (r : DeviceRequest) → Option (Board.Task η r.Answer)
  | .connect client timeout => some (Board.connect stored client timeout)
  | .requestShadow thing => some (Board.requestShadow thing)
  | .pump timeout => some (Board.pump timeout)
  | .publish topic payload timeout => some (Board.publish topic payload timeout)
  | .disconnect => some Board.disconnect
  | _ => none

/-- A request to the cloud is answered by its task, on a chip that behaves as `B`.  All others are
answered as in any world; they leave the session with the broker alone. -/
def answers (L : Licence) (B : Behaviour Platform σ)
    (stored : IdentityItem → Program Platform (Option String)) :
    Behaviour Surroundings (Wired η σ) := fun r s x t =>
  World.answers L r s.world x t.world ∧
    match cloudTask stored r with
    | some task => ∃ d, Returns B (task s.board) s.chip d (x, t.board) t.chip ∧ t.said = s.said ++ d
    | none => t.board.broker = s.board.broker ∧ ∃ d, t.said = s.said ++ d

/-- What was said stays said. -/
lemma said_of_answers {r : DeviceRequest} {x : r.Answer} (h : answers L B stored r s x t) :
    ∃ d, t.said = s.said ++ d := by
  obtain ⟨-, work⟩ := h
  split at work
  · obtain ⟨d, -, more⟩ := work
    exact ⟨d, more⟩
  · exact work.2

lemma said_of_reaches {α : Type} {p q : Program Surroundings α} {d : Dialogue Surroundings}
    (h : Reaches (answers L B stored) p s d q t) : ∃ e, t.said = s.said ++ e := by
  induction h with
  | rest p s => exact ⟨[], (List.append_nil _).symm⟩
  | ask answered _ ih =>
    obtain ⟨e, first⟩ := said_of_answers answered
    obtain ⟨e', second⟩ := ih
    exact ⟨e ++ e', by rw [second, first, List.append_assoc]⟩

/-- The device has published a payload, so it was acknowledged. -/
lemma acknowledged_of_answers {topic : String} {payload : Bytes} {timeout : Nat}
    (h : answers L B stored (.publish topic payload timeout) s (.ok ()) t) :
    ∃ m : Message, m.payload = payload ∧ Acknowledged topic m.payload timeout m.id m.said ∧
      t.said = s.said ++ m.said := by
  obtain ⟨-, d, worked, more⟩ := h
  obtain ⟨d₁, y, u, d₂, rfl, published, halted⟩ := returns_bind.mp worked
  obtain ⟨rfl, same, rfl⟩ := returns_done.mp halted
  obtain ⟨rfl, -⟩ := Prod.mk.inj same
  obtain ⟨id, acknowledged⟩ := acknowledged_of_publish published
  rw [List.append_nil] at more
  exact ⟨⟨payload, id, d₁⟩, rfl, acknowledged, more⟩

/-- The device has published readings one after the other, so each of them was acknowledged. -/
lemma acknowledged_of_batch {α : Type} {p q : Program Surroundings α} {name hatch : String}
    {rs : List Reading} (h : Reaches (answers L B stored) p s (Cycle.batch name hatch rs) q t) :
    ∃ messages : List Message, messages.map Message.payload = rs.map (Cycle.payload name hatch) ∧
      (∀ m ∈ messages, Acknowledged Cycle.topic m.payload Cycle.publishTimeout m.id m.said) ∧
      t.said = s.said ++ saidFor messages := by
  induction rs generalizing p s with
  | nil =>
    have rests : t = s := by
      cases h
      rfl
    exact ⟨[], rfl, fun _ none => absurd none List.not_mem_nil, by simp [rests, saidFor]⟩
  | cons r rs ih =>
    obtain ⟨p', u, answered, later⟩ := Reaches.tail h
    obtain ⟨m, payload, acknowledged, first⟩ := acknowledged_of_answers answered
    obtain ⟨messages, payloads, others, rest⟩ := ih later
    refine ⟨m :: messages, ?_, List.forall_mem_cons.mpr ⟨acknowledged, others⟩, ?_⟩
    · rw [List.map_cons, List.map_cons, payload, payloads]
    · rw [rest, first, List.append_assoc]
      rfl

/-- The device has published a batch some time ago. -/
lemma eachAcknowledged_of_reaches {α : Type} {p q : Program Surroundings α}
    {before after : Dialogue Surroundings} {name hatch : String} {rs : List Reading}
    (distinct : DistinctNumbers t.said)
    (h : Reaches (answers L B stored) p s (before ++ Cycle.batch name hatch rs ++ after) q t) :
    EachAcknowledged Cycle.topic Cycle.publishTimeout (rs.map (Cycle.payload name hatch))
      t.said := by
  obtain ⟨p₂, s₂, earlier, last⟩ := h.split
  obtain ⟨p₁, s₁, -, published⟩ := earlier.split
  obtain ⟨messages, payloads, acknowledged, meanwhile⟩ := acknowledged_of_batch published
  obtain ⟨back, later⟩ := said_of_reaches last
  rw [later, meanwhile] at distinct ⊢
  exact payloads ▸ eachAcknowledged_of_distinct acknowledged distinct

/-- Seen from above, the broker client is one of the clouds that the device may have. -/
lemma reaches_world {α : Type} {p q : Program Surroundings α} {d : Dialogue Surroundings}
    (h : Reaches (answers L B stored) p s d q t) :
    Reaches (World.answers L) p s.world d q t.world :=
  h.project world fun _ _ _ _ answered => answered.1

end Wired

open Broker

/-- On the board the log is given up only for what the broker has acknowledged.  Publishing succeeds
only with the acknowledgement of the very message, taken from the queue of the session before the
session was lost or the time was over.  If the messages of one session have different numbers, then
whenever a cycle over this client is about to remove the log, each record in it and the reading that
the cycle has taken were acknowledged, one after the other, each by an acknowledgement that belongs
to no other message of the session. -/
theorem log_waits_for_acknowledgements {η σ : Type} (L : Licence) (B : Behaviour Platform σ)
    (stored : IdentityItem → Program Platform (Option String)) (device : DeviceSettings) :
    (∀ topic payload timeout session s d t,
      Returns B (Broker.publish topic payload timeout session) s d (.ok ()) t →
        ∃ id, Acknowledged topic payload timeout id d) ∧
    ∀ (s u : Wired η σ) (d : Dialogue Surroundings), DistinctNumbers u.said →
      Asks (Wired.answers L B stored) (Cycle.run device).run s d
        (DeviceRequest.blob (.remove ReadingLog.blob)) u →
      ∃ r name hatch, (∃ earlier cycle, d = earlier ++ cycle ∧ Cycle.Took r cycle) ∧
        EachAcknowledged Cycle.topic Cycle.publishTimeout
          ((u.world.logged ++ [r]).map (Cycle.payload name hatch)) u.said := by
  refine ⟨fun _ _ _ _ _ _ _ => acknowledged_of_publish, ?_⟩
  rintro s u d distinct ⟨k, reached⟩
  have here := Wired.reaches_world reached
  obtain ⟨x, w, answered⟩ :=
    World.answers_total L (DeviceRequest.blob (.remove ReadingLog.blob)) u.world
  have beyond := here.append (.ask answered (.rest _ _))
  obtain ⟨earlier, cycle, rfl, r, between, name, hatch, took, -, course⟩ :=
    (Cycle.logKept_cycle beyond).earned d _ [] rfl rfl
  rw [← (Cycle.logKept_cycle here).logged] at course
  refine ⟨r, name, hatch, ⟨earlier, cycle, rfl, took⟩, ?_⟩
  rw [course, ← List.append_assoc, ← List.append_assoc] at reached
  exact Wired.eachAcknowledged_of_reaches distinct reached

/-! ## Two readings -/

/-- A test stand as the chip of a board. -/
def onStand (r : Platform.Request) (s : Stand) : Platform.Answer r × Stand :=
  ((Stand.answer 0 r).run s).run

/-- The chip behaves as the test stand does. -/
def StandBehaves : Behaviour Platform Stand := fun r s x t => onStand r s = (x, t)

/-- An identity is stored. -/
def certified : IdentityItem → Program Platform (Option String) := fun _ => .done (some "pem")

/-- The cloud is the one on the test stand, and everything else is as in the helpful world. -/
def wiredReact (r : DeviceRequest) (s : Wired Unit Stand) : r.Answer × Wired Unit Stand :=
  match Wired.cloudTask certified r with
  | some task =>
    match converse onStand (task s.board) s.chip with
    | (d, (x, board), chip) => (x, { s with board, chip, said := s.said ++ d })
  | none => ((helpful r s.world).1, { s with world := (helpful r s.world).2 })

lemma answers_wiredReact (r : DeviceRequest) (s : Wired Unit Stand) :
    Wired.answers Lifecycle.obligingLicence StandBehaves certified r s (wiredReact r s).1
      (wiredReact r s).2 := by
  have talks : ∀ {α : Type} (p : Program Platform α), Returns StandBehaves p s.chip
      (converse onStand p s.chip).1 (converse onStand p s.chip).2.1
      (converse onStand p s.chip).2.2 :=
    fun p => returns_converse (fun _ _ => rfl) p s.chip
  have world : World.answers Lifecycle.obligingLicence r s.world (wiredReact r s).1
      (wiredReact r s).2.world := by
    cases r with
    | connect | requestShadow | pump | publish | disconnect => exact ⟨s.world, rfl, .refl⟩
    | _ => exact answers_helpful _ s.world
  refine ⟨world, ?_⟩
  cases r with
  | connect | requestShadow | pump | publish | disconnect => exact ⟨_, talks _, rfl⟩
  | _ => exact ⟨rfl, [], (List.append_nil _).symm⟩

/-- One reading is in the log and the next is to be published with it.  Each message is followed by
acknowledgements of others before its own, and the first one by an error as well. -/
def pairWired : Wired Unit Stand where
  world := { pairWorld "h" with
    blobs := ((pairWorld "h").blobs.put HatchConfig.blob
      { pairConfig "h" with unpublished := 1 }.encode).put ReadingLog.blob
      (calmReading 1700000000).encode }
  board := .start
  chip := (Stand.start .empty 0).prepare [("mqtt_publish",
    [.events none [.published 1, .failure ⟨-1⟩, .published 2, .published 3] false,
      .events none [.published 3, .published 4] false])]
  said := []

/-- A device that looks for a shadow document once. -/
def hastyDevice : DeviceSettings :=
  ⟨"", { DeviceTiming.standard with shadow := ⟨500000, 500000, 1⟩ }⟩

/-- What happens in the cycle. -/
def pairCycle : Dialogue Surroundings × Except DeviceError CycleOutcome × Wired Unit Stand :=
  converse wiredReact (Cycle.run hastyDevice).run pairWired

/-- The log is to be removed. -/
def asksRemoval (e : Exchange Surroundings) : Bool :=
  match (e.request : DeviceRequest) with
  | .blob (.remove name) => name == ReadingLog.blob
  | _ => false

/-- What happens in the cycle before the log is to be removed. -/
def untilRemoval : Dialogue Surroundings := pairCycle.1.takeWhile fun e => !asksRemoval e

lemma removesLog_of_asksRemoval {e : Exchange Surroundings} (h : asksRemoval e = true) :
    e.removesLog := by
  rcases e with ⟨r, x⟩
  unfold asksRemoval at h
  split at h
  · next name same =>
    rw [Exchange.removesLog, ← beq_iff_eq.mp h]
    exact same
  · exact nomatch h

/-- The cycle comes to the removal. -/
lemma exists_removal :
    ∃ e after, pairCycle.1 = untilRemoval ++ e :: after ∧ e.removesLog := by
  have comes : pairCycle.1.any asksRemoval = true := by decide +kernel
  obtain ⟨e, after, onward⟩ : ∃ e after,
      pairCycle.1.dropWhile (fun e => !asksRemoval e) = e :: after := by
    refine List.exists_cons_of_ne_nil fun never => ?_
    obtain ⟨e, there, removal⟩ := List.any_eq_true.mp comes
    exact absurd (List.dropWhile_eq_nil_iff.mp never e there) (by simp [removal])
  refine ⟨e, after, ?_, removesLog_of_asksRemoval ?_⟩
  · rw [← onward]
    exact List.takeWhile_append_dropWhile.symm
  · have first := List.head?_dropWhile_not (fun e => !asksRemoval e) pairCycle.1
    rw [onward] at first
    simpa using first

/-- The two readings are published in messages that were acknowledged, and then the device is about
to remove the log with the first of them. -/
theorem two_readings_are_acknowledged :
    ∃ u r name hatch, DistinctNumbers u.said ∧
      Asks (Wired.answers Lifecycle.obligingLicence StandBehaves certified)
        (Cycle.run hastyDevice).run pairWired untilRemoval
        (DeviceRequest.blob (.remove ReadingLog.blob)) u ∧
      u.world.logged = [calmReading 1700000000] ∧
      EachAcknowledged Cycle.topic Cycle.publishTimeout
        ([calmReading 1700000000, r].map (Cycle.payload name hatch)) u.said := by
  have cycle : Returns (Wired.answers Lifecycle.obligingLicence StandBehaves certified)
      (Cycle.run hastyDevice).run pairWired pairCycle.1 pairCycle.2.1 pairCycle.2.2 :=
    returns_converse answers_wiredReact _ _
  obtain ⟨e, after, split, removal⟩ := exists_removal
  rw [split] at cycle
  obtain ⟨q, u, before, onward⟩ := cycle.split
  have asks : Asks (Wired.answers Lifecycle.obligingLicence StandBehaves certified)
      (Cycle.run hastyDevice).run pairWired untilRemoval
      (DeviceRequest.blob (.remove ReadingLog.blob)) u := by
    rw [← removal]
    cases onward with
    | ask answered later => exact ⟨_, before⟩
  have distinct : DistinctNumbers u.said := by
    have numbers : (pairCycle.2.2.said.filterMap numbered).Nodup := by decide +kernel
    obtain ⟨later, said⟩ := Wired.said_of_reaches onward
    intro front session back here _
    refine numbers.sublist (List.Sublist.filterMap _ ?_)
    rw [said, here, List.append_assoc, List.append_assoc]
    exact (List.sublist_append_left _ _).trans (List.sublist_append_right _ _)
  have logged : u.world.logged = [calmReading 1700000000] := by
    rw [(Cycle.logKept_cycle (Wired.reaches_world before)).logged]
    decide +kernel
  obtain ⟨r, name, hatch, -, acknowledged⟩ := (log_waits_for_acknowledgements
    Lifecycle.obligingLicence StandBehaves certified hastyDevice).2 pairWired u _ distinct asks
  rw [logged] at acknowledged
  exact ⟨u, r, name, hatch, distinct, asks, logged, acknowledged⟩

end HatchSensor
