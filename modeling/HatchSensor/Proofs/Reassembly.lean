import HatchSensor.Board.Inbox
import Mathlib.Data.List.Basic

/-!
# Messages put together

A message from the broker comes in one piece, or as a first chunk and later ones that together reach
the size announced with them.  It may also be given up before that.  A `Transmission` says how a
message was sent, without regard to an inbox, and everything else that the client reports may come
in between.

`Inbox.reassembly_is_lossless` says what an inbox makes of this, whatever it held before: each
message is passed on once, as a whole and when its last part has arrived, everything else is passed
on in its place, and of a message that was given up nothing is left.
-/

namespace HatchSensor

/-! ## What arrives -/

namespace ClientEvent

/-- The event brings a message or a part of one. -/
def isPart : ClientEvent → Bool
  | received _ _ _ => true
  | _ => false

/-- What there is to pass on of an event that brings no part of a message. -/
def notice? : ClientEvent → Option BrokerEvent
  | connected => some .connected
  | disconnected => some .disconnected
  | subscribed id => some (.subscribed id)
  | published id => some (.published id)
  | failure reason => some (.failure reason)
  | received _ _ _ => none
  | other => none

end ClientEvent

/-- A message has arrived. -/
def BrokerEvent.isMessage : BrokerEvent → Bool
  | received _ _ => true
  | _ => false

/-- A chunk that is not the first of its message. -/
structure LaterChunk where
  /-- The topic, which later chunks need not name. -/
  topic : Option String
  data : Bytes
deriving DecidableEq

/-- The chunk as it arrives. -/
def LaterChunk.part (total : Nat) (chunk : LaterChunk) : ClientEvent :=
  .received chunk.topic chunk.data (.more total)

/-- What the first data and the chunks after it make together. -/
def joined (first : Bytes) (later : List LaterChunk) : Bytes :=
  first ++ later.flatMap LaterChunk.data

/-- How a message was sent. -/
inductive Transmission where
  /-- In one piece. -/
  | whole (topic : Option String) (data : Bytes)
  /-- In chunks, with the size of the whole. -/
  | chunked (topic : Option String) (total : Nat) (first : Bytes) (middle : List LaterChunk)
      (last : LaterChunk)
  /-- In chunks, and given up on the way. -/
  | abandoned (topic : Option String) (total : Nat) (first : Bytes) (later : List LaterChunk)
deriving DecidableEq

namespace Transmission

/-- The parts in which it arrives. -/
def parts : Transmission → List ClientEvent
  | whole topic data => [.received topic data .whole]
  | chunked topic total first middle last =>
    .received topic first (.first total) ::
      (middle.map (LaterChunk.part total) ++ [last.part total])
  | abandoned topic total first later =>
    .received topic first (.first total) :: later.map (LaterChunk.part total)

/-- The announced size is reached with the last chunk, and not before; if the message was given up
it is not reached. -/
def Proper : Transmission → Prop
  | whole _ _ => True
  | chunked _ total first middle last =>
    (joined first middle).length < total ∧ total ≤ (joined first (middle ++ [last])).length
  | abandoned _ total first later => (joined first later).length < total

instance : DecidablePred Proper
  | whole _ _ => isTrue trivial
  | chunked _ _ _ _ _ => inferInstanceAs (Decidable (_ ∧ _))
  | abandoned _ _ _ _ => inferInstanceAs (Decidable (_ < _))

/-- The message that was sent, if all of it was. -/
def message? : Transmission → Option BrokerEvent
  | whole topic data => some (.received (topic.getD "") data)
  | chunked topic _ first middle last =>
    some (.received (topic.getD "") (joined first (middle ++ [last])))
  | abandoned _ _ _ _ => none

/-- Its parts, each with what there is to pass on when it has arrived: the message with the last of
them. -/
def steps (t : Transmission) : List (ClientEvent × Option BrokerEvent) :=
  t.parts.dropLast.map (·, none) ++ t.parts.getLast?.toList.map (·, t.message?)

lemma filterMap_steps (t : Transmission) : t.steps.filterMap Prod.snd = t.message?.toList := by
  have silent : ∀ l : List ClientEvent,
      (l.map fun e => (e, (none : Option BrokerEvent))).filterMap Prod.snd = [] := by
    intro l
    induction l with
    | nil => rfl
    | cons e l ih => exact ih
  obtain ⟨first, rest, shape⟩ : ∃ first rest, t.parts = first :: rest := by
    cases t <;> exact ⟨_, _, rfl⟩
  rw [steps, List.filterMap_append, silent, List.nil_append, shape, List.getLast?_cons]
  cases t.message? <;> rfl

/-- Nothing is passed on of a message that was given up. -/
lemma steps_of_message?_eq_none {t : Transmission} (h : t.message? = none) :
    t.steps = t.parts.map (·, none) := by
  rw [steps, h, ← List.map_append]
  congr 1
  cases last : t.parts.getLast? with
  | none =>
    rw [List.getLast?_eq_none_iff.mp last]
    rfl
  | some e => exact List.dropLast_append_getLast? e last

end Transmission

/-! ## What an inbox passes on -/

namespace Inbox

/-- The events that the inbox takes, each with what it passes on. -/
def log : Inbox → List ClientEvent → List (ClientEvent × Option BrokerEvent)
  | _, [] => []
  | box, event :: rest => (event, (box.take event).2) :: log (box.take event).1 rest

/-- The inbox after some events. -/
def after (box : Inbox) (events : List ClientEvent) : Inbox := (box.takeAll events).1

@[simp]
lemma after_cons (box : Inbox) (event : ClientEvent) (rest : List ClientEvent) :
    box.after (event :: rest) = (box.take event).1.after rest := rfl

lemma takeAll_eq_filterMap_log (box : Inbox) (events : List ClientEvent) :
    (box.takeAll events).2 = (box.log events).filterMap Prod.snd := by
  induction events generalizing box with
  | nil => rfl
  | cons event rest ih =>
    have first : (box.takeAll (event :: rest)).2
        = (box.take event).2.toList ++ ((box.take event).1.takeAll rest).2 := rfl
    rw [first, ih, log]
    cases (box.take event).2 <;> simp

lemma map_fst_log (box : Inbox) (events : List ClientEvent) :
    (box.log events).map Prod.fst = events := by
  induction events generalizing box with
  | nil => rfl
  | cons event rest ih => rw [log, List.map_cons, ih]

lemma log_append (box : Inbox) (events others : List ClientEvent) :
    box.log (events ++ others) = box.log events ++ (box.after events).log others := by
  induction events generalizing box with
  | nil => rfl
  | cons event rest ih => rw [List.cons_append, log, log, ih, after_cons, List.cons_append]

/-! ### One message -/

/-- Chunks that do not reach the size of the message are kept, and nothing is passed on. -/
lemma keeps_chunks (topic : String) {total : Nat} {sofar : Bytes} {later : List LaterChunk}
    (short : (joined sofar later).length < total) :
    log ⟨topic, sofar⟩ (later.map (LaterChunk.part total))
        = (later.map (LaterChunk.part total)).map (·, none) ∧
      after ⟨topic, sofar⟩ (later.map (LaterChunk.part total)) = ⟨topic, joined sofar later⟩ := by
  induction later generalizing sofar with
  | nil => exact ⟨rfl, by rw [joined, List.flatMap_nil, List.append_nil]; rfl⟩
  | cons chunk later ih =>
    have shift : joined sofar (chunk :: later) = joined (sofar ++ chunk.data) later := by
      rw [joined, joined, List.flatMap_cons, List.append_assoc]
    rw [shift] at short ⊢
    have part : ¬ total ≤ (sofar ++ chunk.data).length := by
      rw [joined, List.length_append] at short
      omega
    have step : take ⟨topic, sofar⟩ (chunk.part total) = (⟨topic, sofar ++ chunk.data⟩, none) :=
      if_neg part
    obtain ⟨logged, kept⟩ := ih short
    rw [List.map_cons, log, after_cons, step, logged, kept]
    exact ⟨rfl, rfl⟩

/-- The chunk that reaches the size of the message completes it. -/
lemma take_last {topic : String} {total : Nat} {sofar : Bytes} {last : LaterChunk}
    (reached : total ≤ (sofar ++ last.data).length) :
    take ⟨topic, sofar⟩ (last.part total)
      = (empty, some (.received topic (sofar ++ last.data))) :=
  if_pos reached

/-- A message is passed on with its last part, whatever the inbox held before. -/
lemma log_parts {t : Transmission} (proper : t.Proper) (box : Inbox) :
    box.log t.parts = t.steps := by
  cases t with
  | whole topic data => rfl
  | chunked topic total first middle last =>
    obtain ⟨short, reached⟩ := proper
    have whole : joined first (middle ++ [last]) = joined first middle ++ last.data := by
      simp [joined]
    rw [whole] at reached
    obtain ⟨logged, kept⟩ := keeps_chunks (topic.getD "") short
    have opened : box.take (.received topic first (.first total))
        = (⟨topic.getD "", first⟩, none) := rfl
    rw [Transmission.steps, Transmission.message?, Transmission.parts, log, opened, log_append,
      logged, kept, log, take_last reached, whole]
    simp [log, List.dropLast_cons_of_ne_nil, List.getLast?_cons]
  | abandoned topic total first later =>
    obtain ⟨logged, -⟩ := keeps_chunks (topic.getD "") proper
    have opened : box.take (.received topic first (.first total))
        = (⟨topic.getD "", first⟩, none) := rfl
    rw [Transmission.steps_of_message?_eq_none rfl, Transmission.parts, log, opened, logged,
      List.map_cons]

/-- Messages are passed on one after the other. -/
lemma log_flatMap_parts {transmissions : List Transmission}
    (proper : ∀ t ∈ transmissions, t.Proper) (box : Inbox) :
    box.log (transmissions.flatMap Transmission.parts)
      = transmissions.flatMap Transmission.steps := by
  induction transmissions generalizing box with
  | nil => rfl
  | cons t rest ih =>
    obtain ⟨first, others⟩ := List.forall_mem_cons.mp proper
    rw [List.flatMap_cons, List.flatMap_cons, log_append, log_parts first, ih others]

/-! ### What comes in between -/

/-- An event that brings no part of a message leaves the inbox alone. -/
lemma take_of_notice (box : Inbox) {event : ClientEvent} (notice : event.isPart = false) :
    box.take event = (box, event.notice?) := by
  cases event with
  | received topic data part => exact nomatch notice
  | _ => rfl

lemma log_filter (box : Inbox) (events : List ClientEvent) :
    (box.log events).filter (fun s => s.1.isPart) = box.log (events.filter ClientEvent.isPart) := by
  induction events generalizing box with
  | nil => rfl
  | cons event rest ih =>
    cases kind : event.isPart with
    | true => simp [log, kind, ih]
    | false => simp [log, kind, take_of_notice box kind, ih]

lemma snd_of_mem_log {box : Inbox} {events : List ClientEvent}
    {s : ClientEvent × Option BrokerEvent} (there : s ∈ box.log events)
    (notice : s.1.isPart = false) : s.2 = s.1.notice? := by
  induction events generalizing box with
  | nil => exact absurd there List.not_mem_nil
  | cons event rest ih =>
    rcases List.mem_cons.mp there with rfl | there
    · exact congrArg Prod.snd (take_of_notice box notice)
    · exact ih there

/-- Parts of messages are passed on as messages, if at all. -/
lemma isMessage_of_part {box : Inbox} {event : ClientEvent} (part : event.isPart = true)
    {e : BrokerEvent} (passed : (box.take event).2 = some e) : e.isMessage = true := by
  cases event with
  | received topic data place =>
    cases place with
    | whole =>
      obtain rfl := Option.some.inj passed
      rfl
    | first total => exact nomatch passed
    | more total =>
      simp only [take, extend] at passed
      split at passed
      · obtain rfl := Option.some.inj passed
        rfl
      · exact nomatch passed
  | _ => exact nomatch part

/-- Other events are not. -/
lemma not_isMessage_of_notice {event : ClientEvent} {e : BrokerEvent}
    (passed : event.notice? = some e) : e.isMessage = false := by
  cases event <;> cases passed <;> rfl

/-- The messages that are passed on are those of the parts, and the rest is that of the others. -/
lemma filter_takeAll (box : Inbox) (events : List ClientEvent) :
    (box.takeAll events).2.filter BrokerEvent.isMessage
        = (box.log (events.filter ClientEvent.isPart)).filterMap Prod.snd ∧
      (box.takeAll events).2.filter (fun e => !e.isMessage)
        = events.filterMap ClientEvent.notice? := by
  rw [takeAll_eq_filterMap_log]
  induction events generalizing box with
  | nil => exact ⟨rfl, rfl⟩
  | cons event rest ih =>
    obtain ⟨messages, others⟩ := ih (box.take event).1
    cases kind : event.isPart with
    | true =>
      have none : event.notice? = none := by
        cases event <;> first | rfl | exact nomatch kind
      rw [List.filter_cons_of_pos kind, List.filterMap_cons_none none, log, log]
      cases passed : (box.take event).2 with
      | none => exact ⟨by simpa using messages, by simpa using others⟩
      | some e =>
        have message := isMessage_of_part kind passed
        exact ⟨by simpa [message] using messages, by simpa [message] using others⟩
    | false =>
      have other : ¬ event.isPart = true := by simp [kind]
      rw [take_of_notice box kind] at messages others
      rw [List.filter_cons_of_neg other, log, take_of_notice box kind]
      cases passed : event.notice? with
      | none => exact ⟨by simpa using messages, by simpa [passed] using others⟩
      | some e =>
        have notice := not_isMessage_of_notice passed
        exact ⟨by simpa [notice] using messages, by simpa [notice, passed] using others⟩

/-! ## All messages -/

/-- What the inbox `box` makes of `events` that bring the `transmissions`, among other things. -/
structure Lossless (box : Inbox) (transmissions : List Transmission) (events : List ClientEvent) :
    Prop where
  /-- The log is about the events, one by one. -/
  taken : (box.log events).map Prod.fst = events
  /-- All that is passed on is in the log, in this order. -/
  passed : (box.takeAll events).2 = (box.log events).filterMap Prod.snd
  /-- A message is passed on when its last part arrives, and nothing when the others do. -/
  parts : (box.log events).filter (fun s => s.1.isPart) = transmissions.flatMap Transmission.steps
  /-- Everything else is passed on when it arrives. -/
  notices : ∀ s ∈ box.log events, s.1.isPart = false → s.2 = s.1.notice?
  /-- The messages that are passed on are those that were sent as a whole, each of them once. -/
  messages : (box.takeAll events).2.filter BrokerEvent.isMessage
    = transmissions.filterMap Transmission.message?
  /-- The rest is everything else. -/
  others : (box.takeAll events).2.filter (fun e => !e.isMessage)
    = events.filterMap ClientEvent.notice?

/-- However messages were cut into chunks, whatever came in between, which of them were given up,
and whatever the inbox held before: each message that was sent as a whole is passed on once, with
its topic and all of its data, in its place among the others and among everything else. -/
theorem reassembly_is_lossless (box : Inbox) {transmissions : List Transmission}
    (proper : ∀ t ∈ transmissions, t.Proper) {events : List ClientEvent}
    (interleaved : events.filter ClientEvent.isPart = transmissions.flatMap Transmission.parts) :
    Lossless box transmissions events := by
  have logged := log_flatMap_parts proper box
  obtain ⟨messages, others⟩ := filter_takeAll box events
  refine
    { taken := map_fst_log box events
      passed := takeAll_eq_filterMap_log box events
      parts := by rw [log_filter, interleaved, logged]
      notices := fun s there => snd_of_mem_log there
      messages := ?_
      others := others }
  rw [messages, interleaved, logged, List.filterMap_flatMap, List.filterMap_eq_flatMap_toList]
  exact congrArg (transmissions.flatMap ·) (funext Transmission.filterMap_steps)

/-- A message that is given up, one in three chunks, of which the second is empty, and one in one
piece. -/
def threeMessages : List Transmission :=
  [.abandoned (some "a") 5 [1] [⟨none, [2]⟩],
    .chunked (some "b") 4 [3, 4] [⟨none, []⟩] ⟨none, [5, 6]⟩,
    .whole (some "c") [7]]

/-- How they arrive, while the client has other things to report as well. -/
def threeArrivals : List ClientEvent :=
  [.received (some "a") [1] (.first 5), .published 1, .received none [2] (.more 5),
    .received (some "b") [3, 4] (.first 4), .other, .received none [] (.more 4), .disconnected,
    .connected, .received none [5, 6] (.more 4), .received (some "c") [7] .whole,
    .subscribed 2]

/-- An inbox that still holds something of an earlier message passes both messages on. -/
theorem two_of_three_messages_are_whole :
    (∀ t ∈ threeMessages, t.Proper) ∧
      threeArrivals.filter ClientEvent.isPart = threeMessages.flatMap Transmission.parts ∧
      (takeAll ⟨"x", [0, 0, 0]⟩ threeArrivals).2
        = [.published 1, .disconnected, .connected, .received "b" [3, 4, 5, 6], .received "c" [7],
          .subscribed 2] ∧
      Lossless ⟨"x", [0, 0, 0]⟩ threeMessages threeArrivals := by
  have proper : ∀ t ∈ threeMessages, t.Proper := by decide
  have interleaved : threeArrivals.filter ClientEvent.isPart
      = threeMessages.flatMap Transmission.parts := by decide
  exact ⟨proper, interleaved, by decide, reassembly_is_lossless _ proper interleaved⟩

end Inbox

end HatchSensor
