import HatchSensor.Board.Platform

/-!
# Messages from the broker

A message that is larger than the buffer of the client arrives in chunks.  The inbox puts them
together again and passes everything else on in its place.
-/

namespace HatchSensor

/-- The part of a message that arrives. -/
inductive MessagePart where
  /-- The whole message. -/
  | whole
  /-- The first chunk of a message of the given size. -/
  | first (total : Nat)
  /-- A later chunk of a message of the given size. -/
  | more (total : Nat)
deriving DecidableEq, Inhabited

/-- An event as the client of the broker reports it. -/
inductive ClientEvent where
  /-- The session is open. -/
  | connected
  /-- The session is lost. -/
  | disconnected
  /-- A subscription is in force. -/
  | subscribed (id : Nat)
  /-- A message has been taken by the broker. -/
  | published (id : Nat)
  /-- A message, or a chunk of one, has arrived; only a whole message or a first chunk need name
  its topic. -/
  | received (topic : Option String) (data : Bytes) (part : MessagePart)
  /-- Something went wrong. -/
  | failure (reason : ChipError)
  /-- Anything else. -/
  | other
deriving DecidableEq, Inhabited

/-- The message that is being put together. -/
structure Inbox where
  topic : String
  /-- The data so far. -/
  data : Bytes
deriving DecidableEq, Inhabited

namespace Inbox

/-- No message is being put together. -/
def empty : Inbox := ⟨"", []⟩

/-- Take a chunk that is not the first.  A message that has reached its size is passed on. -/
def extend (box : Inbox) (data : Bytes) (total : Nat) : Inbox × Option BrokerEvent :=
  let all := box.data ++ data
  if total ≤ all.length then (empty, some (.received box.topic all))
  else ({ box with data := all }, none)

/-- Take an event; what is passed on is the second component. -/
def take (box : Inbox) : ClientEvent → Inbox × Option BrokerEvent
  | .connected => (box, some .connected)
  | .disconnected => (box, some .disconnected)
  | .subscribed id => (box, some (.subscribed id))
  | .published id => (box, some (.published id))
  | .failure reason => (box, some (.failure reason))
  | .other => (box, none)
  | .received topic data .whole => (box, some (.received (topic.getD "") data))
  | .received topic data (.first _) => (⟨topic.getD "", data⟩, none)
  | .received _ data (.more total) => box.extend data total

def takeAll : Inbox → List ClientEvent → Inbox × List BrokerEvent
  | box, [] => (box, [])
  | box, event :: rest =>
    let (box, passed) := box.take event
    let (box, others) := takeAll box rest
    (box, passed.toList ++ others)

end Inbox

end HatchSensor
