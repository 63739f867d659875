import HatchSensor.Device.Surroundings

/-!
# The provisioning transport of the bench

The client of the bench is a queue of writes that are delivered as soon as a session is opened,
and whatever is written while it is open.  The replies are kept.
-/

namespace HatchSensor

/-- A provisioning transport. -/
structure BenchTransport where
  /-- Whether a session is open. -/
  enabled : Bool
  /-- The session that is open or was open last. -/
  session : Option Session
  /-- The writes that wait for a session. -/
  queued : List Bytes
  /-- The replies to queued writes. -/
  replies : List String
  /-- While set, opening a session fails. -/
  refusesOpening : Bool
  /-- While set, closing a session is reported as failed. -/
  refusesClosing : Bool
deriving Inhabited

namespace BenchTransport

/-- A transport that has never been used. -/
def start : BenchTransport := ⟨false, none, [], [], false, false⟩

/-- Put a write into the queue. -/
def queue (t : BenchTransport) (payload : Bytes) : BenchTransport :=
  { t with queued := t.queued ++ [payload] }

/-- Close the session. -/
def close (t : BenchTransport) : BenchTransport × Attempt Unit :=
  ({ t with enabled := false },
    if t.refusesClosing then .error ⟨"injected disable failure"⟩ else .ok ())

/-- Take the time that the client of the last session asked to set. -/
def takeRequestedTime (t : BenchTransport) : BenchTransport × Option UInt32 :=
  match t.session with
  | none => (t, none)
  | some session =>
    let (time, session) := session.takeTime
    ({ t with session := some session }, time)

end BenchTransport

end HatchSensor
