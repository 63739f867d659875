import HatchSensor.Device.Surroundings

/-!
# The cloud of the bench

A cloud that answers a shadow request with a prepared document after a given number of steps, and
that keeps whatever is published.  Publishing can be given a budget, and every call a number of
successes after which it fails.
-/

namespace HatchSensor

/-- A payload that was published. -/
structure Publication where
  topic : String
  payload : Bytes
deriving Inhabited

/-- The calls that can be made to fail. -/
inductive CloudCall where
  /-- Opening a session. -/
  | connect
  /-- Asking for a shadow. -/
  | request
  /-- Letting the session work. -/
  | process
deriving DecidableEq

namespace CloudCall

def name : CloudCall → String
  | connect => "connect"
  | request => "request"
  | process => "process"

/-- The call with a given name. -/
def ofName? (text : String) : Option CloudCall :=
  [connect, request, process].find? fun c => c.name == text

end CloudCall

structure BenchCloud where
  /-- Whether a session can be opened. -/
  reachable : Bool
  /-- Whether a session is open. -/
  connected : Bool
  /-- The document that answers a shadow request. -/
  document : Option String
  /-- The step after a request in which the document arrives. -/
  deliverAt : Nat
  /-- The steps since the last request. -/
  steps : Nat
  /-- Whether a request is unanswered. -/
  awaiting : Bool
  /-- The steps so far. -/
  calls : Nat
  /-- The things whose shadows were asked for. -/
  things : List String
  /-- How many more payloads may be published, if that is limited. -/
  budget : Option Nat
  /-- Everything that was published. -/
  published : List Publication
  /-- How often a call still succeeds, if it is going to fail. -/
  faults : List (CloudCall × Nat)
deriving Inhabited

namespace BenchCloud

/-- A reachable cloud without a document. -/
def start : BenchCloud where
  reachable := true
  connected := false
  document := none
  deliverAt := 0
  steps := 0
  awaiting := false
  calls := 0
  things := []
  budget := none
  published := []
  faults := []

/-- Answer every shadow request with a document, in a given step after the request. -/
def respondWith (c : BenchCloud) (document : String) (step : Nat) : BenchCloud :=
  { c with document := some document, deliverAt := max step 1 }

/-- Let a call succeed some more times and then fail, or never fail. -/
def setFault (c : BenchCloud) (call : CloudCall) (successes : Option Nat) : BenchCloud :=
  let others := c.faults.filter fun f => f.1 != call
  { c with faults := (successes.map fun n => (call, n)).toList ++ others }

/-- Count a call.  It fails if its successes are used up. -/
def meter (c : BenchCloud) (call : CloudCall) : BenchCloud × Attempt Unit :=
  match c.faults.find? fun f => f.1 == call with
  | none => (c, .ok ())
  | some (_, 0) => (c, .error ⟨"injected " ++ call.name ++ " failure"⟩)
  | some (_, n + 1) => (c.setFault call (some n), .ok ())

/-- The failure of a call that needs a session. -/
def notConnected : Fault := ⟨"Not connected"⟩

/-- Open a session. -/
def connect (c : BenchCloud) (client : String) : BenchCloud × Attempt Unit :=
  match c.meter .connect with
  | (c, .error e) => (c, .error e)
  | (c, .ok ()) =>
    if c.reachable then ({ c with connected := true }, .ok ())
    else (c, .error ⟨"Broker unreachable for '" ++ client ++ "'"⟩)

/-- Ask for the shadow of a thing. -/
def requestShadow (c : BenchCloud) (thing : String) : BenchCloud × Attempt Unit :=
  match c.meter .request with
  | (c, .error e) => (c, .error e)
  | (c, .ok ()) =>
    if c.connected then
      ({ c with things := c.things ++ [thing], awaiting := true, steps := 0 }, .ok ())
    else (c, .error notConnected)

/-- Take a step after a request that is unanswered. -/
def deliver (c : BenchCloud) : BenchCloud × Pumped :=
  let c := { c with steps := c.steps + 1 }
  if c.steps < c.deliverAt then (c, ⟨[], .ok ()⟩)
  else
    match c.document with
    | none => (c, ⟨[], .ok ()⟩)
    | some document => ({ c with awaiting := false }, ⟨[Bytes.encodeUtf8 document], .ok ()⟩)

/-- Let the session work.  Whether the call fails is not decided here, but by the meter before
it. -/
def pump (c : BenchCloud) : BenchCloud × Pumped :=
  if !c.connected then (c, ⟨[], .error notConnected⟩)
  else
    let c := { c with calls := c.calls + 1 }
    if c.awaiting then c.deliver else (c, ⟨[], .ok ()⟩)

def keep (c : BenchCloud) (topic : String) (payload : Bytes) : BenchCloud :=
  { c with published := c.published ++ [⟨topic, payload⟩] }

def publish (c : BenchCloud) (topic : String) (payload : Bytes) : BenchCloud × Attempt Unit :=
  if !c.connected then (c, .error notConnected)
  else
    match c.budget with
    | none => (c.keep topic payload, .ok ())
    | some 0 => (c, .error ⟨"Publish to '" ++ topic ++ "' timed out"⟩)
    | some (n + 1) => ({ c with budget := some n }.keep topic payload, .ok ())

/-- Close the session.  An unanswered request is given up. -/
def disconnect (c : BenchCloud) : BenchCloud :=
  { c with connected := false, awaiting := false }

end BenchCloud

end HatchSensor
