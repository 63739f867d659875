import HatchSensor.Board.Platform
import HatchSensor.Device.Surroundings
import HatchSensor.Identity.Store
import HatchSensor.Sha256

/-!
# The cloud, seen from the board

The board talks to the cloud through a broker.  A session is opened with the certificate of the
device; the shadow is asked for by a message and comes back as one; a payload counts as published
when the broker has acknowledged that very message.

Waiting for an event looks at one event after the other until the right one comes, the session is
lost, or the time is over.
-/

namespace HatchSensor

structure BrokerSession where
  /-- The topic on which the shadow arrives, once it has been subscribed to. -/
  shadowTopic : Option String
deriving DecidableEq, Inhabited

namespace Broker

/-! ## Constants -/

/-- The address of the broker. -/
def address : String := "mqtts://a1mdhmgt02ub52.iot.us-west-2.amazonaws.com:8883"

/-- The size of the message buffer. -/
def bufferSize : Nat := 4096

/-- The seconds between two signs of life. -/
def keepAlive : Nat := 60

/-- How long a subscription may take. -/
def subscribeTimeout : Nat := 5000000

/-- More events than can arrive while anything is waited for. -/
def eventLimit : Nat := UInt32.size

/-- The topic on which a shadow is asked for. -/
def askTopic (thing : String) : String :=
  "$aws/things/" ++ thing ++ "/shadow/get"

/-- The topic on which a shadow arrives. -/
def shadowTopic (thing : String) : String :=
  askTopic thing ++ "/accepted"

/-! ## Waiting -/

/-- The failure of a session that can have no more events. -/
def closedFault : Fault := ⟨"MQTT event channel closed"⟩

/-- The failure of an operation without a session. -/
def notConnected : Fault := ⟨"MQTT client not connected"⟩

/-- Wait for an event with a property, looking at no more than the given number of events. -/
def awaitWithin (timeout : Nat) (what : String) (isRight : BrokerEvent → Bool) :
    Nat → Program Platform (Attempt Unit)
  | 0 => .done (.error ⟨"Timed out waiting for " ++ what⟩)
  | events + 1 => do
    match ← Platform.call (.receive timeout) with
    | .timeout => return .error ⟨"Timed out waiting for " ++ what⟩
    | .closed => return .error closedFault
    | .event event =>
      if isRight event then return .ok ()
      else if event = .disconnected then
        return .error ⟨"Disconnected while waiting for " ++ what⟩
      else awaitWithin timeout what isRight events

/-- Wait for an event with a property. -/
def await (timeout : Nat) (what : String) (isRight : BrokerEvent → Bool) :
    Program Platform (Attempt Unit) :=
  awaitWithin timeout what isRight eventLimit

/-- Collect the documents that arrive on a topic, looking at no more than the given number of
events.  Only the first of them is waited for. -/
def drainWithin (topic : Option String) : Nat → Nat → List Bytes → Program Platform Pumped
  | 0, _, documents => .done ⟨documents, .ok ()⟩
  | events + 1, timeout, documents => do
    match ← Platform.call (.receive timeout) with
    | .timeout => return ⟨documents, .ok ()⟩
    | .closed => return ⟨documents, .error closedFault⟩
    | .event .disconnected => return ⟨documents, .error ⟨"MQTT connection lost"⟩⟩
    | .event (.received arrived data) =>
      let documents := if topic = some arrived then documents ++ [data] else documents
      drainWithin topic events 0 documents
    | .event _ => drainWithin topic events 0 documents

/-! ## Sessions -/

/-- Close the session, if there is one. -/
def disconnect (session : Option BrokerSession) : Program Platform Unit :=
  match session with
  | some _ => Platform.call .dropBroker
  | none => pure ()

/-- The text of a certificate or key, which must not contain the character that ends it. -/
def terminated (text : String) : Attempt String :=
  match (Bytes.encodeUtf8 text).findIdx? (· == 0) with
  | none => .ok text
  | some i =>
    .error ⟨"PEM contains null bytes: nul byte found in provided data at position: " ++ i.repr⟩

/-- How a session is opened, given the identity of the device. -/
def settings (client certificate privateKey : String) (rootCa : Option String) (timeout : Nat) :
    Attempt BrokerSettings := do
  let rootCa ← match rootCa with
    | some text => do pure (some (← terminated text))
    | none => pure none
  let certificate ← terminated certificate
  let privateKey ← terminated privateKey
  return { address, client, certificate, privateKey, rootCa, keepAlive, timeout, bufferSize,
           keepsState := false }

/-- The line about a certificate: its digest. -/
def certificateLine (certificate : String) : String :=
  "🔐 Device certificate sha256: "
    ++ Bytes.toHex (Sha256.digest (Bytes.encodeUtf8 certificate))

/-- Open a session and wait until it is open. -/
def openSession (settings : BrokerSettings) :
    Program Platform (Attempt Unit × Option BrokerSession) := do
  match ← Platform.call (.openBroker settings) with
  | .error reason => return (.error ⟨"Failed to create MQTT client: " ++ reason.text⟩, none)
  | .ok () =>
    match ← await settings.timeout "MQTT connect" (· == .connected) with
    | .ok () => return (.ok (), some ⟨none⟩)
    | .error reason =>
      Platform.call .dropBroker
      return (.error reason, none)

/-- Open a session with the stored identity.  Whatever session there was is closed first. -/
def connect (stored : IdentityItem → Program Platform (Option String)) (client : String)
    (timeout : Nat) (session : Option BrokerSession) :
    Program Platform (Attempt Unit × Option BrokerSession) := do
  disconnect session
  match ← stored .certificate with
  | none => return (.error ⟨"Certificate not provisioned"⟩, none)
  | some certificate =>
    match ← stored .privateKey with
    | none => return (.error ⟨"PrivateKey not provisioned"⟩, none)
    | some privateKey =>
      let rootCa ← stored .rootCa
      Platform.report (certificateLine certificate)
      match settings client certificate privateKey rootCa timeout with
      | .error reason => return (.error reason, none)
      | .ok settings => openSession settings

/-! ## Inside a session -/

/-- Ask for a shadow: subscribe to its topic, wait for the subscription, and send the request. -/
def requestShadow (thing : String) :
    Option BrokerSession → Program Platform (Attempt Unit × Option BrokerSession)
  | none => .done (.error notConnected, none)
  | some session => do
    let topic := shadowTopic thing
    match ← Platform.call (.subscribe topic) with
    | .error reason =>
      return (.error ⟨"Failed to subscribe to " ++ topic ++ ": " ++ reason.text⟩, some session)
    | .ok id =>
      match ← await subscribeTimeout "shadow subscription" (· == .subscribed id) with
      | .error reason => return (.error reason, some session)
      | .ok () =>
        let session := some ⟨some topic⟩
        match ← Platform.call (.enqueue (askTopic thing) (Bytes.encodeUtf8 "\x7b\x7d")) with
        | .error reason =>
          return (.error ⟨"Failed to request shadow: " ++ reason.text⟩, session)
        | .ok _ => return (.ok (), session)

/-- Let the session work: wait for an event and then take all that have arrived. -/
def pump (timeout : Nat) : Option BrokerSession → Program Platform Pumped
  | none => .done ⟨[], .error notConnected⟩
  | some session => drainWithin session.shadowTopic eventLimit timeout []

/-- Publish a payload and wait until the broker has acknowledged it. -/
def publish (topic : String) (payload : Bytes) (timeout : Nat) :
    Option BrokerSession → Program Platform (Attempt Unit)
  | none => .done (.error notConnected)
  | some _ => do
    match ← Platform.call (.publish topic payload) with
    | .error reason =>
      return .error ⟨"Failed to publish to " ++ topic ++ ": " ++ reason.text⟩
    | .ok id => await timeout "publish acknowledgement" (· == .published id)

end Broker

end HatchSensor
