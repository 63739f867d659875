import HatchSensor.Provisioning.Message
import HatchSensor.Provisioning.Reply
import HatchSensor.Hatch.Store

/-!
# Provisioning sessions

While the device waits for credentials, a client may write messages to it and read its identity.
A session remembers the halves of the credentials that have arrived so far and the time the client
asked to set; everything else a message changes lies in the blob store.

A write is a program over the blob store.  Its effect on the rest of the device is part of its
result: the reply, and whether the client has finished.
-/

namespace HatchSensor

/-- What a session remembers between two writes. -/
structure Session where
  /-- The name of the device while it has no stored identity. -/
  fallback : String
  /-- The name of the network, once it has been set. -/
  ssid : Option String
  /-- The password of the network, once it has been set. -/
  password : Option String
  /-- The time to set when the session is over. -/
  requestedTime : Option UInt32
deriving DecidableEq, Inhabited

structure WriteEffect where
  /-- The reply; a bare credential object gets none. -/
  reply : Option Reply
  /-- The client has finished. -/
  finished : Bool
  /-- Acceptable credentials could not be stored. -/
  refused : Option CommandError
deriving DecidableEq, Inhabited

namespace Session

def protocolVersion : String := "1.0.0"

/-- A session in which nothing has been written. -/
def start (fallback : String) : Session := ⟨fallback, none, none, none⟩

/-- A step of a session that may fail. -/
abbrev Step (α : Type) := ExceptT CommandError (StateT Session (Program Blobs)) α

/-- Carry out a store operation and explain its failure. -/
def store {α : Type} (explain : StoreError → CommandError) (p : BlobProgram α) : Step α :=
  ExceptT.mk fun session => do
    match ← p.run with
    | .ok a => return (.ok a, session)
    | .error e => return (.error (explain e), session)

/-- Ask the blob store. -/
def ask {α : Type} (p : Program Blobs α) : Step α :=
  ExceptT.mk fun session => do
    return (.ok (← p), session)

/-- Change what the session remembers. -/
def remember (change : Session → Session) : Step Unit :=
  ExceptT.mk fun session => .done (.ok (), change session)

def refuse {α : Type} (reason : CommandError) : Step α :=
  ExceptT.mk fun session => .done (.error reason, session)

/-! ## Commands -/

/-- Check credentials and store them. -/
def storeCredentials (c : Credentials) : Step Unit :=
  match c.validate with
  | .error e => refuse (.credentials e)
  | .ok () => store .credentialsNotStored c.save

/-- Store the credentials if both halves have arrived. -/
def completeCredentials : Step Unit :=
  ExceptT.mk fun session =>
    match session.ssid, session.password with
    | some ssid, some password => (storeCredentials ⟨ssid, password⟩).run session
    | _, _ => .done (.ok (), session)

/-- Store a part of the identity. -/
def storeItem (item : IdentityItem) (text : String) : Step Unit :=
  if (Text.trim text).isEmpty then refuse (.blank item)
  else store (.itemNotStored item) (item.save text)

/-- Store the canonical form of an identity. -/
def storeUuid (text : String) : Step Unit :=
  match Uuid.parse text with
  | .ok uuid => storeItem .uuid uuid.canonical
  | .error e => refuse (.uuid text e)

/-- Change the stored thresholds. -/
def storeThresholds (update : ThresholdUpdate) : Step Unit := do
  let current ← ask HatchConfig.load
  match update.apply current with
  | .ok updated => store .thresholdsNotStored updated.save
  | .error e => refuse (.thresholds e)

/-- Carry out a command; the result tells whether the client has finished. -/
def execute : Command → Step Bool
  | .setSsid text => do
    if !Credentials.fits Credentials.ssidLimit text then refuse .ssidSize
    remember fun s => { s with ssid := some text }
    completeCredentials
    return false
  | .setPassword text => do
    if !Credentials.fits Credentials.passwordLimit text then refuse .passwordSize
    remember fun s => { s with password := some text }
    completeCredentials
    return false
  | .setCertificate text => do
    storeItem .certificate text
    return false
  | .setPrivateKey text => do
    storeItem .privateKey text
    return false
  | .setRootCa text => do
    storeItem .rootCa text
    return false
  | .setUuid text => do
    storeUuid text
    return false
  | .setTime time => do
    remember fun s => { s with requestedTime := some time }
    return false
  | .setThresholds update => do
    storeThresholds update
    return false
  | .startMeasuring => do
    match ← ask Credentials.load with
    | some _ => return true
    | none => refuse .noCredentials

/-! ## Writes and reads -/

/-- Carry out a message. -/
def handle (session : Session) (message : ClientMessage) :
    Program Blobs (WriteEffect × Session) :=
  match message.body with
  | .versionQuery =>
    return ({ reply := some ⟨message.id, .value protocolVersion⟩, finished := false,
              refused := none }, session)
  | .command command => do
    match ← (execute command).run session with
    | (.ok finished, session) =>
      return ({ reply := some ⟨message.id, .done⟩, finished, refused := none }, session)
    | (.error e, session) =>
      return ({ reply := some ⟨message.id, .failed e⟩, finished := false, refused := none },
        session)

/-- Take a bare credential object; storing it ends the session. -/
def handleBare (session : Session) (payload : Bytes) : Program Blobs (WriteEffect × Session) :=
  match Credentials.ofPayload payload with
  | .error _ => return ({ reply := none, finished := false, refused := none }, session)
  | .ok credentials => do
    match ← (storeCredentials credentials).run session with
    | (.ok (), session) =>
      return ({ reply := none, finished := true, refused := none }, session)
    | (.error e, session) =>
      return ({ reply := none, finished := false, refused := some e }, session)

/-- A write of the client: a message, or else a bare credential object. -/
def write (session : Session) (payload : Bytes) : Program Blobs (WriteEffect × Session) :=
  match ClientMessage.ofPayload? payload with
  | some message => handle session message
  | none => handleBare session payload

/-- A read of the client: the name of the device. -/
def read (session : Session) : Program Blobs String := do
  let name ← cloudName session.fallback
  return Json.writeMembers [("uuid", Json.writeString name)]

/-- Take the requested time, once. -/
def takeTime (session : Session) : Option UInt32 × Session :=
  (session.requestedTime, { session with requestedTime := none })

end Session

end HatchSensor
