import HatchSensor.Board.Gatt
import HatchSensor.Proofs.FlashArea

/-!
# Long writes

A payload that does not fit one write is prepared chunk by chunk and then executed.  The chunks are
put together in a buffer of the server, which a client can address wherever it likes, and while it
does so the server goes through events of all kinds.

Every event comes down to some calls, a change of the server, and at most one payload that is
delivered: `Gatt.exists_serve_eq`.  From this the buffer is followed along any events
(`Gatt.buffer_of_serveAll`).  The main statement, `Gatt.long_write_is_plain_write`, is that a
payload which arrives in chunks, however it was cut, is delivered as if it had been written at once,
and that one which is too long is not delivered at all.

Whether anything is delivered, and how often, is told by sessions that keep a record of it.
-/

namespace HatchSensor

open Program

/-! ## Places in strings of bytes -/

namespace Bytes

/-- The bytes from one place up to another, if there are such places. -/
def slice? (bytes : Bytes) (first last : Nat) : Option Bytes :=
  if first ≤ last ∧ last ≤ bytes.length then some ((bytes.take last).drop first) else none

/-- The bytes with those from one place up to another replaced, if there are such places and as many
bytes to put there. -/
def overwrite? (bytes : Bytes) (first last : Nat) (chunk : Bytes) : Option Bytes :=
  if first ≤ last ∧ last ≤ bytes.length ∧ chunk.length = last - first then
    some (bytes.take first ++ chunk ++ bytes.drop last)
  else none

/-- The bytes with zeros behind them, so that there are at least `size`. -/
def grown (bytes : Bytes) (size : Nat) : Bytes :=
  bytes ++ List.replicate (size - bytes.length) 0

lemma length_grown (bytes : Bytes) (size : Nat) :
    (bytes.grown size).length = max bytes.length size := by
  rw [grown, List.length_append, List.length_replicate]
  omega

/-- Up to any place that the end is not before, all bytes can be had. -/
lemma slice?_zero_min (bytes : Bytes) (limit : Nat) :
    bytes.slice? 0 (min bytes.length limit) = some (bytes.take limit) := by
  rw [slice?, if_pos ⟨Nat.zero_le _, Nat.min_le_left _ _⟩, List.drop_zero, Nat.min_comm,
    ← List.take_eq_take_min]

/-- So can all from any place that is not behind the end. -/
lemma slice?_min_length (bytes : Bytes) (offset : Nat) :
    bytes.slice? (min offset bytes.length) bytes.length = some (bytes.drop offset) := by
  rw [slice?, if_pos ⟨Nat.min_le_right _ _, Nat.le_refl _⟩, List.take_length]
  rcases Nat.le_total offset bytes.length with inside | beyond
  · rw [Nat.min_eq_left inside]
  · rw [Nat.min_eq_right beyond, List.drop_length, List.drop_of_length_le beyond]

end Bytes

/-! ## Events -/

/-- What the radio reports to the server. -/
inductive RadioEvent where
  /-- An event that comes over an interface. -/
  | server (interface : Nat) (event : GattEvent)
  /-- An event of the advertising. -/
  | advertising (event : AdvertisingEvent)
deriving DecidableEq

namespace RadioEvent

/-- The chunk that an event adds to a long write to the attribute: its place and its bytes. -/
def chunk? (target : Nat) : RadioEvent → Option (Nat × Bytes)
  | server _ (.write r) =>
    if r.isPrepared && r.handle == target then some (r.offset, r.value) else none
  | _ => none

/-- What an event writes to the attribute at once. -/
def plain? (target : Nat) : RadioEvent → Option Bytes
  | server _ (.write r) =>
    if !r.isPrepared && r.handle == target then some r.value else none
  | _ => none

/-- The event begins a long write afresh. -/
def begins : RadioEvent → Bool
  | server _ (.connected _) => true
  | server _ (.execute _ _ _) => true
  | _ => false

/-- The event gives the attribute a handle. -/
def names : RadioEvent → Bool
  | server _ (.attributeAdded _ _) => true
  | _ => false

end RadioEvent

/-- The session remembers everything that is written to it. -/
def GattClient.recording {η : Type} (client : GattClient η) : GattClient (η × List Bytes) where
  write session payload := do
    let (later, reply) ← client.write session.1 payload
    return ((later, session.2 ++ [payload]), reply)
  read session := client.read session.1

namespace Gatt

variable {η σ : Type} {B : Behaviour Platform σ} {s t : σ} {d : Dialogue Platform}

/-- Go through something that the radio reports. -/
def serve (client : GattClient η) : RadioEvent → Server η Unit
  | .server interface event => handle client interface event
  | .advertising event => fun g => do
    g.handleAdvertising event
    return ((), g)

def serveAll (client : GattClient η) : List RadioEvent → Server η Unit
  | [] => fun g => .done ((), g)
  | e :: rest => fun g => do
    let (_, g) ← serve client e g
    serveAll client rest g

/-! ### What an event does -/

/-- The server after an event, its session apart. -/
def moved : RadioEvent → Gatt η → Gatt η
  | .server interface .registered, g => { g with interface }
  | .server _ (.attributeAdded handle _), g => { g with characteristic := handle }
  | .server _ (.connected connection), g => { g with connection, connected := true, prepared := [] }
  | .server _ .disconnected, g => { g with connected := false }
  | .server _ (.write r), g =>
    if r.isPrepared && r.handle == g.characteristic then
      { g with prepared := prepare g.prepared r.offset r.value }
    else g
  | .server _ (.execute _ _ _), g => { g with prepared := [] }
  | _, g => g

/-- What an event delivers. -/
def payload? : RadioEvent → Gatt η → Option Bytes
  | .server _ (.execute _ _ cancelled), g =>
    if !cancelled && !g.prepared.isEmpty then some g.prepared else none
  | e, g => e.plain? g.characteristic

/-- Deliver what there is to deliver. -/
def deliver? (client : GattClient η) : Option Bytes → Server η Unit
  | none => fun g => .done ((), g)
  | some payload => deliver client payload

lemma deliver?_none (client : GattClient η) (g : Gatt η) :
    deliver? client none g = .done ((), g) :=
  rfl

lemma deliver?_some (client : GattClient η) (payload : Bytes) (g : Gatt η) :
    deliver? client (some payload) g = (deliver client payload).run g :=
  rfl

/-- Going through an event is some calls, a change of the server, and at most one delivery. -/
lemma exists_serve_eq (client : GattClient η) (e : RadioEvent) (g : Gatt η) :
    ∃ calls : Program Platform Unit,
      serve client e g = calls >>= fun _ => deliver? client (payload? e g) (moved e g) := by
  rcases e with ⟨interface, event⟩ | event
  · cases event with
    | registered =>
      refine ⟨do
        logCode "Advertising data configuration"
          (← Platform.call (.setAdvertisingData advertisingData))
        logCode "GATT service creation"
          (← Platform.call (.createService interface serviceUuid serviceHandles)), ?_⟩
      change (handle client interface _).run g = _
      simp [handle, moved, payload?, RadioEvent.plain?, deliver?_none]
    | serviceCreated service =>
      refine ⟨do
        logCode "GATT service start" (← Platform.call (.startService service))
        logCode "Config characteristic creation"
          (← Platform.call (.addCharacteristic service attributeUuid readWrite properties)), ?_⟩
      change (handle client interface _).run g = _
      simp [handle, moved, payload?, RadioEvent.plain?, deliver?_none]
    | attributeAdded added service =>
      refine ⟨do
        logCode "Notification descriptor creation"
          (← Platform.call (.addDescriptor service descriptorUuid readWrite)), ?_⟩
      change (handle client interface _).run g = _
      simp [handle, moved, payload?, RadioEvent.plain?, deliver?_none]
    | connected connection => exact ⟨.done (), rfl⟩
    | disconnected =>
      refine ⟨startAdvertising { g with connected := false }, ?_⟩
      change (handle client interface _).run g = _
      simp [handle, moved, payload?, RadioEvent.plain?, deliver?_none]
    | read r =>
      refine ⟨if r.needsResponse then do
          let value ← if r.handle = g.characteristic then identity client g else .done []
          respond interface r.connection r.transaction r.handle r.offset (value.drop r.offset)
        else .done (), ?_⟩
      change (handleRead client interface r).run g = _
      by_cases wanted : r.needsResponse
      · by_cases ours : r.handle = g.characteristic <;>
          simp [handleRead, moved, payload?, RadioEvent.plain?, deliver?_none, wanted, ours]
      · simp only [handleRead, if_neg wanted]
        rfl
    | write r =>
      refine ⟨if r.needsResponse then
          respond interface r.connection r.transaction r.handle r.offset
            (if r.isPrepared then r.value else [])
        else .done (), ?_⟩
      change (handleWrite client interface r).run g = _
      by_cases chunk : r.isPrepared <;> by_cases wanted : r.needsResponse <;>
        by_cases ours : r.handle = g.characteristic <;>
        simp [handleWrite, moved, payload?, RadioEvent.plain?, deliver?_none, deliver?_some, chunk,
          wanted, ours]
    | execute connection transaction cancelled =>
      refine ⟨respond interface connection transaction 0 0 [], ?_⟩
      change (handleExecute client interface connection transaction cancelled).run g = _
      by_cases dropped : cancelled <;> by_cases nothing : g.prepared = [] <;>
        simp [handleExecute, moved, payload?, deliver?_none, deliver?_some, dropped, nothing]
    | other => exact ⟨.done (), rfl⟩
  · exact ⟨g.handleAdvertising event, rfl⟩

/-- Executing what is prepared is writing it at once. -/
lemma serve_execute (client : GattClient η) (interface connection transaction : Nat) {g : Gatt η}
    (there : g.prepared ≠ []) {r : WriteRequest} (whole : r.isPrepared = false)
    (silent : r.needsResponse = false) (same : r.handle = g.characteristic)
    (value : r.value = g.prepared) :
    serve client (.server interface (.execute connection transaction false)) g
      = respond interface connection transaction 0 0 [] >>= fun _ =>
          serve client (.server interface (.write r)) { g with prepared := [] } := by
  change (handleExecute client interface connection transaction false).run g
    = _ >>= fun _ => (handleWrite client interface r).run { g with prepared := [] }
  simp [handleExecute, handleWrite, there, whole, silent, same, value]

/-- Executing nothing, or giving up what is prepared, sends a response. -/
lemma serve_execute_of_nothing (client : GattClient η) (interface connection transaction : Nat)
    {cancelled : Bool} {g : Gatt η} (nothing : cancelled = true ∨ g.prepared = []) :
    serve client (.server interface (.execute connection transaction cancelled)) g
      = respond interface connection transaction 0 0 [] >>= fun _ =>
          .done ((), { g with prepared := [] }) := by
  change (handleExecute client interface connection transaction cancelled).run g = _
  rcases nothing with rfl | nothing
  · simp [handleExecute]
  · simp [handleExecute, nothing]

/-! ### What is delivered -/

/-- A payload that is delivered is written to the session that is open, once. -/
lemma exists_of_deliver {client : GattClient η} {payload : Bytes} {g g' : Gatt η} {session : η}
    (opened : g.session = some session)
    (h : Returns B (deliver client payload g) s d ((), g') t) :
    ∃ later reply d₁ u, Returns B (client.write session payload) s d₁ (later, reply) u ∧
      g' = { g with session := some later } := by
  simp only [deliver, opened, returns_bind] at h
  obtain ⟨d₁, ⟨later, reply⟩, u, d₂, -, written, told⟩ := h
  refine ⟨later, reply, d₁, u, written, ?_⟩
  cases reply with
  | none => exact congrArg Prod.snd (returns_done.mp told).2.1
  | some reply =>
    obtain ⟨_, _, _, _, -, -, ended⟩ := returns_bind.mp told
    exact congrArg Prod.snd (returns_done.mp ended).2.1

/-- A delivery changes nothing but the session. -/
lemma exists_eq_of_deliver? {client : GattClient η} {payload? : Option Bytes} {g g' : Gatt η}
    (h : Returns B (deliver? client payload? g) s d ((), g') t) :
    ∃ session, g' = { g with session } := by
  cases payload? with
  | none => exact ⟨g.session, congrArg Prod.snd (returns_done.mp h).2.1⟩
  | some payload =>
    cases opened : g.session with
    | none =>
      simp only [deliver?, deliver, opened, pure_eq_done, returns_done] at h
      exact ⟨g.session, congrArg Prod.snd h.2.1⟩
    | some session =>
      obtain ⟨later, _, _, _, -, same⟩ := exists_of_deliver opened h
      exact ⟨some later, same⟩

/-- A session that remembers what is written to it remembers what is delivered. -/
lemma exists_recorded_of_deliver? {client : GattClient η} {payload? : Option Bytes}
    {g g' : Gatt (η × List Bytes)} {session : η} {writes : List Bytes}
    (opened : g.session = some (session, writes))
    (h : Returns B (deliver? client.recording payload? g) s d ((), g') t) :
    ∃ later, g'.session = some (later, writes ++ payload?.toList) := by
  cases payload? with
  | none =>
    obtain rfl : g' = g := congrArg Prod.snd (returns_done.mp h).2.1
    exact ⟨session, by simpa using opened⟩
  | some payload =>
    obtain ⟨later, _, _, _, written, rfl⟩ := exists_of_deliver opened h
    obtain ⟨_, said, _, _, -, -, remembered⟩ := returns_bind.mp written
    obtain rfl : later = (said.1, writes ++ [payload]) :=
      congrArg Prod.fst (returns_done.mp remembered).2.1
    exact ⟨said.1, rfl⟩

/-! ### Along events -/

/-- The chunks that events prepare. -/
def chunks (target : Nat) (events : List RadioEvent) : List (Nat × Bytes) :=
  events.filterMap (RadioEvent.chunk? target)

/-- What the buffer holds after chunks were put into it. -/
def prepareAll (prepared : Bytes) (chunks : List (Nat × Bytes)) : Bytes :=
  chunks.foldl (fun prepared c => prepare prepared c.1 c.2) prepared

/-- An event that does not begin a long write puts its chunk into the buffer, if it has one. -/
lemma prepared_moved {e : RadioEvent} (going : e.begins = false) (g : Gatt η) :
    (moved e g).prepared = prepareAll g.prepared (e.chunk? g.characteristic).toList := by
  rcases e with ⟨interface, event⟩ | event
  · cases event with
    | write r =>
      cases ours : r.isPrepared && r.handle == g.characteristic <;>
        simp [moved, RadioEvent.chunk?, prepareAll, ours]
    | connected connection => exact nomatch going
    | execute connection transaction cancelled => exact nomatch going
    | _ => rfl
  · rfl

/-- The handle of the attribute stays unless it is given. -/
lemma characteristic_moved {e : RadioEvent} (kept : e.names = false) (g : Gatt η) :
    (moved e g).characteristic = g.characteristic := by
  rcases e with ⟨interface, event⟩ | event
  · cases event with
    | write r => by_cases ours : r.isPrepared && r.handle == g.characteristic <;> simp [moved, ours]
    | attributeAdded handle service => exact nomatch kept
    | _ => rfl
  · rfl

/-- No event opens or closes a session. -/
lemma session_moved (e : RadioEvent) (g : Gatt η) : (moved e g).session = g.session := by
  rcases e with ⟨interface, event⟩ | event
  · cases event with
    | write r => by_cases ours : r.isPrepared && r.handle == g.characteristic <;> simp [moved, ours]
    | _ => rfl
  · rfl

/-- An event that does not begin a long write delivers what it writes at once, if anything. -/
lemma payload?_of_going {e : RadioEvent} (going : e.begins = false) (g : Gatt η) :
    payload? e g = e.plain? g.characteristic := by
  rcases e with ⟨interface, event⟩ | event
  · cases event with
    | execute connection transaction cancelled => exact nomatch going
    | _ => rfl
  · rfl

/-- What the server holds after an event apart from its session. -/
lemma exists_eq_of_serve {client : GattClient η} {e : RadioEvent} {g g' : Gatt η}
    (h : Returns B (serve client e g) s d ((), g') t) :
    ∃ session, g' = { moved e g with session } := by
  obtain ⟨calls, same⟩ := exists_serve_eq client e g
  rw [same] at h
  obtain ⟨_, _, _, _, -, -, delivered⟩ := returns_bind.mp h
  exact exists_eq_of_deliver? delivered

/-- What a session that remembers what is written to it remembers after an event. -/
lemma exists_recorded_of_serve {client : GattClient η} {e : RadioEvent}
    {g g' : Gatt (η × List Bytes)} {session : η} {writes : List Bytes}
    (opened : g.session = some (session, writes))
    (h : Returns B (serve client.recording e g) s d ((), g') t) :
    ∃ later, g'.session = some (later, writes ++ (payload? e g).toList) := by
  obtain ⟨calls, same⟩ := exists_serve_eq client.recording e g
  rw [same] at h
  obtain ⟨_, _, _, _, -, -, delivered⟩ := returns_bind.mp h
  exact exists_recorded_of_deliver? ((session_moved e g).trans opened) delivered

/-- A run of events is its first event and a run of the others. -/
lemma returns_serveAll_cons {client : GattClient η} {e : RadioEvent} {rest : List RadioEvent}
    {g g' : Gatt η} :
    Returns B (serveAll client (e :: rest) g) s d ((), g') t ↔
      ∃ d₁ g₁ u d₂, d = d₁ ++ d₂ ∧ Returns B (serve client e g) s d₁ ((), g₁) u ∧
        Returns B (serveAll client rest g₁) u d₂ ((), g') t := by
  rw [serveAll, returns_bind]
  constructor
  · rintro ⟨d₁, ⟨⟨⟩, g₁⟩, u, d₂, parts, first, later⟩
    exact ⟨d₁, g₁, u, d₂, parts, first, later⟩
  · rintro ⟨d₁, g₁, u, d₂, parts, first, later⟩
    exact ⟨d₁, ((), g₁), u, d₂, parts, first, later⟩

/-- Two runs of events, one after the other. -/
lemma serveAll_append (client : GattClient η) (first rest : List RadioEvent) (g : Gatt η) :
    serveAll client (first ++ rest) g
      = serveAll client first g >>= fun r => serveAll client rest r.2 := by
  induction first generalizing g with
  | nil => rfl
  | cons e first ih =>
    calc serveAll client (e :: first ++ rest) g
        = serve client e g >>= fun r => serveAll client (first ++ rest) r.2 := rfl
      _ = serve client e g >>= fun r =>
            serveAll client first r.2 >>= fun r => serveAll client rest r.2 := by simp only [ih]
      _ = serveAll client (e :: first) g >>= fun r => serveAll client rest r.2 :=
          (bind_bind ..).symm

/-- While no long write begins and the attribute keeps its handle, the chunks are put into the
buffer one after the other, whatever else happens. -/
lemma buffer_of_serveAll {client : GattClient η} {events : List RadioEvent} {g g' : Gatt η}
    (going : ∀ e ∈ events, e.begins = false) (kept : ∀ e ∈ events, e.names = false)
    (h : Returns B (serveAll client events g) s d ((), g') t) :
    g'.characteristic = g.characteristic ∧
      g'.prepared = prepareAll g.prepared (chunks g.characteristic events) := by
  induction events generalizing g s d with
  | nil =>
    obtain ⟨-, same, -⟩ := returns_done.mp h
    cases same
    exact ⟨rfl, rfl⟩
  | cons e rest ih =>
    obtain ⟨going, going_rest⟩ := List.forall_mem_cons.mp going
    obtain ⟨kept, kept_rest⟩ := List.forall_mem_cons.mp kept
    obtain ⟨_, g₁, _, _, -, served, later⟩ := returns_serveAll_cons.mp h
    obtain ⟨session, rfl⟩ := exists_eq_of_serve served
    obtain ⟨same, prepared⟩ := ih going_rest kept_rest later
    rw [characteristic_moved kept g] at same prepared
    refine ⟨same, prepared.trans ?_⟩
    rw [prepared_moved going g, chunks, chunks, ← List.singleton_append, List.filterMap_append]
    simp only [prepareAll, List.foldl_append]
    rfl

/-- Meanwhile a session remembers what is written at once, and nothing else. -/
lemma exists_recorded_of_serveAll {client : GattClient η} {events : List RadioEvent}
    {g g' : Gatt (η × List Bytes)} {session : η} {writes : List Bytes}
    (going : ∀ e ∈ events, e.begins = false) (kept : ∀ e ∈ events, e.names = false)
    (opened : g.session = some (session, writes))
    (h : Returns B (serveAll client.recording events g) s d ((), g') t) :
    ∃ later, g'.session
      = some (later, writes ++ events.filterMap (RadioEvent.plain? g.characteristic)) := by
  induction events generalizing g s d session writes with
  | nil =>
    obtain ⟨-, same, -⟩ := returns_done.mp h
    cases same
    exact ⟨session, by simpa using opened⟩
  | cons e rest ih =>
    obtain ⟨going, going_rest⟩ := List.forall_mem_cons.mp going
    obtain ⟨kept, kept_rest⟩ := List.forall_mem_cons.mp kept
    obtain ⟨_, g₁, _, _, -, served, later⟩ := returns_serveAll_cons.mp h
    obtain ⟨after, remembered⟩ := exists_recorded_of_serve opened served
    obtain ⟨_, rfl⟩ := exists_eq_of_serve served
    obtain ⟨last, all⟩ := ih going_rest kept_rest remembered later
    refine ⟨last, all.trans ?_⟩
    rw [characteristic_moved kept g, payload?_of_going going g, List.append_assoc,
      ← List.singleton_append, List.filterMap_append]
    cases plain : e.plain? g.characteristic <;> simp [plain]

/-! ### The buffer -/

/-- Chunks that follow one another from a place on. -/
def InOrder : Nat → List (Nat × Bytes) → Prop
  | _, [] => True
  | place, (offset, chunk) :: rest => offset = place ∧ InOrder (place + chunk.length) rest

/-- What the buffer holds of bytes that were put into it in order. -/
def assembled (bytes : Bytes) : Bytes :=
  if bytes.length ≤ writeLimit then bytes else []

/-- A chunk that follows on the bytes before it is put behind them, and nothing is kept once there
are too many. -/
lemma prepare_assembled (sent chunk : Bytes) :
    prepare (assembled sent) sent.length chunk = assembled (sent ++ chunk) := by
  rw [prepare]
  by_cases long : writeLimit < sent.length + chunk.length
  · have tooLong : ¬ (sent ++ chunk).length ≤ writeLimit := by
      rw [List.length_append]
      omega
    rw [if_pos long, assembled, if_neg tooLong]
  · have fits : (sent ++ chunk).length ≤ writeLimit := by
      rw [List.length_append]
      omega
    have short : sent.length ≤ writeLimit := by omega
    rw [if_neg long, assembled, if_pos short, assembled, if_pos fits]
    simp

/-- So it is with all chunks that follow one another. -/
lemma prepareAll_assembled (sent : Bytes) {chunks : List (Nat × Bytes)}
    (inOrder : InOrder sent.length chunks) :
    prepareAll (assembled sent) chunks = assembled (sent ++ chunks.flatMap Prod.snd) := by
  induction chunks generalizing sent with
  | nil => simp [prepareAll]
  | cons c rest ih =>
    obtain ⟨offset, chunk⟩ := c
    obtain ⟨rfl, later⟩ := inOrder
    have step := prepare_assembled sent chunk
    rw [← List.length_append] at later
    rw [prepareAll, List.foldl_cons, step, List.flatMap_cons, ← List.append_assoc]
    exact ih _ later

/-- No chunk, wherever it is put, makes the buffer too long. -/
lemma length_prepare_le {prepared : Bytes} (within : prepared.length ≤ writeLimit) (offset : Nat)
    (chunk : Bytes) : (prepare prepared offset chunk).length ≤ writeLimit := by
  rw [prepare]
  split
  · exact Nat.zero_le _
  · simp only [List.length_append, List.length_take, List.length_drop, List.length_replicate]
    omega

lemma length_moved_le {g : Gatt η} (within : g.prepared.length ≤ writeLimit) (e : RadioEvent) :
    (moved e g).prepared.length ≤ writeLimit := by
  rcases e with ⟨interface, event⟩ | event
  · cases event with
    | write r =>
      by_cases ours : r.isPrepared && r.handle == g.characteristic
      · simpa [moved, ours] using length_prepare_le within r.offset r.value
      · simpa [moved, ours] using within
    | connected connection => exact Nat.zero_le _
    | execute connection transaction cancelled => exact Nat.zero_le _
    | _ => exact within
  · exact within

/-- No events make it too long. -/
lemma length_of_serveAll {client : GattClient η} {events : List RadioEvent} {g g' : Gatt η}
    (within : g.prepared.length ≤ writeLimit)
    (h : Returns B (serveAll client events g) s d ((), g') t) :
    g'.prepared.length ≤ writeLimit := by
  induction events generalizing g s d with
  | nil =>
    obtain ⟨-, same, -⟩ := returns_done.mp h
    cases same
    exact within
  | cons e rest ih =>
    obtain ⟨_, g₁, _, _, -, served, later⟩ := returns_serveAll_cons.mp h
    obtain ⟨session, rfl⟩ := exists_eq_of_serve served
    have still : ({ moved e g with session } : Gatt η).prepared.length ≤ writeLimit :=
      length_moved_le within e
    exact ih still later

/-- Put a chunk at its place in the buffer itself, which is made longer for it; fails if there is no
such place. -/
def prepareInPlace? (prepared : Bytes) (offset : Nat) (chunk : Bytes) : Option Bytes :=
  let last := offset + chunk.length
  if writeLimit < last then some [] else (prepared.grown last).overwrite? offset last chunk

/-- There always is. -/
lemma prepareInPlace?_eq (prepared : Bytes) (offset : Nat) (chunk : Bytes) :
    prepareInPlace? prepared offset chunk = some (prepare prepared offset chunk) := by
  have place : offset ≤ offset + chunk.length ∧
      offset + chunk.length ≤ (prepared.grown (offset + chunk.length)).length ∧
      chunk.length = offset + chunk.length - offset := by
    rw [Bytes.length_grown]
    omega
  rw [prepareInPlace?, prepare]
  split
  · rfl
  · rw [Bytes.overwrite?, if_pos place, Bytes.grown]

/-! ## Long writes -/

/-- While the attribute has the handle `target`, the events of the radio, among other things, bring
the chunks of one long write of the payload. -/
structure Brings (target : Nat) (payload : Bytes) (events : List RadioEvent) : Prop where
  /-- No other long write begins. -/
  going : ∀ e ∈ events, e.begins = false
  /-- The attribute keeps its handle. -/
  kept : ∀ e ∈ events, e.names = false
  /-- Each chunk is put where the one before it ends. -/
  inOrder : InOrder 0 (chunks target events)
  /-- Together they are the payload. -/
  whole : (chunks target events).flatMap Prod.snd = payload

/-- After an event that begins a long write the buffer is empty. -/
lemma buffer_of_begins {client : GattClient η} {e : RadioEvent} {g g' : Gatt η}
    (begins : e.begins = true) (h : Returns B (serve client e g) s d ((), g') t) :
    g'.prepared = [] ∧ g'.characteristic = g.characteristic := by
  obtain ⟨session, rfl⟩ := exists_eq_of_serve h
  rcases e with ⟨interface, event⟩ | event
  · cases event with
    | connected connection => exact ⟨rfl, rfl⟩
    | execute connection transaction cancelled => exact ⟨rfl, rfl⟩
    | _ => exact nomatch begins
  · exact nomatch begins

/-- Once all chunks have been prepared the payload is in the buffer, unless it is too long. -/
lemma buffer_of_brings {client : GattClient η} {opening : RadioEvent} {events : List RadioEvent}
    {payload : Bytes} {g g' : Gatt η} (begins : opening.begins = true)
    (brings : Brings g.characteristic payload events)
    (h : Returns B (serveAll client (opening :: events) g) s d ((), g') t) :
    g'.characteristic = g.characteristic ∧ g'.prepared = assembled payload := by
  obtain ⟨_, g₁, _, _, -, opened, later⟩ := returns_serveAll_cons.mp h
  obtain ⟨empty, same⟩ := buffer_of_begins begins opened
  obtain ⟨same', prepared⟩ := buffer_of_serveAll brings.going brings.kept later
  refine ⟨same'.trans same, ?_⟩
  have all := prepareAll_assembled [] brings.inOrder
  rw [brings.whole, List.nil_append] at all
  rw [prepared, same, empty]
  exact all

/-- How the server of a client goes through long writes, however its calls are answered. -/
structure WritesLong (client : GattClient η) (B : Behaviour Platform σ) : Prop where
  /-- If calls are answered at all, the server gets through any events. -/
  finishes : (∀ r s, ∃ x t, B r s x t) → ∀ events g s,
    ∃ d g' t, Returns B (serveAll client events g) s d ((), g') t
  /-- Once the chunks of a payload have been prepared, executing them is writing the payload at
  once, if there is a payload and it is not too long. -/
  executed : ∀ {opening events payload g g' s t d},
    opening.begins = true → Brings g.characteristic payload events →
    Returns B (serveAll client (opening :: events) g) s d ((), g') t →
    payload ≠ [] → payload.length ≤ writeLimit →
    ∀ (interface connection transaction : Nat) (r : WriteRequest), r.isPrepared = false →
      r.needsResponse = false → r.handle = g.characteristic → r.value = payload →
      serve client (.server interface (.execute connection transaction false)) g'
        = respond interface connection transaction 0 0 [] >>= fun _ =>
            serve client (.server interface (.write r)) { g' with prepared := [] }
  /-- If it is too long or there is none, or if the long write is cancelled, there is a response and
  nothing else. -/
  dropped : ∀ {opening events payload g g' s t d} {cancelled : Bool},
    opening.begins = true → Brings g.characteristic payload events →
    Returns B (serveAll client (opening :: events) g) s d ((), g') t →
    payload = [] ∨ writeLimit < payload.length ∨ cancelled = true →
    ∀ interface connection transaction : Nat,
      serve client (.server interface (.execute connection transaction cancelled)) g'
        = respond interface connection transaction 0 0 [] >>= fun _ =>
            .done ((), { g' with prepared := [] })
  /-- A session that remembers what is written to it remembers what the opening event delivers, then
  what is written at once, and last the payload, once, or nothing. -/
  delivered : ∀ {opening events payload g g' s t d session writes} {cancelled : Bool}
    {interface connection transaction : Nat},
    opening.begins = true → Brings g.characteristic payload events →
    g.session = some (session, writes) →
    Returns B (serveAll client.recording (opening :: events ++
      [.server interface (.execute connection transaction cancelled)]) g) s d ((), g') t →
    ∃ later, g'.session = some (later, writes ++ (payload? opening g).toList ++
      events.filterMap (RadioEvent.plain? g.characteristic) ++
      if cancelled = false ∧ payload ≠ [] ∧ payload.length ≤ writeLimit then [payload] else [])
  /-- After an event that begins a long write the buffer is empty. -/
  clean : ∀ {e g g' s t d}, e.begins = true → Returns B (serve client e g) s d ((), g') t →
    g'.prepared = []
  /-- The buffer never gets too long, whatever is prepared. -/
  bounded : ∀ {events g g' s t d}, g.prepared.length ≤ writeLimit →
    Returns B (serveAll client events g) s d ((), g') t → g'.prepared.length ≤ writeLimit

/-- The places that the server takes bytes from and puts them to are always there. -/
structure PlacesThere : Prop where
  /-- The place of a chunk in the buffer. -/
  chunk : ∀ prepared offset chunk,
    prepareInPlace? prepared offset chunk = some (prepare prepared offset chunk)
  /-- The part of a value that is read from a place on. -/
  rest : ∀ (value : Bytes) (offset : Nat),
    value.slice? (min offset value.length) value.length = some (value.drop offset)
  /-- The part of a value that goes into a response. -/
  response : ∀ value : Bytes,
    value.slice? 0 (min value.length responseLimit) = some (value.take responseLimit)

/-- A payload is in the buffer as it is, or there is nothing to deliver. -/
lemma assembled_cases (payload : Bytes) :
    (payload ≠ [] ∧ payload.length ≤ writeLimit ∧ assembled payload = payload) ∨
      ((payload = [] ∨ writeLimit < payload.length) ∧ assembled payload = []) := by
  by_cases short : payload.length ≤ writeLimit
  · have kept : assembled payload = payload := if_pos short
    by_cases nothing : payload = []
    · exact Or.inr ⟨Or.inl nothing, kept.trans nothing⟩
    · exact Or.inl ⟨nothing, short, kept⟩
  · exact Or.inr ⟨Or.inr (Nat.lt_of_not_le short), if_neg short⟩

/-- What executing delivers once all chunks have been prepared. -/
lemma payload?_of_assembled {g : Gatt η} {payload : Bytes} (held : g.prepared = assembled payload)
    (interface connection transaction : Nat) (cancelled : Bool) :
    (payload? (.server interface (.execute connection transaction cancelled)) g).toList
      = if cancelled = false ∧ payload ≠ [] ∧ payload.length ≤ writeLimit then [payload]
        else [] := by
  rcases assembled_cases payload with ⟨there, short, kept⟩ | ⟨nothing, empty⟩
  · cases cancelled <;> simp [payload?, held, kept, there, short]
  · have not_both : ¬ (cancelled = false ∧ payload ≠ [] ∧ payload.length ≤ writeLimit) := by
      rintro ⟨-, there, short⟩
      rcases nothing with rfl | long
      · exact there rfl
      · omega
    rw [if_neg not_both]
    simp [payload?, held, empty]

/-- A session that remembers what is written to it, through a long write. -/
lemma exists_recorded_of_brings {client : GattClient η} {opening : RadioEvent}
    {events : List RadioEvent} {payload : Bytes} {g g' : Gatt (η × List Bytes)} {session : η}
    {writes : List Bytes} {cancelled : Bool} {interface connection transaction : Nat}
    (begins : opening.begins = true) (brings : Brings g.characteristic payload events)
    (opened : g.session = some (session, writes))
    (h : Returns B (serveAll client.recording (opening :: events ++
      [.server interface (.execute connection transaction cancelled)]) g) s d ((), g') t) :
    ∃ later, g'.session = some (later, writes ++ (payload? opening g).toList ++
      events.filterMap (RadioEvent.plain? g.characteristic) ++
      if cancelled = false ∧ payload ≠ [] ∧ payload.length ≤ writeLimit then [payload]
      else []) := by
  rw [serveAll_append] at h
  obtain ⟨_, ⟨⟨⟩, g₂⟩, _, _, -, prepared, executed⟩ := returns_bind.mp h
  obtain ⟨-, held⟩ := buffer_of_brings begins brings prepared
  obtain ⟨_, g₁, _, _, -, first, others⟩ := returns_serveAll_cons.mp prepared
  obtain ⟨-, same⟩ := buffer_of_begins begins first
  obtain ⟨_, opened₁⟩ := exists_recorded_of_serve opened first
  obtain ⟨_, opened₂⟩ := exists_recorded_of_serveAll brings.going brings.kept opened₁ others
  obtain ⟨_, g₃, _, _, -, last, ended⟩ := returns_serveAll_cons.mp executed
  obtain rfl : g' = g₃ := congrArg Prod.snd (returns_done.mp ended).2.1
  obtain ⟨later, opened₃⟩ := exists_recorded_of_serve opened₂ last
  refine ⟨later, ?_⟩
  rw [opened₃, same, payload?_of_assembled held]

/-- A payload that is written in chunks, however it was cut and whatever comes in between, is
delivered as if it had been written at once, unless it is too long. -/
theorem long_write_is_plain_write (client : GattClient η) (B : Behaviour Platform σ) :
    WritesLong client B ∧ PlacesThere := by
  refine ⟨?_, prepareInPlace?_eq, Bytes.slice?_min_length, fun value => value.slice?_zero_min _⟩
  refine
    { finishes := ?_
      executed := ?_
      dropped := ?_
      delivered := exists_recorded_of_brings
      clean := fun begins h => (buffer_of_begins begins h).1
      bounded := length_of_serveAll }
  · intro total events g s
    obtain ⟨d, ⟨⟨⟩, g'⟩, t, ended⟩ := exists_returns total (serveAll client events g) s
    exact ⟨d, g', t, ended⟩
  · intro opening events payload g g' s t d begins brings h there short interface connection
      transaction r whole silent same value
    obtain ⟨kept, held⟩ := buffer_of_brings begins brings h
    have held : g'.prepared = payload := held.trans (if_pos short)
    exact serve_execute client interface connection transaction (held ▸ there) whole silent
      (same.trans kept.symm) (value.trans held.symm)
  · intro opening events payload g g' s t d cancelled begins brings h nothing interface connection
      transaction
    obtain ⟨-, held⟩ := buffer_of_brings begins brings h
    refine serve_execute_of_nothing client interface connection transaction ?_
    rcases nothing with rfl | long | given_up
    · exact Or.inr (held.trans (if_pos (Nat.zero_le _)))
    · exact Or.inr (held.trans (if_neg (Nat.not_le_of_lt long)))
    · exact Or.inl given_up

/-- A session that keeps nothing and says nothing. -/
def silentClient : GattClient Unit where
  write _ _ := return ((), none)
  read _ := return []

/-- Three chunks for the attribute 7, the second of them empty, with events of other kinds in
between. -/
def threeChunks : List RadioEvent :=
  [.server 3 (.write ⟨⟨1, 10, 7, 0, false⟩, true, [1, 2]⟩), .advertising .dataSet,
    .server 3 (.write ⟨⟨1, 11, 7, 2, false⟩, true, []⟩), .server 3 .other,
    .server 3 (.write ⟨⟨1, 12, 8, 0, false⟩, true, [9]⟩),
    .server 3 (.write ⟨⟨1, 13, 7, 2, false⟩, true, [3]⟩)]

/-- A server that expects them. -/
def expecting : Gatt (Unit × List Bytes) := ⟨some ((), []), [], 3, 7, 0, false, false⟩

/-- They are delivered as one payload. -/
theorem three_chunks_are_delivered_as_one :
    ∃ d g' t, Returns (fun _ (_ : Unit) _ _ => True) (serveAll silentClient.recording
        (.server 3 (.connected 1) :: threeChunks ++ [.server 3 (.execute 1 14 false)]) expecting)
        () d ((), g') t ∧
      g'.session = some ((), [[1, 2, 3]]) := by
  have brings : Brings expecting.characteristic [1, 2, 3] threeChunks :=
    ⟨by decide, by decide, ⟨rfl, rfl, rfl, trivial⟩, rfl⟩
  have total : ∀ (r : Platform.Request) (s : Unit), ∃ (_ : Platform.Answer r) (_ : Unit), True :=
    fun r _ => (FlashArea.nonempty_answer r).elim fun x => ⟨x, (), trivial⟩
  obtain ⟨d, g', t, h⟩ := (long_write_is_plain_write silentClient.recording _).1.finishes total
    (.server 3 (.connected 1) :: threeChunks ++ [.server 3 (.execute 1 14 false)]) expecting ()
  obtain ⟨_, held⟩ := (long_write_is_plain_write silentClient _).1.delivered rfl brings rfl h
  exact ⟨d, g', t, h, held⟩

/-- A chunk that comes late does not bring back what was dropped before it. -/
example : prepareAll [] [(0, [1]), (4000, List.replicate 100 0), (4100, [2])] = [] := by decide

end Gatt

end HatchSensor
