import HatchSensor.Proofs.LongWrites
import HatchSensor.Proofs.ModemOwnership

/-!
# What a failed opening leaves behind

To open the provisioning transport is to give the attribute server a session, to let it advertise, to
take the modem and to make a driver, and then to make some calls on that driver.  Each of the calls
may fail.  `Wireless.Undone` says that nothing of all this is left.

A failed opening takes the leave to advertise back, and it gives the modem back if it was the driver
that could not be made.  It takes back neither the session nor a driver that was made.
`Wireless.failed_opening_is_undone_iff` says what follows: the session that was given up goes on to
get whatever a client writes, and the network cannot be joined, until the transport is closed.  No
opening of a closed transport that fails is undone.
-/

namespace HatchSensor

open Program

/-! ## Starting the driver -/

/-- The driver of the transport is made. -/
def bluetoothMade : Exchange Platform :=
  ⟨PlatformRequest.chip .createBluetooth, (.ok () : Tried Unit)⟩

namespace Radio

variable {r r' : Radio}

/-- The transport takes the modem out of the slot and has a driver. -/
structure HandsOver (r r' : Radio) : Prop where
  /-- There was no driver. -/
  idle : r.transport.hasDriver = false
  /-- The modem moves from the slot to the transport. -/
  moved : ∃ modem, r.slot = some modem ∧
    r' = { r with slot := none, transport := ⟨true, some modem⟩ }

/-- A modem that changes hands does not stay where it is. -/
lemma HandsOver.ne (h : r.HandsOver r') : r' ≠ r := by
  obtain ⟨modem, -, rfl⟩ := h.moved
  intro same
  have driver := congrArg (fun radio : Radio => radio.transport.hasDriver) same
  exact nomatch driver.trans h.idle

/-- While the modem lies in the slot, the network has no driver. -/
lemma Sound.wifi_idle (sound : r.Sound) {modem : Modem} (free : r.slot = some modem) :
    r.wifi.hasDriver = false := by
  obtain ⟨one, -, only⟩ := sound.holder
  have here : ModemHolder.slot = one := only .slot (congrArg Option.isSome free)
  rw [sound.wifi, Bool.eq_false_iff]
  intro there
  exact nomatch here.trans (only .wifi there).symm

end Radio

namespace Radio.Driver

variable {α β : Type}

/-- The piece leaves the state of the radio as it is and makes no driver for the transport. -/
def Still (m : Driver α) : Prop :=
  ∀ r d y r', Returns anything (m.run r) () d (y, r') () → r' = r ∧ bluetoothMade ∉ d

/-- A piece that ends without a call is still. -/
lemma still_of_done {m : Driver α} {y : Attempt α} (ends : ∀ r, m.run r = .done (y, r)) :
    Still m := by
  intro r d y' r' done
  rw [ends] at done
  obtain ⟨rfl, same, -⟩ := returns_done.mp done
  exact ⟨congrArg Prod.snd same, List.not_mem_nil⟩

lemma still_pure (a : α) : Still (pure a) := still_of_done fun _ => rfl

lemma still_fail (reason : Fault) : Still (fail reason : Driver α) := still_of_done fun _ => rfl

lemma still_bind {m : Driver α} {f : α → Driver β} (first : Still m)
    (second : ∀ a, Still (f a)) : Still (m >>= f) := by
  intro r d y r' done
  rw [run_bind] at done
  obtain ⟨d₁, ⟨x, r₁⟩, _, d₂, rfl, started, later⟩ := returns_bind.mp done
  obtain ⟨rfl, unmade⟩ := first _ _ _ _ started
  cases x with
  | error e =>
    obtain ⟨rfl, same, -⟩ := returns_done.mp later
    rw [List.append_nil]
    exact ⟨congrArg Prod.snd same, unmade⟩
  | ok a =>
    obtain ⟨rfl, unmade'⟩ := second a _ _ _ _ later
    exact ⟨rfl, List.mem_append.not.mpr (not_or.mpr ⟨unmade, unmade'⟩)⟩

lemma still_call {c : ChipCall} (other : c ≠ .createBluetooth) : Still (call c) := by
  intro r d y r' done
  obtain ⟨d₁, x, _, d₂, rfl, called, ended⟩ := returns_bind.mp done
  obtain ⟨rfl, -⟩ := returns_request.mp called
  obtain ⟨rfl, same, -⟩ := returns_done.mp ended
  refine ⟨congrArg Prod.snd same, fun here => other ?_⟩
  have one := congrArg Exchange.request (List.mem_singleton.mp here)
  exact (PlatformRequest.chip.inj one).symm

lemma still_expectCode (what : String) (code : Int) : Still (Wireless.expectCode what code) := by
  unfold Wireless.expectCode
  split
  · exact still_pure ()
  · exact still_fail _

end Radio.Driver

open Radio.Driver

namespace Wireless

/-- How the start of the driver of the transport may go: what is said to the chip, the outcome, and
the radio before and after. -/
inductive Starts : Radio → Dialogue Platform → Attempt Unit → Radio → Prop
  /-- There is a driver. -/
  | running {r : Radio} (driver : r.transport.hasDriver = true) : Starts r [] (.ok ()) r
  /-- The modem is elsewhere. -/
  | busy {r : Radio} (empty : r.slot = none) : Starts r [] (.error (Radio.taken "WiFi")) r
  /-- The driver cannot be made. -/
  | refused {r : Radio} (e : ChipError) :
    Starts r [⟨PlatformRequest.chip .createBluetooth, (.error e : Tried Unit)⟩]
      (.error ⟨"Failed to start BT driver: " ++ e.text⟩) r
  /-- The driver is made. -/
  | made {r r' : Radio} (taken : r.HandsOver r') : Starts r [bluetoothMade] (.ok ()) r'

lemma starts_of_returns {r r' : Radio} {d : Dialogue Platform} {y : Attempt Unit}
    (done : Returns anything (startDriver.run r) () d (y, r') ()) : Starts r d y r' := by
  obtain ⟨slot, wifi, ⟨hasDriver, modem⟩⟩ := r
  cases hasDriver with
  | true =>
    obtain ⟨rfl, same, -⟩ := returns_done.mp done
    cases same
    exact .running rfl
  | false =>
    cases slot with
    | none =>
      obtain ⟨rfl, same, -⟩ := returns_done.mp done
      cases same
      exact .busy rfl
    | some free =>
      obtain ⟨x, _, d', rfl, -, later⟩ := returns_ask.mp done
      cases x with
      | error e =>
        obtain ⟨rfl, same, -⟩ := returns_done.mp later
        cases same
        exact .refused e
      | ok _ =>
        obtain ⟨rfl, same, -⟩ := returns_done.mp later
        cases same
        exact .made ⟨rfl, free, rfl, rfl⟩

/-- The radio stays as it is, unless the driver is made. -/
lemma Starts.radio {r r' : Radio} {d : Dialogue Platform} {y : Attempt Unit}
    (start : Starts r d y r') :
    (bluetoothMade ∉ d ∧ r' = r) ∨ (bluetoothMade ∈ d ∧ r.HandsOver r') := by
  cases start with
  | running driver => exact Or.inl ⟨List.not_mem_nil, rfl⟩
  | busy empty => exact Or.inl ⟨List.not_mem_nil, rfl⟩
  | refused e =>
    refine Or.inl ⟨fun here => ?_, rfl⟩
    have same := List.mem_singleton.mp here
    exact nomatch eq_of_heq (Exchange.mk.inj same).2
  | made taken => exact Or.inr ⟨List.mem_singleton.mpr rfl, taken⟩

/-- What comes after the start of the driver leaves the radio as it is. -/
lemma radio_of_started {f : Unit → Radio.Driver Unit} (later : Still (f ())) {r r' : Radio}
    {d : Dialogue Platform} {y : Attempt Unit}
    (done : Returns anything ((startDriver >>= f).run r) () d (y, r') ()) :
    (bluetoothMade ∉ d ∧ r' = r) ∨ (bluetoothMade ∈ d ∧ r.HandsOver r') := by
  rw [run_bind] at done
  obtain ⟨d₁, ⟨x, r₁⟩, _, d₂, rfl, begun, rest⟩ := returns_bind.mp done
  have start := (starts_of_returns begun).radio
  have after : r' = r₁ ∧ bluetoothMade ∉ d₂ := by
    cases x with
    | error e =>
      obtain ⟨rfl, same, -⟩ := returns_done.mp rest
      exact ⟨congrArg Prod.snd same, List.not_mem_nil⟩
    | ok _ => exact later _ _ _ _ rest
  obtain ⟨rfl, unmade⟩ := after
  rw [List.mem_append, or_iff_left unmade]
  exact start

/-- Whatever comes of starting the server, the modem changes hands exactly if the driver is made. -/
lemma radio_of_startServer {name : String} {listening : Bool} {r r' : Radio}
    {d : Dialogue Platform} {y : Attempt Unit}
    (done : Returns anything ((startServer name listening).run r) () d (y, r') ()) :
    (bluetoothMade ∉ d ∧ r' = r) ∨ (bluetoothMade ∈ d ∧ r.HandsOver r') := by
  have handlers : Still (registerHandlers listening) := by
    unfold registerHandlers
    split
    · exact still_pure ()
    · exact still_bind (still_call nofun) fun _ => still_bind (still_expectCode _ _) fun _ =>
        still_bind (still_call nofun) fun _ => still_expectCode _ _
  refine radio_of_started (still_bind handlers fun _ => ?_) done
  split
  · exact still_fail _
  · exact still_bind (still_call nofun) fun _ => still_bind (still_expectCode _ _) fun _ =>
      still_bind (still_call nofun) fun _ => still_expectCode _ _

end Wireless

/-! ## The server afterwards -/

/-- `client.Written s payloads t`: when the payloads are written to the session `s`, one after the
other, it may become `t`. -/
inductive GattClient.Written {η : Type} (client : GattClient η) : η → List Bytes → η → Prop
  /-- Nothing is written. -/
  | nothing (s : η) : Written client s [] s
  /-- One payload is written, and then the others. -/
  | payload {s later t : η} {p : Bytes} {rest : List Bytes} {reply : Option Bytes}
      {d : Dialogue Platform}
      (written : Returns anything (client.write s p) () d (later, reply) ())
      (others : Written client later rest t) : Written client s (p :: rest) t

lemma GattClient.Written.append {η : Type} {client : GattClient η} {s t u : η}
    {payloads others : List Bytes} (first : client.Written s payloads t)
    (second : client.Written t others u) : client.Written s (payloads ++ others) u := by
  induction first with
  | nothing s => exact second
  | payload written _ ih => exact .payload written (ih second)

namespace Gatt

variable {η : Type}

/-- What events deliver, one after the other. -/
def deliveries : List RadioEvent → Gatt η → List Bytes
  | [], _ => []
  | e :: rest, g => (payload? e g).toList ++ deliveries rest (moved e g)

/-- The session has no part in what an event delivers. -/
lemma payload?_session (e : RadioEvent) (g : Gatt η) (session : Option η) :
    payload? e { g with session } = payload? e g := by
  rcases e with ⟨interface, event⟩ | event
  · cases event <;> rfl
  · rfl

/-- Nor in how the rest of the server changes. -/
lemma moved_session (e : RadioEvent) (g : Gatt η) (session : Option η) :
    moved e { g with session } = { moved e g with session } := by
  rcases e with ⟨interface, event⟩ | event
  · cases event with
    | write r => cases ours : r.isPrepared && r.handle == g.characteristic <;> simp [moved, ours]
    | _ => rfl
  · rfl

lemma deliveries_session (events : List RadioEvent) (g : Gatt η) (session : Option η) :
    deliveries events { g with session } = deliveries events g := by
  induction events generalizing g with
  | nil => rfl
  | cons e rest ih => rw [deliveries, deliveries, payload?_session, moved_session, ih]

/-- What an event delivers is written to the session. -/
lemma exists_written_of_serve {client : GattClient η} {e : RadioEvent} {g g' : Gatt η}
    {session : η} {d : Dialogue Platform} (opened : g.session = some session)
    (h : Returns anything (serve client e g) () d ((), g') ()) :
    ∃ later, g'.session = some later ∧
      client.Written session (payload? e g).toList later := by
  obtain ⟨calls, same⟩ := exists_serve_eq client e g
  rw [same] at h
  obtain ⟨_, _, _, _, -, -, delivered⟩ := returns_bind.mp h
  have still : (moved e g).session = some session := (session_moved e g).trans opened
  cases payload : payload? e g with
  | none =>
    rw [payload] at delivered
    obtain rfl : g' = moved e g := congrArg Prod.snd (returns_done.mp delivered).2.1
    exact ⟨session, still, .nothing session⟩
  | some p =>
    rw [payload] at delivered
    obtain ⟨later, reply, d₁, _, written, rfl⟩ := exists_of_deliver still delivered
    exact ⟨later, rfl, .payload written (.nothing later)⟩

/-- An open session gets everything that any events deliver. -/
lemma exists_written_of_serveAll {client : GattClient η} {events : List RadioEvent}
    {g g' : Gatt η} {session : η} {d : Dialogue Platform} (opened : g.session = some session)
    (h : Returns anything (serveAll client events g) () d ((), g') ()) :
    ∃ last, g'.session = some last ∧ client.Written session (deliveries events g) last := by
  induction events generalizing g session d with
  | nil =>
    obtain rfl : g' = g := congrArg Prod.snd (returns_done.mp h).2.1
    exact ⟨session, opened, .nothing session⟩
  | cons e rest ih =>
    obtain ⟨_, g₁, _, _, -, served, others⟩ := returns_serveAll_cons.mp h
    obtain ⟨later, opened₁, written⟩ := exists_written_of_serve opened served
    obtain ⟨last, opened₂, rest_written⟩ := ih opened₁ others
    obtain ⟨held, rfl⟩ := exists_eq_of_serve served
    rw [deliveries_session] at rest_written
    exact ⟨last, opened₂, written.append rest_written⟩

end Gatt

/-! ## The network afterwards -/

/-- While the slot is empty and the network has no driver, no network can be joined. -/
lemma Wifi.exists_run_join_eq {r : Radio} (empty : r.slot = none) (idle : r.wifi.hasDriver = false)
    (credentials : Credentials) (timeout : Nat) :
    ∃ reason, (Wifi.join credentials timeout).run r = .done (.error reason, r) := by
  obtain ⟨slot, ⟨hasDriver, modem⟩, transport⟩ := r
  obtain rfl := empty
  obtain rfl := idle
  unfold Wifi.join
  dsimp only
  split
  · exact ⟨_, rfl⟩
  · split
    · exact ⟨_, rfl⟩
    · exact ⟨Radio.taken "BLE", rfl⟩

/-! ## Opening and closing -/

namespace Wireless

variable {η : Type} {w w' : Wireless η} {d : Dialogue Platform}

/-- Nothing is left of an opening: the radio, the session and the leave to advertise are what they
were. -/
structure Undone (w w' : Wireless η) : Prop where
  radio : w'.radio = w.radio
  session : w'.gatt.session = w.gatt.session
  advertising : w'.gatt.advertising = w.gatt.advertising

/-- The transport is closed. -/
structure Closed (w : Wireless η) : Prop where
  radio : w.radio.transport = Radio.resting
  session : w.gatt.session = none
  advertising : w.gatt.advertising = false

/-- What an opening that fails makes of the server and of the radio. -/
lemma of_failed_enable {name : String} {session : η} {reason : Fault}
    (failed : Returns anything (w.enable name session) () d (.error reason, w') ()) :
    w'.gatt = { w.gatt with session := some session, advertising := false } ∧
      ((bluetoothMade ∉ d ∧ w'.radio = w.radio) ∨
        (bluetoothMade ∈ d ∧ w.radio.HandsOver w'.radio)) := by
  obtain ⟨d₁, ⟨y, r'⟩, _, d₂, rfl, started, ended⟩ := returns_bind.mp failed
  have radio := radio_of_startServer started
  cases y with
  | ok _ => exact nomatch congrArg Prod.fst (returns_done.mp ended).2.1
  | error e =>
    obtain ⟨rfl, same, -⟩ := returns_done.mp ended
    obtain rfl := congrArg Prod.snd same
    rw [List.append_nil]
    exact ⟨rfl, radio⟩

/-- What closing makes of the server and of the radio. -/
lemma of_disable {y : Attempt Unit} (done : Returns anything w.disable () d (y, w') ()) :
    w'.gatt.session = none ∧ w'.gatt.advertising = false ∧
      w'.radio = { w.radio with
        slot := w.radio.transport.modem <|> w.radio.slot
        transport := Radio.resting } := by
  obtain ⟨_, _, _, _, -, -, ended⟩ := returns_bind.mp done
  obtain ⟨-, same, -⟩ := returns_done.mp ended
  obtain rfl := congrArg Prod.snd same
  refine ⟨rfl, rfl, ?_⟩
  cases w.radio.transport.modem <;> rfl

/-- Closing after a failed opening undoes it, if the transport was closed before. -/
lemma Closed.undone (closed : w.Closed) {w'' : Wireless η} {e : Dialogue Platform}
    {y : Attempt Unit} (radio : w'.radio = w.radio ∨ w.radio.HandsOver w'.radio)
    (done : Returns anything w'.disable () e (y, w'') ()) : Undone w w'' := by
  obtain ⟨session, advertising, given⟩ := of_disable done
  refine ⟨?_, session.trans closed.session.symm, advertising.trans closed.advertising.symm⟩
  rcases radio with same | taken
  · rw [given, same, closed.radio]
    exact congrArg (fun transport => { w.radio with transport }) closed.radio.symm
  · obtain ⟨modem, free, same⟩ := taken.moved
    rw [given, same]
    change { w.radio with slot := some modem, transport := Radio.resting } = w.radio
    rw [← free, ← closed.radio]

/-- What is left of an opening that fails, whichever call it is that fails.  The server keeps the
session, without the leave to advertise; the radio is as it was unless the driver was made, and then
the transport has the modem.  So nothing is left only if that session was open before, was not
advertised, and no driver was made.  Whatever clients write from then on is written to that session.
If the driver was made, no network can be joined.  An opening of a closed transport that fails always
leaves something behind, and closing the transport takes it away. -/
theorem failed_opening_is_undone_iff {name : String} {session : η} {reason : Fault}
    (failed : Returns anything (w.enable name session) () d (.error reason, w') ()) :
    w'.gatt = { w.gatt with session := some session, advertising := false } ∧
      (bluetoothMade ∉ d → w'.radio = w.radio) ∧
      (bluetoothMade ∈ d → w.radio.HandsOver w'.radio) ∧
      (Undone w w' ↔
        w.gatt.session = some session ∧ w.gatt.advertising = false ∧ bluetoothMade ∉ d) ∧
      (∀ (client : GattClient η) (events : List RadioEvent) (e : Dialogue Platform) (g : Gatt η),
        Returns anything (Gatt.serveAll client events w'.gatt) () e ((), g) () →
          ∃ last, g.session = some last ∧
            client.Written session (Gatt.deliveries events w'.gatt) last) ∧
      (bluetoothMade ∈ d → w.radio.Sound → ∀ (credentials : Credentials) (timeout : Nat),
        ∃ why, (Wifi.join credentials timeout).run w'.radio = .done (.error why, w'.radio)) ∧
      (w.Closed → ¬ Undone w w' ∧
        ∀ (e : Dialogue Platform) (y : Attempt Unit) (w'' : Wireless η),
          Returns anything w'.disable () e (y, w'') () → Undone w w'') := by
  obtain ⟨server, radio⟩ := of_failed_enable failed
  have kept : bluetoothMade ∉ d → w'.radio = w.radio := by
    intro unmade
    exact (radio.resolve_right fun made => unmade made.1).2
  have taken : bluetoothMade ∈ d → w.radio.HandsOver w'.radio := by
    intro made
    exact (radio.resolve_left fun unmade => unmade.1 made).2
  have opened : w'.gatt.session = some session := congrArg Gatt.session server
  have silent : w'.gatt.advertising = false := congrArg Gatt.advertising server
  have undone_iff : Undone w w' ↔
      w.gatt.session = some session ∧ w.gatt.advertising = false ∧ bluetoothMade ∉ d := by
    constructor
    · intro undone
      refine ⟨undone.session.symm.trans opened, undone.advertising.symm.trans silent, ?_⟩
      exact fun made => (taken made).ne undone.radio
    · rintro ⟨same, unadvertised, unmade⟩
      exact ⟨kept unmade, opened.trans same.symm, silent.trans unadvertised.symm⟩
  refine ⟨server, kept, taken, undone_iff, ?_, ?_, ?_⟩
  · intro client events e g served
    exact Gatt.exists_written_of_serveAll opened served
  · intro made sound credentials timeout
    obtain ⟨_, free, same⟩ := (taken made).moved
    have empty : w'.radio.slot = none := congrArg Radio.slot same
    have idle : w'.radio.wifi.hasDriver = false :=
      (congrArg (fun radio : Radio => radio.wifi.hasDriver) same).trans (sound.wifi_idle free)
    exact Wifi.exists_run_join_eq empty idle credentials timeout
  · intro closed
    refine ⟨fun undone => ?_, fun e y w'' => closed.undone (radio.imp And.right And.right)⟩
    exact nomatch closed.session.symm.trans (undone_iff.mp undone).1

/-- A chip that takes no name. -/
def namelessAnswer : (r : PlatformRequest) → Unit → r.Answer × Unit
  | .chip (.setDeviceName _), _ => ((259 : Int), ())
  | r, _ => freshAnswer r ()

/-- What comes of opening the transport on it. -/
def namelessOpening : Dialogue Platform × (Attempt Unit × Wireless Unit) × Unit :=
  converse namelessAnswer (enable "hatch" () .start) ()

/-- A client that finds the attribute and writes to it. -/
def lateWrite : List RadioEvent :=
  [.server 3 (.attributeAdded 42 40), .server 3 (.connected 1),
    .server 3 (.write ⟨⟨1, 7, 42, 0, true⟩, false, [0x7b, 0x7d]⟩)]

/-- The session gets what the client writes although it could not be opened, and the network cannot
be joined. -/
theorem abandoned_session_is_written_to :
    ∃ d w', Returns anything (enable "hatch" () (.start : Wireless Unit)) () d
        (.error ⟨"Device name setting failed: esp_err 259"⟩, w') () ∧
      ¬ Undone .start w' ∧ w'.radio.slot = none ∧
      (∃ why, (Wifi.join ⟨"net", "secret"⟩ 10).run w'.radio = .done (.error why, w'.radio)) ∧
      ∀ (client : GattClient Unit) (e : Dialogue Platform) (g : Gatt Unit),
        Returns anything (Gatt.serveAll client lateWrite w'.gatt) () e ((), g) () →
          ∃ last, g.session = some last ∧ client.Written () [[0x7b, 0x7d]] last := by
  have made : Returns anything (enable "hatch" () (.start : Wireless Unit)) ()
      namelessOpening.1 namelessOpening.2.1 namelessOpening.2.2 :=
    returns_converse (fun _ _ => trivial) _ ()
  have outcome : namelessOpening.2.1.1
      = .error ⟨"Device name setting failed: esp_err 259"⟩ := by decide +kernel
  have held : namelessOpening.2.1.2.radio = Radio.heldBy .transport := by decide +kernel
  rcases said : namelessOpening with ⟨d, ⟨y, w'⟩, ⟨⟩⟩
  rw [said] at made outcome held
  obtain rfl := outcome
  obtain ⟨server, kept, -, -, written, joined, left⟩ := failed_opening_is_undone_iff made
  have driver : bluetoothMade ∈ d := by
    by_contra unmade
    exact absurd (held.symm.trans (kept unmade)) (by decide)
  refine ⟨d, w', made, (left ⟨rfl, rfl, rfl⟩).1, congrArg Radio.slot held, ?_, ?_⟩
  · exact joined driver (Radio.sound_heldBy .slot) ⟨"net", "secret"⟩ 10
  · intro client e g served
    have delivered : Gatt.deliveries lateWrite w'.gatt = [[0x7b, 0x7d]] := by
      rw [server]
      rfl
    rw [← delivered]
    exact written client lateWrite e g served

end Wireless

end HatchSensor
