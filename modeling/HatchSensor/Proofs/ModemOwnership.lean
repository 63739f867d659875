import HatchSensor.Board.Assembly
import HatchSensor.Proofs.Brackets
import HatchSensor.Proofs.Conduct
import HatchSensor.Stand.Chip

/-!
# Who holds the modem

The wireless network and the provisioning transport share one modem.  It moves from the slot to a
user and back while drivers are made and given up, and each of the calls that it takes may fail.
Whatever fails, the modem has one holder, `Radio.heldBy`, and a user has a driver exactly while it
holds the modem.

What the drivers are to the chip can be read off the dialogue with it: a driver is a bracket.  The
programs are followed with `Program.Conducts`, with both in view: the state of the radio says who
holds the modem, and the brackets say which driver exists, at every moment of a call.
-/

namespace HatchSensor

open Program

/-! ## Holders -/

/-- Where the modem may be. -/
inductive ModemHolder where
  /-- Nobody uses it. -/
  | slot
  /-- The wireless network. -/
  | wifi
  /-- The provisioning transport. -/
  | transport
deriving DecidableEq

namespace Radio

/-- The modem, if it is there. -/
def modemOf (r : Radio) : ModemHolder → Option Modem
  | .slot => r.slot
  | .wifi => r.wifi.modem
  | .transport => r.transport.modem

/-- A user with a driver and the modem. -/
def working : RadioUser := ⟨true, some ⟨⟩⟩

/-- A user with nothing. -/
def resting : RadioUser := ⟨false, none⟩

/-- The modem has one holder, and the holder has a driver if it is a user. -/
def heldBy : ModemHolder → Radio
  | .slot => ⟨some ⟨⟩, resting, resting⟩
  | .wifi => ⟨none, working, resting⟩
  | .transport => ⟨none, resting, working⟩

/-- The modem is neither duplicated nor lost, and the drivers go with it. -/
structure Sound (r : Radio) : Prop where
  /-- The modem has exactly one holder. -/
  holder : ∃! one, (r.modemOf one).isSome = true
  /-- The network has a driver exactly while it holds the modem. -/
  wifi : r.wifi.hasDriver = r.wifi.modem.isSome
  /-- The transport has a driver exactly while it holds the modem. -/
  transport : r.transport.hasDriver = r.transport.modem.isSome

lemma sound_heldBy (h : ModemHolder) : (heldBy h).Sound where
  holder := ⟨h, by cases h <;> rfl, fun other there => by
    cases h <;> cases other <;> first | rfl | exact nomatch there⟩
  wifi := by cases h <;> rfl
  transport := by cases h <;> rfl

end Radio

/-! ## Drivers -/

namespace RadioDrivers

/-- The driver of the network: made, and given up.  A driver that cannot be made to wait for its
events does not outlive the attempt. -/
def wifi : Bracket Platform
  | ⟨.chip .createWifi, .ok _⟩ => some true
  | ⟨.chip .wrapWifi, .error _⟩ => some false
  | ⟨.chip .dropWifi, _⟩ => some false
  | _ => none

/-- The driver of the transport: made, and given up. -/
def bluetooth : Bracket Platform
  | ⟨.chip .createBluetooth, .ok _⟩ => some true
  | ⟨.chip .dropBluetooth, _⟩ => some false
  | _ => none

/-- Calls that make a driver. -/
def makes : ChipCall → Bool
  | .createWifi | .createBluetooth => true
  | _ => false

/-- Calls after which a driver may be gone. -/
def ends : ChipCall → Bool
  | .wrapWifi | .dropWifi | .dropBluetooth => true
  | _ => false

/-- Calls on the driver of the network. -/
def usesWifi : ChipCall → Bool
  | .wrapWifi | .configureWifi _ _ _ | .startWifi | .joinWifi | .awaitAddress _ | .readAddress
  | .isJoined | .leaveWifi | .stopWifi | .dropWifi => true
  | _ => false

/-- Calls on the driver of the transport. -/
def usesBluetooth : ChipCall → Bool
  | .registerServerHandler | .registerAdvertisingHandler | .setDeviceName _ | .registerApp _
  | .closeConnection _ _ | .stopAdvertising | .unregisterApp _ | .dropBluetooth => true
  | _ => false

/-- A driver is made only while there is none, and used only while it exists. -/
def Lawful (past : Dialogue Platform) (e : Exchange Platform) : Prop :=
  match (e.request : PlatformRequest) with
  | .chip call =>
    (makes call = true → wifi.isOpen past = false ∧ bluetooth.isOpen past = false) ∧
      (usesWifi call = true → wifi.isOpen past = true) ∧
      (usesBluetooth call = true → bluetooth.isOpen past = true)
  | _ => True

/-- Both drivers exist. -/
def Both (past : Dialogue Platform) : Prop :=
  wifi.isOpen past = true ∧ bluetooth.isOpen past = true

variable {past d : Dialogue Platform} {e : Exchange Platform}

/-- While a driver of the network is made, there is no other. -/
lemma bluetooth_of_wifi_opens (lawful : Lawful past e) (opens : wifi e = some true) :
    bluetooth e = none ∧ bluetooth.isOpen past = false := by
  unfold wifi at opens
  split at opens
  · exact ⟨rfl, (lawful.1 rfl).2⟩
  · exact nomatch opens
  · exact nomatch opens
  · exact nomatch opens

/-- While a driver of the transport is made, there is no other. -/
lemma wifi_of_bluetooth_opens (lawful : Lawful past e) (opens : bluetooth e = some true) :
    wifi e = none ∧ wifi.isOpen past = false := by
  unfold bluetooth at opens
  split at opens
  · exact ⟨rfl, (lawful.1 rfl).1⟩
  · exact nomatch opens
  · exact nomatch opens

/-- What is open after an exchange was opened by it or was open before. -/
lemma opens_or_open {b : Bracket Platform} (opened : b.isOpen (past ++ [e]) = true) :
    b e = some true ∨ b e = none ∧ b.isOpen past = true := by
  rw [Bracket.isOpen_concat] at opened
  cases turn : b e with
  | none => exact Or.inr ⟨rfl, by rwa [turn] at opened⟩
  | some now =>
    rw [turn] at opened
    exact Or.inl (congrArg some opened)

/-- A driver that is made is the only one. -/
lemma not_both_concat (alone : ¬ Both past) (lawful : Lawful past e) : ¬ Both (past ++ [e]) := by
  rintro ⟨first, second⟩
  rcases opens_or_open first with opens | ⟨idle, first⟩
  · obtain ⟨idle, closed⟩ := bluetooth_of_wifi_opens lawful opens
    rw [Bracket.isOpen_concat, idle, Option.getD_none, closed] at second
    exact nomatch second
  · rcases opens_or_open second with opens | ⟨-, second⟩
    · exact nomatch first.symm.trans (wifi_of_bluetooth_opens lawful opens).2
    · exact alone ⟨first, second⟩

/-- If every exchange is lawful, the drivers never exist together. -/
lemma not_both_append (alone : ¬ Both past) (lawful : Throughout Lawful past d) :
    ¬ Both (past ++ d) := by
  induction d generalizing past with
  | nil => rwa [List.append_nil]
  | cons e d ih =>
    obtain ⟨first, rest⟩ := throughout_cons.mp lawful
    rw [List.append_cons]
    exact ih (not_both_concat alone first) rest

/-- The driver of the holder exists, and no other. -/
structure Standing (h : ModemHolder) (past : Dialogue Platform) : Prop where
  wifi : wifi.isOpen past = decide (h = .wifi)
  bluetooth : bluetooth.isOpen past = decide (h = .transport)

lemma Standing.not_both {h : ModemHolder} (s : Standing h past) : ¬ Both past := by
  rintro ⟨first, second⟩
  have one : h = .wifi := of_decide_eq_true (s.wifi.symm.trans first)
  have two : h = .transport := of_decide_eq_true (s.bluetooth.symm.trans second)
  exact nomatch one.symm.trans two

/-- An exchange that makes no driver and gives none up. -/
def Idle (e : Exchange Platform) : Prop := wifi e = none ∧ bluetooth e = none

lemma Standing.idle {h : ModemHolder} (s : Standing h past) (idle : ∀ e ∈ d, Idle e) :
    Standing h (past ++ d) where
  wifi := (Bracket.isOpen_append_of_idle fun e here => (idle e here).1).trans s.wifi
  bluetooth := (Bracket.isOpen_append_of_idle fun e here => (idle e here).2).trans s.bluetooth

lemma Standing.idle_one {h : ModemHolder} (s : Standing h past) (idle : Idle e) :
    Standing h (past ++ [e]) :=
  s.idle fun _ here => List.mem_singleton.mp here ▸ idle

/-- Requests that are lawful while `h` holds the modem, and make no driver and give none up. -/
def steady (h : ModemHolder) : PlatformRequest → Bool
  | .chip c => !makes c && !ends c && (!usesWifi c || h == .wifi) &&
      (!usesBluetooth c || h == .transport)
  | _ => true

lemma idle_of_steady {h : ModemHolder} (allowed : steady h e.request = true) : Idle e := by
  constructor
  · unfold wifi
    split <;> first | rfl | exact nomatch allowed
  · unfold bluetooth
    split <;> first | rfl | exact nomatch allowed

lemma Standing.lawful {h : ModemHolder} (s : Standing h past)
    (allowed : steady h e.request = true) : Lawful past e := by
  obtain ⟨request, answer⟩ := e
  cases request with
  | chip c =>
    simp only [steady, Bool.and_eq_true, Bool.or_eq_true, Bool.not_eq_true', beq_iff_eq] at allowed
    obtain ⟨⟨⟨none, -⟩, network⟩, transport⟩ := allowed
    refine ⟨fun made => ?_, fun uses => ?_, fun uses => ?_⟩
    · exact nomatch none.symm.trans made
    · rw [s.wifi, network.resolve_left (by simp [uses])]
      rfl
    · rw [s.bluetooth, transport.resolve_left (by simp [uses])]
      rfl
  | _ => trivial

/-- A program with nothing but such requests leaves the modem where it is. -/
lemma Standing.rests {h : ModemHolder} (s : Standing h past) {α : Type} {p : Program Platform α}
    (only : p.Only fun r => steady h r = true) : Conducts Lawful (fun _ => Standing h) p past :=
  conducts_of_only only (fun _ _ _ allowed standing =>
    ⟨standing.lawful allowed, standing.idle_one (idle_of_steady allowed)⟩) s

end RadioDrivers

open RadioDrivers

/-! ## Pieces of a driver -/

namespace Radio.Driver

variable {α β : Type} {h : ModemHolder}

/-- A sequence of pieces, piece by piece. -/
lemma run_bind (m : Driver α) (f : α → Driver β) (radio : Radio) :
    (m >>= f).run radio = m.run radio >>= fun
      | (.ok a, later) => (f a).run later
      | (.error e, later) => .done (.error e, later) := by
  rw [ExceptT.run_bind]
  refine congrArg (m.run radio >>= ·) (funext fun y => ?_)
  obtain ⟨_ | _, later⟩ := y <;> rfl

/-- A program that leaves the state of the radio alone. -/
lemma run_perform_bind (p : Program Platform α) (f : α → Driver β) (radio : Radio) :
    (perform p >>= f).run radio = p >>= fun a => (f a).run radio := by
  have first : (perform p).run radio = p >>= fun a => .done (.ok a, radio) := rfl
  rw [run_bind, first, bind_assoc]
  rfl

/-- While `h` holds the modem, the piece is lawful.  When it is over, the modem has a holder again,
which `post` relates to the outcome. -/
def Moves (post : Except Fault α → ModemHolder → Prop) (h : ModemHolder) (m : Driver α) : Prop :=
  ∀ past, Standing h past →
    Conducts Lawful (fun y later => ∃ h', y.2 = heldBy h' ∧ Standing h' later ∧ post y.1 h')
      (m.run (heldBy h)) past

/-- The piece leaves the modem where it is. -/
def Keeps (h : ModemHolder) (m : Driver α) : Prop := Moves (fun _ h' => h' = h) h m

/-- A sequence of pieces goes on from where its first piece has left the modem. -/
lemma moves_bind {m : Driver α} {f : α → Driver β} {mid : Except Fault α → ModemHolder → Prop}
    {post : Except Fault β → ModemHolder → Prop} (first : Moves mid h m)
    (failed : ∀ e h', mid (.error e) h' → post (.error e) h')
    (second : ∀ a h', mid (.ok a) h' → Moves post h' (f a)) : Moves post h (m >>= f) := by
  intro past standing
  rw [run_bind]
  refine conducts_bind (first past standing) ?_
  rintro ⟨y, radio⟩ later ⟨h', rfl, standing', holds⟩
  cases y with
  | error e => exact ⟨h', rfl, standing', failed e h' holds⟩
  | ok a => exact second a h' holds later standing'

lemma Moves.mono {m : Driver α} {mid post : Except Fault α → ModemHolder → Prop}
    (first : Moves mid h m) (imp : ∀ y h', mid y h' → post y h') : Moves post h m := by
  intro past standing
  refine (first past standing).mono ?_
  rintro y later ⟨h', radio, standing', holds⟩
  exact ⟨h', radio, standing', imp _ _ holds⟩

lemma keeps_pure (a : α) : Keeps h (pure a) := fun _ standing => ⟨h, rfl, standing, rfl⟩

lemma keeps_fail (reason : Fault) : Keeps h (fail reason : Driver α) :=
  fun _ standing => ⟨h, rfl, standing, rfl⟩

lemma keeps_bind {m : Driver α} {f : α → Driver β} (first : Keeps h m)
    (second : ∀ a, Keeps h (f a)) : Keeps h (m >>= f) :=
  moves_bind first (fun _ _ same => same) fun a _ same => same ▸ second a

/-- A program that leaves the modem where it is, and the state of the radio as well. -/
lemma keeps_perform {p : Program Platform α} (only : p.Only fun r => steady h r = true) :
    Keeps h (perform p) := fun _ standing =>
  conducts_bind (standing.rests only) fun _ _ standing' => ⟨h, rfl, standing', rfl⟩

/-- A call that leaves the modem where it is. -/
lemma keeps_call {c : ChipCall} (allowed : steady h (.chip c) = true) : Keeps h (call c) :=
  keeps_perform (only_request allowed)

lemma keeps_expect {what : String} (x : Tried α) : Keeps h (expect what x) := by
  cases x with
  | ok a => exact keeps_pure a
  | error reason => exact keeps_fail _

lemma keeps_expectCode {what : String} (code : Int) : Keeps h (Wireless.expectCode what code) := by
  unfold Wireless.expectCode
  split
  · exact keeps_pure _
  · exact keeps_fail _

end Radio.Driver

open Radio (heldBy)
open Radio.Driver

/-! ## Taking the modem -/

/-- How an attempt of a user to start its driver ends. -/
structure Started (user h : ModemHolder) (y : Attempt Unit) (h' : ModemHolder) : Prop where
  /-- Whoever succeeds holds the modem. -/
  success : y = .ok () → h' = user
  /-- The modem stays where it is, or the user takes it out of the slot. -/
  moved : h' = h ∨ h = .slot ∧ h' = user
  /-- While the other user holds the modem, the attempt fails. -/
  refused : h = user ∨ h = .slot ∨ ∃ e, y = .error e

section Starting

variable {user h h' : ModemHolder} {past : Dialogue Platform}

/-- An attempt that fails before it has come to the driver. -/
lemma started_error (e : Fault) : Started user h (.error e) h :=
  ⟨nofun, Or.inl rfl, Or.inr (Or.inr ⟨e, rfl⟩)⟩

/-- A user that finds the modem with the other one fails, and the modem stays there. -/
lemma Started.refuses {y : Attempt Unit} (started : Started user h y h') (other : h ≠ user)
    (busy : h ≠ .slot) : (∃ e, y = .error e) ∧ h' = h :=
  ⟨(started.refused.resolve_left other).resolve_left busy,
    started.moved.resolve_right fun taken => busy taken.1⟩

/-- What comes after the start of the driver does not move the modem. -/
lemma moves_of_started {m : Radio.Driver Unit} {f : Unit → Radio.Driver Unit}
    (first : Moves (Started user h) h m) (second : Keeps user (f ())) :
    Moves (Started user h) h (m >>= f) := by
  refine moves_bind first (fun _ _ failed => ⟨nofun, failed.moved, Or.inr (Or.inr ⟨_, rfl⟩)⟩) ?_
  rintro ⟨⟩ h₁ begun
  obtain rfl := begun.success rfl
  refine second.mono fun y h₂ same => ⟨fun _ => same, same ▸ begun.moved, ?_⟩
  rcases begun.refused with here | here | ⟨e, failed⟩
  · exact Or.inl here
  · exact Or.inr (Or.inl here)
  · exact nomatch failed

/-- A driver of the network is made, or the attempt leaves none. -/
lemma conducts_createDriver (standing : Standing .slot past) :
    Conducts Lawful (fun y later => Standing (if y = .ok () then .wifi else .slot) later)
      Wifi.createDriver past := by
  have sole : bluetooth.isOpen past = false := standing.bluetooth
  refine conducts_request_bind fun x => ⟨⟨fun _ => ⟨standing.wifi, sole⟩, nofun, nofun⟩, ?_⟩
  cases x with
  | error reason => exact standing.idle_one ⟨rfl, rfl⟩
  | ok _ =>
    have made : Standing .wifi (past ++ [⟨PlatformRequest.chip .createWifi, .ok ()⟩]) :=
      ⟨Bracket.isOpen_concat, Bracket.isOpen_concat.trans sole⟩
    refine conducts_request fun y => ⟨⟨nofun, fun _ => made.wifi, nofun⟩, ?_⟩
    cases y with
    | ok _ => exact made.idle_one ⟨rfl, rfl⟩
    | error reason => exact ⟨Bracket.isOpen_concat, Bracket.isOpen_concat.trans made.bluetooth⟩

/-- The network takes the modem, or leaves it where it is. -/
lemma moves_startDriver : Moves (Started .wifi h) h Wifi.startDriver := by
  intro past standing
  cases h with
  | wifi => exact ⟨.wifi, rfl, standing, fun _ => rfl, Or.inl rfl, Or.inl rfl⟩
  | transport => exact ⟨.transport, rfl, standing, started_error _⟩
  | slot =>
    have course : Wifi.startDriver.run (heldBy .slot) = Wifi.createDriver >>= fun y =>
        .done (match (y : Tried Unit) with
          | .ok () => (.ok (), heldBy .wifi)
          | .error reason =>
            (.error ⟨"Failed to create WiFi driver: " ++ reason.text⟩, heldBy .slot)) := by
      refine (run_perform_bind Wifi.createDriver _ _).trans ?_
      refine congrArg (Wifi.createDriver >>= ·) (funext fun y => ?_)
      cases y <;> rfl
    rw [course]
    refine conducts_bind (conducts_createDriver standing) ?_
    rintro (reason | ⟨⟩) later standing'
    · exact ⟨.slot, rfl, standing', started_error _⟩
    · exact ⟨.wifi, rfl, standing', fun _ => rfl, Or.inr ⟨rfl, rfl⟩, Or.inr (Or.inl rfl)⟩

/-- The transport takes the modem, or leaves it where it is. -/
lemma moves_startBluetooth : Moves (Started .transport h) h Wireless.startDriver := by
  intro past standing
  cases h with
  | wifi => exact ⟨.wifi, rfl, standing, started_error _⟩
  | transport => exact ⟨.transport, rfl, standing, fun _ => rfl, Or.inl rfl, Or.inl rfl⟩
  | slot =>
    have alone : wifi.isOpen past = false := standing.wifi
    refine conducts_request_bind fun x =>
      ⟨⟨fun _ => ⟨alone, standing.bluetooth⟩, nofun, nofun⟩, ?_⟩
    cases x with
    | error reason =>
      exact ⟨.slot, rfl, standing.idle_one ⟨rfl, rfl⟩, started_error _⟩
    | ok _ =>
      exact ⟨.transport, rfl, ⟨Bracket.isOpen_concat.trans alone, Bracket.isOpen_concat⟩,
        fun _ => rfl, Or.inr ⟨rfl, rfl⟩, Or.inr (Or.inl rfl)⟩

/-- To join a network is to start the driver and to make calls on it. -/
lemma moves_join (credentials : Credentials) (timeout : Nat) :
    Moves (Started .wifi h) h (Wifi.join credentials timeout) := by
  have failed : ∀ reason : Fault, Moves (Started .wifi h) h (Radio.Driver.fail reason) :=
    fun reason past standing => ⟨h, rfl, standing, started_error reason⟩
  unfold Wifi.join
  dsimp only
  split
  · exact failed _
  · split
    · exact failed _
    · refine moves_of_started moves_startDriver ?_
      refine keeps_bind (keeps_call rfl) fun _ =>
        keeps_bind (keeps_expect _) fun _ => ?_
      refine keeps_bind (keeps_call rfl) fun _ =>
        keeps_bind (keeps_expect _) fun _ => ?_
      refine keeps_bind (keeps_call rfl) fun _ =>
        keeps_bind (keeps_expect _) fun _ => ?_
      refine keeps_bind (keeps_call rfl) fun _ =>
        keeps_bind (keeps_expect _) fun _ => ?_
      refine keeps_bind (keeps_call rfl) fun _ =>
        keeps_bind (keeps_expect _) fun _ => ?_
      exact keeps_bind (keeps_perform (only_request rfl)) fun _ =>
        keeps_perform (only_request rfl)

/-- To start the server is to start the driver and to make calls on it. -/
lemma moves_startServer (name : String) (listening : Bool) :
    Moves (Started .transport h) h (Wireless.startServer name listening) := by
  have handlers : Keeps .transport (Wireless.registerHandlers listening) := by
    unfold Wireless.registerHandlers
    split
    · exact keeps_pure _
    · refine keeps_bind (keeps_call rfl) fun _ =>
        keeps_bind (keeps_expectCode _) fun _ => ?_
      exact keeps_bind (keeps_call rfl) fun _ => keeps_expectCode _
  unfold Wireless.startServer
  refine moves_of_started moves_startBluetooth (keeps_bind handlers fun _ => ?_)
  split
  · exact keeps_fail _
  · refine keeps_bind (keeps_call rfl) fun _ =>
      keeps_bind (keeps_expectCode _) fun _ => ?_
    exact keeps_bind (keeps_call rfl) fun _ => keeps_expectCode _

end Starting

/-! ## Giving the modem back -/

section Stopping

variable {h : ModemHolder} {past : Dialogue Platform}

/-- Where the modem is once a user has given it back. -/
def ModemHolder.without (h user : ModemHolder) : ModemHolder := if h = user then .slot else h

/-- The driver of the network is shut down and given up. -/
lemma conducts_stopDriver (standing : Standing .wifi past) :
    Conducts Lawful (fun _ => Standing .slot) Wifi.stopDriver past := by
  have stop : ∀ past, Standing .wifi past → Conducts Lawful (fun _ => Standing .slot)
      (do let _ ← Platform.call .stopWifi; Platform.call .dropWifi) past := by
    intro past standing
    refine conducts_bind (standing.rests (only_request rfl)) fun _ later standing' => ?_
    exact conducts_request fun _ => ⟨⟨nofun, fun _ => standing'.wifi, nofun⟩,
      Bracket.isOpen_concat, Bracket.isOpen_concat.trans standing'.bluetooth⟩
  refine conducts_bind (standing.rests (only_request rfl)) fun joined later standing' => ?_
  split
  · exact conducts_bind (standing'.rests (only_request rfl)) fun _ => stop
  · exact stop later standing'

/-- The network is left, and has nothing afterwards. -/
lemma conducts_leave (standing : Standing h past) :
    Conducts Lawful (fun r later => r = heldBy (h.without .wifi) ∧ Standing (h.without .wifi) later)
      (Wifi.leave (heldBy h)) past := by
  have signals : ∀ past, Standing (h.without .wifi) past →
      Conducts Lawful (fun r later => r = heldBy (h.without .wifi) ∧
          Standing (h.without .wifi) later)
        (do
          Platform.clear .linkUp
          Platform.raise .linkDown
          return heldBy (h.without .wifi)) past := fun past standing =>
    conducts_bind (standing.rests (only_request rfl)) fun _ _ standing₁ =>
      conducts_bind (standing₁.rests (only_request rfl)) fun _ _ standing₂ => ⟨rfl, standing₂⟩
  cases h with
  | slot => exact signals past standing
  | transport => exact signals past standing
  | wifi => exact conducts_bind (conducts_stopDriver standing) fun _ => signals

/-- The server is stopped, and the driver of the transport given up. -/
lemma conducts_stopServer {η : Type} (w : Wireless η) (held : w.radio = heldBy h)
    (standing : Standing h past) :
    Conducts Lawful (fun _ => Standing (h.without .transport)) w.stopServer past := by
  obtain ⟨_, gatt, listening⟩ := w
  obtain rfl := held
  have logged : ∀ (what : String) (code : Int),
      (Gatt.logCode what code).Only fun r => steady .transport r = true := by
    intro what code
    unfold Gatt.logCode
    split
    · exact .done _
    · exact only_request rfl
  have goodbye : (Wireless.sayGoodbye gatt).Only fun r => steady .transport r = true := by
    unfold Wireless.sayGoodbye
    split
    · exact only_bind (only_request rfl) fun _ => only_bind (logged _ _) fun _ =>
        only_bind (only_request rfl) fun _ => logged _ _
    · exact only_bind (only_request rfl) fun _ => logged _ _
  have unregistered : (Wireless.unregister gatt.interface).Only
      fun r => steady .transport r = true := by
    unfold Wireless.unregister
    split
    · exact .done _
    · refine only_bind (only_request rfl) fun code => ?_
      split <;> exact .done _
  cases h with
  | slot => exact standing
  | wifi => exact standing
  | transport =>
    refine conducts_bind (standing.rests goodbye) fun _ _ standing₁ => ?_
    refine conducts_bind (standing₁.rests unregistered) fun _ _ standing₂ => ?_
    exact conducts_request_bind fun _ => ⟨⟨nofun, nofun, fun _ => standing₂.bluetooth⟩,
      Bracket.isOpen_concat.trans standing₂.wifi, Bracket.isOpen_concat⟩

end Stopping

/-! ## Calls of the firmware -/

/-- A call of the firmware that is about the radio. -/
inductive RadioCall (η : Type) where
  /-- Join a network. -/
  | join (credentials : Credentials) (timeout : Nat)
  /-- Leave the network. -/
  | leave
  /-- Open the provisioning transport. -/
  | enable (name : String) (session : η)
  /-- Close the provisioning transport. -/
  | disable

namespace RadioCall

variable {η : Type}

/-- The work of the drivers. -/
def task : RadioCall η → Board.Task η (Attempt Unit)
  | join credentials timeout => Board.join credentials timeout
  | leave => do
    Board.leave
    return .ok ()
  | enable name session => Board.openProvisioning name session
  | disable => Board.closeProvisioning

/-- Where a call may take the modem. -/
def Takes : RadioCall η → ModemHolder → Attempt Unit → ModemHolder → Prop
  | join _ _, h, y, h' => Started .wifi h y h'
  | leave, h, _, h' => h' = h.without .wifi
  | enable _ _, h, y, h' => Started .transport h y h'
  | disable, h, _, h' => h' = h.without .transport

/-- Whatever the chip answers, a call is lawful, and the modem has a holder afterwards. -/
lemma conducts_task (call : RadioCall η) {b : Board η} {h : ModemHolder} {past : Dialogue Platform}
    (held : b.wireless.radio = heldBy h) (standing : Standing h past) :
    Conducts Lawful (fun y later => ∃ h', y.2.wireless.radio = heldBy h' ∧ Standing h' later ∧
      call.Takes h y.1 h') (call.task b) past := by
  obtain ⟨ready, syncing, ⟨_, gatt, listening⟩, broker, closed⟩ := b
  obtain rfl := held
  cases call with
  | join credentials timeout =>
    refine conducts_bind (moves_join credentials timeout past standing) ?_
    rintro ⟨y, _⟩ later ⟨h', rfl, standing', started⟩
    exact ⟨h', rfl, standing', started⟩
  | leave =>
    have left : Conducts Lawful (fun y later =>
        y.2.wireless.radio = heldBy (h.without .wifi) ∧ Standing (h.without .wifi) later)
        (Board.leave (η := η) ⟨ready, syncing, ⟨heldBy h, gatt, listening⟩, broker, closed⟩) past :=
      conducts_bind (conducts_leave standing) fun _ _ ends => ends
    exact conducts_bind left fun _ _ ends => ⟨_, ends.1, ends.2, rfl⟩
  | enable name session =>
    have enabled : Conducts Lawful (fun y later => ∃ h', y.2.radio = heldBy h' ∧
        Standing h' later ∧ Started .transport h y.1 h')
        (Wireless.enable name session ⟨heldBy h, gatt, listening⟩) past := by
      refine conducts_bind (moves_startServer name listening past standing) ?_
      rintro ⟨_ | _, _⟩ later ⟨h', rfl, standing', started⟩ <;>
      exact ⟨h', rfl, standing', started⟩
    exact conducts_bind enabled fun _ _ ends => ends
  | disable =>
    have disabled : Conducts Lawful (fun y later => y.2.radio = heldBy (h.without .transport) ∧
        Standing (h.without .transport) later)
        (Wireless.disable (η := η) ⟨heldBy h, gatt, listening⟩) past := by
      refine conducts_bind (conducts_stopServer _ rfl standing) fun _ later standing' => ?_
      cases h <;> exact ⟨rfl, standing'⟩
    exact conducts_bind disabled fun _ _ ends => ⟨_, ends.1, ends.2, rfl⟩

/-- What a call does to the radio. -/
def Effect : RadioCall η → Radio → Attempt Unit → Radio → Prop
  | join _ _, r, y, r' =>
    (r.transport.modem.isSome = true → (∃ e, y = .error e) ∧ r' = r) ∧
      (y = .ok () → r'.wifi.modem.isSome = true) ∧ r'.transport = r.transport
  | leave, r, _, r' => r'.wifi = Radio.resting ∧ r'.transport = r.transport
  | enable _ _, r, y, r' =>
    (r.wifi.modem.isSome = true → (∃ e, y = .error e) ∧ r' = r) ∧
      (y = .ok () → r'.transport.modem.isSome = true) ∧ r'.wifi = r.wifi
  | disable, r, _, r' => r'.transport = Radio.resting ∧ r'.wifi = r.wifi

lemma effect_of_takes {call : RadioCall η} {h h' : ModemHolder} {y : Attempt Unit}
    (takes : call.Takes h y h') : call.Effect (heldBy h) y (heldBy h') := by
  cases call with
  | join credentials timeout =>
    have started : Started .wifi h y h' := takes
    refine ⟨fun busy => ?_, fun done => started.success done ▸ rfl, ?_⟩
    · obtain ⟨failed, rfl⟩ := started.refuses (by rintro rfl; exact nomatch busy)
        (by rintro rfl; exact nomatch busy)
      exact ⟨failed, rfl⟩
    · rcases started.moved with rfl | ⟨rfl, rfl⟩ <;> rfl
  | leave =>
    obtain rfl := takes
    cases h <;> exact ⟨rfl, rfl⟩
  | enable name session =>
    have started : Started .transport h y h' := takes
    refine ⟨fun busy => ?_, fun done => started.success done ▸ rfl, ?_⟩
    · obtain ⟨failed, rfl⟩ := started.refuses (by rintro rfl; exact nomatch busy)
        (by rintro rfl; exact nomatch busy)
      exact ⟨failed, rfl⟩
    · rcases started.moved with rfl | ⟨rfl, rfl⟩ <;> rfl
  | disable =>
    obtain rfl := takes
    cases h <;> exact ⟨rfl, rfl⟩

end RadioCall

/-! ## Histories -/

/-- What may have been said to the chip after some calls about the radio, and what the drivers then
remember.  In between other parts of the firmware may work, which touch neither the radio nor a
driver. -/
inductive RadioHistory {η : Type} : Dialogue Platform → Board η → Prop
  /-- The modem lies in the slot. -/
  | start {b : Board η} (fresh : b.wireless.radio = .start) : RadioHistory [] b
  /-- Something happens that is not about the radio. -/
  | elsewhere {d e : Dialogue Platform} {b b' : Board η} (earlier : RadioHistory d b)
      (radio : b'.wireless.radio = b.wireless.radio) (idle : ∀ x ∈ e, Idle x) :
      RadioHistory (d ++ e) b'
  /-- A call is made, and the chip may answer anything. -/
  | call {d e : Dialogue Platform} {b b' : Board η} (earlier : RadioHistory d b)
      (call : RadioCall η) {y : Attempt Unit}
      (made : Returns anything (call.task b) () e (y, b') ()) : RadioHistory (d ++ e) b'

namespace RadioHistory

variable {η : Type} {d : Dialogue Platform} {b : Board η}

/-- The modem has a holder, and its driver is the one that exists. -/
lemma exists_standing (history : RadioHistory d b) :
    ∃ h, b.wireless.radio = heldBy h ∧ Standing h d := by
  induction history with
  | start fresh => exact ⟨.slot, fresh, rfl, rfl⟩
  | elsewhere _ radio idle ih =>
    obtain ⟨h, held, standing⟩ := ih
    exact ⟨h, radio.trans held, standing.idle idle⟩
  | call _ call made ih =>
    obtain ⟨h, held, standing⟩ := ih
    obtain ⟨-, h', held', standing', -⟩ := (call.conducts_task held standing).returned made
    exact ⟨h', held', standing'⟩

/-- At no moment do both drivers exist. -/
lemma not_both (history : RadioHistory d b) {before after : Dialogue Platform}
    (moment : d = before ++ after) : ¬ Both before := by
  induction history generalizing before after with
  | start _ =>
    obtain ⟨rfl, -⟩ := List.append_eq_nil_iff.mp moment.symm
    exact nofun
  | elsewhere earlier _ idle ih =>
    obtain ⟨h, -, standing⟩ := earlier.exists_standing
    rcases List.append_eq_append_iff.mp moment with ⟨more, rfl, rfl⟩ | ⟨rest, rfl, -⟩
    · exact (standing.idle fun e here => idle e (List.mem_append_left _ here)).not_both
    · exact ih rfl
  | call earlier call made ih =>
    obtain ⟨h, held, standing⟩ := earlier.exists_standing
    rcases List.append_eq_append_iff.mp moment with ⟨more, rfl, rfl⟩ | ⟨rest, rfl, -⟩
    · have lawful := ((call.conducts_task held standing).returned made).1
      exact not_both_append standing.not_both (throughout_append.mp lawful).1
    · exact ih rfl

end RadioHistory

/-- The stand has an answer to every request. -/
def freshAnswer (r : PlatformRequest) (_ : Unit) : r.Answer × Unit :=
  (((Stand.answer 0 r).run (Stand.start .empty 0)).1, ())

/-- The modem is never duplicated, lost or shared.  Whatever calls were made and however the chip
has answered, the modem has exactly one holder, a user has a driver exactly while it holds the
modem, and at no moment did both drivers exist.  Every further call comes to an end and does not
make them exist together on the way; a user that starts while the other holds the modem fails and
changes nothing, and one that stops has nothing in the end. -/
theorem modem_has_one_holder {η : Type} {d : Dialogue Platform} {b : Board η}
    (history : RadioHistory d b) :
    b.wireless.radio.Sound ∧
      wifi.isOpen d = b.wireless.radio.wifi.hasDriver ∧
      bluetooth.isOpen d = b.wireless.radio.transport.hasDriver ∧
      (∀ before after, d = before ++ after → ¬ Both before) ∧
      ∀ call : RadioCall η,
        (∃ e y b', Returns anything (call.task b) () e (y, b') ()) ∧
          (∀ e q, Reaches anything (call.task b) () e q () → ¬ Both (d ++ e)) ∧
          ∀ e y b', Returns anything (call.task b) () e (y, b') () →
            call.Effect b.wireless.radio y b'.wireless.radio := by
  obtain ⟨h, held, standing⟩ := history.exists_standing
  have sound : b.wireless.radio.Sound := held ▸ Radio.sound_heldBy h
  have network : wifi.isOpen d = b.wireless.radio.wifi.hasDriver := by
    rw [standing.wifi, held]
    cases h <;> rfl
  have transport : bluetooth.isOpen d = b.wireless.radio.transport.hasDriver := by
    rw [standing.bluetooth, held]
    cases h <;> rfl
  refine ⟨sound, network, transport, fun _ _ => history.not_both, fun call => ⟨?_, ?_, ?_⟩⟩
  · obtain ⟨e, ⟨y, b'⟩, ⟨⟩, made⟩ := exists_returns (B := anything)
      (fun r s => ⟨(freshAnswer r s).1, (), trivial⟩) (call.task b) ()
    exact ⟨e, y, b', made⟩
  · intro e q reached
    exact not_both_append standing.not_both ((call.conducts_task held standing).follow reached).1
  · intro e y b' made
    obtain ⟨-, h', held', -, takes⟩ := (call.conducts_task held standing).returned made
    rw [held, held']
    exact RadioCall.effect_of_takes takes

/-- A provisioning transport that was opened on a willing chip. -/
def openedTransport : Dialogue Platform × (Attempt Unit × Board Unit) × Unit :=
  converse freshAnswer ((RadioCall.enable "hatch" ()).task .start) ()

/-- While a client may provision the device, the network cannot be joined; closing the transport
lets go of the modem. -/
theorem open_transport_keeps_the_modem :
    ∃ (d : Dialogue Platform) (b : Board Unit), RadioHistory d b ∧
      bluetooth.isOpen d = true ∧ (b.wireless.radio.modemOf .transport).isSome = true ∧
      (∃ e y b', Returns anything ((RadioCall.join ⟨"net", "secret"⟩ 10).task b) () e (y, b') () ∧
        (∃ reason, y = .error reason) ∧ b'.wireless.radio = b.wireless.radio) ∧
      ∃ e y b', Returns anything (RadioCall.disable.task b) () e (y, b') () ∧
        b'.wireless.radio.transport = Radio.resting := by
  have made : Returns anything ((RadioCall.enable "hatch" ()).task .start) ()
      openedTransport.1 openedTransport.2.1 openedTransport.2.2 :=
    returns_converse (fun _ _ => trivial) _ ()
  have held : openedTransport.2.1.2.wireless.radio = heldBy .transport := by decide +kernel
  rcases said : openedTransport with ⟨d, ⟨y, b⟩, ⟨⟩⟩
  rw [said] at made held
  have history : RadioHistory ([] ++ d) b := .call (.start rfl) _ made
  obtain ⟨-, -, transport, -, calls⟩ := modem_has_one_holder history
  refine ⟨[] ++ d, b, history, ?_, ?_, ?_, ?_⟩
  · exact transport.trans (congrArg (fun radio : Radio => radio.transport.hasDriver) held)
  · exact congrArg (fun radio : Radio => radio.transport.modem.isSome) held
  · obtain ⟨⟨e, y', b', joined⟩, -, effect⟩ := calls (.join ⟨"net", "secret"⟩ 10)
    obtain ⟨failed, same⟩ := (effect e y' b' joined).1
      (congrArg (fun radio : Radio => radio.transport.modem.isSome) held)
    exact ⟨e, y', b', joined, failed, same⟩
  · obtain ⟨⟨e, y', b', closed⟩, -, effect⟩ := calls .disable
    exact ⟨e, y', b', closed, (effect e y' b' closed).1⟩

end HatchSensor
