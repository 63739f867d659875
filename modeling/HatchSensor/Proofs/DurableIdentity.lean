import HatchSensor.Proofs.HelpfulWorld
import HatchSensor.Proofs.MessageMembers
import HatchSensor.Proofs.NamedRequests
import HatchSensor.Proofs.StoredCredentials

/-!
# The identity of the device lasts

The life of a device is followed with a note of the identity that a client has set last.  The device
is switched on or woken up again and again, and every time it may come to an end anywhere; its
memory, and with it an open session, is lost each time.

`identity_is_canonical_and_lasts` says how an identity is read from any of its spellings, that its
canonical form is what a client stores, and that from then on the device has this name wherever it
shows one, whatever else clients write and whatever the device goes through, factory resets
included, until a client sets another identity.
-/

namespace HatchSensor

open Program

/-! ## Reading identities -/

/-- How identities are read. -/
structure Uuid.ReadCanonically : Prop where
  /-- A text is accepted if it is one of the ways to write an identity, blanks around it apart. -/
  accepted : ∀ text u, Uuid.parse text = .ok u ↔ Uuid.Spells (Text.trim text).toList u
  /-- The canonical form has 36 characters, in groups joined by hyphens and in lower case, and it is
  read as the same identity. -/
  canonical : ∀ text u, Uuid.parse text = .ok u →
    Uuid.IsCanonical u.canonical ∧ u.canonical.toList.length = 36 ∧ Uuid.parse u.canonical = .ok u
  /-- Texts with the same digits are read as one identity, in whatever form they are written. -/
  alike : ∀ text text' ds ds', Uuid.Digits ds → Uuid.Digits ds' →
    Uuid.Spelling ds (Text.trim text).toList → Uuid.Spelling ds' (Text.trim text').toList →
    ds.map Text.lowerLetter = ds'.map Text.lowerLetter →
    ∃ u, Uuid.parse text = .ok u ∧ Uuid.parse text' = .ok u
  /-- Different identities have different canonical forms. -/
  distinct : ∀ text text' u u', Uuid.parse text = .ok u → Uuid.parse text' = .ok u' →
    u.canonical = u'.canonical → u = u'

lemma Uuid.readCanonically : Uuid.ReadCanonically where
  accepted := fun _ _ => parse_eq_ok_iff
  canonical := fun text u parsed =>
    have proper := proper_of_parse parsed
    ⟨proper.isCanonical, proper.isCanonical.length, parse_canonical proper⟩
  alike := by
    intro text text' ds ds' digits digits' spelling spelling' same
    refine ⟨ofDigits ds, parse_eq_ok_iff.mpr ⟨ds, digits, spelling, rfl⟩,
      parse_eq_ok_iff.mpr ⟨ds', digits', spelling', ?_⟩⟩
    rw [ofDigits, ofDigits, same]
  distinct := by
    intro text text' u u' parsed parsed' same
    have read := parse_canonical (proper_of_parse parsed)
    rw [same, parse_canonical (proper_of_parse parsed')] at read
    exact (Except.ok.inj read).symm

/-! ## Setting identities -/

/-- However the store answers, the program comes to an end, with a value and blobs as they should
be. -/
def Program.Ends {α : Type} (refuses : BlobRequest → Prop) (p : Program Blobs α) (m : BlobMap)
    (post : α → BlobMap → Prop) : Prop :=
  (∃ d a m', Returns (BlobMap.Answers refuses) p m d a m') ∧
    ∀ d a m', Returns (BlobMap.Answers refuses) p m d a m' → post a m'

lemma Program.ends_of_returns {α : Type} {refuses : BlobRequest → Prop} {p : Program Blobs α}
    {m : BlobMap} {post : α → BlobMap → Prop}
    (h : ∀ d a m', Returns (BlobMap.Answers refuses) p m d a m' → post a m') :
    Program.Ends refuses p m post :=
  ⟨exists_returns BlobMap.answers_total p m, h⟩

/-- What becomes of a message that sets the identity. -/
structure Session.StoresIdentity (refuses : BlobRequest → Prop) : Prop where
  /-- An accepted text is stored in its canonical form, unless the store refuses it, and the client
  is told so. -/
  stored : ∀ {session : Session} {payload id raw u m},
    ClientMessage.ofPayload? payload = some ⟨id, .command (.setUuid raw)⟩ →
    Uuid.parse raw = .ok u →
    ¬ refuses (.write identityBlob (Bytes.encodeUtf8 u.canonical)) →
    Program.Ends refuses (session.write payload) m fun result m' =>
      result.1.reply = some ⟨id, .done⟩ ∧ result.2 = session ∧
        m' = m.put identityBlob (Bytes.encodeUtf8 u.canonical) ∧
        Session.accepted? payload result.1 = some u.canonical
  /-- A text that is no identity changes nothing, and the client is told why. -/
  rejected : ∀ {session : Session} {payload id raw e m},
    ClientMessage.ofPayload? payload = some ⟨id, .command (.setUuid raw)⟩ →
    Uuid.parse raw = .error e →
    Program.Ends refuses (session.write payload) m fun result m' =>
      result.1.reply = some ⟨id, .failed (.uuid raw e)⟩ ∧ result.2 = session ∧ m' = m ∧
        Session.accepted? payload result.1 = none
  /-- No other message sets the identity. -/
  other : ∀ {session : Session} {payload m},
    (∀ id raw, ClientMessage.ofPayload? payload ≠ some ⟨id, .command (.setUuid raw)⟩) →
    Program.Ends refuses (session.write payload) m fun result m' =>
      m'.get? identityBlob = m.get? identityBlob ∧ Session.accepted? payload result.1 = none

lemma Session.storesIdentity (refuses : BlobRequest → Prop) : Session.StoresIdentity refuses where
  stored := by
    intro session payload id raw u m message parsed writable
    refine Program.ends_of_returns fun d result m' h => ?_
    obtain ⟨y, outcome, reply, same⟩ := setsIdentity_of_write message h
    rcases outcome.parsed u parsed with ⟨rfl, stored⟩ | ⟨no, -⟩
    · have done : result.1.reply = some ⟨id, .done⟩ := reply
      refine ⟨done, same, stored, ?_⟩
      rw [accepted?_of_message message, if_pos done, parsed]
      rfl
    · exact absurd no writable
  rejected := by
    intro session payload id raw e m message strange
    refine Program.ends_of_returns fun d result m' h => ?_
    obtain ⟨y, outcome, reply, same⟩ := setsIdentity_of_write message h
    obtain ⟨rfl, kept⟩ := outcome.strange e strange
    refine ⟨reply, same, kept, ?_⟩
    rw [accepted?_of_message message, strange]
    exact ite_self _
  other := by
    intro session payload m strange
    refine Program.ends_of_returns fun d result m' h => ?_
    have none := accepted?_of_other strange result.1
    exact ⟨(identityAfter_of_write h).kept none, none⟩

/-! ## Lives with a note -/

namespace Noted

variable {L : Licence} {device : DeviceSettings} {s t u v : Noted} {d : Dialogue Surroundings}

/-- The device is switched on, or wakes up: it finds some register, and no session. -/
def started (s : Noted) (bits : SignalBits) : Noted :=
  { s with world := { s.world with bits, session := none } }

/-- The life of a device up to now.  Every waking period may end anywhere. -/
inductive Life (L : Licence) (device : DeviceSettings) : Noted → Noted → Prop
  /-- The device has not been switched on yet. -/
  | unused (s : Noted) : Life L device s s
  /-- The device was started once more and has come to `q`. -/
  | period {s u v : Noted} {d : Dialogue Surroundings} {q : Program Surroundings Lifecycle.Stage}
      (bits : SignalBits) (rounds : Nat) (earlier : Life L device s u)
      (running : Reaches (answers L) (Lifecycle.boot device rounds) (u.started bits) d q v) :
      Life L device s v

lemma Sound.started (sound : Sound s) (bits : SignalBits) : Sound (s.started bits) :=
  sound.congr rfl rfl

/-- What is noted is stored all along the life of a device. -/
lemma Life.sound (h : Life L device s t) (sound : Sound s) : Sound t := by
  induction h with
  | unused => exact sound
  | period bits rounds _ running ih =>
    exact (covered_of_advanceMany running (Sound.started ih bits) fun _ => rfl).sound

/-! ### What others see -/

/-- The payload is an object whose one member `peepUUID` is the name. -/
def ShowsName (name : String) (payload : Bytes) : Prop :=
  ∃ members, payload = Bytes.encodeUtf8 (Json.writeMembers members) ∧
    members.filter (fun m => m.1 == "peepUUID") = [("peepUUID", Json.writeString name)]

lemma showsName_payload (name hatch : String) (r : Reading) :
    ShowsName name (Cycle.payload name hatch r) :=
  ⟨_, rfl, rfl⟩

/-- A canonical form stands in a message as it is. -/
lemma writeString_of_isCanonical {text : String} (canonical : Uuid.IsCanonical text) :
    Json.writeString text = "\"" ++ text ++ "\"" := by
  have marks : ∀ c ∈ '-' :: Uuid.lowerAlphabet, Json.escapeChar c = [c] :=
    Uuid.forall_mem_of_all (by decide)
  have plain : ∀ c ∈ text.toList, Json.escapeChar c = [c] :=
    fun c there => marks c (canonical.mem there)
  rw [Json.writeString, List.flatMap_congr plain, List.flatMap_singleton', ← String.toList_inj]
  simp

/-- The device has its name wherever it shows one. -/
structure NameKept (L : Licence) (device : DeviceSettings) (t : Noted) : Prop where
  /-- The identity that was set last is stored, in its canonical form. -/
  stored : ∀ text, t.identity = some text →
    Uuid.IsCanonical text ∧ t.world.blobs.get? identityBlob = some (Bytes.encodeUtf8 text)
  /-- It is the name that the device reads. -/
  name : ∀ text, t.identity = some text → ∀ fallback,
    Program.Ends L.refuses (cloudName fallback) t.world.blobs fun name _ =>
      IsName L.refuses fallback text name
  /-- It is the name that a client reads. -/
  shown : ∀ text, t.identity = some text → ∀ session : Session,
    Program.Ends L.refuses session.read t.world.blobs fun reply _ =>
      ∃ name, IsName L.refuses session.fallback text name ∧
        reply = Json.writeMembers [("uuid", Json.writeString name)]
  /-- It is the name under which the device opens a session with the cloud, asks for a shadow and
  publishes, whenever it comes to that in its next waking period. -/
  spoken : ∀ bits rounds d r v,
    Asks (answers L) (Lifecycle.boot device rounds) (t.started bits) d r v →
    ∃ name, r.NamedBy name ∧
      ∀ text, v.identity = some text → IsName L.refuses device.fallbackName text name

lemma nameKept_of_sound (sound : Sound t) : NameKept L device t where
  stored := sound
  name := by
    intro text noted fallback
    obtain ⟨canonical, stored⟩ := sound text noted
    exact Program.ends_of_returns fun _ _ _ h => isName_of_cloudName canonical stored h
  shown := by
    intro text noted session
    obtain ⟨canonical, stored⟩ := sound text noted
    refine Program.ends_of_returns fun _ _ _ h => ?_
    obtain ⟨_, name, _, _, -, read, ended⟩ := returns_bind.mp h
    exact ⟨name, isName_of_cloudName canonical stored read, (returns_done.mp ended).2.1⟩
  spoken := by
    rintro bits rounds d r v ⟨k, running⟩
    exact (covered_of_advanceMany running (sound.started bits) fun _ => rfl).named r k rfl

end Noted

/-! ## Identities -/

/-- What is promised of the identity of the device. -/
structure IdentityLasts : Prop where
  /-- Identities are read from all their spellings. -/
  read : Uuid.ReadCanonically
  /-- Clients set them. -/
  set : ∀ refuses, Session.StoresIdentity refuses
  /-- Whatever a device does, it can be followed with a note of the identity that was set last. -/
  noted : ∀ {L : Licence} {α : Type} {p q : Program Surroundings α} {w w' : World}
    {d : Dialogue Surroundings}, Reaches (World.answers L) p w d q w' →
    ∀ identity, ∃ later, Reaches (Noted.answers L) p ⟨w, identity⟩ d q ⟨w', later⟩
  /-- From a device on which none was set, or on which the one that was set last is stored, the
  device keeps its name all along its life. -/
  kept : ∀ {L : Licence} {device : DeviceSettings} {s t : Noted}, Noted.Life L device s t →
    s.Sound → Noted.NameKept L device t
  /-- The name of a message is the one it was made for, as it is written and as it is read. -/
  message : ∀ name hatch r, Noted.ShowsName name (Cycle.payload name hatch r) ∧
    Message.device? (Cycle.payload name hatch r) = some name
  /-- In a message, a canonical form stands between quotation marks as it is. -/
  plain : ∀ text, Uuid.IsCanonical text → Json.writeString text = "\"" ++ text ++ "\""

/-- An identity is set in any of its spellings, stored in its canonical form, and kept through
everything until the next one is set. -/
theorem identity_is_canonical_and_lasts : IdentityLasts where
  read := Uuid.readCanonically
  set := Session.storesIdentity
  noted := Noted.lift
  kept := fun life sound => Noted.nameKept_of_sound (life.sound sound)
  message := fun name hatch r =>
    ⟨Noted.showsName_payload name hatch r, Message.device?_payload name hatch r⟩
  plain := fun _ => Noted.writeString_of_isCanonical

/-! ### An identity in capitals -/

/-- A client sets an identity by its bare digits, in capitals. -/
def capitalMessage : Bytes := Bytes.encodeUtf8
  "\x7b\"id\":7,\"command\":\x7b\"setDeviceUuid\":\" 67E5504410B1426F9247BB680E5FE0C8\"\x7d\x7d"

/-- Its canonical form. -/
def uncapitalized : String := "67e55044-10b1-426f-9247-bb680e5fe0c8"

namespace Noted

/-- Helpful surroundings.  The client that is there sets no identity. -/
def helpful (r : DeviceRequest) (s : Noted) : r.Answer × Noted :=
  ((HatchSensor.helpful r s.world).1, { s with world := (HatchSensor.helpful r s.world).2 })

lemma acts_helpfulWait (s : Noted) :
    Acts Lifecycle.obligingLicence s { s with world := helpfulWait s.world } := by
  unfold helpfulWait
  split
  next => exact .single (.stir trivial)
  next session opened =>
    obtain ⟨d, effect, later, blobs, written, heard⟩ :=
      exists_written_of_hearClient s.world session
    have bare : ClientMessage.ofPayload? credentialMessage = none := by decide +kernel
    have silent : Session.accepted? credentialMessage effect = none := by
      rw [Session.accepted?, bare]
    have act : Act Lifecycle.obligingLicence ⟨s.world, s.identity⟩ _ := .write opened written
    rw [silent, ← heard] at act
    exact .single act

lemma answers_helpful (r : DeviceRequest) (s : Noted) :
    answers Lifecycle.obligingLicence r s (helpful r s).1 (helpful r s).2 := by
  refine ⟨(helpful r s).2, ?_, Or.inl rfl⟩
  have calm := World.reply_calm Lifecycle.obligingLicence r s.world
  cases r with
  | park id mask deadline timer => exact ⟨acts_helpfulWait s, trivial⟩
  | openProvisioning session => exact Or.inl .refl
  | time => exact ⟨rfl, rfl⟩
  | pump timeout => exact ⟨rfl, rfl⟩
  | _ => exact ⟨calm, rfl⟩

/-- The device boots in helpful surroundings. -/
def helpfulBoot (bits : SignalBits) (s : Noted) : Noted :=
  (converse helpful (Lifecycle.boot ⟨"", .standard⟩ 4) (s.started bits)).2.2

lemma Life.helpfulBoot {s t : Noted} (bits : SignalBits)
    (h : Life Lifecycle.obligingLicence ⟨"", .standard⟩ s t) :
    Life Lifecycle.obligingLicence ⟨"", .standard⟩ s (t.helpfulBoot bits) :=
  h.period bits 4 (returns_converse answers_helpful _ _)

end Noted

/-- A new device whose identity was set. -/
def namedDevice : Noted where
  world := ⟨BlobMap.empty.put identityBlob (Bytes.encodeUtf8 uncapitalized), .none, some default⟩
  identity := some uncapitalized

/-- A client sets the identity of a new device.  The device stores it in its canonical form, and
this is its name when it has been provisioned, and also when it has then been reset. -/
theorem capitals_are_set_and_kept :
    ∃ d effect blobs, Returns (BlobMap.Answers Lifecycle.obligingLicence.refuses)
        (Session.write default capitalMessage) .empty d (effect, default) blobs ∧
      effect.reply = some ⟨7, .done⟩ ∧
      Session.accepted? capitalMessage effect = some uncapitalized ∧
      ∃ t u, Noted.Life Lifecycle.obligingLicence ⟨"", .standard⟩
          ⟨⟨blobs, .none, some default⟩, some uncapitalized⟩ t ∧
        Credentials.stored t.world.blobs = some ⟨"coop", "chickens"⟩ ∧
        t.world.phase = .configuring ∧ t.identity = some uncapitalized ∧
        Noted.NameKept Lifecycle.obligingLicence ⟨"", .standard⟩ t ∧
        Noted.Life Lifecycle.obligingLicence ⟨"", .standard⟩ t u ∧
        Credentials.stored u.world.blobs = none ∧
        u.world.phase = .provisioning ∧ u.identity = some uncapitalized ∧ u.world.session = none ∧
        Noted.NameKept Lifecycle.obligingLicence ⟨"", .standard⟩ u := by
  have message : ClientMessage.ofPayload? capitalMessage
      = some ⟨7, .command (.setUuid " 67E5504410B1426F9247BB680E5FE0C8")⟩ := by decide +kernel
  obtain ⟨u, parsed, name⟩ : ∃ u, Uuid.parse " 67E5504410B1426F9247BB680E5FE0C8" = .ok u ∧
      u.canonical = uncapitalized := by
    refine ⟨_, rfl, ?_⟩
    decide +kernel
  have ends : Program.Ends Lifecycle.obligingLicence.refuses
      (Session.write default capitalMessage) .empty _ :=
    (identity_is_canonical_and_lasts.set _).stored message parsed not_false
  obtain ⟨⟨d, ⟨effect, later⟩, blobs, written⟩, outcome⟩ := ends
  obtain ⟨done, rfl, rfl, noted⟩ := outcome _ _ _ written
  have canonical := (identity_is_canonical_and_lasts.read.canonical _ _ parsed).1
  rw [name] at written noted canonical
  have sound : namedDevice.Sound := by
    rintro _ ⟨⟩
    exact ⟨canonical, BlobMap.get?_put_self _ _ _⟩
  have provisioned := (Noted.Life.unused namedDevice).helpfulBoot .none
  have reset := (Noted.Life.unused (namedDevice.helpfulBoot .none)).helpfulBoot .resetRequested
  refine ⟨d, effect, _, written, done, noted, _, _, provisioned, by decide +kernel,
    by decide +kernel, by decide +kernel, ?_, reset, by decide +kernel, by decide +kernel,
    by decide +kernel, by decide +kernel, ?_⟩
  · exact identity_is_canonical_and_lasts.kept provisioned sound
  · exact identity_is_canonical_and_lasts.kept reset (provisioned.sound sound)

end HatchSensor
