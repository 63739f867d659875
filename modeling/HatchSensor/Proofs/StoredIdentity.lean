import HatchSensor.Proofs.Commands
import HatchSensor.Proofs.StoredCredentials
import HatchSensor.Proofs.UuidSpellings

/-!
# The stored identity

A client sets the identity of the device by a command, in any of its spellings.  What is stored is
the canonical form, or nothing if the text is refused or the store fails:
`Session.returns_setUuid`.  No other message touches it (`Session.identity_of_write`), and a
canonical form comes out of the store as it went in, so that the device has this name
(`IsCanonical.called`).
-/

namespace HatchSensor

open Program

/-- The blob of the identity. -/
abbrev identityBlob : String := IdentityItem.uuid.blob

variable {refuses : BlobRequest → Prop} {m m' : BlobMap} {d : Dialogue Blobs}

/-! ## Names -/

namespace Uuid

/-- A canonical form comes out of the store as it went in. -/
lemma IsCanonical.textOf_encodeUtf8 {text : String} (h : IsCanonical text) :
    Blob.textOf (Bytes.encodeUtf8 text) = some text := by
  refine Blob.textOf_encodeUtf8 ?_ fun zero => ?_
  · intro empty
    have none : text = "" := String.utf8ByteSize_eq_zero_iff.mp empty
    have length := h.length
    rw [none] at length
    exact absurd length (by decide)
  · exact absurd (h.mem zero) (by decide)

end Uuid

/-- The device has the name: the identity that is stored, or its fallback if the store refuses to
read it. -/
def IsName (refuses : BlobRequest → Prop) (fallback text name : String) : Prop :=
  name = text ∨ refuses (.read identityBlob) ∧ name = fallback

/-- With a canonical form stored, the device has this name. -/
lemma isName_of_cloudName {fallback text name : String} (canonical : Uuid.IsCanonical text)
    (stored : m.get? identityBlob = some (Bytes.encodeUtf8 text))
    (h : Returns (BlobMap.Answers refuses) (cloudName fallback) m d name m') :
    IsName refuses fallback text name := by
  obtain ⟨d₁, found, m₁, d₂, -, read, value⟩ := returns_bind.mp h
  obtain ⟨-, rfl, -⟩ := returns_done.mp value
  obtain ⟨-, rfl | ⟨no, rfl⟩⟩ := Blob.returns_readText read
  · refine Or.inl ?_
    rw [Blob.textIn, stored, Option.bind_some, canonical.textOf_encodeUtf8]
    rfl
  · exact Or.inr ⟨no, rfl⟩

namespace Session

variable {session later : Session} {effect : WriteEffect}

/-! ## Setting the identity -/

/-- What becomes of a command to set the identity: its canonical form is stored, or the store
refuses it, or the text is no identity.  `y` says which, and the session stays as it is. -/
structure SetsIdentity (refuses : BlobRequest → Prop) (raw : String) (m m' : BlobMap)
    (y : Except CommandError Unit) : Prop where
  parsed : ∀ u, Uuid.parse raw = .ok u →
    (y = .ok () ∧ m' = m.put identityBlob (Bytes.encodeUtf8 u.canonical)) ∨
      (refuses (.write identityBlob (Bytes.encodeUtf8 u.canonical)) ∧ m' = m ∧
        ∃ reason, y = .error (.itemNotStored .uuid reason))
  strange : ∀ e, Uuid.parse raw = .error e → y = .error (.uuid raw e) ∧ m' = m

lemma setsIdentity_of_storeUuid {raw : String} {y : Except CommandError Unit}
    (h : Returns (BlobMap.Answers refuses) ((storeUuid raw).run session) m d (y, later) m') :
    SetsIdentity refuses raw m m' y ∧ later = session := by
  unfold storeUuid at h
  cases parsed : Uuid.parse raw with
  | error e =>
    simp only [parsed] at h
    obtain ⟨-, same, rfl⟩ := returns_done.mp h
    obtain ⟨rfl, rfl⟩ := Prod.mk.inj same
    refine ⟨⟨fun u found => (nomatch parsed.symm.trans found), ?_⟩, rfl⟩
    intro e' found
    obtain rfl := Except.error.inj (parsed.symm.trans found)
    exact ⟨rfl, rfl⟩
  | ok u =>
    simp only [parsed] at h
    have canonical := (Uuid.proper_of_parse parsed).isCanonical
    have full : ¬ (Text.trim u.canonical).isEmpty = true := by
      rw [canonical.trim_eq, String.isEmpty_iff]
      intro empty
      have length := canonical.length
      rw [empty] at length
      exact absurd length (by decide)
    rw [storeItem, if_neg full] at h
    obtain ⟨result, saved, rfl, rfl⟩ := returns_store h
    obtain ⟨-, answered⟩ := returns_request.mp saved
    refine ⟨⟨fun u' found => ?_, fun e found => nomatch parsed.symm.trans found⟩, rfl⟩
    obtain rfl := Except.ok.inj (parsed.symm.trans found)
    rcases BlobMap.answers_write.mp answered with ⟨rfl, stored⟩ | ⟨no, ⟨reason, rfl⟩, same⟩
    · exact Or.inl ⟨rfl, stored⟩
    · exact Or.inr ⟨no, same, reason, rfl⟩

/-- What a client is told of it. -/
def outcomeOf (y : Except CommandError Unit) : ReplyBody :=
  match y with
  | .ok () => .done
  | .error e => .failed e

/-- The command as a message. -/
lemma setsIdentity_of_write {payload : Bytes} {id : UInt32} {raw : String}
    (message : ClientMessage.ofPayload? payload = some ⟨id, .command (.setUuid raw)⟩)
    (h : Returns (BlobMap.Answers refuses) (session.write payload) m d (effect, later) m') :
    ∃ y, SetsIdentity refuses raw m m' y ∧ effect.reply = some ⟨id, outcomeOf y⟩ ∧
      later = session := by
  simp only [write, message, handle, execute, run_bind] at h
  obtain ⟨d₁, ⟨outcome, after⟩, m₁, d₂, -, executed, halted⟩ := returns_bind.mp h
  obtain ⟨d₃, ⟨y, after'⟩, m₂, d₄, -, stored, rest⟩ := returns_bind.mp executed
  obtain ⟨sets, rfl⟩ := setsIdentity_of_storeUuid stored
  refine ⟨y, ?_⟩
  cases y with
  | ok _ | error e =>
    obtain ⟨-, same, rfl⟩ := returns_done.mp rest
    obtain ⟨rfl, rfl⟩ := Prod.mk.inj same
    obtain ⟨-, same, rfl⟩ := returns_done.mp halted
    obtain ⟨rfl, rfl⟩ := Prod.mk.inj same
    exact ⟨sets, rfl, rfl⟩

/-! ## What other messages leave alone -/

/-- The canonical form of the identity that a write has set, if the client was told so. -/
def accepted? (payload : Bytes) (effect : WriteEffect) : Option String :=
  match ClientMessage.ofPayload? payload with
  | some ⟨id, .command (.setUuid raw)⟩ =>
    if effect.reply = some ⟨id, .done⟩ then (Uuid.parse raw).toOption.map Uuid.canonical else none
  | _ => none

lemma accepted?_of_message {payload : Bytes} {id : UInt32} {raw : String}
    (message : ClientMessage.ofPayload? payload = some ⟨id, .command (.setUuid raw)⟩) :
    accepted? payload effect = if effect.reply = some ⟨id, .done⟩ then
      (Uuid.parse raw).toOption.map Uuid.canonical else none := by
  rw [accepted?, message]

lemma accepted?_of_other {payload : Bytes}
    (strange : ∀ id raw, ClientMessage.ofPayload? payload ≠ some ⟨id, .command (.setUuid raw)⟩)
    (effect : WriteEffect) : accepted? payload effect = none := by
  rw [accepted?]
  split
  · next id raw message => exact absurd message (strange id raw)
  · rfl

/-- The identity is what a write has set, or what it was. -/
structure IdentityAfter (m m' : BlobMap) (set : Option String) : Prop where
  stored : ∀ text, set = some text →
    Uuid.IsCanonical text ∧ m'.get? identityBlob = some (Bytes.encodeUtf8 text)
  kept : set = none → m'.get? identityBlob = m.get? identityBlob

lemma identityAfter_of_write {payload : Bytes}
    (h : Returns (BlobMap.Answers refuses) (session.write payload) m d (effect, later) m') :
    IdentityAfter m m' (accepted? payload effect) := by
  have other : ∀ names : List String, accepted? payload effect = none →
      Program.ChangesOnly names (session.write payload) → identityBlob ∉ names →
      IdentityAfter m m' (accepted? payload effect) := by
    intro names none changes strange
    rw [none]
    exact ⟨nofun, fun _ => Reaches.get?_eq h changes strange⟩
  cases message : ClientMessage.ofPayload? payload with
  | none =>
    have bare : session.write payload = handleBare session payload := by rw [write, message]
    refine other [Credentials.ssidBlob, Credentials.passwordBlob]
      (by rw [accepted?, message]) ?_ (by decide)
    rw [bare]
    exact changesOnly_handleBare (by simp) (by simp) session payload
  | some found =>
    obtain ⟨id, body⟩ := found
    by_cases sets : ∃ raw, body = .command (.setUuid raw)
    · obtain ⟨raw, rfl⟩ := sets
      obtain ⟨y, outcome, reply, -⟩ := setsIdentity_of_write message h
      have read : accepted? payload effect = _ := accepted?_of_message message
      have unchanged : ∀ e, y = .error e → m' = m →
          IdentityAfter m m' (accepted? payload effect) := by
        rintro e rfl rfl
        have failed : effect.reply ≠ some ⟨id, .done⟩ := by simp [reply, outcomeOf]
        rw [read, if_neg failed]
        exact ⟨nofun, fun _ => rfl⟩
      cases parsed : Uuid.parse raw with
      | error e =>
        obtain ⟨failed, same⟩ := outcome.strange e parsed
        exact unchanged _ failed same
      | ok u =>
        rcases outcome.parsed u parsed with ⟨rfl, rfl⟩ | ⟨-, same, reason, failed⟩
        · have done : effect.reply = some ⟨id, .done⟩ := reply
          rw [read, if_pos done, parsed]
          refine ⟨?_, nofun⟩
          rintro _ ⟨⟩
          exact ⟨(Uuid.proper_of_parse parsed).isCanonical, BlobMap.get?_put_self _ _ _⟩
        · exact unchanged _ failed same
    · have handled : session.write payload = handle session ⟨id, body⟩ := by rw [write, message]
      refine other [Credentials.ssidBlob, Credentials.passwordBlob,
        IdentityItem.certificate.blob, IdentityItem.privateKey.blob, IdentityItem.rootCa.blob,
        HatchConfig.blob] ?_ ?_ (by decide)
      · rw [accepted?, message]
        cases body with
        | versionQuery => rfl
        | command c =>
          cases c with
          | setUuid raw => exact absurd ⟨raw, rfl⟩ sets
          | _ => rfl
      · rw [handled]
        refine changesOnly_handle session _ fun command same => ?_
        obtain rfl : body = .command command := same
        cases command with
        | setUuid raw => exact absurd ⟨raw, rfl⟩ sets
        | _ => simp [Command.blobs]

end Session

end HatchSensor
