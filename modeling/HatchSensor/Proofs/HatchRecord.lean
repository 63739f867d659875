import HatchSensor.Proofs.Blobs
import HatchSensor.Proofs.Bytes
import HatchSensor.Hatch.Store
import HatchSensor.Shadow.Document

/-!
# What the stored form of a configuration keeps

The eleven words of a configuration always survive storage.  Its identity does not always: the
field of the record is filled up with zeros and read up to the first of them, while
`HatchConfig.validate` looks at nothing but the length.  An identity with a zero character in it
passes, and comes back cut off.

`HatchConfig.decode_encode` says what comes back, for every configuration that passes, and
`HatchConfig.identity_survives_storage_iff` which configurations come back whole.
-/

namespace HatchSensor

namespace HatchConfig

/-! ## Configurations that pass -/

/-- An acceptable identity is not empty and fits its limit. -/
lemma uuid_size_of_validate {c : HatchConfig} (h : c.validate = .ok ()) :
    Bytes.textSize c.uuid ≠ 0 ∧ Bytes.textSize c.uuid ≤ uuidLimit := by
  unfold validate at h
  by_cases bad : Bytes.textSize c.uuid = 0 ∨ uuidLimit < Bytes.textSize c.uuid
  · simp [bad] at h
  · exact ⟨fun zero => bad (Or.inl zero), Nat.le_of_not_lt fun long => bad (Or.inr long)⟩

/-- What a document makes of a configuration is what it asks for, merged and accepted. -/
lemma merge_of_applyShadow {document : Bytes} {current c : HatchConfig}
    (h : applyShadow document current = .ok c) :
    ∃ desired, DesiredConfig.ofDocument document = .ok desired ∧ c = desired.merge current ∧
      c.validate = .ok () := by
  rw [applyShadow] at h
  cases read : DesiredConfig.ofDocument document with
  | error e => simp [read, bind, Except.bind] at h
  | ok desired =>
    simp only [read, bind, Except.bind] at h
    unfold DesiredConfig.apply at h
    split at h
    · next passed =>
      obtain rfl := Except.ok.inj h
      exact ⟨desired, rfl, rfl, passed⟩
    · exact absurd h (by simp)

/-- Whatever a shadow document makes of a configuration passes. -/
lemma validate_of_applyShadow {document : Bytes} {current c : HatchConfig}
    (h : applyShadow document current = .ok c) : c.validate = .ok () := by
  obtain ⟨_, -, -, passed⟩ := merge_of_applyShadow h
  exact passed

/-! ## The record -/

/-- The identity field has its full length if the identity fits. -/
lemma length_encodeUuid {uuid : String} (fits : Bytes.textSize uuid ≤ uuidLimit) :
    (encodeUuid uuid).length = uuidField := by
  have short : (Bytes.encodeUtf8 uuid).length ≤ uuidLimit := by
    rwa [Bytes.length_encodeUtf8]
  rw [encodeUuid, List.take_of_length_le short, List.length_append, List.length_replicate]
  unfold uuidField uuidLimit at *
  omega

/-- The identity field gives the identity back up to its first zero. -/
lemma decodeUuid_encodeUuid {uuid : String} (fits : Bytes.textSize uuid ≤ uuidLimit) :
    decodeUuid (encodeUuid uuid) = some (Bytes.beforeZero uuid) := by
  have short : (Bytes.encodeUtf8 uuid).length ≤ uuidLimit := by
    rwa [Bytes.length_encodeUtf8]
  have text : (encodeUuid uuid).takeWhile (· != 0)
      = Bytes.encodeUtf8 (Bytes.beforeZero uuid) := by
    rw [encodeUuid, List.take_of_length_le short, Bytes.takeWhile_encodeUtf8]
  have part : (Bytes.encodeUtf8 (Bytes.beforeZero uuid)).length ≤ uuidLimit := by
    rw [Bytes.length_encodeUtf8]
    exact (Bytes.textSize_beforeZero_le uuid).trans fits
  rw [decodeUuid, text, if_pos part, Bytes.decodeUtf8_encodeUtf8]

/-- The words of a configuration make up the configuration, up to its identity. -/
lemma ofWords_words (c : HatchConfig) (uuid : String) :
    ofWords uuid c.words = some { c with uuid } := rfl

/-- A configuration that was made of words has the identity it was given. -/
lemma uuid_of_ofWords {uuid : String} {words : List UInt32} {c : HatchConfig}
    (h : ofWords uuid words = some c) : c.uuid = uuid := by
  unfold ofWords at h
  split at h
  · obtain rfl := Option.some.inj h
    rfl
  · exact nomatch h

/-- Reading the stored form of a configuration gives all of it back except what follows the first
zero of its identity. -/
lemma decode_encode {c : HatchConfig} (fits : Bytes.textSize c.uuid ≤ uuidLimit) :
    decode c.encode = some { c with uuid := Bytes.beforeZero c.uuid } := by
  have field : (encodeUuid c.uuid).length = 40 := length_encodeUuid fits
  have shape : c.encode
      = Bytes.ofWord recordMarker ++ (encodeUuid c.uuid ++ c.words.flatMap Bytes.ofWord) := by
    rw [encode, List.append_assoc]
  have size : c.encode.length = recordSize := by
    rw [shape, List.length_append, List.length_append, field, Bytes.length_flatMap_ofWord]
    rfl
  have marker : Bytes.toWords (c.encode.take 4) = [recordMarker] := by
    rw [shape, List.take_left' (Bytes.length_ofWord _)]
    exact Bytes.toWords_ofWord_append recordMarker []
  have uuid : ((c.encode.drop 4).take uuidField) = encodeUuid c.uuid := by
    rw [shape, List.drop_left' (Bytes.length_ofWord _)]
    exact List.take_left' field
  have rest : c.encode.drop (4 + uuidField) = c.words.flatMap Bytes.ofWord := by
    rw [← List.drop_drop, shape, List.drop_left' (Bytes.length_ofWord _)]
    exact List.drop_left' field
  simp only [decode, size, marker, uuid, rest, ne_eq, not_true_eq_false, if_false,
    decodeUuid_encodeUuid fits, Bytes.toWords_flatMap_ofWord, ofWords_words]

/-! ### Identities that survive -/

/-- The identity fits its field, and there is no zero in it. -/
structure Storable (uuid : String) : Prop where
  fits : Bytes.textSize uuid ≤ uuidLimit
  whole : Bytes.beforeZero uuid = uuid

/-- An identity that was read from its field survives. -/
lemma storable_of_decodeUuid {field : Bytes} {uuid : String} (h : decodeUuid field = some uuid) :
    Storable uuid := by
  unfold decodeUuid at h
  dsimp only at h
  split at h
  · next fits =>
    have text := Bytes.encodeUtf8_of_decodeUtf8 h
    refine ⟨by rwa [← Bytes.length_encodeUtf8, text], ?_⟩
    -- there is no zero to cut the text off at
    have cut := Bytes.takeWhile_encodeUtf8 uuid 0
    have uncut : (Bytes.encodeUtf8 uuid).takeWhile (· != 0) = Bytes.encodeUtf8 uuid := by
      rw [text, List.takeWhile_idem]
    rw [List.replicate_zero, List.append_nil, uncut] at cut
    have same := congrArg Bytes.decodeUtf8 cut
    rw [Bytes.decodeUtf8_encodeUtf8, Bytes.decodeUtf8_encodeUtf8] at same
    exact (Option.some.inj same).symm
  · exact nomatch h

/-- Whatever is in the blob, the identity of the configuration it stands for survives. -/
lemma storable_ofBlob (content : Option Bytes) : Storable (ofBlob content).uuid := by
  have fresh : Storable default.uuid := ⟨by decide +kernel, by decide +kernel⟩
  cases content with
  | none => exact fresh
  | some bytes =>
    cases decoded : decode bytes with
    | none =>
      rw [ofBlob, decoded]
      exact fresh
    | some c =>
      rw [ofBlob, decoded, Option.getD_some]
      unfold decode at decoded
      split at decoded
      · exact nomatch decoded
      · split at decoded
        · exact nomatch decoded
        · split at decoded
          · exact nomatch decoded
          · next uuid field =>
            rw [uuid_of_ofWords decoded]
            exact storable_of_decodeUuid field

/-! ## The store -/

section Store

variable {refuses : BlobRequest → Prop} {m m' m'' : BlobMap} {d d' : Dialogue Blobs}

/-- A successful save puts the stored form into its blob and touches nothing else. -/
lemma blobs_of_save {c : HatchConfig}
    (saved : Program.Returns (BlobMap.Answers refuses) c.save.run m d (.ok ()) m') :
    m' = m.put blob c.encode := by
  obtain ⟨-, answered⟩ := Program.returns_request.mp saved
  rcases BlobMap.answers_write.mp answered with ⟨-, rfl⟩ | ⟨-, ⟨e, no⟩, -⟩
  · rfl
  · exact absurd no (by simp)

/-- What a blob stands for in which a configuration was stored. -/
lemma ofBlob_encode {c : HatchConfig} (fits : Bytes.textSize c.uuid ≤ uuidLimit) :
    ofBlob (some c.encode) = { c with uuid := Bytes.beforeZero c.uuid } := by
  rw [ofBlob, decode_encode fits]
  rfl

/-- Storage keeps an identity that survives. -/
lemma Storable.uuid_ofBlob {c : HatchConfig} (h : Storable c.uuid) :
    (ofBlob (some c.encode)).uuid = c.uuid := by
  rw [ofBlob_encode h.fits]
  exact h.whole

/-- Loading from a readable store gives what the blob stands for, and changes nothing. -/
lemma load_eq_ofBlob {c : HatchConfig} (readable : ¬ refuses (.read blob))
    (loaded : Program.Returns (BlobMap.Answers refuses) load m d c m') :
    c = ofBlob (m.get? blob) ∧ m' = m := by
  obtain ⟨d₁, x, u, d₂, rfl, read, value⟩ := Program.returns_bind.mp loaded
  obtain ⟨-, answered⟩ := Program.returns_request.mp read
  obtain ⟨rfl, rfl | ⟨no, -⟩⟩ := BlobMap.answers_read.mp answered
  · obtain ⟨-, rfl, rfl⟩ := Program.returns_done.mp value
    exact ⟨rfl, rfl⟩
  · exact absurd no readable

/-- What an acceptable configuration has become when it is read back: from its stored form, and
from a store in which it was saved with success and which can be read.  The words are the same; the
identity is the part before its first zero, and so the configuration is the same exactly if there
is no zero in its identity. -/
theorem identity_survives_storage_iff {c : HatchConfig} (passed : c.validate = .ok ()) :
    decode c.encode = some { c with uuid := Bytes.beforeZero c.uuid } ∧
      (decode c.encode = some c ↔ '\x00' ∉ c.uuid.toList) ∧
      ∀ (refuses : BlobRequest → Prop) (m m' : BlobMap) (d : Dialogue Blobs),
        ¬ refuses (.read blob) →
        Program.Returns (BlobMap.Answers refuses) c.save.run m d (.ok ()) m' →
          ∃ loaded, (∃ d' m'', Program.Returns (BlobMap.Answers refuses) load m' d' loaded m'') ∧
            (∀ d' c' m'', Program.Returns (BlobMap.Answers refuses) load m' d' c' m'' →
              c' = loaded) ∧
            loaded = { c with uuid := Bytes.beforeZero c.uuid } ∧
            (loaded = c ↔ '\x00' ∉ c.uuid.toList) := by
  have back := decode_encode (uuid_size_of_validate passed).2
  have whole : ({ c with uuid := Bytes.beforeZero c.uuid } : HatchConfig) = c
      ↔ '\x00' ∉ c.uuid.toList := by
    rw [← Bytes.beforeZero_eq_self_iff]
    constructor
    · intro same
      exact congrArg uuid same
    · intro same
      rw [same]
  refine ⟨back, ?_, ?_⟩
  · rw [back, Option.some.injEq, whole]
  · intro refuses m m' d readable saved
    have stored : ofBlob (m'.get? blob) = { c with uuid := Bytes.beforeZero c.uuid } := by
      rw [blobs_of_save saved, BlobMap.get?_put_self, ofBlob, back]
      rfl
    have unique : ∀ d' c' m'', Program.Returns (BlobMap.Answers refuses) load m' d' c' m'' →
        c' = { c with uuid := Bytes.beforeZero c.uuid } := by
      intro d' c' m'' loaded
      rw [← stored]
      exact (load_eq_ofBlob readable loaded).1
    obtain ⟨d', c', m'', loaded⟩ :=
      Program.exists_returns (B := BlobMap.Answers refuses) BlobMap.answers_total load m'
    exact ⟨_, ⟨d', m'', unique d' c' m'' loaded ▸ loaded⟩, unique, rfl, whole⟩

/-- A configuration that passes although there is a zero in its identity. -/
def zeroInIdentity : HatchConfig := { default with uuid := "a\x00b" }

/-- Such a configuration is another one once it has been stored. -/
theorem zero_cuts_the_identity :
    zeroInIdentity.validate = .ok () ∧
      decode zeroInIdentity.encode = some { zeroInIdentity with uuid := "a" } ∧
      decode zeroInIdentity.encode ≠ some zeroInIdentity := by
  have passed : zeroInIdentity.validate = .ok () := by decide +kernel
  obtain ⟨back, same, -⟩ := identity_survives_storage_iff passed
  refine ⟨passed, ?_, ?_⟩
  · rw [back]
    decide +kernel
  · rw [Ne, same]
    decide +kernel

end Store

end HatchConfig

end HatchSensor
