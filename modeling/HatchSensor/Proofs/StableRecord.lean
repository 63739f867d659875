import HatchSensor.Proofs.HatchRecord
import HatchSensor.Proofs.ReadingRecords

/-!
# What is accepted as a stored configuration

The blob of the configuration may hold anything: an older record, garbage, half a character in front
of the end of the identity field, words that are no number.  `HatchConfig.IsRecord` says which bytes
are accepted, without a word about how they are read, and `HatchConfig.decode_eq_some_iff` that
exactly these are, and as which configuration.

What lies behind the first zero of the identity field is not looked at, and it is lost when the
configuration is stored again: `HatchConfig.cleaned`.  That is the only difference, so that one load
and one save bring whatever was accepted to a form that all later ones leave alone.
-/

namespace HatchSensor

open Program

namespace HatchConfig

variable {bytes : Bytes} {c : HatchConfig}

/-- The bytes of the identity: those of its field before the first zero. -/
def uuidBytes (bytes : Bytes) : Bytes :=
  ((bytes.drop 4).take uuidField).takeWhile (· != 0)

/-- The bytes are a record with a readable identity. -/
structure IsRecord (bytes : Bytes) : Prop where
  /-- The record is complete. -/
  size : bytes.length = 88
  /-- It starts with the marker, least significant byte first. -/
  marker : bytes.take 4 = [0xef, 0xbe, 0xad, 0xde]
  /-- There is a zero in the identity field, not behind place 36. -/
  ended : ∃ n ≤ 36, bytes[4 + n]? = some 0
  /-- What stands before the first zero is the encoding of a text. -/
  text : ∃ uuid, Bytes.encodeUtf8 uuid = uuidBytes bytes

/-- The record with nothing but zeros from the first zero of the identity field to its end. -/
def cleaned (bytes : Bytes) : Bytes :=
  let kept := 4 + (uuidBytes bytes).length
  bytes.take kept ++ List.replicate (44 - kept) 0 ++ bytes.drop 44

/-- The identity is what stands before the first zero, if that is not too long. -/
lemma decodeUuid_eq_some_iff {field : Bytes} {uuid : String} :
    decodeUuid field = some uuid ↔
      (field.takeWhile (· != 0)).length ≤ uuidLimit ∧
        Bytes.encodeUtf8 uuid = field.takeWhile (· != 0) := by
  unfold decodeUuid
  dsimp only
  split
  · next fits => rw [Bytes.decodeUtf8_eq_some_iff, and_iff_right fits]
  · next long => exact ⟨nofun, fun h => absurd h.1 long⟩

/-- Words make up the configuration that has them. -/
lemma ofWords_eq_some_iff {uuid : String} {words : List UInt32} :
    ofWords uuid words = some c ↔ c.uuid = uuid ∧ c.words = words := by
  constructor
  · intro made
    unfold ofWords at made
    split at made
    · obtain rfl := Option.some.inj made
      exact ⟨rfl, rfl⟩
    · exact nomatch made
  · rintro ⟨rfl, rfl⟩
    exact ofWords_words c c.uuid

/-- Eleven words make up a configuration. -/
lemma exists_ofWords (uuid : String) {words : List UInt32} (eleven : words.length = 11) :
    ∃ c, ofWords uuid words = some c := by
  match words, eleven with
  | [_, _, _, _, _, _, _, _, _, _, _], _ => exact ⟨_, rfl⟩

/-- The first four bytes are the marker exactly if they read as its word. -/
lemma toWords_take_eq_marker_iff (size : bytes.length = 88) :
    Bytes.toWords (bytes.take 4) = [recordMarker] ↔ bytes.take 4 = [0xef, 0xbe, 0xad, 0xde] := by
  have four : (bytes.take 4).length % 4 = 0 := by
    rw [List.length_take]
    omega
  have written : Bytes.ofWord recordMarker = [0xef, 0xbe, 0xad, 0xde] := by decide
  constructor
  · intro read
    rw [← Bytes.flatMap_ofWord_toWords four, read, List.flatMap_singleton, written]
  · intro same
    rw [same, ← written]
    exact Bytes.toWords_ofWord_append recordMarker []

/-- The identity ends in its field, and is not too long, exactly if there is a zero in time. -/
lemma length_uuidBytes_le_iff (size : bytes.length = 88) :
    (uuidBytes bytes).length ≤ uuidLimit ↔ ∃ n ≤ 36, bytes[4 + n]? = some 0 := by
  have limit : uuidLimit = 36 := rfl
  have place : ∀ n ≤ 36, ((bytes.drop 4).take uuidField)[n]? = bytes[4 + n]? := by
    intro n early
    have inside : n < uuidField := Nat.lt_of_le_of_lt early (by decide)
    rw [List.getElem?_take_of_lt inside, List.getElem?_drop]
  have field : uuidLimit < ((bytes.drop 4).take uuidField).length := by
    rw [List.length_take, List.length_drop, size]
    decide
  rw [uuidBytes, Bytes.length_takeWhile_le_iff field, limit]
  constructor
  · rintro ⟨n, early, zero⟩
    exact ⟨n, early, (place n early).symm.trans zero⟩
  · rintro ⟨n, early, zero⟩
    exact ⟨n, early, (place n early).trans zero⟩

/-! ## Reading -/

/-- Records are read, and nothing else, and as the configuration whose identity and whose words are
in them. -/
lemma decode_eq_some_iff :
    decode bytes = some c ↔
      IsRecord bytes ∧ Bytes.encodeUtf8 c.uuid = uuidBytes bytes ∧
        c.words.flatMap Bytes.ofWord = bytes.drop 44 := by
  have whole : bytes.length = 88 → (bytes.drop 44).length % 4 = 0 := by
    intro size
    rw [List.length_drop, size]
  constructor
  · intro read
    unfold decode at read
    split at read
    · exact nomatch read
    next size =>
    split at read
    · exact nomatch read
    next marker =>
    split at read
    · exact nomatch read
    next uuid identity =>
    have size : bytes.length = 88 := of_not_not size
    obtain ⟨fits, text⟩ := decodeUuid_eq_some_iff.mp identity
    obtain ⟨rfl, words⟩ := ofWords_eq_some_iff.mp read
    refine ⟨⟨size, ?_, ?_, ⟨c.uuid, text⟩⟩, text, ?_⟩
    · exact (toWords_take_eq_marker_iff size).mp (of_not_not marker)
    · exact (length_uuidBytes_le_iff size).mp fits
    · rw [words]
      exact Bytes.flatMap_ofWord_toWords (whole size)
  · rintro ⟨record, text, words⟩
    have marker := (toWords_take_eq_marker_iff record.size).mpr record.marker
    have fits := (length_uuidBytes_le_iff record.size).mpr record.ended
    have identity : decodeUuid ((bytes.drop 4).take uuidField) = some c.uuid :=
      decodeUuid_eq_some_iff.mpr ⟨fits, text⟩
    have read : Bytes.toWords (bytes.drop (4 + uuidField)) = c.words :=
      (congrArg Bytes.toWords words.symm).trans (Bytes.toWords_flatMap_ofWord c.words)
    have size : ¬ bytes.length ≠ recordSize := not_not_intro record.size
    rw [decode, if_neg size, if_neg (not_not_intro marker), identity]
    exact ofWords_eq_some_iff.mpr ⟨rfl, read.symm⟩

/-- Every record is read. -/
lemma IsRecord.exists_decode (record : IsRecord bytes) : ∃ c, decode bytes = some c := by
  obtain ⟨uuid, text⟩ := record.text
  have size := record.size
  have eleven : (Bytes.toWords (bytes.drop 44)).length = 11 := by
    rw [Bytes.length_toWords, List.length_drop, size]
  obtain ⟨c, made⟩ := exists_ofWords uuid eleven
  obtain ⟨rfl, words⟩ := ofWords_eq_some_iff.mp made
  refine ⟨c, decode_eq_some_iff.mpr ⟨record, text, ?_⟩⟩
  rw [words]
  refine Bytes.flatMap_ofWord_toWords ?_
  rw [List.length_drop, size]

/-! ## Storing again -/

/-- A configuration that was read is stored as it was, but for what nobody looks at. -/
lemma encode_of_decode (read : decode bytes = some c) : c.encode = cleaned bytes := by
  obtain ⟨record, text, words⟩ := decode_eq_some_iff.mp read
  have fits := (length_uuidBytes_le_iff record.size).mpr record.ended
  have marker : Bytes.ofWord recordMarker = bytes.take 4 := by
    rw [record.marker]
    decide
  have start : (bytes.drop 4).take (uuidBytes bytes).length = uuidBytes bytes :=
    (List.prefix_iff_eq_take.mp
      ((List.takeWhile_prefix _).trans (List.take_prefix uuidField (bytes.drop 4)))).symm
  have zeros : uuidField - (uuidBytes bytes).length = 44 - (4 + (uuidBytes bytes).length) := by
    unfold uuidField
    omega
  calc c.encode
      = bytes.take 4 ++ (uuidBytes bytes ++ List.replicate (uuidField - (uuidBytes bytes).length) 0)
          ++ bytes.drop 44 := by
        rw [encode, encodeUuid, text, List.take_of_length_le fits, words, marker]
    _ = cleaned bytes := by
        rw [cleaned, List.take_add, start, zeros]
        simp only [List.append_assoc]

/-- No zero is left in an identity that was read, and it is not too long. -/
lemma storable_of_decode (read : decode bytes = some c) : Storable c.uuid := by
  obtain ⟨record, text, -⟩ := decode_eq_some_iff.mp read
  have fits := (length_uuidBytes_le_iff record.size).mpr record.ended
  exact storable_of_decodeUuid (decodeUuid_eq_some_iff.mpr ⟨fits, text⟩)

/-- It is read back as it was. -/
lemma decode_encode_of_decode (read : decode bytes = some c) : decode c.encode = some c := by
  have storable := storable_of_decode read
  rw [decode_encode storable.fits, storable.whole]

/-! ### In the store -/

/-- Load the configuration and store it again. -/
def resave : Program Blobs (Stored Unit) := do
  (← load).save.run

section Store

variable {refuses : BlobRequest → Prop} {m m' : BlobMap} {d : Dialogue Blobs} {y : Stored Unit}

/-- In a store that can be read, this writes what the blob stands for. -/
lemma returns_resave_iff (readable : ¬ refuses (.read blob)) :
    (∃ d, Returns (BlobMap.Answers refuses) resave m d y m') ↔
      BlobMap.Answers refuses (.write blob (ofBlob (m.get? blob)).encode) m y m' := by
  constructor
  · rintro ⟨d, done⟩
    obtain ⟨_, loaded, m₁, _, -, first, second⟩ := returns_bind.mp done
    obtain ⟨rfl, rfl⟩ := load_eq_ofBlob readable first
    exact (returns_request.mp second).2
  · intro written
    obtain ⟨d₁, loaded, m₁, first⟩ :=
      exists_returns (B := BlobMap.Answers refuses) BlobMap.answers_total load m
    obtain ⟨rfl, rfl⟩ := load_eq_ofBlob readable first
    exact ⟨_, returns_bind.mpr ⟨d₁, _, m₁, _, rfl, first, returns_request.mpr ⟨rfl, written⟩⟩⟩

/-- What a blob with a record stands for. -/
lemma ofBlob_of_decode (stored : m.get? blob = some bytes) (read : decode bytes = some c) :
    ofBlob (m.get? blob) = c := by
  rw [stored, ofBlob, read]
  rfl

/-- A record that was stored again is stored again as it is, if it is stored. -/
lemma eq_of_resave_again (readable : ¬ refuses (.read blob)) (read : decode bytes = some c)
    (done : Returns (BlobMap.Answers refuses) resave (m.put blob c.encode) d y m') :
    m' = m.put blob c.encode := by
  have same : ofBlob ((m.put blob c.encode).get? blob) = c :=
    ofBlob_of_decode (BlobMap.get?_put_self _ _ _) (decode_encode_of_decode read)
  have written := (returns_resave_iff readable).mp ⟨d, done⟩
  rw [same] at written
  rcases BlobMap.answers_write.mp written with ⟨-, rfl⟩ | ⟨-, -, rfl⟩
  · exact BlobMap.put_put m blob c.encode c.encode
  · rfl

end Store

/-- Which bytes are accepted as a stored configuration, and what becomes of them.  Exactly the
records are accepted.  The identity is then one that survives storage, and with the words it is what
the record holds, bit for bit.  The configuration is stored as the record without the bytes that are
not looked at, and read back as it was.  So in any store that can be read the first load and save,
if it succeeds, leaves that form, which loads as the same configuration and which no later load and
save changes. -/
theorem decoding_is_stable (bytes : Bytes) :
    ((∃ c, decode bytes = some c) ↔ IsRecord bytes) ∧
      ∀ c, decode bytes = some c →
        ('\x00' ∉ c.uuid.toList ∧ Bytes.textSize c.uuid ≤ 36) ∧
          (Bytes.encodeUtf8 c.uuid = uuidBytes bytes ∧
            c.words.flatMap Bytes.ofWord = bytes.drop 44) ∧
          decode c.encode = some c ∧
          c.encode = cleaned bytes ∧
          ∀ (refuses : BlobRequest → Prop) (m : BlobMap),
            ¬ refuses (.read blob) → m.get? blob = some bytes →
            (¬ refuses (.write blob (cleaned bytes)) →
              ∃ d, Returns (BlobMap.Answers refuses) resave m d (.ok ())
                (m.put blob (cleaned bytes))) ∧
            ∀ d m', Returns (BlobMap.Answers refuses) resave m d (.ok ()) m' →
              m' = m.put blob (cleaned bytes) ∧
                (∀ d' c' m'', Returns (BlobMap.Answers refuses) load m' d' c' m'' → c' = c) ∧
                ∀ d' y m'', Returns (BlobMap.Answers refuses) resave m' d' y m'' → m'' = m' := by
  refine ⟨⟨fun ⟨c, read⟩ => (decode_eq_some_iff.mp read).1, IsRecord.exists_decode⟩, ?_⟩
  intro c read
  obtain ⟨-, held⟩ := decode_eq_some_iff.mp read
  have storable := storable_of_decode read
  have again := decode_encode_of_decode read
  have form := encode_of_decode read
  refine ⟨⟨Bytes.beforeZero_eq_self_iff.mp storable.whole, storable.fits⟩, held, again, form, ?_⟩
  intro refuses m readable stored
  have first : ∀ y m', (∃ d, Returns (BlobMap.Answers refuses) resave m d y m') ↔
      BlobMap.Answers refuses (.write blob (cleaned bytes)) m y m' := by
    intro y m'
    rw [returns_resave_iff readable, ofBlob_of_decode stored read, form]
  refine ⟨fun _ => (first _ _).mpr (BlobMap.answers_write.mpr (Or.inl ⟨rfl, rfl⟩)), ?_⟩
  intro d m' done
  obtain ⟨-, rfl⟩ | ⟨-, ⟨e, no⟩, -⟩ := BlobMap.answers_write.mp ((first _ _).mp ⟨d, done⟩)
  · rw [← form]
    refine ⟨rfl, ?_, fun d' y m'' => eq_of_resave_again readable read⟩
    intro d' c' m'' loaded
    obtain ⟨rfl, -⟩ := load_eq_ofBlob readable loaded
    exact ofBlob_of_decode (BlobMap.get?_put_self _ _ _) again
  · exact nomatch no

/-- A record with garbage behind a short identity, and with bounds that are no number. -/
def wornRecord : Bytes :=
  [0xef, 0xbe, 0xad, 0xde] ++ [0x68, 0xc3, 0xa9, 0x00] ++ List.replicate 36 0xff ++
    List.flatMap Bytes.ofWord
      [900, 1731536000, 0x7fc00001, 0xffc00000, 0x80000000, 0, 0, 8, 1, 3, 48]

/-- It is accepted, and its garbage is gone once it has been stored again. -/
theorem worn_record_is_cleaned :
    ∃ c, decode wornRecord = some c ∧ c.uuid = "hé" ∧ c.low.bits = 0x7fc00001 ∧
      decode c.encode = some c ∧ c.encode ≠ wornRecord ∧
      c.encode = wornRecord.take 7 ++ List.replicate 37 0 ++ wornRecord.drop 44 := by
  obtain ⟨accepted, kept⟩ := decoding_is_stable wornRecord
  have text : Bytes.encodeUtf8 "hé" = uuidBytes wornRecord := by decide +kernel
  have record : IsRecord wornRecord :=
    ⟨by decide, by decide, ⟨3, by decide, by decide⟩, ⟨"hé", text⟩⟩
  obtain ⟨c, read⟩ := accepted.mpr record
  obtain ⟨-, ⟨-, words⟩, again, form, -⟩ := kept c read
  have uuid : decode wornRecord = some { c with uuid := "hé" } :=
    decode_eq_some_iff.mpr ⟨record, text, words⟩
  have low : (decode wornRecord).map (·.low.bits) = some 0x7fc00001 := by decide +kernel
  have shape : cleaned wornRecord
      = wornRecord.take 7 ++ List.replicate 37 0 ++ wornRecord.drop 44 := by decide +kernel
  rw [read] at uuid low
  refine ⟨c, read, congrArg HatchConfig.uuid (Option.some.inj uuid), Option.some.inj low, again, ?_,
    form.trans shape⟩
  rw [form]
  decide +kernel

end HatchConfig

end HatchSensor
