import HatchSensor.Proofs.Trimming
import HatchSensor.Proofs.Undisturbed

/-!
# Stored texts and credentials

A text lies in its blob as it is, and on the way back zeros at its end are taken off:
`Blob.textOf_encodeUtf8_eq_some_iff`.  A text without a zero therefore comes back whole, and so do
acceptable credentials made of two such texts.
-/

namespace HatchSensor

open Program

/-! ## Texts -/

namespace Blob

variable {refuses : BlobRequest → Prop} {m m' : BlobMap} {d : Dialogue Blobs}
  {name text back : String}

/-- The text in a blob of the map. -/
def textIn (m : BlobMap) (name : String) : Option String := (m.get? name).bind textOf

/-- The text ends in a zero. -/
def EndsInZero (text : String) : Prop := text.toList.getLast? = some '\x00'

instance (text : String) : Decidable (EndsInZero text) := inferInstanceAs (Decidable (_ = _))

/-- What comes back of a stored text: the text without the zeros at its end, unless that is
nothing. -/
structure Restores (text back : String) : Prop where
  zeros : ∃ n, text.toList = back.toList ++ List.replicate n '\x00'
  bare : ¬ EndsInZero back
  full : back ≠ ""

/-- A text is taken apart in one way only. -/
lemma dropEndWhile_eq_iff :
    Text.dropEndWhile (· == '\x00') text = back ↔
      (∃ n, text.toList = back.toList ++ List.replicate n '\x00') ∧ ¬ EndsInZero back := by
  rw [← String.toList_inj, Text.toList_dropEndWhile, Text.rdropWhile_eq_iff]
  refine and_congr ⟨?_, ?_⟩ ⟨?_, ?_⟩
  · rintro ⟨tail, shape, all⟩
    have zeros : tail = List.replicate tail.length '\x00' :=
      List.eq_replicate_iff.mpr ⟨rfl, fun c hc => beq_iff_eq.mp (all c hc)⟩
    exact ⟨tail.length, zeros ▸ shape⟩
  · rintro ⟨n, shape⟩
    exact ⟨_, shape, fun c hc => beq_iff_eq.mpr (List.eq_of_mem_replicate hc)⟩
  · intro other last
    exact absurd (other _ last) (by decide)
  · intro bare c last
    refine beq_eq_false_iff_ne.mpr ?_
    rintro rfl
    exact bare last

/-- A stored text comes back without the zeros at its end. -/
lemma textOf_encodeUtf8_eq_some_iff :
    textOf (Bytes.encodeUtf8 text) = some back ↔ Restores text back := by
  unfold textOf
  rw [Bytes.decodeUtf8_encodeUtf8]
  dsimp only
  constructor
  · intro h
    split at h
    · exact nomatch h
    · next full =>
      obtain ⟨zeros, bare⟩ := dropEndWhile_eq_iff.mp (Option.some.inj h)
      exact ⟨zeros, bare, fun empty => full (Option.some.inj h ▸ empty ▸ rfl)⟩
  · rintro ⟨zeros, bare, full⟩
    rw [dropEndWhile_eq_iff.mpr ⟨zeros, bare⟩, if_neg]
    rwa [String.isEmpty_iff]

/-- A text comes back whole exactly if it does not end in a zero. -/
lemma restores_self_iff (full : text ≠ "") : Restores text text ↔ ¬ EndsInZero text :=
  ⟨fun h => h.bare, fun bare => ⟨⟨0, (List.append_nil _).symm⟩, bare, full⟩⟩

/-- A text that is not empty and has no zero in it is read back. -/
lemma textOf_encodeUtf8 (size : Bytes.textSize text ≠ 0) (plain : '\x00' ∉ text.toList) :
    textOf (Bytes.encodeUtf8 text) = some text := by
  have full : text ≠ "" := by
    rintro rfl
    exact size rfl
  have bare : ¬ EndsInZero text := fun last => plain (List.mem_of_getLast? last)
  exact textOf_encodeUtf8_eq_some_iff.mpr ((restores_self_iff full).mpr bare)

/-- Reading a text gives what is in the blob, or nothing if the blob cannot be read. -/
lemma returns_readText {found : Option String}
    (h : Returns (BlobMap.Answers refuses) (readText name) m d found m') :
    m' = m ∧ (found = textIn m name ∨ refuses (.read name) ∧ found = none) := by
  obtain ⟨y, m₁, d₂, -, answered, value⟩ := returns_request_bind.mp h
  obtain ⟨rfl, rfl | ⟨no, e, rfl⟩⟩ := BlobMap.answers_read.mp answered
  · cases content : m₁.get? name with
    | none =>
      simp only [content] at value
      obtain ⟨-, rfl, rfl⟩ := returns_done.mp value
      exact ⟨rfl, Or.inl (by rw [textIn, content]; rfl)⟩
    | some bytes =>
      simp only [content] at value
      obtain ⟨-, rfl, rfl⟩ := returns_done.mp value
      exact ⟨rfl, Or.inl (by rw [textIn, content]; rfl)⟩
  · obtain ⟨-, rfl, rfl⟩ := returns_done.mp value
    exact ⟨rfl, Or.inr ⟨no, rfl⟩⟩

end Blob

/-! ## Credentials -/

namespace Credentials

variable {refuses : BlobRequest → Prop} {m m' : BlobMap} {d : Dialogue Blobs} {c : Credentials}

/-- Credentials are acceptable if both halves are. -/
lemma validate_eq_ok_iff :
    c.validate = .ok () ↔ fits ssidLimit c.ssid = true ∧ fits passwordLimit c.password = true := by
  unfold validate
  cases fits ssidLimit c.ssid <;> cases fits passwordLimit c.password <;> simp

lemma textSize_ne_zero_of_fits {limit : Nat} {text : String} (h : fits limit text = true) :
    Bytes.textSize text ≠ 0 := by
  have bounds := of_decide_eq_true h
  omega

/-- The credentials in the blobs of the map, if both halves are there and acceptable. -/
def stored (m : BlobMap) : Option Credentials :=
  (Blob.textIn m ssidBlob).bind fun ssid =>
    (Blob.textIn m passwordBlob).bind fun password => accept ⟨ssid, password⟩

lemma stored_congr (ssid : m'.get? ssidBlob = m.get? ssidBlob)
    (password : m'.get? passwordBlob = m.get? passwordBlob) : stored m' = stored m := by
  unfold stored Blob.textIn
  rw [ssid, password]

/-- Loading gives the stored credentials, or nothing if a half of them cannot be read. -/
lemma returns_load {found : Option Credentials}
    (h : Returns (BlobMap.Answers refuses) load m d found m') :
    m' = m ∧ (found = stored m ∨
      (refuses (.read ssidBlob) ∨ refuses (.read passwordBlob)) ∧ found = none) := by
  obtain ⟨d₁, ssid, m₁, d₂, -, first, h₁⟩ := returns_bind.mp h
  obtain ⟨rfl, rfl | ⟨no, rfl⟩⟩ := Blob.returns_readText first
  · cases one : Blob.textIn m₁ ssidBlob with
    | none =>
      simp only [one] at h₁
      obtain ⟨-, rfl, rfl⟩ := returns_done.mp h₁
      exact ⟨rfl, Or.inl (by rw [stored, one]; rfl)⟩
    | some ssid =>
      simp only [one] at h₁
      obtain ⟨d₃, password, m₂, d₄, -, second, value⟩ := returns_bind.mp h₁
      obtain ⟨rfl, rfl | ⟨no, rfl⟩⟩ := Blob.returns_readText second
      · cases two : Blob.textIn m₂ passwordBlob with
        | none =>
          simp only [two] at value
          obtain ⟨-, rfl, rfl⟩ := returns_done.mp value
          exact ⟨rfl, Or.inl (by rw [stored, one, two]; rfl)⟩
        | some password =>
          simp only [two] at value
          obtain ⟨-, rfl, rfl⟩ := returns_done.mp value
          exact ⟨rfl, Or.inl (by rw [stored, one, two]; rfl)⟩
      · obtain ⟨-, rfl, rfl⟩ := returns_done.mp value
        exact ⟨rfl, Or.inr ⟨Or.inr no, rfl⟩⟩
  · obtain ⟨-, rfl, rfl⟩ := returns_done.mp h₁
    exact ⟨rfl, Or.inr ⟨Or.inl no, rfl⟩⟩

/-- From a store that can be read the stored credentials are loaded. -/
lemma load_eq_stored (ssid : ¬ refuses (.read ssidBlob)) (password : ¬ refuses (.read passwordBlob))
    {found : Option Credentials} (h : Returns (BlobMap.Answers refuses) load m d found m') :
    found = stored m := by
  obtain ⟨-, same | ⟨no, -⟩⟩ := returns_load h
  · exact same
  · exact absurd no (not_or.mpr ⟨ssid, password⟩)

/-- Loaded credentials are stored. -/
lemma stored_of_load (h : Returns (BlobMap.Answers refuses) load m d (some c) m') :
    stored m = some c := by
  obtain ⟨-, same | ⟨-, missing⟩⟩ := returns_load h
  · exact same.symm
  · exact nomatch missing

/-- Carrying out the load on the map gives the stored credentials. -/
lemma perform_load (m : BlobMap) :
    BlobMap.perform load m = (stored m, m) := by
  rcases performed : BlobMap.perform load m with ⟨found, m'⟩
  obtain ⟨d, loaded⟩ : ∃ d, Returns (BlobMap.Answers fun _ => False) load m d found m' :=
    BlobMap.returns_of_perform performed
  rw [load_eq_stored not_false not_false loaded, (returns_load loaded).1]

/-- The credentials were written, the name of the network first. -/
def savedIn (c : Credentials) (m : BlobMap) : BlobMap :=
  (m.put ssidBlob (Bytes.encodeUtf8 c.ssid)).put passwordBlob (Bytes.encodeUtf8 c.password)

lemma get?_ssid_savedIn : (c.savedIn m).get? ssidBlob = some (Bytes.encodeUtf8 c.ssid) :=
  (BlobMap.get?_put_of_ne _ (by decide) _).trans (BlobMap.get?_put_self _ _ _)

lemma get?_password_savedIn :
    (c.savedIn m).get? passwordBlob = some (Bytes.encodeUtf8 c.password) :=
  BlobMap.get?_put_self _ _ _

/-- A save writes both halves, or one of the writes is refused. -/
lemma saved_or_refused {y : Stored Unit}
    (h : Returns (BlobMap.Answers refuses) c.save.run m d y m') :
    (y = .ok () ∧ m' = c.savedIn m) ∨ (∃ e, y = .error e) ∧ ¬ BlobMap.Writable refuses := by
  have unwritable : ∀ {name content}, refuses (.write name content) →
      ¬ BlobMap.Writable refuses := fun {name content} no writable =>
    writable (.write name content) (Option.some_ne_none name) no
  unfold save at h
  rw [ExceptT.run_bind] at h
  obtain ⟨x, m₁, d₂, -, answered, h₁⟩ := returns_request_bind.mp h
  rcases BlobMap.answers_write.mp answered with ⟨rfl, rfl⟩ | ⟨no, ⟨e, rfl⟩, -⟩
  · obtain ⟨-, answered'⟩ := returns_request.mp h₁
    rcases BlobMap.answers_write.mp answered' with ⟨rfl, rfl⟩ | ⟨no, failed, -⟩
    · exact Or.inl ⟨rfl, rfl⟩
    · exact Or.inr ⟨failed, unwritable no⟩
  · exact Or.inr ⟨⟨e, (returns_done.mp h₁).2.1⟩, unwritable no⟩

/-- A store that refuses no change takes the credentials. -/
lemma returns_save (writable : BlobMap.Writable refuses) {y : Stored Unit}
    (h : Returns (BlobMap.Answers refuses) c.save.run m d y m') :
    y = .ok () ∧ m' = c.savedIn m :=
  (saved_or_refused h).resolve_right fun failed => failed.2 writable

/-- A save that succeeds has written both halves. -/
lemma eq_savedIn_of_save (h : Returns (BlobMap.Answers refuses) c.save.run m d (.ok ()) m') :
    m' = c.savedIn m := by
  rcases saved_or_refused h with ⟨-, saved⟩ | ⟨⟨e, failed⟩, -⟩
  · exact saved
  · exact nomatch failed

/-- Acceptable credentials without zeros are stored as they are. -/
lemma stored_savedIn (valid : c.validate = .ok ()) (ssid : '\x00' ∉ c.ssid.toList)
    (password : '\x00' ∉ c.password.toList) : stored (c.savedIn m) = some c := by
  obtain ⟨first, second⟩ := validate_eq_ok_iff.mp valid
  have one : Blob.textIn (c.savedIn m) ssidBlob = some c.ssid := by
    rw [Blob.textIn, get?_ssid_savedIn]
    exact Blob.textOf_encodeUtf8 (textSize_ne_zero_of_fits first) ssid
  have two : Blob.textIn (c.savedIn m) passwordBlob = some c.password := by
    rw [Blob.textIn, get?_password_savedIn]
    exact Blob.textOf_encodeUtf8 (textSize_ne_zero_of_fits second) password
  rw [stored, one, two]
  show accept c = some c
  rw [accept, valid]

end Credentials

end HatchSensor
