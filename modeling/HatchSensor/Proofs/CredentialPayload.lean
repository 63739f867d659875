import HatchSensor.Proofs.PrintedJson
import HatchSensor.Proofs.StoredCredentials

/-!
# Credentials in a payload

The two halves of the credentials are looked for among the entries of an object, which are sorted by
name.  An object has one entry for each name that occurs in it, with the value of its last member of
that name (`Json.mem_entries`), so that the first entry of some kind is the one whose name is the
least of that kind (`Json.find?_entries`).

The main statement is `Credentials.payload_is_read_exactly`: which credentials a payload stands for,
if any, that nothing else in the payload matters, and that all acceptable credentials have a
payload.
-/

namespace HatchSensor

/-! ## The entries of an object -/

namespace Json

variable {α : Type} {name : String} {value : α} {sorted : List (String × α)}

/-- The entries are in the order of their names, no name occurring twice. -/
def Ascending (sorted : List (String × α)) : Prop := sorted.Pairwise fun e e' => e.1 < e'.1

/-- An entry is put into sorted entries instead of the one of its name, if there is one. -/
lemma mem_insertEntry (ascending : Ascending sorted) {e : String × α} :
    e ∈ insertEntry name value sorted ↔ e = (name, value) ∨ (e.1 ≠ name ∧ e ∈ sorted) := by
  induction sorted with
  | nil => simp [insertEntry]
  | cons first rest ih =>
    obtain ⟨n, v⟩ := first
    obtain ⟨least, later⟩ := List.pairwise_cons.mp ascending
    rw [insertEntry]
    split
    · next same =>
      subst same
      have others : ∀ e ∈ rest, e.1 ≠ name := by
        rintro e there rfl
        exact String.lt_irrefl _ (least e there)
      simp only [List.mem_cons]
      constructor
      · rintro (new | there)
        · exact Or.inl new
        · exact Or.inr ⟨others e there, Or.inr there⟩
      · rintro (new | ⟨other, rfl | there⟩)
        · exact Or.inl new
        · exact absurd rfl other
        · exact Or.inr there
    · next other =>
      split
      · next before =>
        have others : ∀ e ∈ (n, v) :: rest, e.1 ≠ name := by
          rintro e there rfl
          rcases List.mem_cons.mp there with rfl | there
          · exact other rfl
          · exact String.lt_asymm before (least e there)
        rw [List.mem_cons]
        exact or_congr_right ⟨fun there => ⟨others e there, there⟩, And.right⟩
      · rw [List.mem_cons, ih later, List.mem_cons]
        constructor
        · rintro (rfl | new | ⟨strange, there⟩)
          · exact Or.inr ⟨fun same => other same.symm, Or.inl rfl⟩
          · exact Or.inl new
          · exact Or.inr ⟨strange, Or.inr there⟩
        · rintro (new | ⟨strange, rfl | there⟩)
          · exact Or.inr (Or.inl new)
          · exact Or.inl rfl
          · exact Or.inr (Or.inr ⟨strange, there⟩)

lemma ascending_insertEntry (ascending : Ascending sorted) (name : String) (value : α) :
    Ascending (insertEntry name value sorted) := by
  induction sorted with
  | nil => exact List.pairwise_singleton _ _
  | cons first rest ih =>
    obtain ⟨n, v⟩ := first
    obtain ⟨least, later⟩ := List.pairwise_cons.mp ascending
    rw [insertEntry]
    split
    · next same => exact List.pairwise_cons.mpr ⟨same ▸ least, later⟩
    · next other =>
      split
      · next before =>
        refine List.pairwise_cons.mpr ⟨fun e there => ?_, ascending⟩
        rcases List.mem_cons.mp there with rfl | there
        · exact before
        · exact String.lt_trans before (least e there)
      · next behind =>
        refine List.pairwise_cons.mpr ⟨fun e there => ?_, ih later⟩
        rcases (mem_insertEntry later).mp there with rfl | ⟨-, there⟩
        · exact Std.lt_of_le_of_ne (String.not_lt.mp behind) (Ne.symm other)
        · exact least e there

/-- One more member at the end. -/
lemma entries_concat (members : List (String × α)) (m : String × α) :
    entries (members ++ [m]) = insertEntry m.1 m.2 (entries members) := by
  rw [entries, List.foldl_append]
  rfl

lemma ascending_entries (members : List (String × α)) : Ascending (entries members) := by
  induction members using List.reverseRecOn with
  | nil => exact List.Pairwise.nil
  | append_singleton members m ih =>
    rw [entries_concat]
    exact ascending_insertEntry ih m.1 m.2

/-- There is one entry for each name, with the value of the last member of that name. -/
lemma mem_entries {members : List (String × α)} {e : String × α} :
    e ∈ entries members ↔ lookup members e.1 = some e.2 := by
  induction members using List.reverseRecOn with
  | nil => simp [entries, lookup]
  | append_singleton members m ih =>
    obtain ⟨name, value⟩ := m
    obtain ⟨n, v⟩ := e
    rw [entries_concat, mem_insertEntry (ascending_entries members), ih]
    by_cases same : name = n
    · subst same
      simp [lookup, eq_comm]
    · have other : n ≠ name := fun h => same h.symm
      simp [lookup, same, other]

/-- The names that members have are those that stand for something. -/
lemma mem_names_iff {members : List (String × α)} {name : String} :
    name ∈ members.map Prod.fst ↔ ∃ value, lookup members name = some value := by
  induction members using List.reverseRecOn with
  | nil => simp [lookup]
  | append_singleton members m ih =>
    obtain ⟨n, v⟩ := m
    by_cases same : n = name
    · simp [lookup, same]
    · have other : name ≠ n := fun h => same h.symm
      rw [List.map_append, List.mem_append, ih]
      simp [lookup, same, other]

/-- Of sorted entries, the first of some kind is the one of the least name. -/
lemma find?_eq_some_iff_of_ascending (ascending : Ascending sorted) {kind : String × α → Bool}
    {e : String × α} :
    sorted.find? kind = some e ↔
      e ∈ sorted ∧ kind e = true ∧ ∀ e' ∈ sorted, kind e' = true → e.1 ≤ e'.1 := by
  induction sorted with
  | nil => simp
  | cons first rest ih =>
    obtain ⟨least, later⟩ := List.pairwise_cons.mp ascending
    cases found : kind first with
    | true =>
      rw [List.find?_cons_of_pos found, Option.some_inj]
      constructor
      · rintro rfl
        refine ⟨List.mem_cons_self, found, fun e' there _ => ?_⟩
        rcases List.mem_cons.mp there with rfl | there
        · exact String.le_refl _
        · exact Std.le_of_lt (least e' there)
      · rintro ⟨there, -, minimal⟩
        rcases List.mem_cons.mp there with rfl | there
        · rfl
        · exact absurd (least e there) (String.not_lt.mpr (minimal first List.mem_cons_self found))
    | false =>
      have strange : ¬ kind first = true := by simp [found]
      rw [List.find?_cons_of_neg strange, ih later]
      constructor
      · rintro ⟨there, good, minimal⟩
        refine ⟨List.mem_cons_of_mem _ there, good, fun e' there' good' => ?_⟩
        rcases List.mem_cons.mp there' with rfl | there'
        · exact absurd good' strange
        · exact minimal e' there' good'
      · rintro ⟨there, good, minimal⟩
        rcases List.mem_cons.mp there with rfl | there
        · exact absurd good strange
        · exact ⟨there, good, fun e' there' => minimal e' (List.mem_cons_of_mem _ there')⟩

end Json

/-! ## Names in the order of their bytes -/

namespace Text

/-- All characters are of the first 128, which take one byte each. -/
def IsAscii (text : String) : Prop := ∀ c ∈ text.toList, c.toNat ≤ 127

instance (text : String) : Decidable (IsAscii text) := List.decidableBAll _ _

/-- The case of letters does not change whether a character is one of them. -/
lemma toNat_le_of_lowerLetter {c : Char} (h : (lowerLetter c).toNat ≤ 127) : c.toNat ≤ 127 := by
  rw [lowerLetter] at h
  split at h
  · next capital =>
    have last : c.toNat ≤ 'Z'.toNat := capital.2
    have small : 'Z'.toNat ≤ 127 := by decide
    omega
  · exact h

lemma IsAscii.of_sameLetters {text name : String} (ascii : IsAscii (lowerLetters name))
    (same : sameLetters text name = true) : IsAscii text := by
  intro c there
  refine toNat_le_of_lowerLetter (ascii _ ?_)
  rw [← beq_iff_eq.mp same, lowerLetters, String.toList_ofList]
  exact List.mem_map_of_mem there

/-- The only byte of a character. -/
def byte (c : Char) : UInt8 := UInt8.ofNat c.toNat

lemma toNat_byte {c : Char} (small : c.toNat ≤ 127) : (byte c).toNat = c.toNat := by
  rw [byte, UInt8.toNat_ofNat']
  exact Nat.mod_eq_of_lt (by omega)

lemma encodeUtf8_of_isAscii {text : String} (ascii : IsAscii text) :
    Bytes.encodeUtf8 text = text.toList.map byte := by
  have one : ∀ c ∈ text.toList, String.utf8EncodeChar c = [byte c] := by
    intro c there
    have small : c.val.toNat ≤ 127 := ascii c there
    rw [String.utf8EncodeChar, if_pos small]
    rfl
  rw [Bytes.encodeUtf8_eq_flatMap, List.flatMap_congr one, List.map_eq_flatMap]

/-- One byte for each character keeps the order. -/
lemma map_byte_lt_iff {l l' : List Char} (small : ∀ c ∈ l, c.toNat ≤ 127)
    (small' : ∀ c ∈ l', c.toNat ≤ 127) : l.map byte < l'.map byte ↔ l < l' := by
  induction l generalizing l' with
  | nil => cases l' <;> simp
  | cons c l ih =>
    cases l' with
    | nil => simp
    | cons c' l' =>
      obtain ⟨first, rest⟩ := List.forall_mem_cons.mp small
      obtain ⟨first', rest'⟩ := List.forall_mem_cons.mp small'
      have less : byte c < byte c' ↔ c < c' := by
        rw [UInt8.lt_iff_toNat_lt, toNat_byte first, toNat_byte first']
        rfl
      have same : byte c = byte c' ↔ c = c' := by
        rw [← UInt8.toNat_inj, toNat_byte first, toNat_byte first', Char.toNat_inj]
      rw [List.map_cons, List.map_cons, List.cons_lt_cons_iff, List.cons_lt_cons_iff, less, same,
        ih rest rest']

/-- Texts of such characters are in the order of their bytes. -/
lemma encodeUtf8_le_iff {a b : String} (ha : IsAscii a) (hb : IsAscii b) :
    Bytes.encodeUtf8 a ≤ Bytes.encodeUtf8 b ↔ a ≤ b := by
  rw [encodeUtf8_of_isAscii ha, encodeUtf8_of_isAscii hb, ← List.not_lt, map_byte_lt_iff hb ha,
    ← String.not_lt]
  rfl

end Text

/-! ## Credentials -/

namespace Credentials

variable {members : List (String × Json)} {name key text : String} {c : Credentials}

/-- The names of an object, as a document has them. -/
def names (members : List (String × Json)) : List String := members.map Prod.fst

/-- Of the names of the object that are the given name up to the case of letters, `key` is the
least in the order of their bytes. -/
structure LeastNamed (members : List (String × Json)) (name key : String) : Prop where
  there : key ∈ names members
  named : Text.sameLetters key name = true
  least : ∀ other ∈ names members, Text.sameLetters other name = true →
    Bytes.encodeUtf8 key ≤ Bytes.encodeUtf8 other

/-- The object gives the text for a name. -/
def HoldsText (members : List (String × Json)) (name text : String) : Prop :=
  ∃ key, LeastNamed members name key ∧ Json.lookup members key = some (.string text)

/-- The first entry of a name up to case is that of the least such name. -/
lemma find?_entries_iff (ascii : Text.IsAscii (Text.lowerLetters name)) {value : Json} :
    (Json.entries members).find? (fun e => Text.sameLetters e.1 name) = some (key, value) ↔
      LeastNamed members name key ∧ Json.lookup members key = some value := by
  have order : ∀ {key other}, Text.sameLetters key name = true →
      Text.sameLetters other name = true →
      (Bytes.encodeUtf8 key ≤ Bytes.encodeUtf8 other ↔ key ≤ other) := fun hk ho =>
    Text.encodeUtf8_le_iff (ascii.of_sameLetters hk) (ascii.of_sameLetters ho)
  rw [Json.find?_eq_some_iff_of_ascending (Json.ascending_entries members), Json.mem_entries]
  constructor
  · rintro ⟨found, named, minimal⟩
    refine ⟨⟨Json.mem_names_iff.mpr ⟨value, found⟩, named, fun other there named' => ?_⟩, found⟩
    obtain ⟨value', found'⟩ := Json.mem_names_iff.mp there
    exact (order named named').mpr (minimal (other, value') (Json.mem_entries.mpr found') named')
  · rintro ⟨⟨-, named, least⟩, found⟩
    refine ⟨found, named, fun e there named' => ?_⟩
    have mentioned := Json.mem_names_iff.mpr ⟨_, Json.mem_entries.mp there⟩
    exact (order named named').mp (least e.1 mentioned named')

lemma field_eq_ok_iff (ascii : Text.IsAscii (Text.lowerLetters name)) :
    field members name = .ok text ↔ HoldsText members name text := by
  have first : field members name = .ok text ↔ ∃ key,
      (Json.entries members).find? (fun e => Text.sameLetters e.1 name)
        = some (key, .string text) := by
    rw [field]
    split
    · next key found same => simp [same]
    · next other =>
      constructor
      · exact nofun
      · rintro ⟨key, same⟩
        exact absurd same (other key text)
  rw [first]
  exact exists_congr fun key => find?_entries_iff ascii

/-- The object stands for the credentials. -/
structure StandsFor (members : List (String × Json)) (c : Credentials) : Prop where
  ssid : HoldsText members "wifiSSID" c.ssid
  password : HoldsText members "wifiPassword" c.password
  ssidSize : 1 ≤ (Bytes.encodeUtf8 c.ssid).length ∧ (Bytes.encodeUtf8 c.ssid).length ≤ 32
  passwordSize : 1 ≤ (Bytes.encodeUtf8 c.password).length ∧
    (Bytes.encodeUtf8 c.password).length ≤ 64

lemma fits_iff {limit : Nat} :
    fits limit text = true ↔
      1 ≤ (Bytes.encodeUtf8 text).length ∧ (Bytes.encodeUtf8 text).length ≤ limit := by
  rw [Bytes.length_encodeUtf8]
  exact decide_eq_true_iff

/-- Credentials are read off an object exactly if it stands for them. -/
lemma ofJson_object_eq_ok_iff : ofJson (.object members) = .ok c ↔ StandsFor members c := by
  have ssid : field members "wifiSSID" = .ok c.ssid ↔ HoldsText members "wifiSSID" c.ssid :=
    field_eq_ok_iff (by decide)
  have password : field members "wifiPassword" = .ok c.password ↔
      HoldsText members "wifiPassword" c.password := field_eq_ok_iff (by decide)
  have read : ofJson (.object members) = .ok c ↔ field members "wifiSSID" = .ok c.ssid ∧
      field members "wifiPassword" = .ok c.password ∧ c.validate = .ok () := by
    simp only [ofJson]
    cases field members "wifiSSID" with
    | error e => simp [bind, Except.bind]
    | ok found =>
      cases field members "wifiPassword" with
      | error e => simp [bind, Except.bind]
      | ok found' =>
        cases valid : validate ⟨found, found'⟩ with
        | error e =>
          simp only [bind, Except.bind, valid]
          constructor
          · exact nofun
          · rintro ⟨⟨⟩, ⟨⟩, accepted⟩
            exact nomatch valid.symm.trans accepted
        | ok u =>
          simp only [bind, Except.bind, valid, pure, Except.pure, Except.ok.injEq]
          constructor
          · rintro rfl
            exact ⟨rfl, rfl, valid⟩
          · rintro ⟨rfl, rfl, -⟩
            rfl
  rw [read, ssid, password, validate_eq_ok_iff, fits_iff, fits_iff]
  constructor
  · rintro ⟨first, second, size, size'⟩
    exact ⟨first, second, size, size'⟩
  · rintro ⟨first, second, size, size'⟩
    exact ⟨first, second, size, size'⟩

lemma ofJson_eq_ok_iff {value : Json} :
    ofJson value = .ok c ↔ ∃ members, value = .object members ∧ StandsFor members c := by
  cases value with
  | object members =>
    rw [ofJson_object_eq_ok_iff]
    constructor
    · intro h
      exact ⟨members, rfl, h⟩
    · rintro ⟨_, ⟨⟩, h⟩
      exact h
  | _ => simp [ofJson]

/-- Of the names of the object, `key` is the only one that is the given name up to the case of
letters. -/
structure OnlyNamed (members : List (String × Json)) (name key : String) : Prop where
  there : key ∈ names members
  only : ∀ other ∈ names members, Text.sameLetters other name = true ↔ other = key

/-- The names that credentials have in an object. -/
def keys : List String := ["wifiSSID", "wifiPassword"]

/-- Each of the two names of credentials is in both objects once, in some case, and with the same
value. -/
def SameFields (members members' : List (String × Json)) : Prop :=
  ∀ name ∈ keys, ∃ key key', OnlyNamed members name key ∧ OnlyNamed members' name key' ∧
    Json.lookup members key = Json.lookup members' key'

lemma OnlyNamed.leastNamed (h : OnlyNamed members name key) : LeastNamed members name key where
  there := h.there
  named := (h.only key h.there).mpr rfl
  least := fun other there named => by
    rw [(h.only other there).mp named]
    exact List.le_refl _

/-- What a field is comes from the only member of its name. -/
lemma field_of_onlyNamed (ascii : Text.IsAscii (Text.lowerLetters name))
    (h : OnlyNamed members name key) :
    field members name = match Json.lookup members key with
      | some (.string text) => .ok text
      | _ => .error (.missing name) := by
  obtain ⟨value, found⟩ := Json.mem_names_iff.mp h.there
  rw [field, (find?_entries_iff ascii).mpr ⟨h.leastNamed, found⟩, found]
  cases value <;> rfl

lemma ofJson_congr {members' : List (String × Json)} (same : SameFields members members') :
    ofJson (.object members) = ofJson (.object members') := by
  have field_congr : ∀ name ∈ keys, field members name = field members' name := by
    intro name there
    have ascii : Text.IsAscii (Text.lowerLetters name) := by
      revert name
      decide
    obtain ⟨key, key', only, only', agree⟩ := same name there
    rw [field_of_onlyNamed ascii only, field_of_onlyNamed ascii only', agree]
  simp only [ofJson, field_congr "wifiSSID" (by decide), field_congr "wifiPassword" (by decide)]

/-! ## A payload for all credentials -/

section Payload

open Json

/-- What is printed of credentials. -/
def printed (c : Credentials) : List Member :=
  [⟨"wifiSSID", writeString c.ssid, .string c.ssid⟩,
    ⟨"wifiPassword", writeString c.password, .string c.password⟩]

/-- Credentials as a payload. -/
def toPayload (c : Credentials) : Bytes :=
  Bytes.encodeUtf8 (writeMembers (c.printed.map fun m => (m.name, m.text)))

/-- The members that are read back. -/
def written (c : Credentials) : List (String × Json) :=
  [("wifiSSID", .string c.ssid), ("wifiPassword", .string c.password)]

lemma parseBytes?_toPayload (c : Credentials) :
    parseBytes? c.toPayload = some (.object c.written) := by
  have spelled : ∀ m ∈ c.printed, Spells 126 1 m.text m.value := by
    simp only [printed, List.forall_mem_cons]
    exact ⟨spells_string 126 c.ssid, spells_string 126 c.password, nofun⟩
  have whole : Spells depthLimit 4 (writeMembers (c.printed.map fun m => (m.name, m.text)))
      (.object c.written) := spells_object _ _ spelled
  have long : 1 ≤ (writeMembers (c.printed.map fun m => (m.name, m.text))).length := by
    rw [writeMembers, String.length_append, String.length_append]
    have brace : "\x7b".length = 1 := by decide
    omega
  rw [toPayload, parseBytes?, Bytes.decodeUtf8_encodeUtf8, Option.bind_some]
  exact parse?_of_spells whole (by omega)

lemma standsFor_written (valid : c.validate = .ok ()) : StandsFor c.written c := by
  have ssid : OnlyNamed c.written "wifiSSID" "wifiSSID" :=
    ⟨List.mem_cons_self, show ∀ other ∈ keys, _ from by decide⟩
  have password : OnlyNamed c.written "wifiPassword" "wifiPassword" :=
    ⟨List.mem_cons_of_mem _ List.mem_cons_self, show ∀ other ∈ keys, _ from by decide⟩
  obtain ⟨ssidFits, passwordFits⟩ := validate_eq_ok_iff.mp valid
  exact
    { ssid := ⟨_, ssid.leastNamed, rfl⟩
      password := ⟨_, password.leastNamed, rfl⟩
      ssidSize := fits_iff.mp ssidFits
      passwordSize := fits_iff.mp passwordFits }

end Payload

/-- How credentials come out of payloads. -/
structure ReadExactly : Prop where
  /-- Credentials are read off objects that stand for them, and off nothing else. -/
  value : ∀ value c, ofJson value = .ok c ↔
    ∃ members, value = .object members ∧ StandsFor members c
  /-- So it is with payloads. -/
  payload : ∀ payload c, ofPayload payload = .ok c ↔
    ∃ members, Json.parseBytes? payload = some (.object members) ∧ StandsFor members c
  /-- Neither the case of the two names matters, nor where they are, nor what else there is. -/
  alike : ∀ payload payload' members members',
    Json.parseBytes? payload = some (.object members) →
    Json.parseBytes? payload' = some (.object members') →
    SameFields members members' → ofPayload payload = ofPayload payload'
  /-- All acceptable credentials come out of some payload. -/
  reached : ∀ c : Credentials, c.validate = .ok () → ∃ payload, ofPayload payload = .ok c

/-- A payload gives the two texts under the least spellings of their names, if these are texts of
the right lengths, and nothing else. -/
theorem payload_is_read_exactly : ReadExactly where
  value := fun _ _ => ofJson_eq_ok_iff
  payload := by
    intro payload c
    rw [ofPayload]
    cases Json.parseBytes? payload with
    | none => simp
    | some value => simpa using ofJson_eq_ok_iff
  alike := by
    intro payload payload' members members' read read' same
    rw [ofPayload, ofPayload, read, read']
    exact ofJson_congr same
  reached := by
    intro c valid
    refine ⟨c.toPayload, ?_⟩
    rw [ofPayload, parseBytes?_toPayload]
    exact ofJson_object_eq_ok_iff.mpr (standsFor_written valid)

/-- Capitals come before small letters, and the last member of a name counts. -/
example : field [("wifissid", .string "a"), ("WiFiSSID", .string "b"), ("WiFiSSID", .string "c")]
    "wifiSSID" = .ok "c" :=
  rfl

end Credentials

end HatchSensor
