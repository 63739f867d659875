import HatchSensor.Proofs.HatchRecord
import HatchSensor.Proofs.PrintedJson
import HatchSensor.Simulator.Run

/-!
# The simulated hatch

The shadow document of the simulator is a text that the device parses.  Its end is a parameter, so
it is read symbolically: the text spells the value that was meant, the desired configuration in that
value is `Simulation.wish`, and merging the wish onto any configuration gives a valid one.
-/

namespace HatchSensor

open Json

namespace Simulation

/-- The members of the desired configuration, with the values that they are read as. -/
def desired (endTime : UInt32) : List Member :=
  [⟨"hatchUUID", writeString hatch, .string hatch⟩,
    ⟨"endUnixTimestamp", endTime.toNat.repr, .number (.integer endTime.toNat)⟩,
    ⟨"measureIntervalSec", "900", .number (.integer 900)⟩,
    ⟨"measurementsBeforePublishing", "4", .number (.integer 4)⟩,
    ⟨"lowTemperature", "36.0", .number (.float ⟨0x4042000000000000⟩)⟩,
    ⟨"highTemperature", "39.5", .number (.float ⟨0x4043c00000000000⟩)⟩,
    ⟨"temperatureOffset", "-0.3", .number (.float ⟨0xbfd3333333333333⟩)⟩]

/-- The value of the document. -/
def documentValue (endTime : UInt32) : Json :=
  .object [("state", .object [("desired",
    .object ((desired endTime).map fun m => (m.name, m.value)))])]

/-- The texts of the members spell their values. -/
lemma spells_desired (depth : Nat) (endTime : UInt32) :
    ∀ m ∈ desired endTime, Spells depth 1 m.text m.value := by
  have fits : endTime.toNat ≤ longLimit := by
    have := endTime.toNat_lt
    unfold longLimit
    simp only [UInt64.size]
    omega
  have low : Literal.value ⟨false, ['3', '6'], ['0'], none⟩
      = some (.float ⟨0x4042000000000000⟩) := by decide +kernel
  have high : Literal.value ⟨false, ['3', '9'], ['5'], none⟩
      = some (.float ⟨0x4043c00000000000⟩) := by decide +kernel
  have offset : Literal.value ⟨true, ['0'], ['3'], none⟩
      = some (.float ⟨0xbfd3333333333333⟩) := by decide +kernel
  have interval : (900).repr = "900" := by decide
  have publishAfter : (4).repr = "4" := by decide
  have digits : ∀ {digits : List Char}, digits.all Char.isDigit = true →
      ∀ c ∈ digits, c.isDigit := List.all_eq_true.mp
  simp only [desired, List.forall_mem_cons]
  refine ⟨spells_string _ _, spells_nat _ fits, ?_, ?_, ?_, ?_, ?_, ?_⟩
  · exact interval ▸ spells_nat depth (by decide)
  · exact publishAfter ▸ spells_nat depth (by decide)
  · exact spells_decimal depth false ⟨digits rfl, by decide⟩ (digits rfl) (by decide) low
  · exact spells_decimal depth false ⟨digits rfl, by decide⟩ (digits rfl) (by decide) high
  · exact spells_decimal depth true ⟨digits rfl, by decide⟩ (digits rfl) (by decide) offset
  · exact fun _ h => absurd h List.not_mem_nil

/-- A member whose value is an object. -/
def nested (name : String) (members : List Member) : Member where
  name := name
  text := writeMembers (members.map fun m => (m.name, m.text))
  value := .object (members.map fun m => (m.name, m.value))

/-- The document is parsed as what it spells. -/
lemma parse?_document (endTime : UInt32) :
    parse? (document endTime) = some (documentValue endTime) := by
  have desired : Spells 125 9 (nested "desired" (desired endTime)).text
      (nested "desired" (desired endTime)).value :=
    spells_object _ _ (spells_desired 124 endTime)
  have state : Spells 126 11 (nested "state" [nested "desired" (Simulation.desired endTime)]).text
      (nested "state" [nested "desired" (Simulation.desired endTime)]).value :=
    spells_object _ _ (List.forall_mem_singleton.mpr desired)
  have spelled : Spells 127 13 (document endTime) (documentValue endTime) :=
    spells_object (nested "state" [nested "desired" (Simulation.desired endTime)]) []
      (List.forall_mem_singleton.mpr state)
  have name : (writeString "state").length = 7 := by decide
  have long : 7 ≤ (document endTime).length := by
    unfold document
    dsimp only
    rw [writeMembers, List.map_singleton, String.intercalate_singleton, String.length_append,
      String.length_append, String.length_append, String.length_append, name]
    omega
  exact parse?_of_spells spelled (by omega)

/-- What the document asks for. -/
def wish (endTime : UInt32) : DesiredConfig where
  uuid := hatch
  endTime := endTime
  interval := 900
  publishAfter := some 4
  low := some ⟨0x42100000⟩
  high := some ⟨0x421e0000⟩
  lowRunLimit := none
  highRunLimit := none
  offset := some ⟨0xbe99999a⟩

/-- The identity of the hatch is stored as it is. -/
lemma storable_hatch : HatchConfig.Storable hatch := ⟨by decide +kernel, by decide +kernel⟩

/-- A word that was written as a number is read again. -/
lemma readWord_toNat (key : String) (w : UInt32) :
    DesiredConfig.readWord key (.number (.integer w.toNat)) = .ok w := by
  have small : (w.toNat : Int) < 0x100000000 := by
    have := w.toNat_lt
    omega
  have word : JsonNumber.word? (.integer w.toNat) = some w := by
    rw [JsonNumber.word?, if_pos ⟨Int.natCast_nonneg _, small⟩, Int.toNat_natCast,
      UInt32.ofNat_toNat]
  rw [DesiredConfig.readWord, DesiredConfig.word?, word]

open DesiredConfig in
lemma ofMembers_desired (endTime : UInt32) :
    ofMembers ((desired endTime).map fun m => (m.name, m.value)) = .ok (wish endTime) := by
  have interval : readWord "measureIntervalSec" (.number (.integer 900)) = .ok 900 := by decide
  have publishAfter : readWord "measurementsBeforePublishing" (.number (.integer 4)) = .ok 4 := by
    decide
  have low : readNumber "lowTemperature" (.number (.float ⟨0x4042000000000000⟩))
      = .ok ⟨0x42100000⟩ := by decide +kernel
  have high : readNumber "highTemperature" (.number (.float ⟨0x4043c00000000000⟩))
      = .ok ⟨0x421e0000⟩ := by decide +kernel
  have offset : readNumber "temperatureOffset" (.number (.float ⟨0xbfd3333333333333⟩))
      = .ok ⟨0xbe99999a⟩ := by decide +kernel
  have bind : ∀ {α β : Type} (a : α) (f : α → Except ShadowError β),
      (Except.ok a >>= f) = f a := fun _ _ => rfl
  simp only [ofMembers, desired, List.map_cons, List.map_nil]
  simp [requiredText, requiredWord, required, DesiredConfig.optional, lookup, bind, readWord_toNat,
    interval, publishAfter, low, high, offset, Except.map]
  rfl

/-- The document asks for what was wished. -/
lemma ofDocument_document (endTime : UInt32) :
    DesiredConfig.ofDocument (Bytes.encodeUtf8 (document endTime)) = .ok (wish endTime) := by
  have found : DesiredConfig.ofJson (documentValue endTime)
      = DesiredConfig.ofMembers ((desired endTime).map fun m => (m.name, m.value)) := by
    simp [DesiredConfig.ofJson, documentValue, DesiredConfig.members?, Json.get?, Json.members?,
      lookup]
  rw [DesiredConfig.ofDocument, parseBytes?, Bytes.decodeUtf8_encodeUtf8, Option.bind_some,
    parse?_document]
  dsimp only
  rw [found, ofMembers_desired]

/-- The document is usable, whatever it is merged onto. -/
lemma applyShadow_document (endTime : UInt32) (c : HatchConfig) :
    applyShadow (Bytes.encodeUtf8 (document endTime)) c = .ok ((wish endTime).merge c) := by
  have valid : ((wish endTime).merge c).validate = .ok () := by
    have uuid : ¬ (Bytes.textSize ((wish endTime).merge c).uuid = 0 ∨
        HatchConfig.uuidLimit < Bytes.textSize ((wish endTime).merge c).uuid) :=
      show ¬ (Bytes.textSize hatch = 0 ∨ HatchConfig.uuidLimit < Bytes.textSize hatch) by decide
    have interval : ¬ ((wish endTime).merge c).interval = 0 := show ¬ (900 : UInt32) = 0 by decide
    have band : ((wish endTime).merge c).low.less ((wish endTime).merge c).high = true :=
      show (⟨0x42100000⟩ : Single).less ⟨0x421e0000⟩ = true by decide +kernel
    have offset : ((wish endTime).merge c).offset.isFinite = true :=
      show (⟨0xbe99999a⟩ : Single).isFinite = true by decide +kernel
    unfold HatchConfig.validate
    dsimp only
    rw [if_neg uuid, if_neg interval, band, offset]
    rfl
  have apply : applyShadow (Bytes.encodeUtf8 (document endTime)) c = (wish endTime).apply c := by
    simp only [applyShadow, ofDocument_document, bind, Except.bind]
  rw [apply, DesiredConfig.apply, valid]

end Simulation

end HatchSensor
