import HatchSensor.Proofs.PrintedNumbers
import HatchSensor.Proofs.Publishing

/-!
# What a message says

A message is read here as those who get it read it: as a JSON document, by the names of its members.
`Message.device?`, `Message.hatch?` and `Message.time?` are what it says of the device, of the hatch
and of the time of the reading.  The message of a reading can always be read, whatever was measured
and whatever characters the two names have, and it says what it was made from.
-/

namespace HatchSensor

open Json

namespace Reading

/-- The message of a reading is a document that is read as an object with seven members. -/
lemma exists_parse?_message (r : Reading) (device hatch : String) :
    ∃ temperature humidity pressure gas, Json.parse? (r.message device hatch)
      = some (.object
          [("unixTime", .number (.integer r.time.toNat)), ("peepUUID", .string device),
            ("hatchUUID", .string hatch), ("temperature", temperature), ("humidity", humidity),
            ("pressure", pressure), ("gasResistance", gas)]) := by
  obtain ⟨temperature, spelled₁⟩ := r.temperature.exists_spells 126
  obtain ⟨humidity, spelled₂⟩ := r.humidity.exists_spells 126
  obtain ⟨pressure, spelled₃⟩ := r.pressure.exists_spells 126
  obtain ⟨gas, spelled₄⟩ := r.gas.exists_spells 126
  have word : r.time.toNat ≤ longLimit := by
    have small := r.time.toNat_lt
    unfold longLimit
    simp only [UInt64.size]
    omega
  -- the first member, and the others
  have time : Spells 126 1 r.time.toNat.repr (.number (.integer r.time.toNat)) :=
    spells_nat 126 word
  have others : ∀ m ∈ ([⟨"peepUUID", writeString device, .string device⟩,
      ⟨"hatchUUID", writeString hatch, .string hatch⟩,
      ⟨"temperature", r.temperature.toJsonText, temperature⟩,
      ⟨"humidity", r.humidity.toJsonText, humidity⟩,
      ⟨"pressure", r.pressure.toJsonText, pressure⟩,
      ⟨"gasResistance", r.gas.toJsonText, gas⟩] : List Member), Spells 126 1 m.text m.value := by
    simp only [List.forall_mem_cons]
    exact ⟨spells_string _ _, spells_string _ _, spelled₁, spelled₂, spelled₃, spelled₄,
      fun _ none => absurd none List.not_mem_nil⟩
  have spelled := spells_object ⟨"unixTime", r.time.toNat.repr, .number (.integer r.time.toNat)⟩ _
    (List.forall_mem_cons.mpr ⟨time, others⟩)
  have long : 10 ≤ (r.message device hatch).length := by
    have name : (writeString "unixTime").length = 10 := by decide
    unfold message writeMembers
    rw [List.map_cons, List.map_cons, String.intercalate_cons_cons]
    simp only [String.length_append, name]
    omega
  refine ⟨temperature, humidity, pressure, gas, parse?_of_spells spelled ?_⟩
  show 9 ≤ 2 * (r.message device hatch).length + 2
  omega

end Reading

namespace Message

/-- A member of a message. -/
def member? (payload : Bytes) (name : String) : Option Json :=
  (Json.parseBytes? payload).bind fun value => value.get? name

/-- The device that a message names. -/
def device? (payload : Bytes) : Option String := (member? payload "peepUUID").bind string?

/-- The hatch that a message names. -/
def hatch? (payload : Bytes) : Option String := (member? payload "hatchUUID").bind string?

/-- The time that a message names, which is a natural number. -/
def time? (payload : Bytes) : Option Nat :=
  match member? payload "unixTime" with
  | some (.number (.integer n)) => n.toNat?
  | _ => none

section Payload

variable (name hatch : String) (r : Reading)

/-- The members of a payload are those of the message. -/
lemma member?_payload :
    member? (Cycle.payload name hatch r) "unixTime" = some (.number (.integer r.time.toNat)) ∧
      member? (Cycle.payload name hatch r) "peepUUID" = some (.string name) ∧
      member? (Cycle.payload name hatch r) "hatchUUID" = some (.string hatch) := by
  obtain ⟨temperature, humidity, pressure, gas, parsed⟩ := r.exists_parse?_message name hatch
  have read := parsed
  rw [← Option.bind_some (f := Json.parse?), ← Bytes.decodeUtf8_encodeUtf8] at read
  unfold member? Cycle.payload parseBytes?
  rw [read]
  exact ⟨rfl, rfl, rfl⟩

/-- The message of a reading names the device that publishes it. -/
lemma device?_payload : device? (Cycle.payload name hatch r) = some name := by
  rw [device?, (member?_payload name hatch r).2.1]
  rfl

/-- The message of a reading names the hatch it is published for. -/
lemma hatch?_payload : hatch? (Cycle.payload name hatch r) = some hatch := by
  rw [hatch?, (member?_payload name hatch r).2.2]
  rfl

/-- The message of a reading names the time at which it was taken. -/
lemma time?_payload : time? (Cycle.payload name hatch r) = some r.time.toNat := by
  rw [time?, (member?_payload name hatch r).1]
  rfl

end Payload

end Message

end HatchSensor
