import HatchSensor.Proofs.PrintedJson
import HatchSensor.Proofs.ShadowContents
import Mathlib.Logic.Relation

/-!
# Documents that mean the same

The device takes a document by what it says and not by how it is written.  Members may be put in
another order, members that nobody knows may be added, and integers may be written as texts.  `Edit`
is one such change to the members of an object, `Reworded` any number of them to a document.

`shadow_merge_is_exact` puts this beside `applyShadow_eq_ok_iff`: reworded documents have the same
outcome, and a document that is merged once more changes nothing.
-/

namespace HatchSensor

namespace Json

/-! ## Members -/

section Members

variable {known : List String} {same : String → Json → Json → Prop} {l l' : List (String × Json)}
  {name : String}

/-- The last member of a name is found. -/
lemma lookup_eq_getLast? (l : List (String × Json)) (name : String) :
    lookup l name = (l.filter fun m => m.1 == name).getLast?.map Prod.snd := by
  rw [lookup, ← List.head?_filter, List.filter_reverse, List.head?_reverse]

/-- A change to the members of an object in which only some names are known. -/
inductive Edit (known : List String) (same : String → Json → Json → Prop) :
    List (String × Json) → List (String × Json) → Prop
  /-- The order has changed, but not among members of one name. -/
  | rearranged {l l' : List (String × Json)}
      (each : ∀ name, (l.filter fun m => m.1 == name) = l'.filter fun m => m.1 == name) :
      Edit known same l l'
  /-- A member that nobody knows was added. -/
  | unknown {name : String} (before after : List (String × Json)) (value : Json)
      (other : name ∉ known) : Edit known same (before ++ after) (before ++ (name, value) :: after)
  /-- A value was written in another way. -/
  | respelled {name : String} {value value' : Json} (before after : List (String × Json))
      (alike : same name value value') :
      Edit known same (before ++ (name, value) :: after) (before ++ (name, value') :: after)

/-- Members of different names may be put in any order. -/
lemma Edit.of_perm (h : l.Perm l') (distinct : (l.map Prod.fst).Nodup) : Edit known same l l' := by
  refine .rearranged fun name => ?_
  have moved := h.filter fun m => m.1 == name
  have named : ∀ m ∈ l.filter fun m => m.1 == name, m.1 = name :=
    fun m there => beq_iff_eq.mp (List.mem_filter.mp there).2
  have apart : ((l.filter fun m => m.1 == name).map Prod.fst).Nodup :=
    distinct.sublist (List.filter_sublist.map _)
  rcases found : l.filter fun m => m.1 == name with _ | ⟨m, _ | ⟨m', rest⟩⟩
  · rw [found] at moved
    exact found.trans (List.nil_perm.mp moved).symm
  · rw [found] at moved
    exact found.trans (List.singleton_perm.mp moved)
  · rw [found] at named apart
    have both : m.1 = m'.1 := (named m (by simp)).trans (named m' (by simp)).symm
    simp [both] at apart

/-- A change leaves the value of a known name alone, or writes it in another way. -/
lemma lookup_of_edit (h : Edit known same l l') (there : name ∈ known) :
    lookup l name = lookup l' name ∨
      ∃ value value', lookup l name = some value ∧ lookup l' name = some value' ∧
        same name value value' := by
  rw [lookup_eq_getLast?, lookup_eq_getLast?]
  cases h with
  | rearranged each => exact Or.inl (by rw [each])
  | @unknown other before after value unknown =>
    have skipped : (other == name) = false :=
      beq_eq_false_iff_ne.mpr fun hit => unknown (hit ▸ there)
    simp [skipped]
  | @respelled changed value value' before after alike =>
    by_cases hit : changed = name
    · subst hit
      simp only [List.filter_append, List.filter_cons, beq_self_eq_true, if_true]
      cases after.filter fun m => m.1 == changed with
      | nil => exact Or.inr ⟨value, value', by simp, by simp, alike⟩
      | cons m rest => exact Or.inl (by simp)
    · have skipped : (changed == name) = false := beq_eq_false_iff_ne.mpr hit
      exact Or.inl (by simp [skipped])

/-- An object whose members were changed. -/
inductive ObjectEdit (known : List String) (same : String → Json → Json → Prop) : Json → Json → Prop
  | members {l l' : List (String × Json)} (h : Edit known same l l') :
      ObjectEdit known same (.object l) (.object l')

end Members

/-! ## Documents -/

/-- The names under which integers are found. -/
def wordKeys : List String :=
  ["endUnixTimestamp", "measureIntervalSec", "measurementsBeforePublishing",
    "consecutiveLowReadingsError", "consecutiveHighReadingsError"]

/-- The names of what can be desired. -/
def desiredKeys : List String :=
  ["hatchUUID", "lowTemperature", "highTemperature", "temperatureOffset"] ++ wordKeys

/-- An integer is written as a text. -/
def IntegerAsText (name : String) (value value' : Json) : Prop :=
  name ∈ wordKeys ∧ ∃ n : Int, value = .number (.integer n) ∧ value' = .string (toString n)

/-- What is desired was written in another way. -/
def DesiredEdit : Json → Json → Prop := ObjectEdit desiredKeys IntegerAsText

def StateEdit : Json → Json → Prop :=
  ObjectEdit ["desired"] fun name value value' => name = "desired" ∧ DesiredEdit value value'

def RootEdit : Json → Json → Prop :=
  ObjectEdit ["desired", "state"] fun name value value' =>
    name = "desired" ∧ DesiredEdit value value' ∨ name = "state" ∧ StateEdit value value'

/-- One document comes from the other by changes of this kind, made or taken back. -/
def Reworded (document document' : Bytes) : Prop :=
  ∃ root root', parseBytes? document = some root ∧ parseBytes? document' = some root' ∧
    Relation.EqvGen RootEdit root root'

/-! ## What stays the same -/

/-- The members say the same about everything that can be desired. -/
structure Agree (l l' : List (String × Json)) : Prop where
  words : ∀ key ∈ wordKeys, ∀ w, Gives SaysWord l key w ↔ Gives SaysWord l' key w
  missing : ∀ key ∈ wordKeys, lookup l key = none ↔ lookup l' key = none
  others : ∀ key ∈ desiredKeys, key ∉ wordKeys → lookup l key = lookup l' key

section Agree

variable {l l' l'' : List (String × Json)} {o o' o'' : Option Json} {current c : HatchConfig}

lemma Agree.refl (l : List (String × Json)) : Agree l l :=
  ⟨fun _ _ _ => Iff.rfl, fun _ _ => Iff.rfl, fun _ _ _ => rfl⟩

lemma Agree.symm (h : Agree l l') : Agree l' l :=
  ⟨fun key there w => (h.words key there w).symm, fun key there => (h.missing key there).symm,
    fun key there other => (h.others key there other).symm⟩

lemma Agree.trans (h : Agree l l') (h' : Agree l' l'') : Agree l l'' :=
  ⟨fun key there w => (h.words key there w).trans (h'.words key there w),
    fun key there => (h.missing key there).trans (h'.missing key there),
    fun key there other => (h.others key there other).trans (h'.others key there other)⟩

/-- An integer and its decimal text say the same word. -/
lemma saysWord_toString_iff {n : Int} {w : UInt32} :
    SaysWord (.string (toString n)) w ↔ SaysWord (.number (.integer n)) w := by
  have text : SaysWord (.string (toString n)) w ↔ Numeral.Denotes (toString n) w.toNat := by
    constructor
    · rintro (_ | ⟨denotes⟩)
      exact denotes
    · exact .numeral
  rw [text, Numeral.denotes_toString_iff]
  constructor
  · rintro rfl
    exact .literal w
  · rintro ⟨⟩
    rfl

/-- What is desired is the same, however it is written. -/
lemma Agree.of_edit (h : Edit desiredKeys IntegerAsText l l') : Agree l l' := by
  have known : ∀ key ∈ wordKeys, key ∈ desiredKeys := fun key there =>
    List.mem_append_right _ there
  refine ⟨fun key there w => ?_, fun key there => ?_, fun key there other => ?_⟩
  · rcases lookup_of_edit h (known key there) with
      same | ⟨value, value', found, found', -, n, rfl, rfl⟩
    · rw [Gives, Gives, same]
    · simp only [Gives, found, found', Option.some.injEq, exists_eq_left', saysWord_toString_iff]
  · rcases lookup_of_edit h (known key there) with same | ⟨value, value', found, found', -⟩
    · rw [same]
    · rw [found, found']
      exact iff_of_false nofun nofun
  · rcases lookup_of_edit h there with same | ⟨value, value', -, -, word, -⟩
    · exact same
    · exact absurd word other

/-- Members that agree make the same of a configuration. -/
lemma Agree.follows (h : Agree l l') (follows : HatchConfig.Follows l current c) :
    HatchConfig.Follows l' current c := by
  have word : ∀ {key before after}, key ∈ wordKeys →
      Overwrites SaysWord l key before after → Overwrites SaysWord l' key before after :=
    fun there new => new.imp (h.words _ there _).mp fun none =>
      ⟨(h.missing _ there).mp none.1, none.2⟩
  have other : ∀ {key before after}, key ∈ desiredKeys → key ∉ wordKeys →
      Overwrites SaysNumber l key before after → Overwrites SaysNumber l' key before after := by
    intro key before after there other
    rw [Overwrites, Overwrites, Gives, Gives, h.others key there other]
    exact id
  have text : Gives SaysText l' "hatchUUID" c.uuid := by
    rw [Gives, ← h.others _ (by decide) (by decide)]
    exact follows.uuid
  exact {
    uuid := text
    endTime := (h.words _ (by decide) _).mp follows.endTime
    interval := (h.words _ (by decide) _).mp follows.interval
    publishAfter := word (by decide) follows.publishAfter
    low := other (by decide) (by decide) follows.low
    high := other (by decide) (by decide) follows.high
    lowRunLimit := word (by decide) follows.lowRunLimit
    highRunLimit := word (by decide) follows.highRunLimit
    offset := other (by decide) (by decide) follows.offset
    unpublished := follows.unpublished
    lowRun := follows.lowRun
    highRun := follows.highRun }

/-- The same value, or objects whose members agree. -/
def Alike (o o' : Option Json) : Prop :=
  o = o' ∨ ∃ l l', o = some (.object l) ∧ o' = some (.object l') ∧ Agree l l'

lemma Alike.symm (h : Alike o o') : Alike o' o := by
  rcases h with rfl | ⟨l, l', rfl, rfl, agree⟩
  · exact Or.inl rfl
  · exact Or.inr ⟨l', l, rfl, rfl, agree.symm⟩

lemma Alike.trans (h : Alike o o') (h' : Alike o' o'') : Alike o o'' := by
  rcases h with rfl | ⟨l, l', rfl, rfl, agree⟩
  · exact h'
  rcases h' with rfl | ⟨k, l'', same, rfl, agree'⟩
  · exact Or.inr ⟨l, l', rfl, rfl, agree⟩
  · obtain rfl : l' = k := by simpa using same
    exact Or.inr ⟨l, l'', rfl, rfl, agree.trans agree'⟩

lemma alike_of_desiredEdit {value value' : Json} (h : DesiredEdit value value') :
    Alike (some value) (some value') := by
  obtain ⟨edit⟩ := h
  exact Or.inr ⟨_, _, rfl, rfl, .of_edit edit⟩

/-- A change to the state leaves what is desired in it alike. -/
lemma alike_of_stateEdit {value value' : Json} (h : StateEdit value value') :
    Alike (value.get? "desired") (value'.get? "desired") := by
  obtain @⟨l, l', edit⟩ := h
  have found : ∀ l, (Json.object l).get? "desired" = lookup l "desired" := fun _ => rfl
  rw [found, found]
  rcases lookup_of_edit edit (List.mem_singleton_self "desired") with
    same | ⟨value, value', one, two, -, desired⟩
  · exact Or.inl same
  · rw [one, two]
    exact alike_of_desiredEdit desired

/-- One change to a document leaves what it desires alike. -/
lemma alike_of_rootEdit {root root' : Json} (h : RootEdit root root') :
    Alike root.desired? root'.desired? := by
  obtain @⟨l, l', edit⟩ := h
  have found : ∀ l, (Json.object l).desired? = (lookup l "desired").or
      ((lookup l "state").bind fun state => state.get? "desired") := fun _ => rfl
  rw [found, found]
  have place : "desired" ∈ ["desired", "state"] := by decide
  have nested : "state" ∈ ["desired", "state"] := by decide
  rcases lookup_of_edit edit place with
    same | ⟨value, value', one, two, ⟨-, desired⟩ | ⟨other, -⟩⟩
  · rw [same]
    cases lookup l' "desired" with
    | some value => exact Or.inl rfl
    | none =>
      rw [Option.none_or, Option.none_or]
      rcases lookup_of_edit edit nested with
        same | ⟨value, value', one, two, ⟨other, -⟩ | ⟨-, state⟩⟩
      · rw [same]
        exact Or.inl rfl
      · exact absurd other (by decide)
      · rw [one, two]
        exact alike_of_stateEdit state
  · rw [one, two, Option.some_or, Option.some_or]
    exact alike_of_desiredEdit desired
  · exact absurd other (by decide)

/-- So do any number of them. -/
lemma alike_of_eqvGen {root root' : Json} (h : Relation.EqvGen RootEdit root root') :
    Alike root.desired? root'.desired? := by
  induction h with
  | rel root root' edit => exact alike_of_rootEdit edit
  | refl root => exact Or.inl rfl
  | symm root root' _ ih => exact ih.symm
  | trans root root' root'' _ _ first second => exact first.trans second

end Agree

lemma Reworded.symm {document document' : Bytes} (h : Reworded document document') :
    Reworded document' document := by
  obtain ⟨root, root', parsed, parsed', edits⟩ := h
  exact ⟨root', root, parsed', parsed, edits.symm⟩

/-- Reworded documents desire the same. -/
lemma Reworded.desires {document document' : Bytes} {members : List (String × Json)}
    (h : Reworded document document') (desired : Desires document members) :
    ∃ members', Desires document' members' ∧ Agree members members' := by
  obtain ⟨root, root', parsed, parsed', edits⟩ := h
  obtain ⟨_, same, found⟩ := desired
  obtain rfl := Option.some.inj (parsed.symm.trans same)
  rcases alike_of_eqvGen edits with equal | ⟨l, l', one, two, agree⟩
  · exact ⟨members, ⟨root', parsed', equal ▸ found⟩, .refl members⟩
  · obtain rfl : l = members := by simpa using one.symm.trans found
    exact ⟨l', ⟨root', parsed', two⟩, agree⟩

end Json

open Json

/-- One outcome of a document is an outcome of every document that is reworded from it. -/
lemma applyShadow_of_reworded {document document' : Bytes} {current c : HatchConfig}
    (h : Reworded document document') (applied : applyShadow document current = .ok c) :
    applyShadow document' current = .ok c := by
  obtain ⟨members, desired, follows, acceptable⟩ := applyShadow_eq_ok_iff.mp applied
  obtain ⟨members', desired', agree⟩ := h.desires desired
  exact applyShadow_eq_ok_iff.mpr ⟨members', desired', agree.follows follows, acceptable⟩

/-- What a document makes of a configuration, and that it is the same for every document that is
reworded from it, and for the document once more. -/
theorem shadow_merge_is_exact (document : Bytes) (current : HatchConfig) :
    (∀ c, applyShadow document current = .ok c ↔
      ∃ members, Desires document members ∧ HatchConfig.Follows members current c ∧
        c.Acceptable) ∧
    (∀ document', Reworded document document' →
      ∀ c, applyShadow document' current = .ok c ↔ applyShadow document current = .ok c) ∧
    ∀ c, applyShadow document current = .ok c → applyShadow document c = .ok c := by
  refine ⟨fun c => applyShadow_eq_ok_iff, fun document' reworded c => ?_, fun c applied => ?_⟩
  · exact ⟨applyShadow_of_reworded reworded.symm, applyShadow_of_reworded reworded⟩
  · obtain ⟨members, desired, follows, acceptable⟩ := applyShadow_eq_ok_iff.mp applied
    exact applyShadow_eq_ok_iff.mpr ⟨members, desired, follows.again, acceptable⟩

/-! ### Two documents -/

/-- A document in which some members are desired. -/
def wish (members : List Member) : Member where
  name := "desired"
  text := writeMembers (members.map fun m => (m.name, m.text))
  value := .object (members.map fun m => (m.name, m.value))

def wishText (members : List Member) : String :=
  writeMembers ([wish members].map fun m => (m.name, m.text))

def wishValue (members : List Member) : Json :=
  .object ([wish members].map fun m => (m.name, m.value))

/-- The document is read as what was wished. -/
lemma parseBytes?_wishText {m : Member} {members : List Member}
    (spelled : ∀ m' ∈ m :: members, Spells 125 1 m'.text m'.value)
    (long : members.length + 5 ≤ 2 * (wishText (m :: members)).length + 2) :
    parseBytes? (Bytes.encodeUtf8 (wishText (m :: members))) = some (wishValue (m :: members)) := by
  have inner : Spells 126 (1 + members.length + 2) (wish (m :: members)).text
      (wish (m :: members)).value := spells_object m members spelled
  have outer : Spells depthLimit (1 + members.length + 2 + 0 + 2) (wishText (m :: members))
      (wishValue (m :: members)) :=
    spells_object (wish (m :: members)) [] (List.forall_mem_singleton.mpr inner)
  rw [parseBytes?, Bytes.decodeUtf8_encodeUtf8, Option.bind_some]
  exact parse?_of_spells outer (by omega)

/-- What the cloud desires. -/
def plainWish : List Member :=
  [⟨"hatchUUID", writeString "h", .string "h"⟩,
    ⟨"endUnixTimestamp", (2000000000).repr, .number (.integer 2000000000)⟩,
    ⟨"measureIntervalSec", (900).repr, .number (.integer 900)⟩]

/-- The same in other words. -/
def rewordedWish : List Member :=
  [⟨"measureIntervalSec", writeString "900", .string "900"⟩,
    ⟨"version", (3).repr, .number (.integer 3)⟩,
    ⟨"endUnixTimestamp", (2000000000).repr, .number (.integer 2000000000)⟩,
    ⟨"hatchUUID", writeString "h", .string "h"⟩]

/-- The second document comes from the first in three steps. -/
lemma reworded_plainWish : Reworded (Bytes.encodeUtf8 (wishText plainWish))
    (Bytes.encodeUtf8 (wishText rewordedWish)) := by
  have hatch := spells_string 125 "h"
  have endTime : Spells 125 1 (2000000000).repr (.number (.integer 2000000000)) :=
    spells_nat 125 (by decide)
  have plain : ∀ m ∈ plainWish, Spells 125 1 m.text m.value := by
    simp only [plainWish, List.forall_mem_cons]
    exact ⟨hatch, endTime, spells_nat 125 (by decide), nofun⟩
  have reworded : ∀ m ∈ rewordedWish, Spells 125 1 m.text m.value := by
    simp only [rewordedWish, List.forall_mem_cons]
    exact ⟨spells_string 125 "900", spells_nat 125 (by decide), endTime, hatch, nofun⟩
  refine ⟨wishValue plainWish, wishValue rewordedWish,
    parseBytes?_wishText plain (by decide +kernel),
    parseBytes?_wishText reworded (by decide +kernel), ?_⟩
  have step : ∀ {l l'}, Edit desiredKeys IntegerAsText l l' → Relation.EqvGen RootEdit
      (.object [("desired", .object l)]) (.object [("desired", .object l')]) :=
    fun edit => .rel _ _ (.members (.respelled [] [] (Or.inl ⟨rfl, .members edit⟩)))
  have integer : IntegerAsText "measureIntervalSec" (.number (.integer 900)) (.string "900") :=
    ⟨by decide, 900, rfl, rfl⟩
  have text := step (.respelled
    [("hatchUUID", .string "h"), ("endUnixTimestamp", .number (.integer 2000000000))] [] integer)
  have order := step (.of_perm (List.reverse_perm
    [("hatchUUID", .string "h"), ("endUnixTimestamp", .number (.integer 2000000000)),
      ("measureIntervalSec", .string "900")]).symm (by decide))
  have strange : "version" ∉ desiredKeys := by decide
  have version := step (.unknown [("measureIntervalSec", .string "900")]
    [("endUnixTimestamp", .number (.integer 2000000000)), ("hatchUUID", .string "h")]
    (.number (.integer 3)) strange)
  exact (text.trans _ _ _ order).trans _ _ _ version

/-- Both documents name the same hatch, and the second one changes nothing after the first. -/
theorem reworded_document_is_merged_alike :
    Reworded (Bytes.encodeUtf8 (wishText plainWish)) (Bytes.encodeUtf8 (wishText rewordedWish)) ∧
      ∃ c, applyShadow (Bytes.encodeUtf8 (wishText plainWish)) .default = .ok c ∧
        applyShadow (Bytes.encodeUtf8 (wishText rewordedWish)) .default = .ok c ∧
        applyShadow (Bytes.encodeUtf8 (wishText rewordedWish)) c = .ok c := by
  have applied : applyShadow (Bytes.encodeUtf8 (wishText plainWish)) .default
      = .ok { HatchConfig.default with uuid := "h", endTime := 2000000000 } := by decide +kernel
  obtain ⟨-, reworded, -⟩ := shadow_merge_is_exact (Bytes.encodeUtf8 (wishText plainWish)) .default
  obtain ⟨-, -, again⟩ := shadow_merge_is_exact (Bytes.encodeUtf8 (wishText rewordedWish)) .default
  have same := (reworded _ reworded_plainWish _).mpr applied
  exact ⟨reworded_plainWish, _, applied, same, again _ same⟩

end HatchSensor
