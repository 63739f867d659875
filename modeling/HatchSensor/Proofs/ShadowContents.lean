import HatchSensor.Shadow.Document
import HatchSensor.Proofs.Numerals
import HatchSensor.Proofs.SoundConfig

/-!
# What a shadow document says

A document is an object whose members name the hatch and say how it is to be watched.  Three of them
must be there, six may be missing, and each has a type of its own: texts, words and numbers.

`HatchConfig.Follows` says, field by field, which configuration the members make of another one, and
`HatchConfig.Acceptable` which configurations are not refused.  `applyShadow_eq_ok_iff` says that
this is what the device makes of a document, and that everything else is discarded.
-/

namespace HatchSensor

namespace Json

variable {α : Type}

/-! ## Values -/

/-- The value is a text. -/
inductive SaysText : Json → String → Prop
  | text (t : String) : SaysText (.string t) t

/-- The value is an integer literal, or a text with a decimal numeral. -/
inductive SaysWord : Json → UInt32 → Prop
  | literal (w : UInt32) : SaysWord (.number (.integer w.toNat)) w
  | numeral {text : String} {w : UInt32} (denotes : Numeral.Denotes text w.toNat) :
      SaysWord (.string text) w

/-- The value is a number, which is rounded to double and then to single precision. -/
inductive SaysNumber : Json → Single → Prop
  | number (n : JsonNumber) : SaysNumber (.number n) n.toDouble.toSingle

/-- There is a member of this name, and it says `a`. -/
def Gives (Says : Json → α → Prop) (members : List (String × Json)) (key : String) (a : α) : Prop :=
  ∃ value, lookup members key = some value ∧ Says value a

/-- The member of this name says what is new, or there is none and everything is as before. -/
def Overwrites (Says : Json → α → Prop) (members : List (String × Json)) (key : String)
    (before after : α) : Prop :=
  Gives Says members key after ∨ lookup members key = none ∧ after = before

end Json

namespace DesiredConfig

open Json

variable {members : List (String × Json)} {key : String} {value : Json} {d : DesiredConfig}

/-! ## Reading -/

/-- An integer literal is a word if it is in range. -/
lemma integer_word?_eq_some_iff {n : Int} {w : UInt32} :
    (JsonNumber.integer n).word? = some w ↔ n = w.toNat := by
  have bound := w.toNat_lt
  rw [JsonNumber.word?]
  split
  · next range =>
    have word : (UInt32.ofNat n.toNat).toNat = n.toNat := UInt32.toNat_ofNat_of_lt' (by
      have size : UInt32.size = 2 ^ 32 := rfl
      omega)
    rw [Option.some.injEq, ← UInt32.toNat_inj, word]
    omega
  · next range =>
    refine iff_of_false nofun ?_
    rintro rfl
    exact range ⟨by omega, by omega⟩

lemma word?_eq_some_iff {w : UInt32} : word? value = some w ↔ SaysWord value w := by
  unfold word?
  split
  · next number =>
    cases number with
    | integer n =>
      rw [integer_word?_eq_some_iff]
      constructor
      · rintro rfl
        exact .literal w
      · rintro ⟨⟩
        rfl
    | float x => exact iff_of_false nofun nofun
  · next text =>
    rw [Numeral.word?_trim_eq_some_iff]
    constructor
    · exact .numeral
    · rintro ⟨⟩
      assumption
  · next literals texts =>
    refine iff_of_false nofun ?_
    rintro (w | @⟨text, w, denotes⟩)
    · exact literals _ rfl
    · exact texts text rfl

lemma readWord_eq_ok_iff {w : UInt32} : readWord key value = .ok w ↔ SaysWord value w := by
  rw [← word?_eq_some_iff]
  unfold readWord
  split
  · next w' read => rw [read, Except.ok.injEq, Option.some.injEq]
  · next read => rw [read]; exact iff_of_false nofun nofun

lemma readNumber_eq_ok_iff {x : Single} : readNumber key value = .ok x ↔ SaysNumber value x := by
  unfold readNumber
  split
  · next n =>
    rw [Except.ok.injEq]
    constructor
    · rintro rfl
      exact .number n
    · rintro ⟨⟩
      rfl
  · next other =>
    refine iff_of_false nofun ?_
    rintro ⟨n⟩
    exact other n rfl

lemma requiredText_eq_ok_iff {text : String} :
    requiredText members key = .ok text ↔ Gives SaysText members key text := by
  unfold requiredText Gives
  split
  · next found read =>
    rw [read, Except.ok.injEq]
    constructor
    · rintro rfl
      exact ⟨_, rfl, .text _⟩
    · rintro ⟨_, ⟨⟩, ⟨⟩⟩
      rfl
  · next other read =>
    refine iff_of_false nofun ?_
    rintro ⟨_, same, ⟨⟩⟩
    exact other _ (Option.some.inj (read.symm.trans same))
  · next read =>
    rw [read]
    exact iff_of_false nofun nofun

lemma requiredWord_eq_ok_iff {w : UInt32} :
    requiredWord members key = .ok w ↔ Gives SaysWord members key w := by
  unfold requiredWord required Gives
  cases lookup members key with
  | none => exact iff_of_false nofun nofun
  | some value =>
    refine readWord_eq_ok_iff.trans ⟨fun word => ⟨value, rfl, word⟩, ?_⟩
    rintro ⟨_, ⟨⟩, word⟩
    exact word

/-- A member that may be missing overwrites a field, or leaves it alone. -/
lemma overwrites_iff {α : Type} {read : String → Json → Except ShadowError α}
    {Says : Json → α → Prop} (reads : ∀ value a, read key value = .ok a ↔ Says value a)
    {before after : α} :
    Overwrites Says members key before after ↔
      ∃ o, optional read members key = .ok o ∧ o.getD before = after := by
  unfold Overwrites Gives optional
  cases lookup members key with
  | none =>
    constructor
    · rintro (⟨_, ⟨⟩, -⟩ | ⟨-, rfl⟩)
      exact ⟨none, rfl, rfl⟩
    · rintro ⟨_, ⟨⟩, rfl⟩
      exact Or.inr ⟨rfl, rfl⟩
  | some value =>
    constructor
    · rintro (⟨_, ⟨⟩, new⟩ | ⟨⟨⟩, -⟩)
      exact ⟨some after, congrArg (Except.map some) ((reads value after).mpr new), rfl⟩
    · rintro ⟨o, found, rfl⟩
      dsimp only at found
      cases said : read key value with
      | error e =>
        rw [said] at found
        exact nomatch found
      | ok a =>
        rw [said] at found
        obtain rfl := Except.ok.inj found
        exact Or.inl ⟨value, rfl, (reads value a).mp said⟩

/-- Members are understood if each of them is. -/
lemma ofMembers_eq_ok_iff :
    ofMembers members = .ok d ↔
      requiredText members "hatchUUID" = .ok d.uuid ∧
      requiredWord members "endUnixTimestamp" = .ok d.endTime ∧
      requiredWord members "measureIntervalSec" = .ok d.interval ∧
      optional readWord members "measurementsBeforePublishing" = .ok d.publishAfter ∧
      optional readNumber members "lowTemperature" = .ok d.low ∧
      optional readNumber members "highTemperature" = .ok d.high ∧
      optional readWord members "consecutiveLowReadingsError" = .ok d.lowRunLimit ∧
      optional readWord members "consecutiveHighReadingsError" = .ok d.highRunLimit ∧
      optional readNumber members "temperatureOffset" = .ok d.offset := by
  have bind : ∀ {α β : Type} {x : Except ShadowError α} {f : α → Except ShadowError β} {b : β},
      x >>= f = .ok b ↔ ∃ a, x = .ok a ∧ f a = .ok b := by
    intro α β x f b
    cases x with
    | error e => exact iff_of_false nofun nofun
    | ok a =>
      refine ⟨fun h => ⟨a, rfl, h⟩, ?_⟩
      rintro ⟨_, ⟨⟩, h⟩
      exact h
  unfold ofMembers
  simp only [bind]
  constructor
  · rintro ⟨_, h₁, _, h₂, _, h₃, _, h₄, _, h₅, _, h₆, _, h₇, _, h₈, _, h₉, done⟩
    obtain rfl := Except.ok.inj done
    exact ⟨h₁, h₂, h₃, h₄, h₅, h₆, h₇, h₈, h₉⟩
  · rintro ⟨h₁, h₂, h₃, h₄, h₅, h₆, h₇, h₈, h₉⟩
    exact ⟨_, h₁, _, h₂, _, h₃, _, h₄, _, h₅, _, h₆, _, h₇, _, h₈, _, h₉, rfl⟩

end DesiredConfig

namespace HatchConfig

open Json DesiredConfig

variable {members : List (String × Json)} {current c : HatchConfig} {document : Bytes}

/-! ## Merging -/

/-- What the members make of a configuration: the hatch is the one they name, and where they say
nothing about the rest, it is as before. -/
structure Follows (members : List (String × Json)) (current c : HatchConfig) : Prop where
  uuid : Gives SaysText members "hatchUUID" c.uuid
  endTime : Gives SaysWord members "endUnixTimestamp" c.endTime
  interval : Gives SaysWord members "measureIntervalSec" c.interval
  publishAfter : Overwrites SaysWord members "measurementsBeforePublishing"
    current.publishAfter c.publishAfter
  low : Overwrites SaysNumber members "lowTemperature" current.low c.low
  high : Overwrites SaysNumber members "highTemperature" current.high c.high
  lowRunLimit : Overwrites SaysWord members "consecutiveLowReadingsError"
    current.lowRunLimit c.lowRunLimit
  highRunLimit : Overwrites SaysWord members "consecutiveHighReadingsError"
    current.highRunLimit c.highRunLimit
  offset : Overwrites SaysNumber members "temperatureOffset" current.offset c.offset
  /-- The counters are none of the cloud's business. -/
  unpublished : c.unpublished = current.unpublished
  lowRun : c.lowRun = current.lowRun
  highRun : c.highRun = current.highRun

/-- What is not refused. -/
structure Acceptable (c : HatchConfig) : Prop where
  uuid : 1 ≤ Bytes.textSize c.uuid ∧ Bytes.textSize c.uuid ≤ uuidLimit
  interval : 1 ≤ c.interval
  band : c.low.less c.high = true
  offset : c.offset.isFinite = true

lemma validate_eq_ok_iff : c.validate = .ok () ↔ c.Acceptable := by
  constructor
  · intro valid
    obtain ⟨some, size⟩ := uuid_size_of_validate valid
    obtain ⟨interval, band, offset⟩ := limits_of_validate valid
    exact ⟨⟨Nat.one_le_iff_ne_zero.mpr some, size⟩, one_le_of_ne_zero interval, band, offset⟩
  · rintro ⟨⟨some, size⟩, interval, band, offset⟩
    have positive : c.interval ≠ 0 := fun zero => absurd (zero ▸ interval) (by decide)
    have fits : ¬ (Bytes.textSize c.uuid = 0 ∨ uuidLimit < Bytes.textSize c.uuid) := by omega
    unfold validate
    simp [fits, positive, band, offset]

/-- The members that are understood make one configuration of another. -/
lemma follows_iff :
    Follows members current c ↔ ∃ d, ofMembers members = .ok d ∧ d.merge current = c := by
  have words : ∀ key value w, readWord key value = .ok w ↔ SaysWord value w :=
    fun _ _ _ => readWord_eq_ok_iff
  have numbers : ∀ key value x, readNumber key value = .ok x ↔ SaysNumber value x :=
    fun _ _ _ => readNumber_eq_ok_iff
  constructor
  · rintro ⟨uuid, endTime, interval, publishAfter, low, high, lowRunLimit, highRunLimit, offset,
      unpublished, lowRun, highRun⟩
    obtain ⟨publishAfter, h₄, new₄⟩ := (overwrites_iff (words _)).mp publishAfter
    obtain ⟨low, h₅, new₅⟩ := (overwrites_iff (numbers _)).mp low
    obtain ⟨high, h₆, new₆⟩ := (overwrites_iff (numbers _)).mp high
    obtain ⟨lowRunLimit, h₇, new₇⟩ := (overwrites_iff (words _)).mp lowRunLimit
    obtain ⟨highRunLimit, h₈, new₈⟩ := (overwrites_iff (words _)).mp highRunLimit
    obtain ⟨offset, h₉, new₉⟩ := (overwrites_iff (numbers _)).mp offset
    refine ⟨⟨c.uuid, c.endTime, c.interval, publishAfter, low, high, lowRunLimit, highRunLimit,
      offset⟩, ofMembers_eq_ok_iff.mpr ?_, ?_⟩
    · exact ⟨requiredText_eq_ok_iff.mpr uuid, requiredWord_eq_ok_iff.mpr endTime,
        requiredWord_eq_ok_iff.mpr interval, h₄, h₅, h₆, h₇, h₈, h₉⟩
    · rw [merge, new₄, new₅, new₆, new₇, new₈, new₉, ← unpublished, ← lowRun, ← highRun]
  · rintro ⟨d, understood, rfl⟩
    obtain ⟨h₁, h₂, h₃, h₄, h₅, h₆, h₇, h₈, h₉⟩ := ofMembers_eq_ok_iff.mp understood
    exact {
      uuid := requiredText_eq_ok_iff.mp h₁
      endTime := requiredWord_eq_ok_iff.mp h₂
      interval := requiredWord_eq_ok_iff.mp h₃
      publishAfter := (overwrites_iff (words _)).mpr ⟨_, h₄, rfl⟩
      low := (overwrites_iff (numbers _)).mpr ⟨_, h₅, rfl⟩
      high := (overwrites_iff (numbers _)).mpr ⟨_, h₆, rfl⟩
      lowRunLimit := (overwrites_iff (words _)).mpr ⟨_, h₇, rfl⟩
      highRunLimit := (overwrites_iff (words _)).mpr ⟨_, h₈, rfl⟩
      offset := (overwrites_iff (numbers _)).mpr ⟨_, h₉, rfl⟩
      unpublished := rfl
      lowRun := rfl
      highRun := rfl }

/-- What members have made of a configuration they make of the outcome again. -/
lemma Follows.again (h : Follows members current c) : Follows members c c := by
  have kept : ∀ {α : Type} {Says : Json → α → Prop} {key : String} {before after : α},
      Overwrites Says members key before after → Overwrites Says members key after after :=
    fun h => h.imp_right fun none => ⟨none.1, rfl⟩
  exact ⟨h.uuid, h.endTime, h.interval, kept h.publishAfter, kept h.low, kept h.high,
    kept h.lowRunLimit, kept h.highRunLimit, kept h.offset, rfl, rfl, rfl⟩

end HatchConfig

/-! ## Documents -/

/-- The value under which a document says what is desired.  One at the top level hides the one
inside the state. -/
def Json.desired? (root : Json) : Option Json :=
  (root.get? "desired").or ((root.get? "state").bind fun state => state.get? "desired")

/-- The document desires what the members say. -/
def Desires (document : Bytes) (members : List (String × Json)) : Prop :=
  ∃ root, Json.parseBytes? document = some root ∧ root.desired? = some (.object members)

lemma Json.members?_eq_some_iff {value : Json} {members : List (String × Json)} :
    value.members? = some members ↔ value = .object members := by
  unfold members?
  split
  · next found => rw [Option.some.injEq, Json.object.injEq]
  · next other => exact iff_of_false nofun (other members)

namespace DesiredConfig

variable {root : Json} {members : List (String × Json)} {document : Bytes} {d : DesiredConfig}

lemma members?_eq_some_iff :
    members? root = some members ↔ root.desired? = some (.object members) := by
  unfold members? Json.desired?
  cases root.get? "desired" with
  | some value => rw [Option.some_or, Option.some.injEq, Json.members?_eq_some_iff]
  | none =>
    rw [Option.none_or, Option.bind_eq_some_iff]
    simp only [Json.members?_eq_some_iff, exists_eq_right]

/-- What a document asks for is what its members ask for. -/
lemma ofDocument_eq_ok_iff :
    ofDocument document = .ok d ↔
      ∃ members, Desires document members ∧ ofMembers members = .ok d := by
  unfold ofDocument ofJson Desires
  cases parsed : Json.parseBytes? document with
  | none => exact iff_of_false nofun fun ⟨_, ⟨_, other, _⟩, _⟩ => nomatch other
  | some root =>
    cases found : members? root with
    | none =>
      refine iff_of_false (by simp [found]) ?_
      rintro ⟨members, ⟨_, ⟨⟩, desired⟩, -⟩
      exact nomatch found.symm.trans (members?_eq_some_iff.mpr desired)
    | some members =>
      simp only [found]
      constructor
      · intro understood
        exact ⟨members, ⟨root, rfl, members?_eq_some_iff.mp found⟩, understood⟩
      · rintro ⟨others, ⟨_, ⟨⟩, desired⟩, understood⟩
        obtain rfl := Option.some.inj (found.symm.trans (members?_eq_some_iff.mpr desired))
        exact understood

end DesiredConfig

/-- A document is merged if it is understood and the outcome is acceptable, and not at all else. -/
lemma applyShadow_eq_ok_iff {document : Bytes} {current c : HatchConfig} :
    applyShadow document current = .ok c ↔
      ∃ members, Desires document members ∧ HatchConfig.Follows members current c ∧
        c.Acceptable := by
  constructor
  · intro applied
    obtain ⟨d, asked, rfl, valid⟩ := HatchConfig.merge_of_applyShadow applied
    obtain ⟨members, desired, understood⟩ := DesiredConfig.ofDocument_eq_ok_iff.mp asked
    exact ⟨members, desired, HatchConfig.follows_iff.mpr ⟨d, understood, rfl⟩,
      HatchConfig.validate_eq_ok_iff.mp valid⟩
  · rintro ⟨members, desired, follows, acceptable⟩
    obtain ⟨d, understood, rfl⟩ := HatchConfig.follows_iff.mp follows
    have asked := DesiredConfig.ofDocument_eq_ok_iff.mpr ⟨members, desired, understood⟩
    have valid := HatchConfig.validate_eq_ok_iff.mpr acceptable
    rw [applyShadow, asked]
    refine Eq.trans (b := d.apply current) rfl ?_
    rw [DesiredConfig.apply, valid]

end HatchSensor
