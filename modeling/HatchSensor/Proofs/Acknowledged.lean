import HatchSensor.Identity.Credentials
import Mathlib.Logic.Basic
import Mathlib.Tactic.Lemma

/-!
# Acknowledged credentials

A client sends the two halves of the credentials one by one, or both in one object, and the device
acknowledges what it takes.  The acknowledgements of a session are kept as a list, the newest first.

`Ack.inForce` says which credentials they leave in force: an object takes force at once, and a half
together with the last half of the other kind that was sent alone, however old that one is.  So what
was acknowledged last need not be in force, and `Ack.latest_iff_harmless` says exactly when it is.
-/

namespace HatchSensor

/-! ## Halves -/

/-- One of the two texts that credentials are made of. -/
inductive Half where
  | ssid
  | password
deriving DecidableEq

namespace Half

def other : Half → Half
  | ssid => password
  | password => ssid

/-- The longest text of this half, in bytes. -/
def limit : Half → Nat
  | ssid => Credentials.ssidLimit
  | password => Credentials.passwordLimit

/-- The text of this half. -/
def of : Half → Credentials → String
  | ssid, c => c.ssid
  | password, c => c.password

lemma eq_or_eq_other (half one : Half) : one = half ∨ one = half.other := by
  cases half <;> cases one <;> decide

end Half

namespace Credentials

/-- Credentials made of two halves, if both are there. -/
def ofHalves (text : Half → Option String) : Option Credentials :=
  match text .ssid, text .password with
  | some ssid, some password => some ⟨ssid, password⟩
  | _, _ => none

lemma ofHalves_eq_some_iff {text : Half → Option String} {c : Credentials} :
    ofHalves text = some c ↔ ∀ half, text half = some (Half.of half c) := by
  constructor
  · intro made half
    unfold ofHalves at made
    split at made
    · next ssid password first second =>
      obtain rfl := Option.some.inj made
      cases half with
      | ssid => exact first
      | password => exact second
    · exact nomatch made
  · intro there
    rw [ofHalves, there .ssid, there .password]
    rfl

/-- A half that is missing, and there are no credentials. -/
lemma ofHalves_eq_none {text : Half → Option String} {half : Half} (missing : text half = none) :
    ofHalves text = none := by
  cases made : ofHalves text with
  | none => rfl
  | some c =>
    have there := ofHalves_eq_some_iff.mp made half
    exact nomatch missing.symm.trans there

/-- With both halves there are credentials. -/
lemma exists_ofHalves {text : Half → Option String} {half : Half} {t u : String}
    (first : text half = some t) (second : text half.other = some u) :
    ∃ c, ofHalves text = some c := by
  cases half with
  | ssid =>
    refine ⟨⟨t, u⟩, ofHalves_eq_some_iff.mpr fun one => ?_⟩
    cases one with
    | ssid => exact first
    | password => exact second
  | password =>
    refine ⟨⟨u, t⟩, ofHalves_eq_some_iff.mpr fun one => ?_⟩
    cases one with
    | ssid => exact second
    | password => exact first

end Credentials

/-! ## Acknowledgements -/

/-- What a client has been told is taken. -/
inductive Ack where
  /-- A half that was sent alone. -/
  | single (half : Half) (text : String)
  /-- An object with both halves. -/
  | object (c : Credentials)
deriving DecidableEq

namespace Ack

/-- The text of a half that was sent alone. -/
def alone? (half : Half) : Ack → Option String
  | .single one text => if one = half then some text else none
  | .object _ => none

/-- The text of a half, sent alone or in an object. -/
def text? (half : Half) : Ack → Option String
  | .single one text => if one = half then some text else none
  | .object c => some (half.of c)

def object? : Ack → Option Credentials
  | .single _ _ => none
  | .object c => some c

/-- No text of it has a zero in it. -/
def Plain (ack : Ack) : Prop := ∀ half text, ack.text? half = some text → '\x00' ∉ text.toList

/-- The last text of a half that was sent alone. -/
def lastAlone (half : Half) (acks : List Ack) : Option String := acks.findSome? (alone? half)

/-- The last text of a half. -/
def latest (half : Half) (acks : List Ack) : Option String := acks.findSome? (text? half)

def lastObject (acks : List Ack) : Option Credentials := acks.findSome? object?

/-- What was acknowledged since the last object. -/
def recent (acks : List Ack) : List Ack := acks.takeWhile fun ack => ack.object?.isNone

/-- The last halves that were sent alone, if there are two. -/
def pair (acks : List Ack) : Option Credentials :=
  Credentials.ofHalves fun half => lastAlone half acks

/-- The credentials that the acknowledgements leave in force, where `initial` was in force before:
a half takes force only with another half that was sent alone. -/
def inForce (initial : Option Credentials) : List Ack → Option Credentials
  | [] => initial
  | .object c :: _ => some c
  | .single half text :: earlier => (pair (.single half text :: earlier)).or (inForce initial earlier)

/-- The credentials consist of what was acknowledged last. -/
def IsLatest (acks : List Ack) (c : Credentials) : Prop :=
  ∀ half text, latest half acks = some text → half.of c = text

/-- Since the last object this half was sent and the other was not. -/
def Lone (half : Half) (acks : List Ack) : Prop :=
  lastAlone half (recent acks) ≠ none ∧ lastAlone half.other (recent acks) = none

/-- The half that a lone half is put together with says the same as the object since, or, where
there is none to put it together with, the lone half says what is in force anyway. -/
def Agrees (initial : Option Credentials) (acks : List Ack) (half : Half) : Prop :=
  match lastAlone half.other acks with
  | some text => latest half.other acks = some text
  | none => ∀ c, (lastObject acks).or initial = some c → latest half acks = some (half.of c)

/-- A lone half does no harm. -/
def Harmless (initial : Option Credentials) (acks : List Ack) : Prop :=
  ∀ half, Lone half acks → Agrees initial acks half

variable {half : Half} {text : String} {acks earlier : List Ack} {initial : Option Credentials}
  {c : Credentials}

/-! ### What is in force -/

lemma lastAlone_single_self : lastAlone half (.single half text :: earlier) = some text := by
  simp [lastAlone, alone?]

lemma lastAlone_of_ne {one : Half} (h : one ≠ half) :
    lastAlone half (.single one text :: earlier) = lastAlone half earlier := by
  simp [lastAlone, alone?, h]

lemma latest_single_self : latest half (.single half text :: earlier) = some text := by
  simp [latest, text?]

lemma latest_of_ne {one : Half} (h : one ≠ half) :
    latest half (.single one text :: earlier) = latest half earlier := by
  simp [latest, text?, h]

/-- A half on its own is no object. -/
lemma lastObject_single : lastObject (.single half text :: earlier) = lastObject earlier := rfl

/-- What has never been sent alone was not sent alone before either. -/
lemma lastAlone_of_cons {ack : Ack} (never : lastAlone half (ack :: earlier) = none) :
    lastAlone half earlier = none := by
  unfold lastAlone at never ⊢
  rw [List.findSome?_cons] at never
  split at never
  · exact nomatch never
  · exact never

/-- A half that was never sent alone was sent in the last object. -/
lemma latest_of_lastAlone_eq_none (never : lastAlone half acks = none) :
    latest half acks = (lastObject acks).map half.of := by
  induction acks with
  | nil => rfl
  | cons ack earlier ih =>
    cases ack with
    | object c => rfl
    | single one text =>
      have different : one ≠ half := by
        rintro rfl
        exact nomatch lastAlone_single_self.symm.trans never
      rw [latest_of_ne different, lastObject_single]
      exact ih (lastAlone_of_cons never)

/-- A half that was sent alone was sent. -/
lemma latest_ne_none (sent : lastAlone half acks ≠ none) : latest half acks ≠ none := by
  intro never
  refine sent (List.findSome?_eq_none_iff.mpr fun ack there => ?_)
  have unsaid := List.findSome?_eq_none_iff.mp never ack there
  cases ack with
  | single one text => exact unsaid
  | object c => rfl

/-- While a half is missing, the last object is in force, or what was in force before the
session. -/
lemma inForce_of_lastAlone_eq_none (never : lastAlone half acks = none) :
    inForce initial acks = (lastObject acks).or initial := by
  induction acks with
  | nil => rfl
  | cons ack earlier ih =>
    cases ack with
    | object c => rfl
    | single one text =>
      have unpaired : pair (.single one text :: earlier) = none := Credentials.ofHalves_eq_none never
      rw [inForce, unpaired, Option.none_or, lastObject_single]
      exact ih (lastAlone_of_cons never)

/-- A half that was sent last takes force together with the last of the other kind. -/
lemma inForce_of_pair {one : Half} (made : pair (.single one text :: earlier) = some c) :
    inForce initial (.single one text :: earlier) = some c := by
  rw [inForce, made]
  rfl

/-- A half that was sent alone since the last object is the latest of its kind. -/
lemma latest_of_recent (sent : lastAlone half (recent acks) = some text) :
    latest half acks = some text ∧ lastAlone half acks = some text := by
  induction acks with
  | nil => exact nomatch sent
  | cons ack earlier ih =>
    cases ack with
    | object c => exact nomatch sent
    | single one said =>
      by_cases same : one = half
      · subst same
        have first : lastAlone one (.single one said :: recent earlier) = some text := sent
        rw [lastAlone_single_self] at first
        exact ⟨latest_single_self.trans first, lastAlone_single_self.trans first⟩
      · have later : lastAlone half (.single one said :: recent earlier) = some text := sent
        rw [lastAlone_of_ne same] at later
        obtain ⟨latest, alone⟩ := ih later
        exact ⟨(latest_of_ne same).trans latest, (lastAlone_of_ne same).trans alone⟩

/-! ### When it is what was acknowledged last -/

/-- Two halves sent since the last object are in force. -/
lemma isLatest_of_recent (inForce : pair acks = some c)
    (one : lastAlone half (recent acks) ≠ none)
    (two : lastAlone half.other (recent acks) ≠ none) : IsLatest acks c := by
  have each : ∀ kind, latest kind acks = some (kind.of c) := by
    intro kind
    have sent : lastAlone kind (recent acks) ≠ none := by
      rcases half.eq_or_eq_other kind with rfl | rfl
      · exact one
      · exact two
    obtain ⟨text, said⟩ := Option.ne_none_iff_exists'.mp sent
    obtain ⟨last, alone⟩ := latest_of_recent said
    have there : lastAlone kind acks = some (kind.of c) :=
      Credentials.ofHalves_eq_some_iff.mp inForce kind
    exact last.trans (alone.symm.trans there)
  intro kind text last
  exact Option.some.inj ((each kind).symm.trans last)

/-- An object that was sent last is in force. -/
lemma isLatest_object : IsLatest (.object c :: earlier) c := by
  intro half text last
  exact Option.some.inj last

/-- Together with a half that is older than the last object, a lone half is what was acknowledged
last exactly if the object says the same. -/
lemma isLatest_of_stale_iff (lone : Lone half acks) {old : String}
    (stale : lastAlone half.other acks = some old) (inForce : pair acks = some c) :
    IsLatest acks c ↔ latest half.other acks = some old := by
  have parts := Credentials.ofHalves_eq_some_iff.mp inForce
  have combined : half.other.of c = old := Option.some.inj ((parts half.other).symm.trans stale)
  obtain ⟨text, said⟩ := Option.ne_none_iff_exists'.mp lone.1
  obtain ⟨last, alone⟩ := latest_of_recent said
  constructor
  · intro isLatest
    have sent : latest half.other acks ≠ none :=
      latest_ne_none (stale.trans_ne (Option.some_ne_none old))
    obtain ⟨newest, known⟩ := Option.ne_none_iff_exists'.mp sent
    rw [known, ← isLatest half.other newest known, combined]
  · intro agrees kind newest known
    rcases half.eq_or_eq_other kind with rfl | rfl
    · have there : some (kind.of c) = some text := (parts kind).symm.trans alone
      exact Option.some.inj (there.trans (last.symm.trans known))
    · exact combined.trans (Option.some.inj (agrees.symm.trans known))

/-- With no other half to put it together with, a lone half is what was acknowledged last exactly if
it is in force anyway. -/
lemma isLatest_of_unpaired_iff (lone : Lone half acks)
    (never : lastAlone half.other acks = none) (inForce : (lastObject acks).or initial = some c) :
    IsLatest acks c ↔ latest half acks = some (half.of c) := by
  obtain ⟨text, said⟩ := Option.ne_none_iff_exists'.mp lone.1
  obtain ⟨last, -⟩ := latest_of_recent said
  constructor
  · intro isLatest
    rw [last, isLatest half text last]
  · intro agrees kind newest known
    rcases half.eq_or_eq_other kind with rfl | rfl
    · exact Option.some.inj (agrees.symm.trans known)
    · rw [latest_of_lastAlone_eq_none never] at known
      cases object : lastObject acks with
      | none =>
        rw [object] at known
        exact nomatch known
      | some b =>
        rw [object] at known inForce
        obtain rfl : b = c := Option.some.inj inForce
        exact Option.some.inj known

/-- With a lone half, everything depends on the last half of the other kind. -/
lemma isLatest_iff_agrees {one : Half} (lone : Lone half (.single one text :: earlier))
    (h : inForce initial (.single one text :: earlier) = some c) :
    IsLatest (.single one text :: earlier) c ↔
      Agrees initial (.single one text :: earlier) half := by
  unfold Agrees
  cases other : lastAlone half.other (.single one text :: earlier) with
  | some old =>
    obtain ⟨newest, said⟩ := Option.ne_none_iff_exists'.mp lone.1
    obtain ⟨-, alone⟩ := latest_of_recent said
    obtain ⟨b, made⟩ : ∃ b, pair (.single one text :: earlier) = some b :=
      Credentials.exists_ofHalves alone other
    obtain rfl : b = c := Option.some.inj ((inForce_of_pair made).symm.trans h)
    exact isLatest_of_stale_iff lone other made
  | none =>
    rw [inForce_of_lastAlone_eq_none other] at h
    rw [isLatest_of_unpaired_iff lone other h, h]
    constructor
    · rintro agrees b same
      obtain rfl := Option.some.inj same
      exact agrees
    · intro agrees
      exact agrees c rfl

/-- Of two halves one at most is lone. -/
lemma Lone.eq {one : Half} (h : Lone half acks) (h' : Lone one acks) : one = half := by
  rcases half.eq_or_eq_other one with same | rfl
  · exact same
  · exact absurd h.2 h'.1

/-- Without a lone half, what was sent since the last object is complete. -/
lemma exists_recent_pair (sent : lastAlone half (recent acks) = some text)
    (complete : ∀ one, ¬ Lone one acks) :
    (∃ c, pair acks = some c) ∧ lastAlone half.other (recent acks) ≠ none := by
  have two : lastAlone half.other (recent acks) ≠ none := by
    intro missing
    exact complete half ⟨sent.trans_ne (Option.some_ne_none text), missing⟩
  obtain ⟨newest, said⟩ := Option.ne_none_iff_exists'.mp two
  exact ⟨Credentials.exists_ofHalves (latest_of_recent sent).2 (latest_of_recent said).2, two⟩

/-- What was acknowledged last is in force exactly if no lone half does harm. -/
theorem latest_iff_harmless (h : inForce initial acks = some c) :
    IsLatest acks c ↔ Harmless initial acks := by
  cases acks with
  | nil =>
    refine iff_of_true (fun half text said => nomatch said) fun half lone => ?_
    exact absurd rfl lone.1
  | cons ack earlier =>
    cases ack with
    | object b =>
      obtain rfl : b = c := Option.some.inj h
      refine iff_of_true isLatest_object fun half lone => ?_
      exact absurd rfl lone.1
    | single half text =>
      by_cases someLone : ∃ one, Lone one (.single half text :: earlier)
      · obtain ⟨one, lone⟩ := someLone
        rw [isLatest_iff_agrees lone h]
        constructor
        · intro agrees another loneAnother
          rw [lone.eq loneAnother]
          exact agrees
        · intro harmless
          exact harmless one lone
      · have complete := not_exists.mp someLone
        have sent : lastAlone half (recent (.single half text :: earlier)) = some text :=
          lastAlone_single_self
        obtain ⟨⟨b, made⟩, two⟩ := exists_recent_pair sent complete
        obtain rfl : b = c := Option.some.inj ((inForce_of_pair made).symm.trans h)
        have one := sent.trans_ne (Option.some_ne_none text)
        refine iff_of_true (isLatest_of_recent made one two) fun another lone => ?_
        exact absurd lone (complete another)

/-- A password that follows an object is put together with the name that came before it. -/
example : inForce none [.single .password "z", .object ⟨"Y", "y"⟩, .single .ssid "X"]
    = some ⟨"X", "z"⟩ := by decide

end Ack

end HatchSensor
