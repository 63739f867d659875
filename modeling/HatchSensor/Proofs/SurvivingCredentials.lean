import HatchSensor.Proofs.CredentialsInForce

/-!
# Credentials that survive storage

A text lies in its blob as it is, but zeros at its end are taken off when it is read.  The check of
new credentials looks at nothing but lengths, so that texts which end in zeros pass it, and come
back shorter or not at all.

`Credentials.survive_storage_iff` says, for every way in which the device accepts credentials, what
loads afterwards, and that this is what was accepted exactly if neither text ends in a zero.
-/

namespace HatchSensor

open Program

/-! ## Halves in the store -/

namespace Half

/-- The blob of this half. -/
def blob : Half → String
  | ssid => Credentials.ssidBlob
  | password => Credentials.passwordBlob

/-- The text that the store has for this half, if it can be used. -/
def stored (half : Half) (m : BlobMap) : Option String :=
  (Blob.textIn m half.blob).filter (Credentials.fits half.limit)

/-- The text of an accepted half is not empty. -/
lemma ne_empty_of_fits {half : Half} {text : String}
    (fits : Credentials.fits half.limit text = true) : text ≠ "" := by
  rintro rfl
  exact Credentials.textSize_ne_zero_of_fits fits rfl

/-- What comes back of an accepted half can be used. -/
lemma fits_of_restores {half : Half} {text back : String}
    (fits : Credentials.fits half.limit text = true) (h : Blob.Restores text back) :
    Credentials.fits half.limit back = true := by
  obtain ⟨n, shape⟩ := h.zeros
  have joined : text = back ++ String.ofList (List.replicate n '\x00') := by
    rw [← String.toList_inj, shape, String.toList_append, String.toList_ofList]
  have size : Bytes.textSize text = Bytes.textSize back
      + Bytes.textSize (String.ofList (List.replicate n '\x00')) := by
    rw [joined]
    exact String.utf8ByteSize_append
  have rest : Bytes.textSize back ≠ 0 := fun zero =>
    h.full (String.utf8ByteSize_eq_zero_iff.mp zero)
  have bounds := of_decide_eq_true fits
  exact decide_eq_true (by omega)

end Half

namespace Credentials

variable {refuses : BlobRequest → Prop} {m m' : BlobMap} {d : Dialogue Blobs} {c b : Credentials}

lemma validate_eq_ok_iff_halves :
    c.validate = .ok () ↔ ∀ half : Half, fits half.limit (half.of c) = true := by
  rw [validate_eq_ok_iff]
  refine ⟨fun both half => ?_, fun each => ⟨each .ssid, each .password⟩⟩
  cases half with
  | ssid => exact both.1
  | password => exact both.2

/-- Credentials are accepted as they are, or not at all. -/
lemma accept_eq_some_iff : accept c = some b ↔ c = b ∧ c.validate = .ok () := by
  unfold accept
  split
  · next valid => simp [valid]
  · next e invalid => simp [invalid]

lemma stored_half_eq_some_iff {half : Half} {text : String} :
    half.stored m = some text ↔
      Blob.textIn m half.blob = some text ∧ fits half.limit text = true :=
  Option.filter_eq_some_iff

/-- The stored credentials are the two halves that the store has. -/
lemma stored_eq_some_iff : stored m = some c ↔ ∀ half : Half, half.stored m = some (half.of c) := by
  have parts : stored m = some c ↔
      ∃ ssid, Blob.textIn m ssidBlob = some ssid ∧
        ∃ password, Blob.textIn m passwordBlob = some password ∧
          accept ⟨ssid, password⟩ = some c := by
    simp only [stored, Option.bind_eq_some_iff]
  rw [parts]
  constructor
  · rintro ⟨ssid, one, password, two, accepted⟩ half
    obtain ⟨rfl, valid⟩ := accept_eq_some_iff.mp accepted
    have fits := validate_eq_ok_iff_halves.mp valid half
    cases half with
    | ssid => exact stored_half_eq_some_iff.mpr ⟨one, fits⟩
    | password => exact stored_half_eq_some_iff.mpr ⟨two, fits⟩
  · intro halves
    obtain ⟨one, _⟩ := stored_half_eq_some_iff.mp (halves .ssid)
    obtain ⟨two, _⟩ := stored_half_eq_some_iff.mp (halves .password)
    have valid : c.validate = .ok () :=
      validate_eq_ok_iff_halves.mpr fun half => (stored_half_eq_some_iff.mp (halves half)).2
    exact ⟨_, one, _, two, accept_eq_some_iff.mpr ⟨rfl, valid⟩⟩

/-- A half that was written comes back without the zeros at its end. -/
lemma stored_half_of_content {half : Half} {text back : String}
    (fits : fits half.limit text = true)
    (content : m.get? half.blob = some (Bytes.encodeUtf8 text)) :
    half.stored m = some back ↔ Blob.Restores text back := by
  have read : Blob.textIn m half.blob = Blob.textOf (Bytes.encodeUtf8 text) := by
    rw [Blob.textIn, content]
    rfl
  rw [stored_half_eq_some_iff, read, Blob.textOf_encodeUtf8_eq_some_iff]
  exact and_iff_left_of_imp (Half.fits_of_restores fits)

/-! ## Accepted credentials -/

/-- Both halves were written. -/
lemma get?_savedIn (half : Half) :
    (c.savedIn m).get? half.blob = some (Bytes.encodeUtf8 (half.of c)) := by
  cases half with
  | ssid => exact get?_ssid_savedIn
  | password => exact get?_password_savedIn

end Credentials

namespace Session

variable {refuses : BlobRequest → Prop} {session later : Session} {m m' : BlobMap}
  {d : Dialogue Blobs} {c : Credentials} {payload : Bytes} {effect : WriteEffect}

/-- Credentials that a session could store were checked and written. -/
lemma savedIn_of_storeCredentials
    (h : Returns (BlobMap.Answers refuses) ((storeCredentials c).run session) m d
      (.ok (), later) m') :
    c.validate = .ok () ∧ later = session ∧ m' = c.savedIn m := by
  unfold storeCredentials at h
  split at h
  · exact nomatch (Prod.mk.inj (returns_done.mp h).2.1).1
  · next valid =>
    obtain ⟨result, saved, rfl, success⟩ := returns_store h
    cases result with
    | ok _ => exact ⟨valid, rfl, Credentials.eq_savedIn_of_save saved⟩
    | error e => exact nomatch success

/-- A bare object that has finished the session was checked and written. -/
lemma savedIn_of_bare (given : Credentials.ofPayload payload = .ok c)
    (h : Returns (BlobMap.Answers refuses) (handleBare session payload) m d (effect, later) m')
    (finished : effect.finished = true) : c.validate = .ok () ∧ m' = c.savedIn m := by
  unfold handleBare at h
  rw [given] at h
  obtain ⟨d₁, ⟨result, after⟩, m₁, d₂, -, storing, rest⟩ := returns_bind.mp h
  cases result with
  | ok _ =>
    obtain ⟨-, -, rfl⟩ := returns_done.mp rest
    obtain ⟨valid, -, saved⟩ := savedIn_of_storeCredentials storing
    exact ⟨valid, saved⟩
  | error e =>
    obtain ⟨-, same, -⟩ := returns_done.mp rest
    obtain ⟨rfl, -⟩ := Prod.mk.inj same
    exact nomatch finished

/-- A half that was taken, and that makes the credentials complete, was written with the other. -/
lemma savedIn_of_half {half : Half} {text : String} {finished : Bool}
    (h : Returns (BlobMap.Answers refuses) ((execute (half.command text)).run session) m d
      (.ok finished, later) m')
    (both : Credentials.ofHalves later.half = some c) :
    c.validate = .ok () ∧ m' = c.savedIn m := by
  rw [run_execute_half] at h
  split at h
  · rw [run_bind, run_completeCredentials] at h
    obtain ⟨d₁, ⟨result, after⟩, m₁, d₂, -, complete, rest⟩ := returns_bind.mp h
    cases result with
    | error e => exact nomatch (Prod.mk.inj (returns_done.mp rest).2.1).1
    | ok _ =>
      obtain ⟨-, same, rfl⟩ := returns_done.mp rest
      obtain ⟨-, rfl⟩ := Prod.mk.inj same
      cases made : Credentials.ofHalves (session.setHalf half text).half with
      | none =>
        rw [made] at complete
        obtain ⟨-, same, -⟩ := returns_done.mp complete
        obtain ⟨-, rfl⟩ := Prod.mk.inj same
        exact nomatch made.symm.trans both
      | some b =>
        rw [made] at complete
        obtain ⟨valid, rfl, saved⟩ := savedIn_of_storeCredentials complete
        obtain rfl := Option.some.inj (made.symm.trans both)
        exact ⟨valid, saved⟩
  · exact nomatch (Prod.mk.inj (returns_done.mp h).2.1).1

end Session

namespace Credentials

/-- The device accepts credentials, and the blobs `m` become `m'`. -/
inductive Accepted (refuses : BlobRequest → Prop) (c : Credentials) :
    BlobMap → BlobMap → Prop
  /-- They pass the check, and saving them succeeds. -/
  | saved {m m' : BlobMap} {d : Dialogue Blobs} (valid : c.validate = .ok ())
      (save : Returns (BlobMap.Answers refuses) c.save.run m d (.ok ()) m') :
      Accepted refuses c m m'
  /-- A client sends them in a bare object, and that finishes the session. -/
  | bare {m m' : BlobMap} {d : Dialogue Blobs} {session later : Session} {payload : Bytes}
      {effect : WriteEffect} (message : ClientMessage.ofPayload? payload = none)
      (given : ofPayload payload = .ok c)
      (written : Returns (BlobMap.Answers refuses) (session.write payload) m d (effect, later) m')
      (finished : effect.finished = true) : Accepted refuses c m m'
  /-- A client sends one half of them after the other, and is told that the command is done. -/
  | pair {m m' : BlobMap} {d : Dialogue Blobs} {session later : Session} {payload : Bytes}
      {effect : WriteEffect} {id : UInt32} {half : Half} {text : String}
      (message : ClientMessage.ofPayload? payload = some ⟨id, .command (half.command text)⟩)
      (written : Returns (BlobMap.Answers refuses) (session.write payload) m d (effect, later) m')
      (success : effect.reply = some ⟨id, .done⟩)
      (both : ofHalves later.half = some c) : Accepted refuses c m m'

variable {refuses : BlobRequest → Prop} {m m' : BlobMap} {c : Credentials}

/-- Accepted credentials were checked and written. -/
lemma Accepted.savedIn (h : Accepted refuses c m m') : c.validate = .ok () ∧ m' = c.savedIn m := by
  cases h with
  | saved valid save => exact ⟨valid, eq_savedIn_of_save save⟩
  | bare message given written finished =>
    unfold Session.write at written
    rw [message] at written
    exact Session.savedIn_of_bare given written finished
  | pair message written success both =>
    unfold Session.write at written
    rw [message] at written
    obtain ⟨outcome, executed, reply⟩ := Session.returns_handle rfl written
    obtain ⟨finished, rfl⟩ := reply.mp success
    exact Session.savedIn_of_half executed both

/-- What loads after credentials were accepted are the two texts without the zeros at their ends,
and this is what was accepted exactly if neither of them ends in a zero. -/
theorem survive_storage_iff (h : Accepted refuses c m m') :
    ∃ found, BlobMap.perform load m' = (found, m') ∧
      (∀ b, found = some b ↔
        Blob.Restores c.ssid b.ssid ∧ Blob.Restores c.password b.password) ∧
      (found = some c ↔ ¬ Blob.EndsInZero c.ssid ∧ ¬ Blob.EndsInZero c.password) := by
  obtain ⟨valid, rfl⟩ := h.savedIn
  have fits := validate_eq_ok_iff_halves.mp valid
  have found : ∀ b, stored (c.savedIn m) = some b ↔
      Blob.Restores c.ssid b.ssid ∧ Blob.Restores c.password b.password := by
    intro b
    have halves : ∀ half : Half, half.stored (c.savedIn m) = some (half.of b) ↔
        Blob.Restores (half.of c) (half.of b) := fun half =>
      stored_half_of_content (fits half) (get?_savedIn half)
    rw [stored_eq_some_iff]
    constructor
    · intro each
      exact ⟨(halves .ssid).mp (each .ssid), (halves .password).mp (each .password)⟩
    · rintro ⟨one, two⟩ half
      cases half with
      | ssid => exact (halves .ssid).mpr one
      | password => exact (halves .password).mpr two
  refine ⟨stored (c.savedIn m), perform_load _, found, ?_⟩
  rw [found c]
  exact and_congr (Blob.restores_self_iff (Half.ne_empty_of_fits (fits .ssid)))
    (Blob.restores_self_iff (Half.ne_empty_of_fits (fits .password)))

/-- The name of this network ends in a zero. -/
def zeroEnded : Credentials := ⟨"barn\x00", "hunter22"⟩

def zeroEndedMessage : Bytes :=
  Bytes.encodeUtf8 "\x7b\"wifiSSID\":\"barn\\u0000\",\"wifiPassword\":\"hunter22\"\x7d"

/-- A network is accepted, and the device will look for another one. -/
theorem accepted_network_comes_back_as_another :
    ∃ m', Accepted (fun _ => False) zeroEnded .empty m' ∧
      BlobMap.perform load m' = (some ⟨"barn", "hunter22"⟩, m') ∧
      ⟨"barn", "hunter22"⟩ ≠ zeroEnded := by
  have message : ClientMessage.ofPayload? zeroEndedMessage = none := by decide +kernel
  have given : ofPayload zeroEndedMessage = .ok zeroEnded := by decide +kernel
  have finished : (BlobMap.perform ((Session.start "").write zeroEndedMessage)
      .empty).1.1.finished = true := by decide +kernel
  rcases said : BlobMap.perform ((Session.start "").write zeroEndedMessage) .empty
    with ⟨⟨effect, later⟩, m'⟩
  obtain ⟨d, written⟩ : ∃ d, Returns (BlobMap.Answers fun _ => False)
      ((Session.start "").write zeroEndedMessage) .empty d (effect, later) m' :=
    BlobMap.returns_of_perform said
  rw [said] at finished
  have accepted : Accepted (fun _ => False) zeroEnded .empty m' :=
    .bare message given written finished
  obtain ⟨found, loads, exact, -⟩ := survive_storage_iff accepted
  have shorter : found = some ⟨"barn", "hunter22"⟩ :=
    (exact _).mpr ⟨⟨⟨1, by decide⟩, by decide, by decide⟩, ⟨0, by decide⟩, by decide, by decide⟩
  exact ⟨m', accepted, shorter ▸ loads, by decide⟩

end Credentials

end HatchSensor
