import HatchSensor.Proofs.SurvivingCredentials

/-!
# A save that is cut short

Credentials lie in two blobs and the name of the network is written first.  The store may refuse
either write and power may fail between them, so a save that does not succeed has changed nothing,
or has put the new name beside the old password: `Credentials.blobs_of_cut_save`.

The device takes what it finds for one network.  `Credentials.cut_save_is_harmless_iff` says what it
finds, and when this is what it found before.
-/

namespace HatchSensor

open Program

namespace Credentials

variable {refuses : BlobRequest → Prop} {m m' : BlobMap} {d : Dialogue Blobs}
  {q : Program Blobs (Stored Unit)} {c b : Credentials}

/-- The name of the network was written, and the password was not. -/
def named (c : Credentials) (m : BlobMap) : BlobMap := m.put ssidBlob (Bytes.encodeUtf8 c.ssid)

/-- A save that has not succeeded has changed nothing, or it has written the name of the network. -/
lemma blobs_of_cut_save (h : Reaches (BlobMap.Answers refuses) c.save.run m d q m')
    (cut : q ≠ .done (.ok ())) : m' = m ∨ m' = c.named m := by
  unfold save at h
  rw [ExceptT.run_bind] at h
  rcases reaches_ask.mp h with ⟨-, -, rfl⟩ | ⟨x, m₁, d₁, -, answered, later⟩
  · exact Or.inl rfl
  rcases BlobMap.answers_write.mp answered with ⟨rfl, rfl⟩ | ⟨-, ⟨e, rfl⟩, rfl⟩
  · rcases reaches_request.mp later with ⟨-, -, rfl⟩ | ⟨y, -, rfl, answered'⟩
    · exact Or.inr rfl
    · rcases BlobMap.answers_write.mp answered' with ⟨rfl, -⟩ | ⟨-, -, rfl⟩
      · exact absurd rfl cut
      · exact Or.inr rfl
  · exact Or.inl (reaches_done.mp later).2.2

/-- Power may fail before the first write, and between the two. -/
lemma exists_cut_save (refuses : BlobRequest → Prop) (c : Credentials) {m m' : BlobMap}
    (left : m' = m ∨ m' = c.named m) :
    ∃ d q, Reaches (BlobMap.Answers refuses) c.save.run m d q m' ∧ q ≠ .done (.ok ()) := by
  rcases left with rfl | rfl
  · exact ⟨[], c.save.run, .rest _ _, nofun⟩
  · have first : BlobMap.Answers refuses (.write ssidBlob (Bytes.encodeUtf8 c.ssid)) m (.ok ())
        (c.named m) := Or.inl ⟨rfl, rfl⟩
    exact ⟨_, (Blob.write passwordBlob (Bytes.encodeUtf8 c.password)).run,
      .ask first (.rest _ _), nofun⟩

/-! ## What is left -/

/-- The stored credentials are made of the two halves that the store has. -/
lemma stored_eq_bind (m : BlobMap) :
    stored m = (Half.password.stored m).bind fun password =>
      (Half.ssid.stored m).map fun ssid => ⟨ssid, password⟩ := by
  refine Option.ext fun c => ?_
  rw [stored_eq_some_iff, Option.bind_eq_some_iff]
  constructor
  · intro halves
    refine ⟨c.password, halves .password, ?_⟩
    rw [halves .ssid]
    rfl
  · rintro ⟨password, two, both⟩ half
    obtain ⟨ssid, one, rfl⟩ := Option.map_eq_some_iff.mp both
    cases half with
    | ssid => exact one
    | password => exact two

/-- Stores that have the same password, if any, have the same credentials exactly if there is none
or they have the same name of the network, too. -/
lemma stored_eq_stored_iff (same : Half.password.stored m' = Half.password.stored m) :
    stored m' = stored m ↔
      Half.password.stored m = none ∨ Half.ssid.stored m' = Half.ssid.stored m := by
  rw [stored_eq_bind, stored_eq_bind m, same]
  cases Half.password.stored m with
  | none => exact iff_of_true rfl (Or.inl rfl)
  | some password =>
    have paired : Function.Injective fun ssid => Credentials.mk ssid password :=
      fun _ _ h => congrArg Credentials.ssid h
    rw [or_iff_right (Option.some_ne_none password)]
    exact (Option.map_injective paired).eq_iff

/-- The password is still the one that the store had. -/
lemma stored_password_named : Half.password.stored (c.named m) = Half.password.stored m := by
  have other : (c.named m).get? passwordBlob = m.get? passwordBlob :=
    BlobMap.get?_put_of_ne _ (by decide) _
  unfold Half.stored Half.blob Blob.textIn
  rw [other]

/-- The name of the network is the new one. -/
lemma stored_ssid_named {text : String} (valid : c.validate = .ok ()) :
    Half.ssid.stored (c.named m) = some text ↔ Blob.Restores c.ssid text :=
  stored_half_of_content (validate_eq_ok_iff_halves.mp valid .ssid) (BlobMap.get?_put_self _ _ _)

/-- The new name of the network is taken for the name of the old one. -/
lemma stored_named_eq_some_iff (valid : c.validate = .ok ()) :
    stored (c.named m) = some b ↔
      Blob.Restores c.ssid b.ssid ∧ Half.password.stored m = some b.password := by
  rw [stored_eq_some_iff, ← stored_ssid_named (m := m) valid, ← stored_password_named (c := c)]
  refine ⟨fun halves => ⟨halves .ssid, halves .password⟩, ?_⟩
  rintro ⟨one, two⟩ half
  cases half with
  | ssid => exact one
  | password => exact two

/-- A save of valid credentials is cut short: the store refuses a write, or power fails.  It can
have changed nothing, or have written the new name of the network.  Then the new name is found with
the old password, and that is harmless only if there is no password to be found, or the name is the
one that the store had. -/
theorem cut_save_is_harmless_iff (valid : c.validate = .ok ()) :
    (∀ m', m' = m ∨ m' = c.named m →
      ∃ d q, Reaches (BlobMap.Answers refuses) c.save.run m d q m' ∧ q ≠ .done (.ok ())) ∧
    ∀ d q m', Reaches (BlobMap.Answers refuses) c.save.run m d q m' → q ≠ .done (.ok ()) →
      (m' = m ∨ m' = c.named m) ∧
      (m' = c.named m → ∀ b, (BlobMap.perform load m').1 = some b ↔
        Blob.Restores c.ssid b.ssid ∧ Half.password.stored m = some b.password) ∧
      ((BlobMap.perform load m').1 = (BlobMap.perform load m).1 ↔
        m' = m ∨ Half.password.stored m = none ∨
          ∀ text, Half.ssid.stored m = some text ↔ Blob.Restores c.ssid text) := by
  refine ⟨fun m' left => exists_cut_save refuses c left, fun d q m' h cut => ?_⟩
  have left := blobs_of_cut_save h cut
  rw [perform_load, perform_load]
  refine ⟨left, fun written b => written ▸ stored_named_eq_some_iff valid, ?_⟩
  rcases left with rfl | rfl
  · exact iff_of_true rfl (Or.inl rfl)
  have name : Half.ssid.stored (c.named m) = Half.ssid.stored m ↔
      ∀ text, Half.ssid.stored m = some text ↔ Blob.Restores c.ssid text := by
    rw [eq_comm, Option.ext_iff]
    exact forall_congr' fun text => by rw [stored_ssid_named valid]
  rw [stored_eq_stored_iff stored_password_named, name]
  refine ⟨Or.inr, ?_⟩
  rintro (same | harmless)
  · -- the old name was written once more
    exact Or.inr (name.mp (congrArg Half.ssid.stored same))
  · exact harmless

/-- A store that takes the name of a network, but not the password. -/
def refusesPassword (r : BlobRequest) : Prop := r.changes = some passwordBlob

/-- A save fails at its second write, and the device finds the new name with the old password. -/
theorem failed_save_mixes_networks :
    (⟨"new", "other"⟩ : Credentials).validate = .ok () ∧
      (BlobMap.perform load Session.knownNetwork).1 = some ⟨"old", "secret"⟩ ∧
      ∃ d e m', Returns (BlobMap.Answers refusesPassword)
          (⟨"new", "other"⟩ : Credentials).save.run Session.knownNetwork d (.error e) m' ∧
        (BlobMap.perform load m').1 = some ⟨"new", "secret"⟩ := by
  have valid : (⟨"new", "other"⟩ : Credentials).validate = .ok () := by decide
  have old : Half.password.stored Session.knownNetwork = some "secret" := by decide +kernel
  have refused : refusesPassword (.write passwordBlob (Bytes.encodeUtf8 "other")) := rfl
  have failed : Returns (BlobMap.Answers refusesPassword)
      (⟨"new", "other"⟩ : Credentials).save.run Session.knownNetwork _
      (.error (MemoryBlobs.writeFailure passwordBlob))
      (named ⟨"new", "other"⟩ Session.knownNetwork) :=
    .ask (Or.inl ⟨rfl, rfl⟩) (.ask (Or.inr ⟨refused, ⟨_, rfl⟩, rfl⟩) (.rest _ _))
  have mixed := ((cut_save_is_harmless_iff valid).2 _ _ _ failed nofun).2.1 rfl
  exact ⟨valid, by decide +kernel, _, _, _, failed,
    (mixed _).mpr ⟨⟨⟨0, by decide⟩, by decide, by decide⟩, old⟩⟩

end Credentials

end HatchSensor
