import HatchSensor.Proofs.PhaseNeeds

/-!
# A factory reset that is cut short

A factory reset changes four blobs, one after the other: it removes the configuration, then the two
halves of the credentials, and only then stores the phase in which the device is provisioned.  The
store may refuse each of these changes and power may fail after each of them, so the number of
changes that were made decides what the device wakes up with: `Lifecycle.partlyReset_of_reaches`.

A reset that is cut short before its first change leaves the device as it was, and one that is cut
short after its last has done its work.  In between the device goes on with its old phase, but not
with what that phase needs: `Lifecycle.cut_reset_is_harmless_iff`.
-/

namespace HatchSensor

open Program World

/-! ## Changes -/

/-- A blob was changed. -/
def Exchange.changed : Exchange Surroundings → Bool
  | ⟨.blob (.write _ _), .ok _⟩ => true
  | ⟨.blob (.append _ _), .ok _⟩ => true
  | ⟨.blob (.remove _), .ok _⟩ => true
  | _ => false

/-- The number of changes that were made to blobs in a dialogue. -/
def changeCount (d : Dialogue Surroundings) : Nat := d.countP Exchange.changed

lemma changeCount_cons_of_pos {e : Exchange Surroundings} {d : Dialogue Surroundings}
    (h : e.changed = true) : changeCount (e :: d) = changeCount d + 1 :=
  List.countP_cons_of_pos h

namespace World

variable {L : Licence} {α : Type} {w w' : World} {d : Dialogue Surroundings}
  {q : Program Surroundings α}

/-- A request to a store that no client uses: it has not been answered yet, or the store has
answered it and nobody else has changed a blob. -/
lemma reaches_blob (closed : w.session = none) {r : BlobRequest}
    {k : r.Answer → Program Surroundings α}
    (h : Reaches (answers L) (.ask (.blob r) k) w d q w') :
    (d = [] ∧ w' = w) ∨ ∃ x u d', d = ⟨DeviceRequest.blob r, x⟩ :: d' ∧
      BlobMap.Answers L.refuses r w.blobs x u.blobs ∧ u.session = none ∧
      Reaches (answers L) (k x) u d' q w' := by
  rcases reaches_ask.mp h with ⟨rfl, -, rfl⟩ | ⟨x, u, d', rfl, ⟨v, reply, others⟩, later⟩
  · exact Or.inl ⟨rfl, rfl⟩
  · obtain ⟨blobs, answered, rfl⟩ := reply
    obtain ⟨same, shut, -⟩ := others.acts.of_closed closed
    exact Or.inr ⟨x, u, d', rfl, same ▸ answered, shut, later⟩

variable {explain : StoreError → DeviceError} {k : Unit → DeviceProgram α} {name : String}
  {q : Program Surroundings (Except DeviceError α)}

/-- A change that has not been made, or was refused, leaves the store alone; after one that was made
the phase goes on. -/
lemma reaches_remove (closed : w.session = none)
    (h : Reaches (answers L) (DeviceProgram.store explain (Blob.remove name) >>= k).run w d q w') :
    (changeCount d = 0 ∧ w'.blobs = w.blobs) ∨
      ∃ u d', changeCount d = changeCount d' + 1 ∧ u.blobs = w.blobs.erase name ∧
        u.session = none ∧ Reaches (answers L) (k ()).run u d' q w' := by
  rw [DeviceProgram.run_store_bind] at h
  rcases reaches_blob closed h with ⟨rfl, rfl⟩ | ⟨x, u, d', rfl, answered, shut, later⟩
  · exact Or.inl ⟨rfl, rfl⟩
  · rcases BlobMap.answers_remove.mp answered with ⟨rfl, made⟩ | ⟨-, ⟨e, rfl⟩, same⟩
    · exact Or.inr ⟨u, d', changeCount_cons_of_pos rfl, made, shut, later⟩
    · obtain ⟨rfl, -, rfl⟩ := reaches_done.mp later
      exact Or.inl ⟨rfl, same⟩

lemma reaches_write {content : Bytes} (closed : w.session = none)
    (h : Reaches (answers L) (DeviceProgram.store explain (Blob.write name content) >>= k).run
      w d q w') :
    (changeCount d = 0 ∧ w'.blobs = w.blobs) ∨
      ∃ u d', changeCount d = changeCount d' + 1 ∧ u.blobs = w.blobs.put name content ∧
        u.session = none ∧ Reaches (answers L) (k ()).run u d' q w' := by
  rw [DeviceProgram.run_store_bind] at h
  rcases reaches_blob closed h with ⟨rfl, rfl⟩ | ⟨x, u, d', rfl, answered, shut, later⟩
  · exact Or.inl ⟨rfl, rfl⟩
  · rcases BlobMap.answers_write.mp answered with ⟨rfl, made⟩ | ⟨-, ⟨e, rfl⟩, same⟩
    · exact Or.inr ⟨u, d', changeCount_cons_of_pos rfl, made, shut, later⟩
    · obtain ⟨rfl, -, rfl⟩ := reaches_done.mp later
      exact Or.inl ⟨rfl, same⟩

end World

namespace DeviceProgram

variable {α β γ : Type} {explain : StoreError → DeviceError}

/-- What follows a store operation may be put another way. -/
lemma run_store_bind_congr {p : BlobProgram α} {k k' : α → DeviceProgram β}
    (same : ∀ a, (k a).run = (k' a).run) :
    (DeviceProgram.store explain p >>= k).run = (DeviceProgram.store explain p >>= k').run := by
  simp only [run_store_bind, same]

/-- A store operation in two parts is two store operations. -/
lemma run_store_bind_bind (p : BlobProgram α) (f : α → BlobProgram β) (k : β → DeviceProgram γ) :
    (DeviceProgram.store explain (p >>= f) >>= k).run =
      (DeviceProgram.store explain p >>= fun a => DeviceProgram.store explain (f a) >>= k).run := by
  simp only [run_store_bind, onBlobs_run_bind, bind_assoc]
  congr 1
  funext y
  cases y <;> rfl

end DeviceProgram

namespace Lifecycle

variable {L : Licence} {w w' : World} {d : Dialogue Surroundings}
  {q : Program Surroundings (Except DeviceError UInt32)}

/-! ## The changes of a factory reset -/

/-- The changes that a factory reset makes, in order. -/
def resetChanges : List BlobRequest :=
  [.remove HatchConfig.blob, .remove Credentials.ssidBlob, .remove Credentials.passwordBlob,
    .write Phase.blob (Bytes.ofWord Phase.provisioning.word)]

/-- What the first changes of a factory reset make of the blobs. -/
def partlyReset (n : Nat) (blobs : BlobMap) : BlobMap :=
  (resetChanges.take n).foldl (fun m r => (m.answer r).1) blobs

/-- A factory reset, change by change. -/
lemma factoryReset_eq :
    factoryReset.run =
      (DeviceProgram.store .store (Blob.remove HatchConfig.blob) >>= fun _ =>
        DeviceProgram.store .store (Blob.remove Credentials.ssidBlob) >>= fun _ =>
        DeviceProgram.store .store (Blob.remove Credentials.passwordBlob) >>= fun _ =>
        DeviceProgram.store .store
          (Blob.write Phase.blob (Bytes.ofWord Phase.provisioning.word)) >>= fun _ =>
        DeviceProgram.ask (Surroundings.clear .resetRequested) >>= fun _ => pure handOff).run :=
  DeviceProgram.run_store_bind_congr fun _ => DeviceProgram.run_store_bind_bind _ _ _

/-- The number of changes that a factory reset has made says what has become of the blobs, wherever
it was cut short. -/
lemma partlyReset_of_reaches (closed : w.session = none)
    (h : Reaches (answers L) factoryReset.run w d q w') :
    changeCount d ≤ 4 ∧ w'.blobs = partlyReset (changeCount d) w.blobs := by
  rw [factoryReset_eq] at h
  rcases reaches_remove closed h with ⟨count, same⟩ | ⟨w₁, d₁, count₁, blobs₁, closed₁, h₁⟩
  · rw [count]
    exact ⟨Nat.zero_le _, same⟩
  rcases reaches_remove closed₁ h₁ with ⟨count, same⟩ | ⟨w₂, d₂, count₂, blobs₂, closed₂, h₂⟩
  · rw [count₁, count]
    exact ⟨by decide, same.trans blobs₁⟩
  rcases reaches_remove closed₂ h₂ with ⟨count, same⟩ | ⟨w₃, d₃, count₃, blobs₃, closed₃, h₃⟩
  · rw [count₁, count₂, count]
    refine ⟨by decide, ?_⟩
    rw [same, blobs₂, blobs₁]
    rfl
  rcases reaches_write closed₃ h₃ with ⟨count, same⟩ | ⟨w₄, d₄, count₄, blobs₄, closed₄, h₄⟩
  · rw [count₁, count₂, count₃, count]
    refine ⟨by decide, ?_⟩
    rw [same, blobs₃, blobs₂, blobs₁]
    rfl
  have last : changeCount d₄ = 0 ∧ w'.blobs = w₄.blobs := by
    rw [DeviceProgram.run_ask_bind] at h₄
    rcases reaches_ask.mp h₄ with ⟨rfl, -, rfl⟩ | ⟨x, u, d', rfl, ⟨v, rfl, others⟩, halted⟩
    · exact ⟨rfl, rfl⟩
    · obtain ⟨rfl, -, rfl⟩ := reaches_done.mp halted
      exact ⟨rfl, (others.acts.of_closed closed₄).1⟩
  rw [count₁, count₂, count₃, count₄, last.1]
  refine ⟨by decide, ?_⟩
  rw [last.2, blobs₄, blobs₃, blobs₂, blobs₁]
  rfl

/-- Whatever the store may refuse, it need not, so that a factory reset can be cut short after any
of its changes. -/
lemma exists_cut (L : Licence) (w : World) {n : Nat} (few : n ≤ 4) :
    ∃ d q w', Reaches (answers L) factoryReset.run w d q w' ∧ changeCount d = n := by
  have whole : Returns (answers L) factoryReset.run w resetRequests (.ok handOff)
      (converse calm factoryReset.run w).2.2 :=
    returns_converse (answers_calm L) factoryReset.run w
  rw [← List.take_append_drop n resetRequests] at whole
  obtain ⟨q, w', first, -⟩ := Reaches.split whole
  have counts : ∀ m ≤ 4, changeCount (resetRequests.take m) = m := by decide
  exact ⟨_, q, w', first, counts n few⟩

/-! ## What is left -/

section Left

variable {m : BlobMap} {n : Nat}

/-- Changes of other blobs leave a blob alone. -/
lemma get?_of_changes {name : String} {changes : List BlobRequest}
    (others : ∀ r ∈ changes, BlobRequest.changes r ≠ some name) :
    (changes.foldl (fun m r => (m.answer r).1) m).get? name = m.get? name := by
  induction changes generalizing m with
  | nil => rfl
  | cons r rest ih =>
    obtain ⟨first, later⟩ := List.forall_mem_cons.mp others
    have answered : BlobMap.Answers (fun _ => False) r m (m.answer r).2 (m.answer r).1 :=
      Or.inl ⟨rfl, rfl⟩
    exact (ih later).trans (answered.get?_eq first)

/-- The phase is stored last. -/
lemma phase_of_partlyReset (cut : n < 4) :
    (partlyReset n m).get? Phase.blob = m.get? Phase.blob := by
  have others : ∀ n < 4, ∀ r ∈ resetChanges.take n, BlobRequest.changes r ≠ some Phase.blob := by
    decide
  exact get?_of_changes (others n cut)

lemma phase_of_wholeReset :
    (partlyReset 4 m).get? Phase.blob = some (Bytes.ofWord Phase.provisioning.word) :=
  BlobMap.get?_put_self _ _ _

/-- The first change takes the configuration, for good. -/
lemma config_of_partlyReset : (partlyReset (n + 1) m).get? HatchConfig.blob = none := by
  have others : ∀ r ∈ resetChanges.tail, BlobRequest.changes r ≠ some HatchConfig.blob := by decide
  have rest : ∀ r ∈ resetChanges.tail.take n, BlobRequest.changes r ≠ some HatchConfig.blob :=
    fun r hr => others r (List.mem_of_mem_take hr)
  exact (get?_of_changes rest).trans (BlobMap.get?_erase_self _ _)

/-- The second change takes the credentials, for good. -/
lemma ssid_of_partlyReset : (partlyReset (n + 2) m).get? Credentials.ssidBlob = none := by
  have others : ∀ r ∈ resetChanges.tail.tail,
      BlobRequest.changes r ≠ some Credentials.ssidBlob := by decide
  have rest : ∀ r ∈ resetChanges.tail.tail.take n,
      BlobRequest.changes r ≠ some Credentials.ssidBlob :=
    fun r hr => others r (List.mem_of_mem_take hr)
  exact (get?_of_changes rest).trans (BlobMap.get?_erase_self _ _)

lemma credentials_of_partlyReset : Credentials.stored (partlyReset (n + 2) m) = none := by
  have missing : Blob.textIn (partlyReset (n + 2) m) Credentials.ssidBlob = none := by
    rw [Blob.textIn, ssid_of_partlyReset]
    rfl
  rw [Credentials.stored, missing]
  rfl

/-- The first change does not touch the credentials. -/
lemma credentials_of_firstChange :
    Credentials.stored (partlyReset 1 m) = Credentials.stored m :=
  Credentials.stored_congr (BlobMap.get?_erase_of_ne _ (by decide))
    (BlobMap.get?_erase_of_ne _ (by decide))

end Left

/-- The device starts over, or goes on with the credentials and the configuration it had. -/
def Harmless (w w' : World) : Prop :=
  w'.phase = .provisioning ∨
    Credentials.stored w'.blobs = Credentials.stored w.blobs ∧ w'.config = w.config

/-- A device that has credentials and is online or measuring is reset, and the reset is cut short:
power fails or the store refuses a change.  That can happen after any of its four changes.  It is
harmless before the first change and after the last, and else only if the first change is the only
one and there was no configuration to lose. -/
theorem cut_reset_is_harmless_iff {c : Credentials} (closed : w.session = none)
    (busy : w.phase = .measuring ∨ w.phase = .configuring)
    (stored : Credentials.stored w.blobs = some c) :
    (∀ n ≤ 4, ∃ d q w', Reaches (answers L) factoryReset.run w d q w' ∧ changeCount d = n) ∧
    ∀ d q w', Reaches (answers L) factoryReset.run w d q w' → changeCount d ≤ 4 ∧
      (Harmless w w' ↔
        changeCount d = 0 ∨ changeCount d = 4 ∨ changeCount d = 1 ∧ w.config = .default) := by
  refine ⟨fun n few => exists_cut L w few, fun d q w' h => ?_⟩
  obtain ⟨few, blobs⟩ := partlyReset_of_reaches closed h
  refine ⟨few, ?_⟩
  have later : w.phase ≠ .provisioning := by
    rcases busy with phase | phase <;> rw [phase] <;> decide
  -- the phase is still the old one unless all changes were made
  have undone : changeCount d < 4 → w'.phase ≠ .provisioning := by
    intro cut
    rw [phase, blobs, phase_of_partlyReset cut]
    exact later
  rcases Nat.lt_or_ge (changeCount d) 2 with early | late
  · have kept : changeCount d = 0 ∨ changeCount d = 1 := by omega
    have same := undone (by omega)
    rcases kept with none_made | one_made
    · rw [none_made] at blobs
      have unchanged : w'.blobs = w.blobs := blobs
      refine iff_of_true (Or.inr ⟨by rw [unchanged], ?_⟩) (Or.inl none_made)
      rw [config, config, unchanged]
    · rw [one_made] at blobs
      have lost : w'.config = .default := by
        rw [config, blobs, config_of_partlyReset]
        rfl
      rw [Harmless, blobs, credentials_of_firstChange, lost, one_made]
      constructor
      · rintro (phase | ⟨-, default⟩)
        · exact absurd phase same
        · exact Or.inr (Or.inr ⟨rfl, default.symm⟩)
      · rintro (absent | absent | ⟨-, default⟩)
        · exact absurd absent (by decide)
        · exact absurd absent (by decide)
        · exact Or.inr ⟨rfl, default.symm⟩
  · obtain ⟨n, count⟩ := Nat.exists_eq_add_of_le' late
    by_cases whole : changeCount d = 4
    · refine iff_of_true (Or.inl ?_) (Or.inr (Or.inl whole))
      rw [phase, blobs, whole, phase_of_wholeReset]
      decide
    · have same := undone (by omega)
      have gone : Credentials.stored w'.blobs = none := by
        rw [blobs, count]
        exact credentials_of_partlyReset
      refine iff_of_false ?_ (by omega)
      rintro (phase | ⟨kept, -⟩)
      · exact same phase
      · exact absurd ((gone.symm.trans kept).trans stored) (by simp)

/-- A device that measures, and has a hatch and credentials, is reset, and power fails after the
second change: it goes on measuring without either. -/
theorem measuring_device_is_left_without_credentials :
    readyWorld.session = none ∧ readyWorld.phase = .measuring ∧
      Credentials.stored readyWorld.blobs = some ⟨"coop", "chickens"⟩ ∧
      ∃ d q w', Reaches (answers obligingLicence) factoryReset.run readyWorld d q w' ∧
        changeCount d = 2 ∧ ¬ Harmless readyWorld w' := by
  have closed : readyWorld.session = none := by
    have shut : readyWorld.session.isNone = true := by decide +kernel
    exact Option.isNone_iff_eq_none.mp shut
  have measuring : readyWorld.phase = .measuring := by decide +kernel
  have stored : Credentials.stored readyWorld.blobs = some ⟨"coop", "chickens"⟩ := by
    decide +kernel
  obtain ⟨cuts, left⟩ := cut_reset_is_harmless_iff (L := obligingLicence) closed
    (Or.inl measuring) stored
  obtain ⟨d, q, w', reached, twice⟩ := cuts 2 (by decide)
  refine ⟨closed, measuring, stored, d, q, w', reached, twice, fun harmless => ?_⟩
  have counts := (left d q w' reached).2.mp harmless
  omega

end Lifecycle

end HatchSensor
