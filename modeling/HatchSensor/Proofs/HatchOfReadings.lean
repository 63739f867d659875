import HatchSensor.Proofs.HatchInForce
import HatchSensor.Proofs.Life
import HatchSensor.Proofs.MessageMembers
import HatchSensor.Proofs.StoredConfig

/-!
# The hatch of a reading

Along every life each message names the hatch that is in force when it is published.  That need not
be the hatch of the configuration that was stored when its reading was taken: the log does not say
whose readings it holds, and the shadow is asked for before the log is published.  It is that hatch
as long as nothing disputes it: no usable document names another one, the configuration is not
removed, and it can be read.

The second statement needs an invariant that relates the dialogue to the store.  `Watching` says
that the hatch of the stored configuration, that of the loaded one and the one in force are all the
same; what is not `Undisputed` may end this, and nothing else does (`Watching.answered`).
-/

namespace HatchSensor

open Program World ShadowExchange

variable {L : Licence} {device : DeviceSettings} {w w' : World} {u : String}
  {past d e : Dialogue Surroundings}

/-! ## Lives -/

namespace Life

/-- Along a life every exchange is as it should be. -/
lemma attributed (h : Life L device w d w') : Throughout Attributed [] d := by
  induction h with
  | unused => exact throughout_nil
  | powered bits rounds periods earlier running ih =>
    have conduct := Attribution.conducted_live device rounds periods
    exact throughout_append.mpr ⟨ih, ((conduct _).follow running).1⟩

/-- A life can be looked at earlier. -/
lemma cut (h : Life L device w (d ++ e) w') : ∃ v, Life L device w d v := by
  generalize whole : d ++ e = long at h
  induction h generalizing e with
  | unused =>
    obtain ⟨rfl, -⟩ := List.append_eq_nil_iff.mp whole
    exact ⟨w, .unused w⟩
  | powered bits rounds periods earlier running ih =>
    rcases List.append_eq_append_iff.mp whole with ⟨m, rfl, -⟩ | ⟨m, rfl, rfl⟩
    · exact ih rfl
    · obtain ⟨q, v, first, -⟩ := running.split
      exact ⟨v, earlier.powered bits rounds periods first⟩

end Life

/-! ## The hatch of the store -/

/-- While the configuration can be read, others leave its hatch alone. -/
lemma World.uuid_of_act (readable : ¬ L.refuses (.read HatchConfig.blob)) (done : Act L w w') :
    w'.config.uuid = w.config.uuid := by
  cases done with
  | stir => rfl
  | write opened written =>
    rcases Session.thresholdsSet_of_write written with
      same | ⟨update, current, updated, known, applied, put⟩
    · rw [World.config, World.config, same]
    · obtain rfl := known.resolve_right fun refused => readable refused.1
      have kept := HatchConfig.uuid_of_applyThresholds applied
      have storable : HatchConfig.Storable updated.uuid := by
        rw [kept]
        exact HatchConfig.storable_ofBlob _
      rw [World.config, put, storable.uuid_ofBlob, kept]
      rfl

lemma World.uuid_of_acts (readable : ¬ L.refuses (.read HatchConfig.blob)) (done : Acts L w w') :
    w'.config.uuid = w.config.uuid := by
  induction done with
  | refl => rfl
  | tail _ act ih => rw [World.uuid_of_act readable act, ih]

/-- The stored hatch, the loaded one and the one in force are the hatch `u`. -/
structure Watching (u : String) (past : Dialogue Surroundings) (w : World) : Prop where
  stored : w.config.uuid = u
  loaded : (inForce past).config.uuid = u
  hatch : (inForce past).hatch = u

/-- The exchange has removed the configuration. -/
def Exchange.removesConfig : Exchange Surroundings → Bool
  | ⟨.blob (.remove name), .ok _⟩ => name == HatchConfig.blob
  | _ => false

/-- An exchange that does not dispute the hatch `u`: no usable document in it names another one, and
it does not remove the configuration. -/
def Undisputed (u : String) (past : Dialogue Surroundings) (e : Exchange Surroundings) : Prop :=
  (∀ c ∈ usable (inForce past).config e.documents, c.uuid = u) ∧ e.removesConfig = false

instance (u : String) (past : Dialogue Surroundings) (e : Exchange Surroundings) :
    Decidable (Undisputed u past e) :=
  inferInstanceAs (Decidable (_ ∧ _))

namespace Watching

lemma congr (h : Watching u past w) (blobs : w'.blobs = w.blobs) : Watching u past w' := by
  refine ⟨?_, h.loaded, h.hatch⟩
  rw [World.config, blobs]
  exact h.stored

/-- What is stored as configuration keeps the stored hatch. -/
lemma stored_of_answers (h : Watching u past w) (readable : ¬ L.refuses (.read HatchConfig.blob))
    {r : DeviceRequest} {x : r.Answer} (answered : answers L r w x w')
    (attributed : Attributed past ⟨r, x⟩) (undisputed : Undisputed u past ⟨r, x⟩) :
    w'.config.uuid = u := by
  by_cases changes : r.changes = some HatchConfig.blob
  · cases r with
    | blob request =>
      obtain ⟨blobs, performed, acts⟩ := exists_blobs_of_answers answered
      rw [World.uuid_of_acts readable acts]
      cases request with
      | write name content =>
        obtain rfl : name = HatchConfig.blob := Option.some.inj changes
        obtain ⟨c, rfl, stands⟩ := attributed rfl
        rcases BlobMap.answers_write.mp performed with ⟨-, rfl⟩ | ⟨-, -, rfl⟩
        · have same : c.uuid = u := stands.elim (·.trans h.loaded) (·.trans h.hatch)
          have storable : HatchConfig.Storable c.uuid := by
            rw [same, ← h.stored]
            exact HatchConfig.storable_ofBlob _
          rw [World.config, BlobMap.get?_put_self, storable.uuid_ofBlob, same]
        · exact h.stored
      | remove name =>
        obtain rfl : name = HatchConfig.blob := Option.some.inj changes
        rcases BlobMap.answers_remove.mp performed with ⟨rfl, -⟩ | ⟨-, -, rfl⟩
        · cases undisputed.2
        · exact h.stored
      | append name content => exact absurd (Option.some.inj changes) attributed
      | _ => cases changes
    | _ => cases changes
  · obtain ⟨v, kept, acts⟩ := exists_acts_of_answers answered
    rw [World.uuid_of_acts readable acts, World.config, kept _ changes]
    exact h.stored

/-- What the device goes by keeps to the hatch. -/
lemma inForce_of_answers (h : Watching u past w)
    (readable : ¬ L.refuses (.read HatchConfig.blob)) {r : DeviceRequest} {x : r.Answer}
    (answered : answers L r w x w') (undisputed : Undisputed u past ⟨r, x⟩) :
    ((inForce past).after ⟨r, x⟩).config.uuid = u ∧ ((inForce past).after ⟨r, x⟩).hatch = u := by
  have same : w.config.uuid = u := h.stored
  cases r with
  | blob request =>
    cases request with
    | read name =>
      by_cases config : name = HatchConfig.blob
      · subst config
        obtain ⟨blobs, performed, -⟩ := exists_blobs_of_answers answered
        obtain ⟨-, rfl | ⟨no, -⟩⟩ := BlobMap.answers_read.mp performed
        · exact ⟨same, same⟩
        · exact absurd no readable
      · have aside : (inForce past).after ⟨DeviceRequest.blob (.read name), x⟩ = inForce past :=
          if_neg config
        rw [aside]
        exact ⟨h.loaded, h.hatch⟩
    | _ => exact ⟨h.loaded, h.hatch⟩
  | sense =>
    cases x with
    | ok climate => exact ⟨(HatchConfig.uuid_record _ _).trans h.loaded, h.hatch⟩
    | error e => exact ⟨h.loaded, h.hatch⟩
  | pump timeout =>
    refine ⟨h.loaded, ?_⟩
    have named : ((inForce past).after ⟨DeviceRequest.pump timeout, x⟩).hatch
        = ((usable (inForce past).config (Pumped.documents x)).getLast?.map
          HatchConfig.uuid).getD (inForce past).hatch := rfl
    rw [named]
    cases last : (usable (inForce past).config (Pumped.documents x)).getLast? with
    | none => exact h.hatch
    | some c => exact undisputed.1 c (List.mem_of_getLast? last)
  | _ => exact ⟨h.loaded, h.hatch⟩

/-- What is undisputed goes on. -/
lemma answered (h : Watching u past w) (readable : ¬ L.refuses (.read HatchConfig.blob))
    {r : DeviceRequest} {x : r.Answer} (answered : answers L r w x w')
    (attributed : Attributed past ⟨r, x⟩) (undisputed : Undisputed u past ⟨r, x⟩) :
    Watching u (past ++ [⟨r, x⟩]) w' := by
  have force : inForce (past ++ [⟨r, x⟩]) = (inForce past).after ⟨r, x⟩ := inForce_concat _ _
  obtain ⟨loaded, hatch⟩ := h.inForce_of_answers readable answered undisputed
  refine ⟨h.stored_of_answers readable answered attributed undisputed, ?_, ?_⟩
  · rw [force, loaded]
  · rw [force, hatch]

/-- A whole dialogue that does not dispute the hatch leaves it. -/
lemma along {α : Type} {p q : Program Surroundings α}
    (readable : ¬ L.refuses (.read HatchConfig.blob)) (running : Reaches (answers L) p w d q w')
    (attributed : Throughout Attributed past d) (undisputed : Throughout (Undisputed u) past d)
    (h : Watching u past w) : Watching u (past ++ d) w' := by
  induction running generalizing past with
  | rest => rwa [List.append_nil]
  | @ask r k s t v x d q answered _ ih =>
    obtain ⟨first, rest⟩ := throughout_cons.mp attributed
    obtain ⟨calm, still⟩ := throughout_cons.mp undisputed
    rw [List.append_cons]
    exact ih rest still (h.answered readable answered first calm)

/-- Once the configuration was loaded, its hatch is the stored one and the one in force. -/
lemma of_loaded (readable : ¬ L.refuses (.read HatchConfig.blob)) {stored : Stored (Option Bytes)}
    (answered : answers L (.blob (.read HatchConfig.blob)) w stored w') :
    Watching (HatchConfig.ofRead stored).uuid
      (past ++ [⟨DeviceRequest.blob (.read HatchConfig.blob), stored⟩]) w' := by
  obtain ⟨blobs, performed, acts⟩ := exists_blobs_of_answers answered
  obtain ⟨rfl, rfl | ⟨no, -⟩⟩ := BlobMap.answers_read.mp performed
  · refine ⟨World.uuid_of_acts readable acts, ?_, ?_⟩
    · rw [Attribution.inForce_loaded]
      rfl
    · rw [Attribution.inForce_loaded]
      rfl
  · exact absurd no readable

end Watching

/-- Since the configuration was loaded, its hatch is the stored one and the one in force, if nothing
has disputed it. -/
lemma Life.watching (readable : ¬ L.refuses (.read HatchConfig.blob))
    (h : Life L device w d w') {earlier later : Dialogue Surroundings}
    {stored : Stored (Option Bytes)}
    (split : d = earlier ++ ⟨DeviceRequest.blob (.read HatchConfig.blob), stored⟩ :: later)
    (undisputed : Throughout (Undisputed (HatchConfig.ofRead stored).uuid)
      (earlier ++ [⟨DeviceRequest.blob (.read HatchConfig.blob), stored⟩]) later) :
    Watching (HatchConfig.ofRead stored).uuid d w' := by
  induction h generalizing later with
  | unused => exact absurd split (by simp)
  | @powered u v d e q bits rounds periods before running ih =>
    have conduct := Attribution.conducted_live device rounds periods d
    obtain ⟨attributed, -⟩ := conduct.follow running
    rcases append_eq_append_cons split with ⟨m, rfl⟩ | ⟨m, rfl, rfl⟩
    · -- it was loaded in an earlier power period
      obtain rfl : later = m ++ e := by simpa using split.symm
      obtain ⟨calm, still⟩ := throughout_append.mp undisputed
      have watching : Watching _ _ { u with bits, session := none } := (ih rfl calm).congr rfl
      refine watching.along readable running attributed ?_
      simpa using still
    · obtain ⟨q₁, u₁, first, second⟩ := running.split
      obtain ⟨q₂, u₂, loads, rest⟩ := second.tail
      obtain ⟨-, attributed⟩ := throughout_append.mp attributed
      obtain ⟨-, attributed⟩ := throughout_cons.mp attributed
      have watching := (Watching.of_loaded readable loads).along readable rest attributed undisputed
      simpa using watching

/-! ## Messages -/

/-- What is promised of the messages along the life `d` that began with `w`. -/
structure HatchesNamed (L : Licence) (device : DeviceSettings) (w : World)
    (d : Dialogue Surroundings) : Prop where
  /-- Every message that the cloud accepts is that of a known reading, and the hatch it names is the
  one in force. -/
  named : ∀ before topic payload timeout after,
    d = before ++ ⟨DeviceRequest.publish topic payload timeout, .ok ()⟩ :: after →
    (∃ name r, Known r before ∧ payload = Cycle.payload name (inForce before).hatch r) ∧
      Message.hatch? payload = some (inForce before).hatch
  /-- While the configuration can be read, this is the hatch of the configuration that was stored
  when a reading was taken, for as long as nothing has disputed it since then. -/
  kept : ¬ L.refuses (.read HatchConfig.blob) →
    ∀ before climate between topic payload timeout after v,
    d = before ++ ⟨DeviceRequest.sense, .ok climate⟩ ::
      (between ++ ⟨DeviceRequest.publish topic payload timeout, .ok ()⟩ :: after) →
    Life L device w before v →
    Throughout (Undisputed v.config.uuid) (before ++ [⟨DeviceRequest.sense, .ok climate⟩])
      between →
    (∃ name r, Known r (before ++ ⟨DeviceRequest.sense, .ok climate⟩ :: between) ∧
      payload = Cycle.payload name v.config.uuid r) ∧
      Message.hatch? payload = some v.config.uuid

/-- In every life of the device, in whatever order it measures, publishes, fails to publish, is
moved to other hatches, is reset and loses power, each accepted message names the hatch that is in
force when it is published; and this is the hatch of the configuration that was stored when the
reading was taken, also if it has been in the log since then, unless that hatch was disputed or the
configuration cannot be read. -/
theorem messages_name_hatch_in_force (h : Life L device w d w') : HatchesNamed L device w d where
  named := by
    intro before topic payload timeout after split
    obtain ⟨name, r, known, rfl⟩ := h.attributed before _ after split
    exact ⟨⟨name, r, known, rfl⟩, Message.hatch?_payload name _ r⟩
  kept := by
    rintro readable before climate between topic payload timeout after v rfl earlier undisputed
    -- the configuration was loaded right before the reading was taken
    obtain ⟨front, stored, rfl⟩ := h.attributed before _ _ rfl
    have same : v.config.uuid = (HatchConfig.ofRead stored).uuid :=
      (earlier.watching readable rfl throughout_nil).stored
    have sensed : Undisputed v.config.uuid
        (front ++ [⟨DeviceRequest.blob (.read HatchConfig.blob), stored⟩])
        ⟨DeviceRequest.sense, .ok climate⟩ := ⟨nofun, rfl⟩
    have undisputed := throughout_cons.mpr ⟨sensed, undisputed⟩
    rw [same] at undisputed ⊢
    rw [← List.cons_append, ← List.append_assoc] at h
    obtain ⟨v', life⟩ := h.cut
    have watching := life.watching readable (by simp) undisputed
    obtain ⟨name, r, known, payload⟩ := h.attributed _ _ _ rfl
    have said := payload.trans (congrArg (Cycle.payload name · r) watching.hatch)
    exact ⟨⟨name, r, known, said⟩, said ▸ Message.hatch?_payload name _ r⟩

/-! ## Two readings -/

/-- The configuration of a hatch whose readings are published two at a time. -/
def pairConfig (uuid : String) : HatchConfig := { HatchConfig.default with uuid, publishAfter := 2 }

/-- The world of a device that is to measure in this hatch. -/
def pairWorld (uuid : String) : World := measuringWorld (pairConfig uuid)

/-- The device is switched on for the first reading. -/
def firstOfPair (uuid : String) : Dialogue Surroundings × Lifecycle.Stage × World :=
  phaseAt 1700000000 (pairWorld uuid)

/-- It is switched on for the second one.  The cloud says that the hatch is "h". -/
def secondOfPair (uuid : String) : Dialogue Surroundings × Lifecycle.Stage × World :=
  phaseAt 1700000060 (firstOfPair uuid).2.2

/-- What is said until the first reading is taken. -/
def pairOpening (uuid : String) : Dialogue Surroundings :=
  [⟨DeviceRequest.signals, SignalBits.none⟩,
    ⟨DeviceRequest.blob (.read Phase.blob), .ok (some (Bytes.ofWord Phase.measuring.word))⟩,
    ⟨DeviceRequest.blob (.read HatchConfig.blob), .ok (some (pairConfig uuid).encode)⟩]

/-- The first reading is taken. -/
def pairTaking : Dialogue Surroundings :=
  [⟨DeviceRequest.sense, .ok default⟩, ⟨DeviceRequest.time, (1700000000 : UInt32)⟩]

lemma uuid_of_opening {uuid : String} {v : World}
    (h : Life Lifecycle.obligingLicence ⟨"", .standard⟩ w (pairOpening uuid) v) :
    v.config.uuid = (HatchConfig.ofBlob (some (pairConfig uuid).encode)).uuid := by
  have split : pairOpening uuid = (pairOpening uuid).take 2 ++
      [⟨DeviceRequest.blob (.read HatchConfig.blob), .ok (some (pairConfig uuid).encode)⟩] := rfl
  exact (h.watching not_false split throughout_nil).stored

/-- One reading is taken, and then a message is accepted while the device is on for the second. -/
lemma exists_life_of_pair {uuid : String} {payload : Bytes}
    (opening : (firstOfPair uuid).1.take 5 = pairOpening uuid ++ pairTaking)
    (sent : payload ∈ accepted (secondOfPair uuid).1) :
    ∃ m topic timeout after w', (secondOfPair uuid).1
        = m ++ ⟨DeviceRequest.publish topic payload timeout, .ok ()⟩ :: after ∧
      Life Lifecycle.obligingLicence ⟨"", .standard⟩ (pairWorld uuid)
        (pairOpening uuid ++ (pairTaking ++ ((firstOfPair uuid).1.drop 5 ++
          (m ++ ⟨DeviceRequest.publish topic payload timeout, .ok ()⟩ :: after)))) w' := by
  have fresh : Life Lifecycle.obligingLicence ⟨"", .standard⟩ (pairWorld uuid) [] _ := .unused _
  have life := (fresh.phaseAt 1700000000).phaseAt 1700000060
  have first : (firstOfPair uuid).1
      = pairOpening uuid ++ (pairTaking ++ (firstOfPair uuid).1.drop 5) := by
    rw [← List.append_assoc, ← opening, List.take_append_drop]
  obtain ⟨m, topic, timeout, after, second⟩ := exists_of_mem_accepted sent
  have whole : Life Lifecycle.obligingLicence ⟨"", .standard⟩ (pairWorld uuid)
      ((firstOfPair uuid).1 ++ (secondOfPair uuid).1) _ := life
  rw [first, second, List.append_assoc, List.append_assoc] at whole
  exact ⟨m, topic, timeout, after, _, second, whole⟩

/-- A reading is taken while the hatch "hatch-1" is stored, and lies in the log.  Before it is
published a shadow document names the hatch "h", and so does its message. -/
theorem reading_is_published_for_another_hatch :
    ∃ before climate now between topic timeout after v w' payload,
      Life Lifecycle.obligingLicence ⟨"", .standard⟩ (pairWorld "hatch-1")
        (before ++ ⟨DeviceRequest.sense, .ok climate⟩ :: ⟨DeviceRequest.time, now⟩ ::
          (between ++ ⟨DeviceRequest.publish topic payload timeout, .ok ()⟩ :: after)) w' ∧
      payload = Cycle.payload "" "h" (Cycle.readingOf (pairConfig "hatch-1") climate now) ∧
      Life Lifecycle.obligingLicence ⟨"", .standard⟩ (pairWorld "hatch-1") before v ∧
      v.config.uuid = "hatch-1" ∧
      Message.hatch? payload = some "h" ∧ Message.hatch? payload ≠ some v.config.uuid := by
  have opening : (firstOfPair "hatch-1").1.take 5 = pairOpening "hatch-1" ++ pairTaking := rfl
  have sent : Cycle.payload "" "h" (calmReading 1700000000)
      ∈ accepted (secondOfPair "hatch-1").1 := by decide +kernel
  obtain ⟨m, topic, timeout, after, w', -, life⟩ := exists_life_of_pair opening sent
  generalize (firstOfPair "hatch-1").1.drop 5 = rest at life
  obtain ⟨v, earlier⟩ := life.cut
  have stored : v.config.uuid = "hatch-1" := (uuid_of_opening earlier).trans (by decide +kernel)
  have named := Message.hatch?_payload "" "h" (calmReading 1700000000)
  refine ⟨pairOpening "hatch-1", default, 1700000000, rest ++ m, topic, timeout, after, v, w',
    Cycle.payload "" "h" (calmReading 1700000000), ?_, rfl, earlier, stored, named, ?_⟩
  · simpa [pairTaking] using life
  · have other : (some "h" : Option String) ≠ some "hatch-1" := by decide
    rw [stored]
    exact named.trans_ne other

/-- Two readings are taken in a hatch that the shadow names as well, and are published together.
Nothing has disputed the hatch since the first of them was taken, and its message names it. -/
theorem undisputed_reading_names_its_hatch :
    ∃ before climate between topic payload timeout after v w',
      Life Lifecycle.obligingLicence ⟨"", .standard⟩ (pairWorld "h")
        (before ++ ⟨DeviceRequest.sense, .ok climate⟩ ::
          (between ++ ⟨DeviceRequest.publish topic payload timeout, .ok ()⟩ :: after)) w' ∧
      Life Lifecycle.obligingLicence ⟨"", .standard⟩ (pairWorld "h") before v ∧
      v.config.uuid = "h" ∧
      Throughout (Undisputed v.config.uuid) (before ++ [⟨DeviceRequest.sense, .ok climate⟩])
        between ∧
      payload = Cycle.payload "" "h" (Cycle.readingOf (pairConfig "h") climate 1700000000) ∧
      (∃ name r, payload = Cycle.payload name "h" r) ∧ Message.hatch? payload = some "h" := by
  have opening : (firstOfPair "h").1.take 5 = pairOpening "h" ++ pairTaking := rfl
  have sent : Cycle.payload "" "h" (calmReading 1700000000)
      ∈ accepted (secondOfPair "h").1 := by decide +kernel
  have calm : Throughout (Undisputed "h") (pairOpening "h" ++ [⟨DeviceRequest.sense, .ok default⟩])
      ([⟨DeviceRequest.time, (1700000000 : UInt32)⟩] ++ (firstOfPair "h").1.drop 5
        ++ (secondOfPair "h").1) := by decide +kernel
  obtain ⟨m, topic, timeout, after, w', second, life⟩ := exists_life_of_pair opening sent
  rw [second, ← List.append_assoc] at calm
  generalize (firstOfPair "h").1.drop 5 = rest at life calm
  obtain ⟨v, earlier⟩ := life.cut
  have stored : v.config.uuid = "h" := (uuid_of_opening earlier).trans (by decide +kernel)
  have undisputed : Throughout (Undisputed v.config.uuid)
      (pairOpening "h" ++ [⟨DeviceRequest.sense, .ok default⟩])
      ([⟨DeviceRequest.time, (1700000000 : UInt32)⟩] ++ rest ++ m) := by
    rw [stored]
    exact (throughout_append.mp calm).1
  have whole : Life Lifecycle.obligingLicence ⟨"", .standard⟩ (pairWorld "h")
      (pairOpening "h" ++ ⟨DeviceRequest.sense, .ok default⟩ ::
        ([⟨DeviceRequest.time, (1700000000 : UInt32)⟩] ++ rest ++ m ++
          ⟨DeviceRequest.publish topic (Cycle.payload "" "h" (calmReading 1700000000)) timeout,
            .ok ()⟩ :: after)) w' := by
    simpa [pairTaking] using life
  obtain ⟨⟨name, r, -, payload⟩, named⟩ := (messages_name_hatch_in_force whole).kept not_false
    _ _ _ _ _ _ _ v rfl earlier undisputed
  rw [stored] at payload named
  exact ⟨pairOpening "h", default, [⟨DeviceRequest.time, (1700000000 : UInt32)⟩] ++ rest ++ m,
    topic, Cycle.payload "" "h" (calmReading 1700000000), timeout, after, v, w', whole, earlier,
    stored, undisputed, rfl, ⟨name, r, payload⟩, named⟩

end HatchSensor
