import HatchSensor.Proofs.HatchRecord
import HatchSensor.Proofs.ReadingRecords
import HatchSensor.Proofs.StoredCredentials

/-!
# What a store holds

A device that keeps to its own programs finds in the store what it has put there.  `Holdings` are
the typed contents of a store, `BlobMap.Holds` says that a map of blobs holds them, and
`Program.Gives` that a store program, carried out on such a map, gives a value and leaves other
holdings.  Every typed store then is a function of the holdings, and the bytes are out of sight.
-/

namespace HatchSensor

open Program

/-- What the device has put into its store.  Its identity is not among it. -/
structure Holdings where
  phase : Option Phase
  credentials : Option Credentials
  config : Option HatchConfig
  /-- The readings that have not been published. -/
  log : List Reading

/-- The blobs hold what they should. -/
structure BlobMap.Holds (m : BlobMap) (h : Holdings) : Prop where
  phase : m.get? Phase.blob = h.phase.map fun p => Bytes.ofWord p.word
  credentials : Credentials.stored m = h.credentials
  config : m.get? HatchConfig.blob = h.config.map HatchConfig.encode
  log : (m.get? ReadingLog.blob).getD [] = h.log.flatMap Reading.encode
  /-- The device has no identity of its own. -/
  unnamed : m.get? IdentityItem.uuid.blob = none

namespace Program

variable {α β : Type} {h h' h'' : Holdings} {a : α}

/-- On blobs with these holdings the program gives a value and leaves others. -/
def Gives (p : Program Blobs α) (h : Holdings) (a : α) (h' : Holdings) : Prop :=
  ∀ m : BlobMap, m.Holds h → (BlobMap.perform p m).1 = a ∧ (BlobMap.perform p m).2.Holds h'

lemma perform_bind (p : Program Blobs α) (f : α → Program Blobs β) (m : BlobMap) :
    BlobMap.perform (p >>= f) m
      = BlobMap.perform (f (BlobMap.perform p m).1) (BlobMap.perform p m).2 := by
  induction p generalizing m with
  | done a => rfl
  | ask r k ih => exact ih (m.answer r).2 (m.answer r).1

lemma gives_done (a : α) (h : Holdings) : Gives (.done a) h a h := fun _ holds => ⟨rfl, holds⟩

lemma gives_bind {p : Program Blobs α} {f : α → Program Blobs β} {b : β} (first : Gives p h a h')
    (second : Gives (f a) h' b h'') : Gives (p >>= f) h b h'' := by
  intro m holds
  obtain ⟨value, left⟩ := first m holds
  rw [perform_bind, value]
  exact second _ left

/-- A step of a program that may fail does not fail. -/
lemma gives_run_bind {x : BlobProgram α} {f : α → BlobProgram β} {y : Stored β}
    (first : Gives x.run h (.ok a) h') (second : Gives (f a).run h' y h'') :
    Gives (x >>= f).run h y h'' := by
  rw [ExceptT.run_bind]
  exact gives_bind first second

end Program

namespace BlobMap.Holds

variable {m m' : BlobMap} {h : Holdings}

/-- Credentials and identity stay if nobody touches their blobs. -/
lemma change {phase : Option Phase} {config : Option HatchConfig} {log : List Reading}
    (holds : m.Holds h) (kept : ∀ name ∈ [Credentials.ssidBlob, Credentials.passwordBlob,
      IdentityItem.uuid.blob], m'.get? name = m.get? name)
    (phases : m'.get? Phase.blob = phase.map fun p => Bytes.ofWord p.word)
    (configs : m'.get? HatchConfig.blob = config.map HatchConfig.encode)
    (logs : (m'.get? ReadingLog.blob).getD [] = log.flatMap Reading.encode) :
    m'.Holds { h with phase, config, log } where
  phase := phases
  credentials := by
    rw [Credentials.stored_congr (kept _ (by decide)) (kept _ (by decide))]
    exact holds.credentials
  config := configs
  log := logs
  unnamed := (kept _ (by decide)).trans holds.unnamed

/-- The phase is replaced. -/
lemma put_phase (holds : m.Holds h) (p : Phase) :
    (m.put Phase.blob (Bytes.ofWord p.word)).Holds { h with phase := some p } := by
  have others : ∀ name, name ≠ Phase.blob →
      (m.put Phase.blob (Bytes.ofWord p.word)).get? name = m.get? name :=
    fun name other => get?_put_of_ne m other _
  refine holds.change (fun name among => others name ?_) (get?_put_self m _ _)
    ((others _ (by decide)).trans holds.config) ?_
  · rintro rfl
    exact absurd among (by decide)
  · rw [others _ (by decide)]
    exact holds.log

/-- The configuration is replaced. -/
lemma put_config (holds : m.Holds h) (c : HatchConfig) :
    (m.put HatchConfig.blob c.encode).Holds { h with config := some c } := by
  have others : ∀ name, name ≠ HatchConfig.blob →
      (m.put HatchConfig.blob c.encode).get? name = m.get? name :=
    fun name other => get?_put_of_ne m other _
  refine holds.change (fun name among => others name ?_)
    ((others _ (by decide)).trans holds.phase) (get?_put_self m _ _) ?_
  · rintro rfl
    exact absurd among (by decide)
  · rw [others _ (by decide)]
    exact holds.log

/-- A reading is added to the log. -/
lemma put_log (holds : m.Holds h) (r : Reading) :
    (m.put ReadingLog.blob ((m.get? ReadingLog.blob).getD [] ++ r.encode)).Holds
      { h with log := h.log ++ [r] } := by
  have others : ∀ name, name ≠ ReadingLog.blob →
      (m.put ReadingLog.blob ((m.get? ReadingLog.blob).getD [] ++ r.encode)).get? name
        = m.get? name :=
    fun name other => get?_put_of_ne m other _
  refine holds.change (fun name among => others name ?_)
    ((others _ (by decide)).trans holds.phase) ((others _ (by decide)).trans holds.config) ?_
  · rintro rfl
    exact absurd among (by decide)
  · rw [get?_put_self, Option.getD_some, holds.log, List.flatMap_append, List.flatMap_singleton]

/-- The log is given up. -/
lemma erase_log (holds : m.Holds h) : (m.erase ReadingLog.blob).Holds { h with log := [] } := by
  have others : ∀ name, name ≠ ReadingLog.blob →
      (m.erase ReadingLog.blob).get? name = m.get? name :=
    fun name other => get?_erase_of_ne m other
  refine holds.change (fun name among => others name ?_)
    ((others _ (by decide)).trans holds.phase) ((others _ (by decide)).trans holds.config) ?_
  · rintro rfl
    exact absurd among (by decide)
  · rw [get?_erase_self]
    rfl

end BlobMap.Holds

/-! ## The phase -/

namespace Phase

variable {h : Holdings} {p : Phase}

/-- A phase that was chosen is loaded. -/
lemma gives_load (stored : h.phase = some p) (chosen : p ≠ .unknown) : Gives load h p h := by
  intro m holds
  have content : m.get? blob = some (Bytes.ofWord p.word) := by
    rw [holds.phase, stored]
    rfl
  have settled : settle m (.ok (some p)) = (p, m) := by
    cases p with
    | unknown => exact absurd rfl chosen
    | provisioning => rfl
    | measuring => rfl
    | configuring => rfl
  rw [perform_load_eq, ofBlob_eq_ok_iff.mpr content, settled]
  exact ⟨rfl, holds⟩

/-- Where no phase is stored, it is "provisioning" from now on. -/
lemma gives_load_none (stored : h.phase = none) :
    Gives load h .provisioning { h with phase := some .provisioning } := by
  intro m holds
  have content : m.get? blob = none := by
    rw [holds.phase, stored]
    rfl
  rw [perform_load_eq, content]
  exact ⟨rfl, holds.put_phase .provisioning⟩

lemma gives_save (h : Holdings) (p : Phase) :
    Gives (save p).run h (.ok ()) { h with phase := some p } :=
  fun _ holds => ⟨rfl, holds.put_phase p⟩

end Phase

/-! ## The configuration -/

namespace HatchConfig

variable {h : Holdings}

/-- A configuration whose hatch is stored as it is comes back whole. -/
lemma ofBlob_of_storable {c : HatchConfig} (storable : Storable c.uuid) :
    ofBlob (some c.encode) = c := by
  rw [ofBlob_encode storable.fits, storable.whole]

/-- A configuration that was stored is loaded. -/
lemma gives_load {c : HatchConfig} (stored : h.config = some c) (storable : Storable c.uuid) :
    Gives load h c h := by
  intro m holds
  have loaded : BlobMap.perform load m = (ofBlob (m.get? blob), m) := rfl
  rw [loaded, holds.config, stored]
  exact ⟨ofBlob_of_storable storable, holds⟩

/-- Without a stored configuration the defaults apply. -/
lemma gives_load_none (stored : h.config = none) : Gives load h .default h := by
  intro m holds
  have loaded : BlobMap.perform load m = (ofBlob (m.get? blob), m) := rfl
  rw [loaded, holds.config, stored]
  exact ⟨rfl, holds⟩

lemma gives_save (h : Holdings) (c : HatchConfig) :
    Gives c.save.run h (.ok ()) { h with config := some c } :=
  fun _ holds => ⟨rfl, holds.put_config c⟩

end HatchConfig

/-! ## The credentials and the identity -/

namespace Credentials

variable {c : Credentials}

lemma gives_load (h : Holdings) : Gives load h h.credentials h := by
  intro m holds
  rw [perform_load]
  exact ⟨holds.credentials, holds⟩

/-- Acceptable credentials without zeros are stored. -/
lemma gives_save (h : Holdings) (valid : c.validate = .ok ()) (ssid : '\x00' ∉ c.ssid.toList)
    (password : '\x00' ∉ c.password.toList) :
    Gives c.save.run h (.ok ()) { h with credentials := some c } := by
  intro m holds
  have saved : BlobMap.perform c.save.run m = (.ok (), c.savedIn m) := rfl
  have others : ∀ name, name ≠ ssidBlob → name ≠ passwordBlob →
      (c.savedIn m).get? name = m.get? name := fun name first second =>
    (BlobMap.get?_put_of_ne _ second _).trans (BlobMap.get?_put_of_ne _ first _)
  rw [saved]
  refine ⟨rfl, ?_, stored_savedIn valid ssid password, ?_, ?_, ?_⟩
  · rw [others _ (by decide) (by decide)]
    exact holds.phase
  · rw [others _ (by decide) (by decide)]
    exact holds.config
  · rw [others _ (by decide) (by decide)]
    exact holds.log
  · rw [others _ (by decide) (by decide)]
    exact holds.unnamed

/-- A client that writes a bare credential object has provisioned the device. -/
lemma gives_write {payload : Bytes} (session : Session) (h : Holdings)
    (bare : ClientMessage.ofPayload? payload = none) (found : ofPayload payload = .ok c)
    (valid : c.validate = .ok ()) (ssid : '\x00' ∉ c.ssid.toList)
    (password : '\x00' ∉ c.password.toList) :
    Gives (session.write payload) h (⟨none, true, none⟩, session)
      { h with credentials := some c } := by
  have write : session.write payload = session.handleBare payload := by
    rw [Session.write, bare]
  have stores : Session.storeCredentials c = Session.store .credentialsNotStored c.save := by
    rw [Session.storeCredentials, valid]
  rw [write, Session.handleBare, found]
  dsimp only
  rw [stores]
  exact gives_bind (gives_bind (gives_save h valid ssid password) (gives_done _ _))
    (gives_done _ _)

end Credentials

/-- There is no identity to be read. -/
lemma IdentityItem.gives_load_uuid (h : Holdings) : Gives IdentityItem.uuid.load h none h := by
  intro m holds
  rcases performed : BlobMap.perform IdentityItem.uuid.load m with ⟨found, m'⟩
  obtain ⟨d, read⟩ : ∃ d, Returns (BlobMap.Answers fun _ => False)
      (Blob.readText IdentityItem.uuid.blob) m d found m' := BlobMap.returns_of_perform performed
  obtain ⟨rfl, same | ⟨no, -⟩⟩ := Blob.returns_readText read
  · refine ⟨?_, holds⟩
    rw [same, Blob.textIn, holds.unnamed]
    rfl
  · exact absurd no not_false

/-- A device without an identity of its own goes by the other name. -/
lemma gives_cloudName (h : Holdings) (fallback : String) :
    Gives (cloudName fallback) h fallback h :=
  gives_bind (IdentityItem.gives_load_uuid h) (gives_done fallback h)

/-! ## The log -/

namespace ReadingLog

variable {h : Holdings}

/-- The log is whole. -/
lemma length_log {m : BlobMap} (holds : m.Holds h) :
    ((m.get? blob).getD []).length = h.log.length * Reading.recordSize := by
  rw [holds.log]
  induction h.log with
  | nil => rfl
  | cons r log ih =>
    rw [List.flatMap_cons, List.length_append, Reading.length_encode, ih, List.length_cons,
      Nat.succ_mul, Nat.add_comm]

lemma readings_flatMap (log : List Reading) : readings (log.flatMap Reading.encode) = log := by
  induction log with
  | nil => rfl
  | cons r log ih =>
    have whole : r.encode.length % Reading.recordSize = 0 := by
      rw [Reading.length_encode]
      exact Nat.mod_self _
    rw [List.flatMap_cons, readings_append _ whole, readings_encode, ih]
    rfl

/-- A reading is added at the end. -/
lemma gives_append (h : Holdings) (r : Reading) :
    Gives (append r).run h (.ok ()) { h with log := h.log ++ [r] } := by
  have size : Gives (Blob.size blob).run h (.ok (h.log.length * Reading.recordSize)) h :=
    fun m holds => ⟨congrArg Except.ok (length_log holds), holds⟩
  -- no record is torn
  have trim : Gives (trim (h.log.length * Reading.recordSize)).run h (.ok ()) h := by
    rw [trim_of_whole (Nat.mul_mod_left _ _)]
    exact gives_done _ h
  have added : Gives (Blob.append blob r.encode).run h (.ok ()) { h with log := h.log ++ [r] } :=
    fun m holds => ⟨rfl, holds.put_log r⟩
  exact gives_run_bind size (gives_run_bind trim added)

lemma gives_readAll (h : Holdings) : Gives readAll.run h (.ok h.log) h := by
  intro m holds
  have read : BlobMap.perform readAll.run m = (.ok (readings ((m.get? blob).getD [])), m) := rfl
  rw [read, holds.log, readings_flatMap]
  exact ⟨rfl, holds⟩

lemma gives_total (h : Holdings) : Gives total.run h (.ok h.log.length) h := by
  intro m holds
  have counted : BlobMap.perform total.run m
      = (.ok (((m.get? blob).getD []).length / Reading.recordSize), m) := rfl
  rw [counted, length_log holds, Nat.mul_div_cancel _ (by decide)]
  exact ⟨rfl, holds⟩

lemma gives_clear (h : Holdings) : Gives clear.run h (.ok ()) { h with log := [] } :=
  fun _ holds => ⟨rfl, holds.erase_log⟩

end ReadingLog

end HatchSensor
