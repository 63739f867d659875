import HatchSensor.Proofs.StoredIdentity
import HatchSensor.Proofs.World

/-!
# The world with a note

The world that the proofs follow does not tell what clients have written.  Here it comes with a note
of the identity that was accepted last, in its canonical form.  The note restricts nothing: every
run of a program is one with notes (`Noted.lift`).

What is noted is what is stored, and stays so as long as the device leaves the identity alone
(`Noted.sound_of_answers`).  While no session is open the note does not change
(`Noted.closed_of_answers`).
-/

namespace HatchSensor

open Program

/-! ## Worlds with a note -/

/-- The surroundings, with a note of the identity that was accepted last. -/
structure Noted where
  /-- The surroundings. -/
  world : World
  /-- The canonical form of the identity that was accepted last, if one was. -/
  identity : Option String

namespace Noted

variable {L : Licence} {s t u : Noted} {w w' : World} {d : Dialogue Surroundings}

/-- One act of somebody else.  A client that sets the identity is noted. -/
inductive Act (L : Licence) : Noted → Noted → Prop
  /-- A task changes the register. -/
  | stir {w : World} {identity : Option String} {bits : SignalBits} (h : L.stirs w.bits bits) :
      Act L ⟨w, identity⟩ ⟨{ w with bits }, identity⟩
  /-- A client writes a message. -/
  | write {w : World} {identity : Option String} {session later : Session} {payload : Bytes}
      {d : Dialogue Blobs} {effect : WriteEffect} {blobs : BlobMap}
      (opened : w.session = some session)
      (written : Returns (BlobMap.Answers L.refuses) (session.write payload) w.blobs d
        (effect, later) blobs) :
      Act L ⟨w, identity⟩
        ⟨{ blobs
           bits := if effect.finished then w.bits.union .credentialsReady else w.bits
           session := some later },
          (Session.accepted? payload effect).or identity⟩

/-- Any number of acts of others. -/
abbrev Acts (L : Licence) : Noted → Noted → Prop := Relation.ReflTransGen (Act L)

/-- What a request does, and the answers it may get. -/
def Reply (L : Licence) : (r : DeviceRequest) → Noted → r.Answer → Noted → Prop
  | .park _ mask _ timer, s, wake, t => Acts L s t ∧ wake.fits mask t.world.bits timer
  | .openProvisioning session, s, outcome, t =>
    Acts L { s with world := { s.world with session := some session } } t ∨
      (outcome ≠ .ok () ∧ t = s)
  | r, s, x, t => World.Reply L r s.world x t.world ∧ t.identity = s.identity

/-- The surroundings answer, and where they preempt the device the others act. -/
def answers (L : Licence) : Behaviour Surroundings Noted := fun r s x t =>
  ∃ u, Reply L r s x u ∧ (t = u ∨ L.preempts ∧ Acts L u t)

/-! ### Worlds without the note -/

lemma Act.world (h : Act L s t) : World.Act L s.world t.world := by
  cases h with
  | stir h => exact .stir h
  | write opened written => exact .write opened written

lemma Acts.world (h : Acts L s t) : World.Acts L s.world t.world := by
  induction h with
  | refl => exact .refl
  | tail _ act ih => exact ih.tail act.world

/-- Acts are noted. -/
lemma exists_acts (h : World.Acts L w w') (identity : Option String) :
    ∃ later, Acts L ⟨w, identity⟩ ⟨w', later⟩ := by
  induction h with
  | refl => exact ⟨identity, .refl⟩
  | tail _ act ih =>
    obtain ⟨noted, acts⟩ := ih
    cases act with
    | stir h => exact ⟨noted, acts.tail (.stir h)⟩
    | write opened written => exact ⟨_, acts.tail (.write opened written)⟩

/-- What is answered with notes is answered without. -/
lemma world_of_answers {r : DeviceRequest} {x : r.Answer} (h : answers L r s x t) :
    World.answers L r s.world x t.world := by
  obtain ⟨u, reply, others⟩ := h
  refine ⟨u.world, ?_, ?_⟩
  · cases r with
    | park id mask deadline timer => exact ⟨reply.1.world, reply.2⟩
    | openProvisioning session =>
      rcases reply with opened | ⟨failed, rfl⟩
      · exact Or.inl opened.world
      · exact Or.inr ⟨failed, rfl⟩
    | _ => exact reply.1
  · rcases others with rfl | ⟨preempted, acts⟩
    · exact Or.inl rfl
    · exact Or.inr ⟨preempted, acts.world⟩

/-- Whatever is answered, it can be noted. -/
lemma exists_answers {r : DeviceRequest} {x : r.Answer} (h : World.answers L r w x w')
    (identity : Option String) : ∃ later, answers L r ⟨w, identity⟩ x ⟨w', later⟩ := by
  obtain ⟨v, reply, others⟩ := h
  obtain ⟨noted, replied⟩ : ∃ noted, Reply L r ⟨w, identity⟩ x ⟨v, noted⟩ := by
    cases r with
    | park id mask deadline timer =>
      obtain ⟨noted, acts⟩ := exists_acts reply.1 identity
      exact ⟨noted, acts, reply.2⟩
    | openProvisioning session =>
      rcases reply with opened | ⟨failed, rfl⟩
      · obtain ⟨noted, acts⟩ := exists_acts opened identity
        exact ⟨noted, Or.inl acts⟩
      · exact ⟨identity, Or.inr ⟨failed, rfl⟩⟩
    | _ => exact ⟨identity, reply, rfl⟩
  rcases others with rfl | ⟨preempted, acts⟩
  · exact ⟨noted, _, replied, Or.inl rfl⟩
  · obtain ⟨later, acts⟩ := exists_acts acts noted
    exact ⟨later, _, replied, Or.inr ⟨preempted, acts⟩⟩

/-- Every run of a program is one with notes. -/
lemma lift {α : Type} {p q : Program Surroundings α}
    (h : Reaches (World.answers L) p w d q w') (identity : Option String) :
    ∃ later, Reaches (answers L) p ⟨w, identity⟩ d q ⟨w', later⟩ := by
  induction h generalizing identity with
  | rest p w => exact ⟨identity, .rest _ _⟩
  | ask answered _ ih =>
    obtain ⟨noted, answered⟩ := exists_answers answered identity
    obtain ⟨later, rest⟩ := ih noted
    exact ⟨later, .ask answered rest⟩

/-! ### What is noted is stored -/

/-- The identity that was accepted last is stored. -/
def Sound (s : Noted) : Prop :=
  ∀ text, s.identity = some text →
    Uuid.IsCanonical text ∧ s.world.blobs.get? identityBlob = some (Bytes.encodeUtf8 text)

/-- No session is open. -/
def Closed (s : Noted) : Prop := s.world.session = none

lemma Sound.congr (h : Sound s) (identity : t.identity = s.identity)
    (stored : t.world.blobs.get? identityBlob = s.world.blobs.get? identityBlob) : Sound t := by
  intro text noted
  rw [stored]
  exact h text (identity ▸ noted)

/-- What others do is noted. -/
lemma Act.sound (h : Act L s t) (sound : Sound s) : Sound t := by
  cases h with
  | stir h => exact sound
  | @write w identity session later payload d effect blobs opened written =>
    have after := Session.identityAfter_of_write written
    intro text noted
    cases set : Session.accepted? payload effect with
    | some set' =>
      obtain rfl : set' = text := by simpa [set] using noted
      exact after.stored _ set
    | none =>
      obtain rfl : identity = some text := by simpa [set] using noted
      obtain ⟨canonical, stored⟩ := sound text rfl
      exact ⟨canonical, (after.kept set).trans stored⟩

lemma Acts.sound (h : Acts L s t) (sound : Sound s) : Sound t := by
  induction h with
  | refl => exact sound
  | tail _ act ih => exact act.sound ih

/-- While no session is open, nobody sets the identity. -/
lemma Acts.of_closed (h : Acts L s t) (closed : Closed s) :
    Closed t ∧ t.identity = s.identity ∧ t.world.blobs = s.world.blobs := by
  induction h with
  | refl => exact ⟨closed, rfl, rfl⟩
  | tail _ act ih =>
    obtain ⟨shut, identity, blobs⟩ := ih
    cases act with
    | stir h => exact ⟨shut, identity, blobs⟩
    | write opened _ => exact absurd (opened.symm.trans shut) (by simp)

/-- A request opens a session. -/
def Opens : DeviceRequest → Prop
  | .openProvisioning _ => True
  | _ => False

/-- What a request of the device does by itself, before others act. -/
lemma exists_acts_of_answers {r : DeviceRequest} {x : r.Answer} (h : answers L r s x t) :
    ∃ u, (∀ name, r.changes ≠ some name → u.world.blobs.get? name = s.world.blobs.get? name) ∧
      u.identity = s.identity ∧ (¬ Opens r → Closed s → Closed u) ∧ Acts L u t := by
  obtain ⟨v, reply, others⟩ := h
  suffices alone : ∃ u, (∀ name, r.changes ≠ some name →
      u.world.blobs.get? name = s.world.blobs.get? name) ∧
      u.identity = s.identity ∧ (¬ Opens r → Closed s → Closed u) ∧ Acts L u v by
    obtain ⟨u, same, identity, closed, acts⟩ := alone
    refine ⟨u, same, identity, closed, ?_⟩
    rcases others with rfl | ⟨-, later⟩
    · exact acts
    · exact acts.trans later
  cases r with
  | blob request =>
    obtain ⟨⟨blobs, answered, same⟩, identity⟩ := reply
    refine ⟨v, fun name other => ?_, identity, fun _ closed => ?_, .refl⟩
    · rw [same]
      exact answered.get?_eq other
    · rw [Closed, same]
      exact closed
  | park id mask deadline timer =>
    exact ⟨s, fun _ _ => rfl, rfl, fun _ closed => closed, reply.1⟩
  | openProvisioning session =>
    rcases reply with opened | ⟨-, rfl⟩
    · exact ⟨{ s with world := { s.world with session := some session } }, fun _ _ => rfl, rfl,
        fun strange => absurd trivial strange, opened⟩
    · exact ⟨v, fun _ _ => rfl, rfl, fun _ closed => closed, .refl⟩
  | sleep seconds =>
    obtain ⟨⟨bits, same⟩, identity⟩ := reply
    exact ⟨v, fun _ _ => by rw [same], identity, fun _ _ => by rw [Closed, same], .refl⟩
  | closeProvisioning =>
    obtain ⟨same, identity⟩ := reply
    have same : v.world = { s.world with session := none } := same
    exact ⟨v, fun _ _ => by rw [same], identity, fun _ _ => by rw [Closed, same], .refl⟩
  | signals | look =>
    obtain ⟨⟨-, same⟩, identity⟩ := reply
    exact ⟨v, fun _ _ => by rw [same], identity, fun _ closed => by rwa [Closed, same], .refl⟩
  | raise bits =>
    obtain ⟨same, identity⟩ := reply
    have same : v.world = { s.world with bits := s.world.bits.union bits } := same
    exact ⟨v, fun _ _ => by rw [same], identity, fun _ closed => by rwa [Closed, same], .refl⟩
  | clear bits =>
    obtain ⟨same, identity⟩ := reply
    have same : v.world = { s.world with bits := s.world.bits.without bits } := same
    exact ⟨v, fun _ _ => by rw [same], identity, fun _ closed => by rwa [Closed, same], .refl⟩
  | _ =>
    obtain ⟨same, identity⟩ := reply
    have same : v.world = s.world := same
    exact ⟨v, fun _ _ => by rw [same], identity, fun _ closed => by rwa [Closed, same], .refl⟩

/-- What is noted stays what is stored, if the device leaves it alone. -/
lemma sound_of_answers {r : DeviceRequest} {x : r.Answer} (h : answers L r s x t)
    (other : r.changes ≠ some identityBlob) (sound : Sound s) : Sound t := by
  obtain ⟨u, same, identity, -, acts⟩ := exists_acts_of_answers h
  exact acts.sound (sound.congr identity (same _ other))

/-- Nobody sets the identity while no session is open and none is opened. -/
lemma closed_of_answers {r : DeviceRequest} {x : r.Answer} (h : answers L r s x t)
    (opens : ¬ Opens r) (closed : Closed s) : Closed t ∧ t.identity = s.identity := by
  obtain ⟨u, -, identity, shut, acts⟩ := exists_acts_of_answers h
  obtain ⟨shut, same, -⟩ := acts.of_closed (shut opens closed)
  exact ⟨shut, same.trans identity⟩

end Noted

end HatchSensor
