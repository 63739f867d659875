import HatchSensor.Proofs.Footprints

/-!
# Worlds that are reached

`Reached` collects the worlds a device can be in between two pieces of its life, if it began with an
empty store: pieces of its life that have come to their end, in any order, factory resets, acts of
others, and restarts, which take the register and the session but not the blobs.

What every piece of the life keeps holds of all of them.  `Program.Keeps` says that a program keeps
a property, and is proved along the program.
-/

namespace HatchSensor

open Program World

namespace Program

variable {L : Licence} {I : World → Prop} {α β : Type}

/-- Whenever the program is over, the property holds again. -/
def Keeps (L : Licence) (I : World → Prop) (p : Program Surroundings α) : Prop :=
  ∀ ⦃w d a w'⦄, Returns (answers L) p w d a w' → I w → I w'

lemma keeps_done (a : α) : Keeps L I (.done a : Program Surroundings α) := by
  intro w d b w' h before
  obtain ⟨-, -, rfl⟩ := returns_done.mp h
  exact before

lemma keeps_bind {p : Program Surroundings α} {k : α → Program Surroundings β}
    (first : Keeps L I p) (second : ∀ a, Keeps L I (k a)) : Keeps L I (p >>= k) := by
  intro w d b w' h before
  obtain ⟨d₁, a, u, d₂, -, part, rest⟩ := returns_bind.mp h
  exact second a rest (first part before)

lemma keeps_run_bind {x : DeviceProgram α} {k : α → DeviceProgram β} (first : Keeps L I x.run)
    (second : ∀ a, Keeps L I (k a).run) : Keeps L I (x >>= k).run := by
  rw [ExceptT.run_bind]
  refine keeps_bind first fun y => ?_
  cases y with
  | error e => exact keeps_done _
  | ok a => exact second a

lemma keeps_ask_bind {p : Program Surroundings α} {k : α → DeviceProgram β}
    (first : Keeps L I p) (second : ∀ a, Keeps L I (k a).run) :
    Keeps L I (DeviceProgram.ask p >>= k).run := by
  rw [DeviceProgram.run_ask_bind]
  exact keeps_bind first second

lemma keeps_store_bind {explain : StoreError → DeviceError} {p : BlobProgram α}
    {k : α → DeviceProgram β} (first : Keeps L I (onBlobs p.run))
    (second : ∀ a, Keeps L I (k a).run) : Keeps L I (DeviceProgram.store explain p >>= k).run := by
  rw [DeviceProgram.run_store_bind]
  refine keeps_bind first fun y => ?_
  cases y with
  | error e => exact keeps_done _
  | ok a => exact second a

end Program

/-- The worlds that a device with an empty store can come to.  If others visit it, they open
sessions of their own at any time. -/
inductive Reached (L : Licence) (device : DeviceSettings) (visits : Prop) : World → Prop
  /-- The device has not been switched on yet. -/
  | unused (bits : SignalBits) : Reached L device visits ⟨.empty, bits, none⟩
  /-- A piece of its life is over. -/
  | advanced {w w' : World} {d : Dialogue Surroundings} {stage stage' : Lifecycle.Stage}
      (earlier : Reached L device visits w)
      (piece : Returns (answers L) (stage.advance device) w d stage' w') :
      Reached L device visits w'
  /-- A factory reset is over. -/
  | reset {w w' : World} {d : Dialogue Surroundings} {y : Except DeviceError UInt32}
      (earlier : Reached L device visits w)
      (piece : Returns (answers L) Lifecycle.factoryReset.run w d y w') :
      Reached L device visits w'
  /-- Others have acted. -/
  | meanwhile {w w' : World} (earlier : Reached L device visits w) (acts : Acts L w w') :
      Reached L device visits w'
  /-- A session was opened. -/
  | visited {w : World} (earlier : Reached L device visits w) (allowed : visits)
      (session : Session) : Reached L device visits { w with session := some session }
  /-- The device was restarted, with whatever register it finds. -/
  | restarted {w : World} (earlier : Reached L device visits w) (bits : SignalBits) :
      Reached L device visits { w with bits, session := none }

end HatchSensor
