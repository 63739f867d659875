import HatchSensor.Proofs.Signals
import HatchSensor.Signals.Waits
import Mathlib.Data.List.Nodup

/-!
# No wake-up is lost

Several tasks wait on the register while others raise and clear its bits.  An `Interleaving` is any
order of these events: bits are raised from tasks and interrupts and cleared, waits are created,
looked at whether woken or not, timed out and dropped.  Whatever the order, a room is `Orderly`: who
is parked waits for bits that are not there, and who has looked and is not parked was woken.
-/

namespace HatchSensor

/-- The entry with which a wait is parked. -/
def Wait.entry (w : Wait) : Waiter := ⟨w.id, w.mask⟩

namespace WaitRoom

variable {n : Nat} {room : WaitRoom} {w : Wait} {bits : SignalBits}

/-- The wait is on the list of parked waiters. -/
def Parked (room : WaitRoom) (w : Wait) : Prop := w.entry ∈ room.register.waiters

instance (room : WaitRoom) (w : Wait) : Decidable (room.Parked w) :=
  inferInstanceAs (Decidable (w.entry ∈ room.register.waiters))

/-- Rooms that events in any order lead to, with the number of waits created on the way. -/
inductive Interleaving : Nat → WaitRoom → Prop
  | start : Interleaving 0 empty
  /-- A task raises bits. -/
  | set {n : Nat} {room : WaitRoom} (before : Interleaving n room) (bits : SignalBits) :
      Interleaving n (room.set bits)
  /-- An interrupt raises bits. -/
  | interrupt {n : Nat} {room : WaitRoom} (before : Interleaving n room) (bits : SignalBits) :
      Interleaving n (room.setFromInterrupt bits).1
  /-- The owner of some bits clears them. -/
  | clear {n : Nat} {room : WaitRoom} (before : Interleaving n room) (bits : SignalBits) :
      Interleaving n (room.clear bits)
  /-- A task begins to wait. -/
  | create {n : Nat} {room : WaitRoom} (before : Interleaving n room) (name : Nat)
      (mask : SignalBits) (timeout : Nat) :
      Interleaving (n + 1) (room.create name mask timeout).1
  /-- Some live wait is looked at, woken or not. -/
  | look {n : Nat} {room : WaitRoom} (before : Interleaving n room) {w : Wait}
      (live : w ∈ room.waits) : Interleaving n (room.look w).1
  /-- Time passes. -/
  | advance {n : Nat} {room : WaitRoom} (before : Interleaving n room) (duration : Nat) :
      Interleaving n (room.advance duration)
  /-- Some live wait is given up. -/
  | drop {n : Nat} {room : WaitRoom} (before : Interleaving n room) {w : Wait}
      (live : w ∈ room.waits) : Interleaving n (room.finish w.id)

/-! ## What the events do -/

lemma raise_waiters (room : WaitRoom) (bits : SignalBits) :
    (room.raise bits).1.register.waiters =
      room.register.waiters.filter fun p => !p.mask.intersects bits := by
  unfold raise SignalRegister.raise
  rw [List.partition_eq_filter_filter]
  rfl

lemma raise_ready (room : WaitRoom) (bits : SignalBits) :
    (room.raise bits).2 = room.register.waiters.filter fun p => p.mask.intersects bits := by
  unfold raise SignalRegister.raise
  rw [List.partition_eq_filter_filter]

lemma raise_bits (room : WaitRoom) (bits : SignalBits) :
    (room.raise bits).1.register.bits = room.register.bits.union bits := rfl

lemma raise_waits (room : WaitRoom) (bits : SignalBits) :
    (room.raise bits).1.waits = room.waits.map fun w =>
      if (room.raise bits).2.any fun p => p.id == w.id then { w with woken := true } else w := rfl

/-- The room after a look that did not end the wait. -/
def park (room : WaitRoom) (w : Wait) : WaitRoom :=
  { room with
    register :=
      { room.register with waiters := (room.register.forget w.id).waiters ++ [w.entry] }
    waits := room.waits.map fun v =>
      if v.id == w.id then { w with looked := true, woken := decide (w.deadline ≤ room.now) }
      else v }

/-- A look ends the wait if one of its bits is set, or if its time is up and it has been looked at
before; otherwise it parks the wait. -/
lemma look_eq (room : WaitRoom) (w : Wait) :
    room.look w =
      if room.register.bits.intersects w.mask = true ∨ (w.looked = true ∧ w.deadline ≤ room.now)
      then (room.finish w.id, some room.register.bits)
      else (room.park w, none) := by
  unfold look SignalRegister.look
  by_cases meets : room.register.bits.intersects w.mask = true
  · rw [if_pos meets, if_pos (Or.inl meets)]
  · by_cases due : w.looked = true ∧ w.deadline ≤ room.now
    · -- parking and then giving up is giving up
      have forgotten : ((room.register.forget w.id).waiters ++ [w.entry]).filter
          (fun p => p.id != w.id) = (room.register.forget w.id).waiters := by
        simp [SignalRegister.forget, Wait.entry, List.filter_filter]
      rw [if_neg meets, if_pos (Or.inr due)]
      simp only [if_pos due]
      refine Prod.ext ?_ rfl
      simp only [finish, SignalRegister.forget]
      exact congrArg (fun waiters => WaitRoom.mk ⟨_, waiters, _⟩ _ _) forgotten
    · have goes : ¬ (room.register.bits.intersects w.mask = true ∨
          (w.looked = true ∧ w.deadline ≤ room.now)) := not_or.mpr ⟨meets, due⟩
      rw [if_neg meets, if_neg goes]
      simp only [if_neg due]
      rfl

/-! ## The live waits -/

/-- The live waits after `n` were created: each has an identity of its own, below `n`, and heeds a
reset request. -/
structure Enrolled (n : Nat) (waits : List Wait) : Prop where
  below : ∀ w ∈ waits, w.id.toNat < n
  apart : (waits.map Wait.id).Nodup
  alert : ∀ w ∈ waits, w.mask.contains .resetRequested = true

namespace Enrolled

variable {waits : List Wait}

lemma eq_of_id (h : Enrolled n waits) {v w : Wait} (hv : v ∈ waits) (hw : w ∈ waits)
    (same : v.id = w.id) : v = w :=
  List.inj_on_of_nodup_map h.apart hv hw same

/-- Marking waits as woken or looked at changes nothing about who they are. -/
lemma map (h : Enrolled n waits) {f : Wait → Wait} (same : ∀ w ∈ waits, (f w).entry = w.entry) :
    Enrolled n (waits.map f) := by
  have ids : ∀ w ∈ waits, (f w).id = w.id := fun w hw => congrArg Waiter.id (same w hw)
  have masks : ∀ w ∈ waits, (f w).mask = w.mask := fun w hw => congrArg Waiter.mask (same w hw)
  refine ⟨?_, ?_, ?_⟩
  · intro v hv
    obtain ⟨w, hw, rfl⟩ := List.mem_map.mp hv
    rw [ids w hw]
    exact h.below w hw
  · have kept : (waits.map f).map Wait.id = waits.map Wait.id := by
      rw [List.map_map]
      exact List.map_congr_left ids
    rw [kept]
    exact h.apart
  · intro v hv
    obtain ⟨w, hw, rfl⟩ := List.mem_map.mp hv
    rw [masks w hw]
    exact h.alert w hw

lemma filter (h : Enrolled n waits) (p : Wait → Bool) : Enrolled n (waits.filter p) where
  below w hw := h.below w (List.mem_of_mem_filter hw)
  apart := (List.filter_sublist.map Wait.id).nodup h.apart
  alert w hw := h.alert w (List.mem_of_mem_filter hw)

/-- The next wait has an identity that no live wait has. -/
lemma append (h : Enrolled n waits) (few : n < UInt32.size) {w : Wait}
    (fresh : w.id = UInt32.ofNat n)
    (alert : w.mask.contains .resetRequested = true) : Enrolled (n + 1) (waits ++ [w]) := by
  have number : w.id.toNat = n := by
    rw [fresh, UInt32.toNat_ofNat_of_lt' few]
  refine ⟨?_, ?_, ?_⟩
  · intro v hv
    rcases List.mem_append.mp hv with old | new
    · exact Nat.lt_succ_of_lt (h.below v old)
    · rw [List.mem_singleton.mp new, number]
      exact Nat.lt_succ_self n
  · rw [List.map_append, List.map_singleton, ← List.concat_eq_append, List.nodup_concat]
    refine ⟨fun used => ?_, h.apart⟩
    obtain ⟨v, hv, same⟩ := List.mem_map.mp used
    have below := h.below v hv
    rw [same, number] at below
    exact Nat.lt_irrefl n below
  · intro v hv
    rcases List.mem_append.mp hv with old | new
    · exact h.alert v old
    · rw [List.mem_singleton.mp new]
      exact alert

end Enrolled

/-! ## The invariant -/

/-- What holds of the room between any two events when `n` waits have been created. -/
structure Orderly (n : Nat) (room : WaitRoom) : Prop where
  /-- The next identity is the number of waits created. -/
  next : room.register.nextId = UInt32.ofNat n
  enrolled : Enrolled n room.waits
  /-- No wait is parked twice. -/
  once : (room.register.waiters.map Waiter.id).Nodup
  /-- Only live waits are parked, and with their own mask. -/
  owned : ∀ p ∈ room.register.waiters, ∃ w ∈ room.waits, w.entry = p
  /-- Who is parked waits for bits that are not set. -/
  quiet : ∀ p ∈ room.register.waiters, p.mask.intersects room.register.bits = false
  /-- Who has looked is parked, or was woken since. -/
  awake : ∀ w ∈ room.waits, w.looked = true → room.Parked w ∨ w.woken = true

namespace Orderly

lemma start : Orderly 0 empty where
  next := rfl
  enrolled := ⟨by simp [empty], by simp [empty], by simp [empty]⟩
  once := by simp [empty, SignalRegister.empty]
  owned := by simp [empty, SignalRegister.empty]
  quiet := by simp [empty, SignalRegister.empty]
  awake := by simp [empty]

/-- A raise takes the entry of a live wait off the list exactly if the wait is parked and its mask
is met. -/
lemma any_ready_iff (h : Orderly n room) (live : w ∈ room.waits) (bits : SignalBits) :
    ((room.raise bits).2.any fun p => p.id == w.id) = true ↔
      room.Parked w ∧ w.mask.intersects bits = true := by
  rw [raise_ready, List.any_eq_true]
  constructor
  · rintro ⟨p, hp, same⟩
    obtain ⟨parked, meets⟩ := List.mem_filter.mp hp
    obtain ⟨v, hv, rfl⟩ := h.owned p parked
    have vw : v = w := h.enrolled.eq_of_id hv live (beq_iff_eq.mp same)
    subst vw
    exact ⟨parked, meets⟩
  · rintro ⟨parked, meets⟩
    exact ⟨w.entry, List.mem_filter.mpr ⟨parked, meets⟩, beq_self_eq_true w.id⟩

/-- A raise wakes exactly the parked waits whose mask it meets. -/
lemma raise_waits_eq (h : Orderly n room) (bits : SignalBits) :
    (room.raise bits).1.waits = room.waits.map fun w =>
      if room.Parked w ∧ w.mask.intersects bits = true then { w with woken := true } else w := by
  rw [raise_waits]
  refine List.map_congr_left fun w live => ?_
  exact if_congr (h.any_ready_iff live bits) rfl rfl

lemma raise (h : Orderly n room) (bits : SignalBits) : Orderly n (room.raise bits).1 := by
  have waits := h.raise_waits_eq bits
  have waiters := raise_waiters room bits
  have same : ∀ w : Wait, (if room.Parked w ∧ w.mask.intersects bits = true
      then { w with woken := true } else w).entry = w.entry := by
    intro w
    split <;> rfl
  refine ⟨h.next, ?_, ?_, ?_, ?_, ?_⟩
  · rw [waits]
    exact h.enrolled.map fun w _ => same w
  · rw [waiters]
    exact (List.filter_sublist.map Waiter.id).nodup h.once
  · intro p hp
    rw [waiters] at hp
    obtain ⟨w, live, rfl⟩ := h.owned p (List.mem_of_mem_filter hp)
    rw [waits]
    exact ⟨_, List.mem_map_of_mem live, same w⟩
  · intro p hp
    rw [waiters, List.mem_filter] at hp
    rw [raise_bits, SignalBits.intersects_union, h.quiet p hp.1, Bool.false_or]
    simpa using hp.2
  · intro v hv looked
    rw [waits] at hv
    obtain ⟨w, live, rfl⟩ := List.mem_map.mp hv
    by_cases met : room.Parked w ∧ w.mask.intersects bits = true
    · right
      rw [if_pos met]
    · rw [if_neg met] at looked ⊢
      refine (h.awake w live looked).imp_left fun parked => ?_
      have unmet : w.mask.intersects bits = false := by
        rw [Bool.eq_false_iff]
        exact fun meets => met ⟨parked, meets⟩
      unfold Parked
      rw [waiters, List.mem_filter]
      exact ⟨parked, by simpa [Wait.entry] using unmet⟩

lemma clear (h : Orderly n room) (bits : SignalBits) : Orderly n (room.clear bits) where
  next := h.next
  enrolled := h.enrolled
  once := h.once
  owned := h.owned
  quiet p hp := SignalBits.not_intersects_without bits (h.quiet p hp)
  awake := h.awake

lemma create (h : Orderly n room) (few : n < UInt32.size) (name : Nat) (mask : SignalBits)
    (timeout : Nat) : Orderly (n + 1) (room.create name mask timeout).1 where
  next := by
    have next : room.register.nextId + 1 = UInt32.ofNat (n + 1) := by
      rw [h.next]
      exact (UInt32.ofNat_add n 1).symm
    exact next
  enrolled := h.enrolled.append few h.next (SignalBits.contains_union_right mask _)
  once := h.once
  owned p hp := by
    obtain ⟨w, live, same⟩ := h.owned p hp
    exact ⟨w, List.mem_append_left _ live, same⟩
  quiet := h.quiet
  awake w hw looked := by
    rcases List.mem_append.mp hw with old | new
    · exact h.awake w old looked
    · -- the new wait has not been looked at
      rw [List.mem_singleton.mp new] at looked
      exact absurd looked Bool.false_ne_true

lemma finish (h : Orderly n room) (id : UInt32) : Orderly n (room.finish id) where
  next := h.next
  enrolled := h.enrolled.filter _
  once := (List.filter_sublist.map Waiter.id).nodup h.once
  owned p hp := by
    obtain ⟨parked, other⟩ := List.mem_filter.mp hp
    obtain ⟨w, live, rfl⟩ := h.owned p parked
    exact ⟨w, List.mem_filter.mpr ⟨live, other⟩, rfl⟩
  quiet p hp := h.quiet p (List.mem_of_mem_filter hp)
  awake w hw looked := by
    obtain ⟨live, other⟩ := List.mem_filter.mp hw
    exact (h.awake w live looked).imp_left fun parked => List.mem_filter.mpr ⟨parked, other⟩

/-- A look that does not end the wait parks it, in place of an earlier entry of its own. -/
lemma park (h : Orderly n room) (live : w ∈ room.waits)
    (unmet : room.register.bits.intersects w.mask = false) : Orderly n (room.park w) := by
  have same : ∀ v ∈ room.waits, (if v.id == w.id then
      { w with looked := true, woken := decide (w.deadline ≤ room.now) } else v).entry =
        v.entry := by
    intro v hv
    split
    case isTrue ids => rw [h.enrolled.eq_of_id hv live (beq_iff_eq.mp ids)]; rfl
    case isFalse => rfl
  refine ⟨h.next, h.enrolled.map same, ?_, ?_, ?_, ?_⟩
  · have others : ((room.register.forget w.id).waiters.map Waiter.id).Nodup :=
      (List.filter_sublist.map Waiter.id).nodup h.once
    rw [WaitRoom.park, List.map_append, List.map_singleton, ← List.concat_eq_append,
      List.nodup_concat]
    refine ⟨fun still => ?_, others⟩
    obtain ⟨p, hp, hid⟩ := List.mem_map.mp still
    exact absurd hid (bne_iff_ne.mp (List.mem_filter.mp hp).2)
  · intro p hp
    rcases List.mem_append.mp hp with old | new
    · obtain ⟨v, hv, rfl⟩ := h.owned p (List.mem_of_mem_filter old)
      exact ⟨_, List.mem_map_of_mem hv, same v hv⟩
    · rw [List.mem_singleton.mp new]
      exact ⟨_, List.mem_map_of_mem live, same w live⟩
  · intro p hp
    rcases List.mem_append.mp hp with old | new
    · exact h.quiet p (List.mem_of_mem_filter old)
    · rw [List.mem_singleton.mp new]
      exact (SignalBits.intersects_comm _ _).trans unmet
  · intro u hu looked
    obtain ⟨v, hv, rfl⟩ := List.mem_map.mp hu
    by_cases ids : (v.id == w.id) = true
    · left
      rw [if_pos ids]
      exact List.mem_append_right _ (List.mem_singleton_self _)
    · rw [if_neg ids] at looked ⊢
      refine (h.awake v hv looked).imp_left fun parked => List.mem_append_left _ ?_
      exact List.mem_filter.mpr ⟨parked, by simpa [Wait.entry] using ids⟩

lemma look (h : Orderly n room) (live : w ∈ room.waits) : Orderly n (room.look w).1 := by
  rw [look_eq]
  split
  case isTrue => exact h.finish w.id
  case isFalse stays =>
    exact h.park live (Bool.eq_false_iff.mpr fun meets => stays (Or.inl meets))

lemma advance (h : Orderly n room) (duration : Nat) : Orderly n (room.advance duration) := by
  have same : ∀ w : Wait, (if w.looked && decide (w.deadline ≤ room.now + duration)
      then { w with woken := true } else w).entry = w.entry := by
    intro w
    split <;> rfl
  refine ⟨h.next, h.enrolled.map fun w _ => same w, h.once, ?_, h.quiet, ?_⟩
  · intro p hp
    obtain ⟨w, live, rfl⟩ := h.owned p hp
    exact ⟨_, List.mem_map_of_mem live, same w⟩
  · intro v hv looked
    obtain ⟨w, live, rfl⟩ := List.mem_map.mp hv
    by_cases due : (w.looked && decide (w.deadline ≤ room.now + duration)) = true
    · right
      rw [if_pos due]
    · rw [if_neg due] at looked ⊢
      exact h.awake w live looked

end Orderly

/-- Every order of events leaves the room orderly, as long as identities do not run out. -/
lemma Interleaving.orderly (h : Interleaving n room) (few : n < UInt32.size) : Orderly n room := by
  induction h with
  | start => exact .start
  | set _ bits ih => exact (ih few).raise bits
  | interrupt _ bits ih => exact (ih few).raise bits
  | clear _ bits ih => exact (ih few).clear bits
  | create _ name mask timeout ih =>
    have fewer := Nat.lt_of_succ_lt few
    exact (ih fewer).create fewer name mask timeout
  | look _ live ih => exact (ih few).look live
  | advance _ duration ih => exact (ih few).advance duration
  | drop _ live ih => exact (ih few).finish _

/-! ## Longer operations are interleavings too -/

/-- A look at one wait leaves the other live waits as they are. -/
lemma mem_look_of_ne {v : Wait} (live : v ∈ room.waits) (other : v.id ≠ w.id) :
    v ∈ (room.look w).1.waits := by
  rw [look_eq]
  split
  · exact List.mem_filter.mpr ⟨live, bne_iff_ne.mpr other⟩
  · refine List.mem_map.mpr ⟨v, live, ?_⟩
    rw [if_neg fun same => other (beq_iff_eq.mp same)]

lemma Interleaving.lookAll {turn : List Wait} (h : Interleaving n room)
    (live : ∀ w ∈ turn, w ∈ room.waits) (apart : (turn.map Wait.id).Nodup) :
    Interleaving n (room.lookAll turn).1 := by
  induction turn generalizing room with
  | nil => exact h
  | cons w rest ih =>
    rw [List.map_cons, List.nodup_cons] at apart
    refine ih (h.look (live w List.mem_cons_self)) ?_ apart.2
    intro v hv
    have other : v.id ≠ w.id := fun same => apart.1 (List.mem_map.mpr ⟨v, hv, same⟩)
    exact mem_look_of_ne (live v (List.mem_cons_of_mem w hv)) other

/-- Looking at some of the live waits, each once. -/
lemma Interleaving.lookAll_filter (h : Interleaving n room) (few : n < UInt32.size)
    (p : Wait → Bool) : Interleaving n (room.lookAll (room.waits.filter p)).1 :=
  h.lookAll (fun _ hw => List.mem_of_mem_filter hw) ((h.orderly few).enrolled.filter p).apart

lemma Interleaving.runWoken (h : Interleaving n room) (few : n < UInt32.size) :
    Interleaving n room.runWoken.1 :=
  h.lookAll_filter few Wait.woken

/-- To wait is to create a wait, to look at it, and to look once more if there is no time. -/
lemma wait_fst (room : WaitRoom) (name : Nat) (mask : SignalBits) (timeout : Nat) :
    (room.wait name mask timeout).1 =
      let begun := room.create name mask timeout
      let looked := begun.1.look begun.2
      if looked.2.isSome then looked.1
      else (looked.1.lookAll (looked.1.waits.filter fun w => w.id == begun.2.id && w.woken)).1 := by
  obtain ⟨created, w, begun⟩ : ∃ created w, room.create name mask timeout = (created, w) :=
    ⟨_, _, rfl⟩
  obtain ⟨now, answer, looked⟩ : ∃ now answer, created.look w = (now, answer) := ⟨_, _, rfl⟩
  unfold wait
  rw [begun]
  simp only [looked]
  cases answer <;> rfl

lemma Interleaving.wait (h : Interleaving n room) (few : n + 1 < UInt32.size) (name : Nat)
    (mask : SignalBits) (timeout : Nat) :
    Interleaving (n + 1) (room.wait name mask timeout).1 := by
  have created := h.create name mask timeout
  have looked := created.look (w := (room.create name mask timeout).2)
    (List.mem_append_right _ (List.mem_singleton_self _))
  rw [wait_fst]
  dsimp only
  split
  · exact looked
  · exact looked.lookAll_filter few _

lemma Interleaving.foldl_finish {given : List Wait} (h : Interleaving n room)
    (live : ∀ w ∈ given, w ∈ room.waits) (apart : (given.map Wait.id).Nodup) :
    Interleaving n (given.foldl (fun room w => room.finish w.id) room) := by
  induction given generalizing room with
  | nil => exact h
  | cons w rest ih =>
    rw [List.map_cons, List.nodup_cons] at apart
    refine ih (h.drop (live w List.mem_cons_self)) ?_ apart.2
    intro v hv
    have other : v.id ≠ w.id := fun same => apart.1 (List.mem_map.mpr ⟨v, hv, same⟩)
    exact List.mem_filter.mpr ⟨live v (List.mem_cons_of_mem w hv), bne_iff_ne.mpr other⟩

lemma Interleaving.cancel (h : Interleaving n room) (few : n < UInt32.size) (name : Nat) :
    Interleaving n (room.cancel name) :=
  h.foldl_finish (fun _ hw => List.mem_of_mem_filter hw)
    ((h.orderly few).enrolled.filter _).apart

/-! ## Nobody but the owner of a bit changes it -/

@[simp]
lemma look_bits (room : WaitRoom) (w : Wait) :
    (room.look w).1.register.bits = room.register.bits := by
  rw [look_eq]
  split <;> rfl

@[simp]
lemma lookAll_bits (room : WaitRoom) (turn : List Wait) :
    (room.lookAll turn).1.register.bits = room.register.bits := by
  induction turn generalizing room with
  | nil => rfl
  | cons w rest ih => exact (ih (room.look w).1).trans (look_bits room w)

lemma wait_bits (room : WaitRoom) (name : Nat) (mask : SignalBits) (timeout : Nat) :
    (room.wait name mask timeout).1.register.bits = room.register.bits := by
  rw [wait_fst]
  dsimp only
  split
  · exact look_bits _ _
  · exact (lookAll_bits _ _).trans (look_bits _ _)

/-! ## The contract of the register -/

/-- What the register promises to the tasks that wait on it. -/
structure NoWakeUpLost (room : WaitRoom) : Prop where
  /-- Who is parked heeds a reset request, and none of the bits it waits for is set. -/
  quiet : ∀ p ∈ room.register.waiters, p.mask.contains .resetRequested = true ∧
    p.mask.intersects room.register.bits = false
  distinct : (room.register.waiters.map Waiter.id).Nodup
  /-- Who is parked is a live wait. -/
  owned : ∀ p ∈ room.register.waiters, ∃ w ∈ room.waits, w.entry = p
  /-- Who has looked before and is not parked was woken since. -/
  awake : ∀ w ∈ room.waits, w.looked = true → ¬ room.Parked w → w.woken = true
  /-- Raising bits takes exactly the parked waiters that wait for one of them off the list, in
  order, and wakes their waits. -/
  raised : ∀ bits : SignalBits,
    (room.set bits).register.bits = room.register.bits.union bits ∧
    (room.set bits).register.waiters =
      room.register.waiters.filter (fun p => !p.mask.intersects bits) ∧
    (room.set bits).waits = room.waits.map fun w =>
      if room.Parked w ∧ w.mask.intersects bits = true then { w with woken := true } else w
  /-- An interrupt does the same, and learns whether there was such a waiter. -/
  interrupt : ∀ bits : SignalBits, (room.setFromInterrupt bits).1 = room.set bits ∧
    ((room.setFromInterrupt bits).2 = true ↔
      ∃ p ∈ room.register.waiters, p.mask.intersects bits = true)
  /-- A look ends the wait if one of its bits is set, or if its time is up and it is not the
  first look. -/
  ends : ∀ w ∈ room.waits, ((room.look w).2 ≠ none ↔
    room.register.bits.intersects w.mask = true ∨ (w.looked = true ∧ w.deadline ≤ room.now))
  /-- A wait that ends has seen the whole register, and is neither live nor parked. -/
  answer : ∀ w ∈ room.waits, ∀ seen, (room.look w).2 = some seen → seen = room.register.bits ∧
    w.id ∉ (room.look w).1.waits.map Wait.id ∧
    w.id ∉ (room.look w).1.register.waiters.map Waiter.id
  /-- Waiting changes no bit. -/
  bits : (∀ name mask timeout,
      (room.create name mask timeout).1.register.bits = room.register.bits ∧
      (room.wait name mask timeout).1.register.bits = room.register.bits) ∧
    (∀ w, (room.look w).1.register.bits = room.register.bits) ∧
    (∀ duration, (room.advance duration).register.bits = room.register.bits) ∧
    (∀ id, (room.finish id).register.bits = room.register.bits)

/-- Whatever the order of the events, no wake-up is lost. -/
theorem no_wake_up_is_lost (h : Interleaving n room) (few : n < UInt32.size) :
    NoWakeUpLost room := by
  have orderly := h.orderly few
  refine ⟨?_, orderly.once, orderly.owned, ?_, ?_, ?_, ?_, ?_, ?_⟩
  · intro p hp
    obtain ⟨w, live, rfl⟩ := orderly.owned p hp
    exact ⟨orderly.enrolled.alert w live, orderly.quiet _ hp⟩
  · intro w live looked free
    exact (orderly.awake w live looked).resolve_left free
  · intro bits
    exact ⟨rfl, raise_waiters room bits, orderly.raise_waits_eq bits⟩
  · intro bits
    have resumed : (room.setFromInterrupt bits).2 = !(room.raise bits).2.isEmpty := rfl
    refine ⟨rfl, ?_⟩
    rw [resumed, raise_ready, Bool.not_eq_true', List.isEmpty_eq_false_iff_exists_mem]
    simp only [List.mem_filter]
  · intro w _
    rw [look_eq]
    split
    case isTrue ends => exact ⟨fun _ => ends, fun _ => by simp⟩
    case isFalse stays => exact ⟨fun answered => absurd rfl answered, fun ends => absurd ends stays⟩
  · intro w _ seen answered
    rw [look_eq] at answered ⊢
    split at answered
    case isFalse => exact absurd answered (by simp)
    case isTrue ends =>
      rw [if_pos ends]
      refine ⟨(Option.some.inj answered).symm, ?_, ?_⟩
      · intro still
        obtain ⟨v, hv, same⟩ := List.mem_map.mp still
        exact absurd same (bne_iff_ne.mp (List.mem_filter.mp hv).2)
      · intro still
        obtain ⟨p, hp, same⟩ := List.mem_map.mp still
        exact absurd same (bne_iff_ne.mp (List.mem_filter.mp hp).2)
  · exact ⟨fun name mask timeout => ⟨rfl, wait_bits room name mask timeout⟩, look_bits room,
      fun _ => rfl, fun _ => rfl⟩

/-- Two tasks wait, for the link and for a document, and an interrupt brings the link up: the first
is woken, the second stays parked. -/
theorem link_wakes_one_of_two :
    let room := ((empty.wait 0 .linkUp 1000).1.wait 1 .shadowReceived 1000).1
    let woken := (room.setFromInterrupt .linkUp).1
    Interleaving 2 woken ∧ 2 < UInt32.size ∧ (room.setFromInterrupt .linkUp).2 = true ∧
      woken.waits.map Wait.woken = [true, false] ∧
      woken.register.waiters.map Waiter.id = [1] ∧ NoWakeUpLost woken := by
  intro room woken
  have first : Interleaving 1 (empty.wait 0 .linkUp 1000).1 :=
    Interleaving.start.wait (by decide) 0 .linkUp 1000
  have second : Interleaving 2 room := first.wait (by decide) 1 .shadowReceived 1000
  have raised : Interleaving 2 woken := second.interrupt .linkUp
  exact ⟨raised, by decide, by decide, by decide, by decide,
    no_wake_up_is_lost raised (by decide)⟩

end WaitRoom

end HatchSensor
