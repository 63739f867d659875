import HatchSensor.Proofs.Footprints
import HatchSensor.Proofs.Signals
import Mathlib.Logic.Relation

/-!
# A register shared with others

A shadow exchange listens to the very signal register on which other tasks report.  Here the
register does exactly what it is asked, down to its parked waits, and everything else may answer
anything.  Others set bits while a wait is parked, and if they preempt the device also between any
two of its requests; they never clear a bit.

What the others have set is kept beside the register, so that it can be told apart from what the
device has changed itself.
-/

namespace HatchSensor

open Program

/-- The register, and what others have done to it. -/
structure SharedRegister where
  /-- The register. -/
  register : SignalRegister
  /-- The bits that others have set so far. -/
  raised : SignalBits
  /-- The bits that others have set since the device last cleared one. -/
  fresh : SignalBits

namespace SharedRegister

/-- A register to which others have done nothing yet. -/
def start (register : SignalRegister) : SharedRegister := ⟨register, .none, .none⟩

/-- A factory reset is wanted. -/
def Requested (s : SharedRegister) : Prop := s.register.bits.contains .resetRequested = true

/-- Others set bits. -/
def stir (s : SharedRegister) (bits : SignalBits) : SharedRegister :=
  ⟨s.register.set bits, s.raised.union bits, s.fresh.union bits⟩

/-- Others have set bits, if any. -/
def Stirred (s t : SharedRegister) : Prop := ∃ bits, t = s.stir bits

/-- A wait looks at the register. -/
def look (s : SharedRegister) (id : UInt32) (mask : SignalBits) :
    SharedRegister × Option SignalBits :=
  ({ s with register := (s.register.look id mask).1 }, (s.register.look id mask).2)

/-- How a wait stays parked.  Whenever it is woken, others may have set bits, and it looks at the
register before anything else. -/
inductive Parked (id : UInt32) (mask : SignalBits) (timer : Option Nat) :
    SharedRegister → Wake → SharedRegister → Prop
  /-- It sees one of its bits. -/
  | signalled {s u : SharedRegister} {bits : SignalBits} (stirred : Stirred s u)
      (seen : (u.look id mask).2 = some bits) :
      Parked id mask timer s (.signalled bits) (u.look id mask).1
  /-- It sees none, and its time is over. -/
  | expired {s u : SharedRegister} (stirred : Stirred s u) (unseen : (u.look id mask).2 = none) :
      Parked id mask timer s .expired (u.look id mask).1
  /-- It sees none, and the timer beside it has run out. -/
  | elapsed {s u : SharedRegister} (stirred : Stirred s u) (unseen : (u.look id mask).2 = none)
      (timed : timer.isSome) : Parked id mask timer s .elapsed (u.look id mask).1
  /-- It sees none, and parks again. -/
  | again {s u t : SharedRegister} {wake : Wake} (stirred : Stirred s u)
      (unseen : (u.look id mask).2 = none)
      (later : Parked id mask timer (u.look id mask).1 wake t) :
      Parked id mask timer s wake t

/-- What a request does to the register, and the answers it may get. -/
def Reply : (r : DeviceRequest) → SharedRegister → r.Answer → SharedRegister → Prop
  | .signals, s, bits, t => bits = s.register.bits ∧ t = s
  | .raise bits, s, _, t => t = { s with register := s.register.set bits }
  | .clear bits, s, _, t => t = { s with register := s.register.clear bits, fresh := .none }
  | .openWait, s, id, t =>
    id = s.register.register.2 ∧ t = { s with register := s.register.register.1 }
  | .look id mask, s, found, t => found = (s.look id mask).2 ∧ t = (s.look id mask).1
  | .park id mask _ timer, s, wake, t => Parked id mask timer s wake t
  | .closeWait id, s, _, t => t = { s with register := s.register.forget id }
  | _, s, _, t => t = s

/-- What may happen while the device is not parked: nothing, unless it is preempted. -/
def Others (preempts : Prop) (s t : SharedRegister) : Prop := t = s ∨ preempts ∧ Stirred s t

/-- The surroundings answer, and where they preempt the device the others act. -/
def answers (preempts : Prop) : Behaviour Surroundings SharedRegister := fun r s x t =>
  ∃ u, Reply r s x u ∧ Others preempts u t

/-! ## A machine -/

/-- How a wait goes on after a look, if nobody sets a bit. -/
def woken (found : Option SignalBits) (timer : Option Nat) : Wake :=
  match found with
  | some bits => .signalled bits
  | none => if timer.isSome then .elapsed else .expired

/-- Surroundings in which the register is left alone and every step of the cloud session brings the
same. -/
def serving (pumped : Pumped) : (r : DeviceRequest) → SharedRegister → r.Answer × SharedRegister
  | .signals, s => (s.register.bits, s)
  | .raise bits, s => ((), { s with register := s.register.set bits })
  | .clear bits, s => ((), { s with register := s.register.clear bits, fresh := .none })
  | .openWait, s => (s.register.register.2, { s with register := s.register.register.1 })
  | .look id mask, s => ((s.look id mask).2, (s.look id mask).1)
  | .park id mask _ timer, s => (woken ((s.stir .none).look id mask).2 timer,
      ((s.stir .none).look id mask).1)
  | .closeWait id, s => ((), { s with register := s.register.forget id })
  | .pump _, s => (pumped, s)
  | r, s => ((World.calm r ⟨.empty, .none, none⟩).1, s)

lemma parked_woken {s : SharedRegister} {id : UInt32} {mask : SignalBits} {timer : Option Nat} :
    Parked id mask timer s (woken ((s.stir .none).look id mask).2 timer)
      ((s.stir .none).look id mask).1 := by
  have stirred : Stirred s (s.stir .none) := ⟨.none, rfl⟩
  cases found : ((s.stir .none).look id mask).2 with
  | some bits => exact .signalled stirred found
  | none =>
    cases timer with
    | none => exact .expired stirred found
    | some due => exact .elapsed stirred found rfl

/-- The machine answers as it may. -/
lemma answers_serving (preempts : Prop) (pumped : Pumped) (r : DeviceRequest)
    (s : SharedRegister) :
    answers preempts r s (serving pumped r s).1 (serving pumped r s).2 := by
  refine ⟨(serving pumped r s).2, ?_, Or.inl rfl⟩
  cases r with
  | park id mask deadline timer => exact parked_woken
  | signals | openWait | look => exact ⟨rfl, rfl⟩
  | _ => rfl

/-- There is always an answer. -/
lemma answers_total (preempts : Prop) (r : DeviceRequest) (s : SharedRegister) :
    ∃ x t, answers preempts r s x t :=
  ⟨_, _, answers_serving preempts ⟨[], .ok ()⟩ r s⟩

/-! ## Parked waits -/

section Parked

variable {id : UInt32} {mask : SignalBits} {timer : Option Nat} {s t : SharedRegister} {wake : Wake}

/-- What looking and the others keep, a parked wait keeps. -/
lemma Parked.keeps {I : SharedRegister → Prop} (h : Parked id mask timer s wake t)
    (stirs : ∀ u v, Stirred u v → I u → I v) (looks : ∀ u, I u → I (u.look id mask).1)
    (before : I s) : I t := by
  induction h with
  | signalled stirred _ => exact looks _ (stirs _ _ stirred before)
  | expired stirred _ => exact looks _ (stirs _ _ stirred before)
  | elapsed stirred _ _ => exact looks _ (stirs _ _ stirred before)
  | again stirred _ _ ih => exact ih (looks _ (stirs _ _ stirred before))

lemma look_none (unseen : (s.look id mask).2 = none) : s.register.bits.intersects mask = false := by
  cases met : s.register.bits.intersects mask with
  | false => rfl
  | true => simp [look, SignalRegister.look, met] at unseen

/-- If one of its bits is set already, a parked wait is woken by it. -/
lemma Parked.not_elapsed (h : Parked id mask timer s wake t)
    (met : s.register.bits.intersects mask = true) : wake ≠ .elapsed := by
  have still : ∀ {u : SharedRegister}, Stirred s u → u.register.bits.intersects mask = true := by
    rintro u ⟨bits, rfl⟩
    have joined : (s.stir bits).register.bits = s.register.bits.union bits := rfl
    rw [joined, SignalBits.intersects_comm, SignalBits.intersects_union,
      SignalBits.intersects_comm, met, Bool.true_or]
  cases h with
  | signalled stirred seen => simp
  | expired stirred unseen => simp
  | elapsed stirred unseen timed =>
    exact absurd (still stirred) (Bool.eq_false_iff.mp (look_none unseen))
  | again stirred unseen later =>
    exact absurd (still stirred) (Bool.eq_false_iff.mp (look_none unseen))

end Parked

/-! ## What happens to the register -/

/-- One thing that happens to the register while an exchange goes on, in which some waits look at
it. -/
inductive Change (own : UInt32 → Prop) : SharedRegister → SharedRegister → Prop
  /-- The exchange raises its signal. -/
  | raise (s : SharedRegister) :
      Change own s { s with register := s.register.set .shadowReceived }
  /-- The exchange clears its signal. -/
  | clear (s : SharedRegister) :
      Change own s { s with register := s.register.clear .shadowReceived, fresh := .none }
  /-- A wait is opened. -/
  | opened (s : SharedRegister) : Change own s { s with register := s.register.register.1 }
  /-- A wait looks. -/
  | look (s : SharedRegister) {id : UInt32} (mask : SignalBits) (mine : own id) :
      Change own s (s.look id mask).1
  /-- A wait is closed. -/
  | closed (s : SharedRegister) (id : UInt32) :
      Change own s { s with register := s.register.forget id }
  /-- Others set bits. -/
  | stir (s : SharedRegister) (bits : SignalBits) : Change own s (s.stir bits)

/-- Any number of such things. -/
abbrev Changes (own : UInt32 → Prop) : SharedRegister → SharedRegister → Prop :=
  Relation.ReflTransGen (Change own)

section Changes

open ShadowExchange

variable {preempts : Prop} {own : UInt32 → Prop} {s t : SharedRegister}

lemma Change.of_stirred (h : Stirred s t) : Change own s t := by
  obtain ⟨bits, rfl⟩ := h
  exact .stir s bits

lemma Others.changes (h : Others preempts s t) : Changes own s t := by
  rcases h with rfl | ⟨-, stirred⟩
  · exact .refl
  · exact .single (.of_stirred stirred)

lemma Parked.changes {id : UInt32} {mask : SignalBits} {timer : Option Nat} {wake : Wake}
    (h : Parked id mask timer s wake t) (mine : own id) : Changes own s t :=
  h.keeps (I := Changes own s) (fun _ _ stirred before => before.tail (.of_stirred stirred))
    (fun u before => before.tail (.look u mask mine)) .refl

/-- What an exchange asks for changes the register in these ways only. -/
lemma changes_of_answers {r : DeviceRequest} {x : r.Answer} (talks : Talks own r)
    (answered : answers preempts r s x t) : Changes own s t := by
  obtain ⟨u, reply, others⟩ := answered
  refine .trans ?_ others.changes
  cases r with
  | park id mask deadline timer => exact reply.changes talks
  | raise bits =>
    obtain rfl : bits = .shadowReceived := talks
    exact reply ▸ .single (.raise s)
  | clear bits =>
    obtain rfl : bits = .shadowReceived := talks
    exact reply ▸ .single (.clear s)
  | openWait => exact reply.2 ▸ .single (.opened s)
  | look id mask => exact reply.2 ▸ .single (.look s mask talks)
  | closeWait id => exact reply ▸ .single (.closed s id)
  | signals => exact reply.2 ▸ .refl
  | instant | connect | requestShadow | pump | disconnect => exact reply ▸ .refl
  | _ => exact talks.elim

lemma changes_of_reaches {α : Type} {p q : Program Surroundings α} {d : Dialogue Surroundings}
    (h : Reaches (answers preempts) p s d q t) (talks : ∀ e ∈ d, Talks own e.request) :
    Changes own s t :=
  h.along (P := fun e : Exchange Surroundings => Talks own e.request) (I := Changes own s)
    (fun _ _ _ _ allowed answered before => before.trans (changes_of_answers allowed answered))
    talks .refl

/-- What every single change keeps, any number of them keeps. -/
lemma Changes.keeps {I : SharedRegister → Prop} (h : Changes own s t)
    (step : ∀ u v, Change own u v → I u → I v) (before : I s) : I t := by
  induction h with
  | refl => exact before
  | tail _ change ih => exact step _ _ change ih

end Changes

/-! ## Bits -/

section Bits

variable {preempts : Prop} {own : UInt32 → Prop} {s t : SharedRegister}

@[simp]
lemma bits_look (s : SharedRegister) (id : UInt32) (mask : SignalBits) :
    (s.look id mask).1.register.bits = s.register.bits := by
  simp only [look, SignalRegister.look]
  split <;> rfl

/-- A requested reset stays requested. -/
lemma Changes.requested (h : Changes own s t) (before : s.Requested) : t.Requested := by
  refine h.keeps (fun u v change requested => ?_) before
  cases change with
  | raise => exact SignalBits.contains_union_left _ requested
  | clear =>
    exact (SignalBits.resetRequested_without_of_apart (by decide)).trans requested
  | look mask mine =>
    rw [Requested, bits_look]
    exact requested
  | stir bits => exact SignalBits.contains_union_left _ requested
  | opened | closed => exact requested

/-- The bits but the exchange's own are those of `bits` and those that the others have set. -/
def Kept (bits : SignalBits) (s : SharedRegister) : Prop :=
  s.register.bits.without .shadowReceived = (bits.union s.raised).without .shadowReceived

/-- Changes of the exchange's own bit do not matter. -/
lemma Kept.of_bits {bits : SignalBits} (kept : Kept bits s) (others : t.raised = s.raised)
    (rest : ∀ i < 32, SignalBits.shadowReceived.bit i = false →
      t.register.bits.bit i = s.register.bits.bit i) : Kept bits t := by
  rw [Kept, others]
  refine Eq.trans (SignalBits.ext_bit fun i hi => ?_) kept
  rw [SignalBits.bit_without _ _ hi, SignalBits.bit_without _ _ hi]
  cases mine : SignalBits.shadowReceived.bit i with
  | true => rw [Bool.not_true, Bool.and_false, Bool.and_false]
  | false => rw [rest i hi mine]

lemma Kept.stir {bits : SignalBits} (kept : Kept bits s) (more : SignalBits) :
    Kept bits (s.stir more) := by
  refine SignalBits.ext_bit fun i hi => ?_
  have same := congrArg (SignalBits.bit · i) kept
  simp only [SignalBits.bit_without _ _ hi, SignalBits.bit_union] at same
  simp only [SharedRegister.stir, SignalRegister.set, SignalRegister.raise,
    SignalBits.bit_without _ _ hi, SignalBits.bit_union]
  grind

/-- An exchange changes no bit but its own. -/
lemma Changes.kept {bits : SignalBits} (h : Changes own s t) (before : Kept bits s) :
    Kept bits t := by
  refine h.keeps (fun u v change kept => ?_) before
  cases change with
  | raise =>
    refine kept.of_bits rfl fun i _ mine => ?_
    simp [SignalRegister.set, SignalRegister.raise, mine]
  | clear =>
    refine kept.of_bits rfl fun i hi mine => ?_
    simp [SignalRegister.clear, SignalBits.bit_without _ _ hi, mine]
  | look mask mine => exact kept.of_bits rfl fun i _ _ => by rw [bits_look]
  | stir more => exact kept.stir more
  | opened | closed => exact kept

/-- The signal of the exchange is set only if others have set it since it was cleared, which takes
a preemption. -/
def Cleared (preempts : Prop) (s : SharedRegister) : Prop :=
  s.register.bits.inter .shadowReceived = s.fresh.inter .shadowReceived ∧
    (¬ preempts → s.fresh = .none)

lemma Cleared.others (before : Cleared preempts s) (h : Others preempts s t) :
    Cleared preempts t := by
  rcases h with rfl | ⟨preempted, bits, rfl⟩
  · exact before
  · refine ⟨SignalBits.ext_bit fun i hi => ?_, fun alone => absurd preempted alone⟩
    have same := congrArg (SignalBits.bit · i) before.1
    simp only [SignalBits.bit_inter] at same
    simp only [stir, SignalRegister.set, SignalRegister.raise, SignalBits.bit_inter,
      SignalBits.bit_union]
    grind

/-- Clearing the signal clears it. -/
lemma cleared_of_clear {x : Unit} (h : answers preempts (.clear .shadowReceived) s x t) :
    Cleared preempts t := by
  obtain ⟨u, rfl, others⟩ := h
  refine Cleared.others ⟨SignalBits.ext_bit fun i hi => ?_, fun _ => rfl⟩ others
  simp [SignalRegister.clear, SignalBits.bit_without _ _ hi]

/-- Opening a session leaves the register to the others. -/
lemma Cleared.connect {client : String} {timeout : Nat} {x : Attempt Unit}
    (before : Cleared preempts s) (h : answers preempts (.connect client timeout) s x t) :
    Cleared preempts t := by
  obtain ⟨u, rfl, others⟩ := h
  exact before.others others

/-- While nobody preempts the exchange, its signal is gone. -/
lemma Cleared.gone (h : Cleared preempts s) (alone : ¬ preempts) :
    s.register.bits.contains .shadowReceived = false := by
  have empty := h.1
  rw [h.2 alone] at empty
  rw [Bool.eq_false_iff, Ne, SignalBits.contains_iff]
  intro all
  have set : s.register.bits.bit 1 = true := all 1 (by decide) (by decide)
  have same := congrArg (SignalBits.bit · 1) empty
  simp only [SignalBits.bit_inter, set] at same
  exact absurd same (by decide)

end Bits

/-! ## Waits -/

section Waits

variable {preempts : Prop} {s t : SharedRegister} {id : UInt32}

lemma waiters_set (r : SignalRegister) (bits : SignalBits) :
    (r.set bits).waiters.Sublist r.waiters := by
  rw [SignalRegister.set, SignalRegister.raise, List.partition_eq_filter_filter]
  exact List.filter_sublist

/-- Without a look of a wait, none is parked. -/
lemma Changes.waiters (h : Changes (fun _ => False) s t) :
    t.register.waiters.Sublist s.register.waiters := by
  refine h.keeps (I := fun u => u.register.waiters.Sublist s.register.waiters)
    (fun u v change before => ?_) (.refl _)
  refine List.Sublist.trans ?_ before
  cases change with
  | raise => exact waiters_set _ _
  | look mask mine => exact mine.elim
  | closed other => exact List.filter_sublist
  | stir bits => exact waiters_set _ _
  | clear | opened => exact .refl _

/-- The looks of one wait park no other. -/
lemma Changes.others_waiters (h : Changes (· = id) s t) :
    (t.register.forget id).waiters.Sublist s.register.waiters := by
  refine h.keeps (I := fun u => (u.register.forget id).waiters.Sublist s.register.waiters)
    (fun u v change before => ?_) List.filter_sublist
  refine List.Sublist.trans ?_ before
  cases change with
  | raise => exact (waiters_set _ _).filter _
  | look mask mine =>
    obtain rfl := mine
    simp only [look, SignalRegister.look]
    split
    · exact .refl _
    · simp [SignalRegister.forget]
  | closed other => exact List.filter_sublist.filter _
  | stir bits => exact (waiters_set _ _).filter _
  | clear | opened => exact .refl _

end Waits

end SharedRegister

end HatchSensor
