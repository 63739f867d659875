import HatchSensor.Button.Monitor
import Mathlib.Tactic.Lemma

/-!
# Sets of signals, bit by bit

A set of signals contains another exactly if it has all of its bits, and the operations on sets act
on every bit separately.  What the proofs need to know about the named signals is then a matter of
looking at a few bits.
-/

namespace HatchSensor

namespace SignalBits

/-- Whether the set has the bit of the given number. -/
def bit (a : SignalBits) (i : Nat) : Bool := a.word.toBitVec.getLsbD i

@[simp]
lemma bit_union (a b : SignalBits) (i : Nat) : (a.union b).bit i = (a.bit i || b.bit i) := by
  simp [bit, union]

@[simp]
lemma bit_inter (a b : SignalBits) (i : Nat) : (a.inter b).bit i = (a.bit i && b.bit i) := by
  simp [bit, inter]

@[simp]
lemma bit_without (a b : SignalBits) {i : Nat} (h : i < 32) :
    (a.without b).bit i = (a.bit i && !b.bit i) := by
  simp [bit, without, inter, complement, h]

@[simp]
lemma bit_none (i : Nat) : none.bit i = false := by
  simp [bit, none]

/-- Sets with the same bits are the same. -/
lemma ext_bit {a b : SignalBits} (h : ∀ i < 32, a.bit i = b.bit i) : a = b := by
  have words : a.word = b.word :=
    UInt32.eq_of_toBitVec_eq (BitVec.eq_of_getLsbD_eq fun i hi => h i hi)
  cases a
  cases b
  exact congrArg SignalBits.mk words

/-- To contain a set is to have all of its bits. -/
lemma contains_iff {a b : SignalBits} :
    a.contains b = true ↔ ∀ i < 32, b.bit i = true → a.bit i = true := by
  have meet : a.contains b = true ↔ a.inter b = b := by
    rw [contains, beq_iff_eq]
    constructor
    · intro h
      exact congrArg SignalBits.mk h
    · intro h
      exact congrArg SignalBits.word h
  rw [meet]
  constructor
  · intro h i _ hb
    rw [← h, bit_inter, Bool.and_eq_true] at hb
    exact hb.1
  · intro h
    refine ext_bit fun i hi => ?_
    rw [bit_inter]
    cases hb : b.bit i with
    | false => exact Bool.and_false _
    | true => rw [h i hi hb, Bool.and_self]

/-- What a set contains, a larger one contains. -/
lemma contains_union_left {a c : SignalBits} (b : SignalBits) (h : a.contains c = true) :
    (a.union b).contains c = true := by
  rw [contains_iff] at h ⊢
  intro i hi hc
  rw [bit_union, h i hi hc, Bool.true_or]

/-- To contain a single bit is to have it. -/
lemma contains_of_single {a b : SignalBits} {n : Nat} (h : n < 32)
    (single : ∀ i < 32, b.bit i = decide (i = n)) : a.contains b = a.bit n := by
  rw [Bool.eq_iff_iff, contains_iff]
  constructor
  · intro all
    exact all n h (by rw [single n h, decide_eq_true rfl])
  · intro there i hi hb
    rw [single i hi] at hb
    rwa [of_decide_eq_true hb]

/-- A reset request is a single bit. -/
lemma contains_resetRequested (a : SignalBits) : a.contains .resetRequested = a.bit 7 :=
  contains_of_single (by decide) (by decide)

/-- The held button is a single bit. -/
lemma contains_buttonPressed (a : SignalBits) : a.contains .buttonPressed = a.bit 5 :=
  contains_of_single (by decide) (by decide)

/-- The released button is a single bit. -/
lemma contains_buttonReleased (a : SignalBits) : a.contains .buttonReleased = a.bit 4 :=
  contains_of_single (by decide) (by decide)

/-- A cleared reset request is gone. -/
@[simp]
lemma resetRequested_without (a : SignalBits) :
    (a.without .resetRequested).contains .resetRequested = false := by
  have wanted : resetRequested.bit 7 = true := by decide
  rw [contains_resetRequested, bit_without a _ (by decide), wanted, Bool.not_true, Bool.and_false]

/-- Clearing a signal other than the reset request leaves the request alone. -/
lemma resetRequested_without_of_apart {a b : SignalBits} (apart : b.bit 7 = false) :
    (a.without b).contains .resetRequested = a.contains .resetRequested := by
  rw [contains_resetRequested, contains_resetRequested, bit_without a b (by decide), apart,
    Bool.not_false, Bool.and_true]

/-- A reset is requested in a union if it is in one of its parts. -/
lemma resetRequested_union (a b : SignalBits) :
    (a.union b).contains .resetRequested
      = (a.contains .resetRequested || b.contains .resetRequested) := by
  rw [contains_resetRequested, contains_resetRequested, contains_resetRequested, bit_union]

/-- Clearing signals requests no reset. -/
lemma requested_of_without {a b : SignalBits}
    (h : (a.without b).contains .resetRequested = true) : a.contains .resetRequested = true := by
  rw [contains_resetRequested, bit_without a b (by decide), Bool.and_eq_true] at h
  rw [contains_resetRequested]
  exact h.1

/-- Two sets meet exactly if they have a bit in common. -/
lemma intersects_iff {a b : SignalBits} :
    a.intersects b = true ↔ ∃ i < 32, a.bit i = true ∧ b.bit i = true := by
  have meet : a.intersects b = true ↔ a.inter b ≠ none := by
    rw [intersects, bne_iff_ne]
    constructor
    · intro h same
      exact h (congrArg SignalBits.word same)
    · intro h same
      exact h (congrArg SignalBits.mk same)
  rw [meet]
  constructor
  · intro h
    refine Classical.byContradiction fun apart => h (ext_bit fun i hi => ?_)
    have both : (a.bit i && b.bit i) = false := by
      rw [Bool.eq_false_iff, Ne, Bool.and_eq_true]
      exact fun common => apart ⟨i, hi, common⟩
    rw [bit_inter, both, bit_none]
  · rintro ⟨i, -, ha, hb⟩ same
    have both : (a.inter b).bit i = true := by rw [bit_inter, ha, hb]; rfl
    rw [same, bit_none] at both
    exact Bool.false_ne_true both

/-- Which set meets which does not matter. -/
lemma intersects_comm (a b : SignalBits) : a.intersects b = b.intersects a := by
  rw [Bool.eq_iff_iff, intersects_iff, intersects_iff]
  simp only [and_comm]

/-- To meet a union is to meet one of its parts. -/
lemma intersects_union (a b c : SignalBits) :
    a.intersects (b.union c) = (a.intersects b || a.intersects c) := by
  rw [Bool.eq_iff_iff, Bool.or_eq_true, intersects_iff, intersects_iff, intersects_iff]
  constructor
  · rintro ⟨i, hi, ha, hbc⟩
    rw [bit_union, Bool.or_eq_true] at hbc
    rcases hbc with hb | hc
    · exact Or.inl ⟨i, hi, ha, hb⟩
    · exact Or.inr ⟨i, hi, ha, hc⟩
  · rintro (⟨i, hi, ha, hb⟩ | ⟨i, hi, ha, hc⟩)
    · exact ⟨i, hi, ha, by rw [bit_union, hb, Bool.true_or]⟩
    · exact ⟨i, hi, ha, by rw [bit_union, hc, Bool.or_true]⟩

/-- What does not meet a set does not meet what clearing has left of it. -/
lemma not_intersects_without {a b : SignalBits} (c : SignalBits) (h : a.intersects b = false) :
    a.intersects (b.without c) = false := by
  rw [Bool.eq_false_iff, Ne, intersects_iff] at h ⊢
  rintro ⟨i, hi, ha, hbc⟩
  rw [bit_without b c hi, Bool.and_eq_true] at hbc
  exact h ⟨i, hi, ha, hbc.1⟩

/-- A set contains what was added to it. -/
lemma contains_union_right (a b : SignalBits) : (a.union b).contains b = true := by
  rw [contains_iff]
  intro i _ hb
  rw [bit_union, hb, Bool.or_true]

end SignalBits

/-! ## The button monitor -/

namespace ButtonMonitor

/-- No event of the button takes a reset request back. -/
lemma publish_keeps_resetRequested {register : SignalRegister} (event : ButtonEvent)
    (h : register.bits.contains .resetRequested = true) :
    (publish register event).1.bits.contains .resetRequested = true := by
  have cleared : ∀ b : SignalBits, b.bit 7 = false →
      (register.bits.without b).contains .resetRequested = true := by
    intro b apart
    rwa [SignalBits.resetRequested_without_of_apart apart]
  cases event with
  | pressed => exact SignalBits.contains_union_left _ (cleared _ (by decide))
  | released held => exact SignalBits.contains_union_left _ (cleared _ (by decide))
  | resetRequested => exact SignalBits.contains_union_left _ h
  | resetReleased => exact SignalBits.contains_union_left _ (cleared _ (by decide))

end ButtonMonitor

end HatchSensor
