import HatchSensor.Hatch.Config
import Mathlib.Algebra.Group.Nat.Defs
import Mathlib.Data.List.DropRight
import Mathlib.Order.Bounds.Basic
import Mathlib.Tactic.Lemma

/-!
# The counters are the history

Between two publications a configuration keeps three counters, one step for each reading.  They are
functions of the readings: how many there are, and how long the longest suffixes of them are that lie
above the band and below it.  A word holds no more than 2^32 - 1 of them, and no limit can tell the
difference, because a limit is a word too.

A reading that is not a number lies neither above nor below the band, so it ends both runs; that no
reading lies above and below needs a band that is not empty.
-/

namespace HatchSensor

/-! ## The order of numbers -/

/-- One number is less than another exactly if both have a place in the order, the one before the
other. -/
lemma Single.less_iff {x y : Single} :
    x.less y = true ↔ ∃ a b, x.key = some a ∧ y.key = some b ∧ a < b := by
  unfold less
  constructor
  · intro h
    split at h
    · next a b left right => exact ⟨a, b, left, right, of_decide_eq_true h⟩
    · exact absurd h (by simp)
  · rintro ⟨a, b, left, right, before⟩
    rw [left, right]
    exact decide_eq_true before

/-- A number above a band is not below it. -/
lemma Single.not_less_of_band {low high x : Single} (band : low.less high = true)
    (above : high.less x = true) : x.less low = false := by
  obtain ⟨a, b, atLow, atHigh, apart⟩ := less_iff.mp band
  obtain ⟨b', c, atHigh', here, beyond⟩ := less_iff.mp above
  obtain rfl : b = b' := Option.some.inj (atHigh.symm.trans atHigh')
  unfold less
  rw [here, atLow]
  exact decide_eq_false (by omega)

namespace HatchConfig

/-! ## Runs of readings -/

section Runs

variable {p : Single → Bool} {readings : List Single} {x : Single}

/-- The lengths of the suffixes whose readings all satisfy `p`. -/
def runs (p : Single → Bool) (readings : List Single) : Set Nat :=
  {n | ∃ suffix, suffix <:+ readings ∧ suffix.length = n ∧ ∀ x ∈ suffix, p x = true}

/-- The length of the run that the readings end in. -/
def lastRun (p : Single → Bool) (readings : List Single) : Nat :=
  (readings.rtakeWhile p).length

lemma lastRun_concat_of_pos (readings : List Single) (h : p x = true) :
    lastRun p (readings ++ [x]) = lastRun p readings + 1 := by
  rw [lastRun, List.rtakeWhile_concat_pos _ _ _ h, List.length_append]
  rfl

lemma lastRun_concat_of_neg (readings : List Single) (h : p x = false) :
    lastRun p (readings ++ [x]) = 0 := by
  have other : ¬ p x = true := by simp [h]
  rw [lastRun, List.rtakeWhile_concat_neg _ _ _ other]
  rfl

/-- A suffix that satisfies `p` is part of the run. -/
lemma length_le_lastRun (before : List Single) {suffix : List Single}
    (all : ∀ x ∈ suffix, p x = true) : suffix.length ≤ lastRun p (before ++ suffix) := by
  induction suffix using List.reverseRecOn with
  | nil => exact Nat.zero_le _
  | append_singleton suffix x ih =>
    have last : p x = true := all x (List.mem_append_right _ (List.mem_singleton.mpr rfl))
    have shorter := ih fun y among => all y (List.mem_append_left _ among)
    rw [← List.append_assoc, lastRun_concat_of_pos _ last, List.length_append]
    exact Nat.succ_le_succ shorter

/-- No longer suffix satisfies `p`. -/
lemma isGreatest_lastRun (p : Single → Bool) (readings : List Single) :
    IsGreatest (runs p readings) (lastRun p readings) := by
  constructor
  · exact ⟨readings.rtakeWhile p, List.rtakeWhile_suffix p readings, rfl,
      fun x among => List.mem_rtakeWhile_imp among⟩
  · rintro n ⟨suffix, ⟨before, rfl⟩, rfl, all⟩
    exact length_le_lastRun before all

end Runs

/-! ## Counting in words -/

/-- The word for a number, the largest word if there is none. -/
def capped (n : Nat) : UInt32 := UInt32.ofNat (min n (2 ^ 32 - 1))

lemma toNat_capped (n : Nat) : (capped n).toNat = min n (2 ^ 32 - 1) := by
  have fits : min n (2 ^ 32 - 1) < 2 ^ 32 := by omega
  exact UInt32.toNat_ofNat_of_lt fits

/-- One more is counted as one more. -/
lemma countUp_capped (n : Nat) : countUp (capped n) = capped (n + 1) := by
  apply UInt32.toNat_inj.mp
  have now := toNat_capped n
  unfold countUp
  rw [toNat_capped]
  by_cases full : capped n = 0xffffffff
  · rw [if_pos full]
    rw [full] at now ⊢
    simp only [UInt32.reduceToNat] at *
    omega
  · have room : (capped n).toNat ≠ 2 ^ 32 - 1 := fun same => full (UInt32.toNat_inj.mp same)
    rw [if_neg full, UInt32.toNat_add]
    simp only [UInt32.reduceToNat]
    omega

/-- A limit is reached by the word for a number exactly if it is reached by the number. -/
lemma le_capped_iff {limit : UInt32} {n : Nat} : limit ≤ capped n ↔ limit.toNat ≤ n := by
  have bound := limit.toNat_lt
  rw [UInt32.le_iff_toNat_le, toNat_capped]
  omega

/-! ## The history -/

/-- The temperature lies above the band. -/
def tooWarm (c : HatchConfig) (temperature : Single) : Bool := c.high.less temperature

/-- The temperature lies below the band. -/
def tooCold (c : HatchConfig) (temperature : Single) : Bool := temperature.less c.low

/-- The configuration after some readings, counted since everything was published. -/
def recorded (c : HatchConfig) (readings : List Single) : HatchConfig :=
  readings.foldl record c.resetCounters

variable {c : HatchConfig} {readings : List Single}

/-- The counters are functions of the readings, and nothing else has changed. -/
lemma recorded_eq (band : c.low.less c.high = true) (readings : List Single) :
    c.recorded readings =
      { c with
        unpublished := capped readings.length
        highRun := capped (lastRun c.tooWarm readings)
        lowRun := capped (lastRun c.tooCold readings) } := by
  induction readings using List.reverseRecOn with
  | nil => rfl
  | append_singleton readings x ih =>
    have step : c.recorded (readings ++ [x]) = (c.recorded readings).record x := by
      rw [recorded, List.foldl_append]
      rfl
    have count : countUp (capped readings.length) = capped (readings ++ [x]).length := by
      rw [countUp_capped, List.length_append, List.length_singleton]
    rw [step, ih, record]
    dsimp only
    rw [count]
    cases above : c.high.less x with
    | true =>
      have high : c.tooWarm x = true := above
      have low : c.tooCold x = false := Single.not_less_of_band band above
      rw [if_pos rfl, countUp_capped, lastRun_concat_of_pos readings high,
        lastRun_concat_of_neg readings low]
      rfl
    | false =>
      have high : c.tooWarm x = false := above
      rw [if_neg Bool.false_ne_true, lastRun_concat_of_neg readings high]
      cases below : x.less c.low with
      | true =>
        have low : c.tooCold x = true := below
        rw [if_pos rfl, countUp_capped, lastRun_concat_of_pos readings low]
        rfl
      | false =>
        have low : c.tooCold x = false := below
        rw [if_neg Bool.false_ne_true, lastRun_concat_of_neg readings low]
        rfl

/-- That there is a reason to publish, given how many readings there are and how long the runs are
that they end in. -/
def Calls (c : HatchConfig) (count highs lows : Nat) (now : UInt32) : PublishReason → Prop
  | .threshold => c.publishAfter.toNat ≤ count
  | .high => c.highRunLimit.toNat ≤ highs
  | .low => c.lowRunLimit.toNat ≤ lows
  | .ended => c.endTime ≤ now

instance (c : HatchConfig) (count highs lows : Nat) (now : UInt32) :
    DecidablePred (c.Calls count highs lows now)
  | .threshold => inferInstanceAs (Decidable (_ ≤ _))
  | .high => inferInstanceAs (Decidable (_ ≤ _))
  | .low => inferInstanceAs (Decidable (_ ≤ _))
  | .ended => inferInstanceAs (Decidable (_ ≤ _))

/-- The reasons to publish, in the order in which they are looked at. -/
def reasons : List PublishReason := [.threshold, .high, .low, .ended]

/-- Every reason is looked at. -/
lemma mem_reasons (reason : PublishReason) : reason ∈ reasons := by
  cases reason <;> decide

/-- The reason to publish is the first one that the history gives. -/
lemma publishReason_recorded (band : c.low.less c.high = true) (now : UInt32) :
    (c.recorded readings).publishReason now
      = reasons.find? fun reason => decide (c.Calls readings.length (lastRun c.tooWarm readings)
          (lastRun c.tooCold readings) now reason) := by
  rw [recorded_eq band, publishReason]
  simp only [le_capped_iff, ended, decide_eq_true_eq, reasons, List.find?_cons, Calls,
    List.find?_nil]
  split_ifs with many high low late
  · simp [many]
  · simp [many, high]
  · simp [many, high, low]
  · simp [many, high, low, late]
  · simp [many, high, low, late]

/-- Let the band not be empty, and let any readings be counted since everything was published, words
that are not numbers among them.  The counters are the number of the readings and the lengths of the
longest suffixes that lie above the band and below it, up to the largest word.  So there is no reason
to publish exactly if the readings are fewer than the configuration wants together, the runs are
shorter than its limits and the hatch is not over; and else the reason is the first that holds, in
this order. -/
theorem counters_tell_history (c : HatchConfig) (band : c.low.less c.high = true)
    (readings : List Single) :
    ∃ highs lows, IsGreatest (runs (c.high.less ·) readings) highs ∧
      IsGreatest (runs (·.less c.low) readings) lows ∧
      (c.recorded readings).unpublished.toNat = min readings.length (2 ^ 32 - 1) ∧
      (c.recorded readings).highRun.toNat = min highs (2 ^ 32 - 1) ∧
      (c.recorded readings).lowRun.toNat = min lows (2 ^ 32 - 1) ∧
      ∀ now : UInt32,
        ((c.recorded readings).publishReason now = none ↔
          readings.length < c.publishAfter.toNat ∧ highs < c.highRunLimit.toNat ∧
            lows < c.lowRunLimit.toNat ∧ now < c.endTime) ∧
        (c.recorded readings).publishReason now
          = reasons.find? fun reason => decide (c.Calls readings.length highs lows now reason) := by
  have reason : ∀ now, (c.recorded readings).publishReason now
      = reasons.find? fun reason => decide (c.Calls readings.length (lastRun c.tooWarm readings)
          (lastRun c.tooCold readings) now reason) := publishReason_recorded band
  have recorded := recorded_eq band readings
  refine ⟨lastRun c.tooWarm readings, lastRun c.tooCold readings, isGreatest_lastRun _ _,
    isGreatest_lastRun _ _, ?_, ?_, ?_, fun now => ⟨?_, reason now⟩⟩
  · rw [recorded, toNat_capped]
  · rw [recorded, toNat_capped]
  · rw [recorded, toNat_capped]
  · rw [reason now, List.find?_eq_none]
    constructor
    · intro silent
      have quiet : ∀ reason, ¬ c.Calls readings.length (lastRun c.tooWarm readings)
          (lastRun c.tooCold readings) now reason := fun reason calls =>
        silent reason (mem_reasons reason) (decide_eq_true calls)
      exact ⟨Nat.lt_of_not_le (quiet .threshold), Nat.lt_of_not_le (quiet .high),
        Nat.lt_of_not_le (quiet .low), UInt32.not_le.mp (quiet .ended)⟩
    · rintro ⟨few, high, low, early⟩ reason - calls
      have called := of_decide_eq_true calls
      cases reason with
      | threshold => exact Nat.not_le_of_lt few called
      | high => exact Nat.not_le_of_lt high called
      | low => exact Nat.not_le_of_lt low called
      | ended => exact UInt32.not_le.mpr early called

/-- A configuration that wants two readings in a row above its band. -/
def patient : HatchConfig := { default with highRunLimit := 2 }

/-- Infinity, a word that is not a number, and two temperatures above the band. -/
def feverish : List Single :=
  [.infinity false, ⟨0x7fc00000⟩, ⟨0x42200000⟩, ⟨0x42240000⟩]

/-- The word that is not a number has ended the first run, and the second is long enough. -/
theorem feverish_hatch_is_published :
    patient.low.less patient.high = true ∧ IsGreatest (runs (patient.high.less ·) feverish) 2 ∧
      (patient.recorded feverish).publishReason 0 = some .high := by
  have band : patient.low.less patient.high = true := by decide +kernel
  have counted : (patient.recorded feverish).highRun.toNat = 2 := by decide +kernel
  obtain ⟨highs, lows, greatest, -, -, run, -, reason⟩ :=
    counters_tell_history patient band feverish
  obtain rfl : highs = 2 := by omega
  refine ⟨band, greatest, ?_⟩
  rw [(reason 0).2]
  rfl

end HatchConfig

end HatchSensor
