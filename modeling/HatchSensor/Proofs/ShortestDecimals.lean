import HatchSensor.Number.Shortest
import Mathlib.Tactic.Lemma
import Mathlib.Tactic.Positivity
import Mathlib.Tactic.Ring

/-!
# The search for the shortest decimal

The search always finds a decimal.  Between a pattern and the midpoint below it there is room for a
step of the grid that has 18 digits, because the gap to the pattern before is at least the value
divided by `10 ^ 17` (`Decimal.Target.Roomy`), and the search begins at an exponent whose power of
ten does not exceed the value.

So the decimal of a positive single-precision number has digits and reads back, and it is not larger
than its interval admits (`Decimal.within_single`).  That puts its first digit not too far before
the point (`Decimal.Within.leadingExponent_le`).
-/

namespace HatchSensor

/-! ## Magnitudes -/

namespace BinaryFormat

variable (f : BinaryFormat) (p : Nat)

/-- The distance from the magnitude of a pattern to the next one. -/
def gap : Nat := 2 ^ (p / 2 ^ f.fractionBits - 1)

lemma gap_pos : 0 < f.gap p := Nat.two_pow_pos _

/-- A magnitude is counted in gaps. -/
lemma exists_magnitude_eq : ∃ c < 2 * 2 ^ f.fractionBits, f.magnitude p = c * f.gap p := by
  have positive : 0 < 2 ^ f.fractionBits := Nat.two_pow_pos _
  have rest : p % 2 ^ f.fractionBits < 2 ^ f.fractionBits := Nat.mod_lt _ positive
  unfold magnitude gap
  simp only [Nat.pow_eq]
  split
  · next lowest =>
    refine ⟨p, ?_, ?_⟩
    · have := Nat.lt_of_div_eq_zero positive lowest
      omega
    · rw [lowest, Nat.pow_zero, Nat.mul_one]
  · exact ⟨_, by omega, rfl⟩

/-- The next magnitude is one gap further. -/
lemma magnitude_succ : f.magnitude (p + 1) = f.magnitude p + f.gap p := by
  have positive : 0 < 2 ^ f.fractionBits := Nat.two_pow_pos _
  generalize size : 2 ^ f.fractionBits = b at positive
  have quotient := Nat.div_add_mod p b
  have rest : p % b < b := Nat.mod_lt _ positive
  unfold magnitude gap
  simp only [Nat.pow_eq, size]
  by_cases last : p % b + 1 = b
  · have next : p + 1 = b * (p / b + 1) := by
      rw [Nat.mul_add, Nat.mul_one]
      omega
    have above : (p + 1) / b = p / b + 1 := by rw [next, Nat.mul_div_cancel_left _ positive]
    have bottom : (p + 1) % b = 0 := by rw [next, Nat.mul_mod_right]
    rw [above, bottom, if_neg (Nat.succ_ne_zero _), Nat.add_sub_cancel, Nat.zero_add]
    split
    · next lowest =>
      rw [lowest] at quotient ⊢
      rw [Nat.mul_zero, Nat.zero_add] at quotient
      omega
    · next higher =>
      obtain ⟨e, exponent⟩ := Nat.exists_eq_succ_of_ne_zero higher
      rw [exponent, Nat.succ_eq_add_one, Nat.add_sub_cancel, Nat.pow_succ]
      have double : p % b + b + 1 = 2 * b := by omega
      calc b * (2 ^ e * 2) = (2 * b) * 2 ^ e := by ring
        _ = (p % b + b + 1) * 2 ^ e := by rw [double]
        _ = (p % b + b) * 2 ^ e + 2 ^ e := by ring
  · have same : (p + 1) / b = p / b := by
      refine Nat.div_eq_of_lt_le ?_ ?_
      · rw [Nat.mul_comm]
        omega
      · rw [Nat.mul_comm, Nat.mul_add, Nat.mul_one]
        omega
    have next : (p + 1) % b = p % b + 1 := by
      have quotient' := Nat.div_add_mod (p + 1) b
      rw [same] at quotient'
      omega
    rw [same, next]
    split
    · next lowest => rw [lowest, Nat.pow_zero]
    · ring

/-- The next magnitude is as many gaps at most as a significand has values. -/
lemma magnitude_succ_le : f.magnitude (p + 1) ≤ 2 * 2 ^ f.fractionBits * f.gap p := by
  obtain ⟨c, small, same⟩ := f.exists_magnitude_eq p
  calc f.magnitude (p + 1) = (c + 1) * f.gap p := by
        rw [magnitude_succ, same]
        ring
    _ ≤ 2 * 2 ^ f.fractionBits * f.gap p := Nat.mul_le_mul_right _ small

variable {f p} {s : Nat}

/-- Patterns in low binades have small magnitudes. -/
lemma magnitude_lt (below : p ≤ (s + 2) * 2 ^ f.fractionBits) :
    f.magnitude p < 2 ^ (f.fractionBits + 2 + s) := by
  obtain ⟨c, small, same⟩ := f.exists_magnitude_eq p
  have exponent : p / 2 ^ f.fractionBits ≤ s + 2 :=
    (Nat.div_le_iff_le_mul_add_pred (Nat.two_pow_pos _)).mpr (by
      rw [Nat.mul_comm]
      omega)
  have narrow : f.gap p ≤ 2 ^ (s + 1) := Nat.pow_le_pow_right (by decide) (by omega)
  calc f.magnitude p = c * f.gap p := same
    _ < 2 * 2 ^ f.fractionBits * f.gap p := Nat.mul_lt_mul_of_pos_right small (f.gap_pos p)
    _ ≤ 2 * 2 ^ f.fractionBits * 2 ^ (s + 1) := Nat.mul_le_mul_left _ narrow
    _ = 2 ^ (f.fractionBits + 2 + s) := by ring

end BinaryFormat

namespace Decimal

/-! ## Powers of ten -/

lemma powerOfTen_pos (e : Int) : 0 < (powerOfTen e).1 ∧ 0 < (powerOfTen e).2 := by
  unfold powerOfTen
  simp only [Nat.pow_eq]
  split
  · exact ⟨by positivity, Nat.one_pos⟩
  · exact ⟨Nat.one_pos, by positivity⟩

/-- How two powers of ten compare. -/
lemma powerOfTen_sub (e : Int) (k : Nat) :
    (powerOfTen (e - k)).1 * 10 ^ k * (powerOfTen e).2
      = (powerOfTen e).1 * (powerOfTen (e - k)).2 := by
  unfold powerOfTen
  simp only [Nat.pow_eq]
  by_cases positive : 0 ≤ e - k
  · have larger : 0 ≤ e := by omega
    have sum : e.toNat = (e - k).toNat + k := by omega
    rw [if_pos positive, if_pos larger, sum, Nat.pow_add]
  · rw [if_neg positive]
    by_cases larger : 0 ≤ e
    · have sum : k = e.toNat + (-(e - k)).toNat := by omega
      rw [if_pos larger, Nat.one_mul, Nat.mul_one, ← Nat.pow_add, ← sum]
    · have sum : k + (-e).toNat = (-(e - k)).toNat := by omega
      rw [if_neg larger, Nat.one_mul, Nat.one_mul, ← Nat.pow_add, sum]

/-! ## The search -/

namespace Target

variable {t : Target} {tie : Tie} {step : Nat × Nat} {n : Nat} {e : Int}

/-- There is room for a step of a grid with 18 digits below the target, and some above it. -/
structure Roomy (t : Target) : Prop where
  positive : 0 < t.low
  below : t.low < t.value
  above : t.value < t.high
  unit : 0 < t.one
  room : t.value ≤ 10 ^ 17 * (t.value - t.low)
  /-- The least power of ten with which the search may begin fits. -/
  floor : t.one ≤ t.value * 10 ^ 150

/-- The power of ten does not exceed the target. -/
def Fits (t : Target) (e : Int) : Prop :=
  (powerOfTen e).1 * t.one ≤ t.value * (powerOfTen e).2

/-- What is found reads back. -/
lemma admits_of_nearest? (found : t.nearest? tie step = some n) : t.admits step n = true := by
  unfold nearest? at found
  dsimp only at found
  split at found
  · next low high =>
    split at found
    · exact Option.some.inj found ▸ low
    · split at found
      · exact Option.some.inj found ▸ high
      · obtain rfl := Option.some.inj found
        split
        · exact high
        · exact low
  · next low _ => exact Option.some.inj found ▸ low
  · next _ high => exact Option.some.inj found ▸ high
  · exact nomatch found

/-- What reads back lies between the midpoints. -/
lemma le_of_admits (h : t.admits step n = true) :
    t.low * step.2 ≤ n * step.1 * t.one ∧ n * step.1 * t.one ≤ t.high * step.2 := by
  unfold admits at h
  dsimp only at h
  split at h
  · exact of_decide_eq_true h
  · exact (of_decide_eq_true h).imp Nat.le_of_lt Nat.le_of_lt

/-- On a grid that is fine enough something is found. -/
lemma Roomy.exists_nearest? (roomy : t.Roomy) (tie : Tie) (numerator : 0 < step.1)
    (denominator : 0 < step.2) (fine : step.1 * t.one ≤ (t.value - t.low) * step.2) :
    ∃ n, t.nearest? tie step = some n := by
  have width : 0 < step.1 * t.one := Nat.mul_pos numerator roomy.unit
  have quotient := Nat.div_add_mod (t.value * step.2) (step.1 * t.one)
  have rest := Nat.mod_lt (t.value * step.2) width
  have admitted : t.admits step (t.value * step.2 / (step.1 * t.one)) = true := by
    generalize t.value * step.2 / (step.1 * t.one) = below at quotient
    have point : below * step.1 * t.one = step.1 * t.one * below := by ring
    have split : t.low * step.2 + (t.value - t.low) * step.2 = t.value * step.2 := by
      rw [← Nat.add_mul, Nat.add_sub_cancel' (Nat.le_of_lt roomy.below)]
    have more : t.low * step.2 < below * step.1 * t.one := by omega
    have less : below * step.1 * t.one < t.high * step.2 := by
      have := Nat.mul_lt_mul_of_pos_right roomy.above denominator
      omega
    unfold admits
    dsimp only
    split
    · exact decide_eq_true ⟨Nat.le_of_lt more, Nat.le_of_lt less⟩
    · exact decide_eq_true ⟨more, less⟩
  unfold nearest?
  dsimp only
  rw [admitted]
  cases t.admits step (t.value * step.2 / (step.1 * t.one) + 1) with
  | false => exact ⟨_, rfl⟩
  | true =>
    dsimp only
    split
    · exact ⟨_, rfl⟩
    · split
      · exact ⟨_, rfl⟩
      · exact ⟨_, rfl⟩

/-- The grid that has 17 digits more than a power of ten that fits is fine enough. -/
lemma Roomy.fine_of_fits (roomy : t.Roomy) (fits : t.Fits e) :
    (powerOfTen (e - (17 : Nat))).1 * t.one
      ≤ (t.value - t.low) * (powerOfTen (e - (17 : Nat))).2 := by
  have compare := powerOfTen_sub e 17
  obtain ⟨-, denominator⟩ := powerOfTen_pos e
  unfold Fits at fits
  generalize powerOfTen e = s at *
  generalize powerOfTen (e - (17 : Nat)) = s' at *
  have scale : 0 < 10 ^ 17 * s.2 := by positivity
  refine Nat.le_of_mul_le_mul_left ?_ scale
  calc 10 ^ 17 * s.2 * (s'.1 * t.one) = s'.1 * 10 ^ 17 * s.2 * t.one := by ring
    _ = s.1 * t.one * s'.2 := by
      rw [compare]
      ring
    _ ≤ t.value * s.2 * s'.2 := Nat.mul_le_mul_right _ fits
    _ ≤ 10 ^ 17 * (t.value - t.low) * s.2 * s'.2 :=
      Nat.mul_le_mul_right _ (Nat.mul_le_mul_right _ roomy.room)
    _ = 10 ^ 17 * s.2 * ((t.value - t.low) * s'.2) := by ring

/-- The search begins with a power of ten that fits, or with the last one it has tried. -/
lemma fits_leadingExponent (t : Target) (fuel : Nat) (top : Int) :
    t.Fits (t.leadingExponent fuel top) ∨ t.leadingExponent fuel top = top - fuel := by
  induction fuel generalizing top with
  | zero => exact Or.inr (Int.sub_zero top).symm
  | succ fuel ih =>
    unfold leadingExponent
    dsimp only
    split
    · next fits => exact Or.inl fits
    · refine (ih (top - 1)).imp_right fun same => ?_
      rw [same]
      omega

/-- So far down every power of ten fits. -/
lemma Roomy.fits_neg (roomy : t.Roomy) {k : Nat} (far : 150 ≤ k) : t.Fits (-k) := by
  have negative : ¬ (0 : Int) ≤ -k := by omega
  unfold Fits powerOfTen
  simp only [Nat.pow_eq]
  rw [if_neg negative, Int.neg_neg, Int.toNat_natCast, Nat.one_mul]
  exact roomy.floor.trans (Nat.mul_le_mul_left _ (Nat.pow_le_pow_right (by decide) far))

/-- If some of its grids is fine enough, the search finds a decimal that reads back. -/
lemma admits_search {fuel : Nat}
    (found : ∃ k < fuel, ∃ n, t.nearest? tie (powerOfTen (e - (k : Nat))) = some n) :
    t.admits (powerOfTen (t.search tie fuel e).exponent) (t.search tie fuel e).digits = true := by
  induction fuel generalizing e with
  | zero =>
    obtain ⟨k, impossible, -⟩ := found
    exact absurd impossible (Nat.not_lt_zero k)
  | succ fuel ih =>
    unfold search
    cases first : t.nearest? tie (powerOfTen e) with
    | some n => exact admits_of_nearest? first
    | none =>
      obtain ⟨k, inside, n, there⟩ := found
      cases k with
      | zero =>
        rw [Int.natCast_zero, Int.sub_zero, first] at there
        exact nomatch there
      | succ k =>
        refine ih ⟨k, Nat.lt_of_succ_lt_succ inside, n, ?_⟩
        have same : e - 1 - (k : Int) = e - ((k + 1 : Nat) : Int) := by omega
        rw [same]
        exact there

/-- The search for a roomy target finds a decimal that reads back. -/
lemma Roomy.admits_search (roomy : t.Roomy) (tie : Tie) :
    t.admits (powerOfTen (t.search tie 18 (t.leadingExponent 640 309)).exponent)
      (t.search tie 18 (t.leadingExponent 640 309)).digits = true := by
  have fits : t.Fits (t.leadingExponent 640 309) := by
    refine (t.fits_leadingExponent 640 309).elim id fun last => ?_
    rw [last]
    exact roomy.fits_neg (by decide : 150 ≤ 331)
  obtain ⟨numerator, denominator⟩ := powerOfTen_pos (t.leadingExponent 640 309 - (17 : Nat))
  have found := roomy.exists_nearest? tie numerator denominator (roomy.fine_of_fits fits)
  exact Target.admits_search ⟨17, by decide, found⟩

end Target

/-! ## The size of a decimal -/

/-- The decimal is positive, and not larger than ten to the power `k`. -/
structure Within (k : Nat) (d : Decimal) : Prop where
  positive : 0 < d.digits
  size : d.digits * (powerOfTen d.exponent).1 ≤ 10 ^ k * (powerOfTen d.exponent).2

variable {k : Nat} {d : Decimal}

/-- Zeros at the end can be dropped. -/
lemma Within.dropZeros (within : Within k d) (fuel : Nat) : Within k (d.dropZeros fuel) := by
  induction fuel generalizing d with
  | zero => exact within
  | succ fuel ih =>
    unfold Decimal.dropZeros
    split
    · next zero =>
      obtain ⟨positive, size⟩ := within
      have compare := powerOfTen_sub (d.exponent + 1) 1
      rw [Int.natCast_one, Int.add_sub_cancel] at compare
      obtain ⟨-, denominator⟩ := powerOfTen_pos d.exponent
      have digits : d.digits = d.digits / 10 * 10 := by omega
      refine ih ⟨by dsimp only; omega, ?_⟩
      dsimp only
      generalize powerOfTen d.exponent = s at *
      generalize powerOfTen (d.exponent + 1) = s' at *
      refine Nat.le_of_mul_le_mul_left ?_ denominator
      calc s.2 * (d.digits / 10 * s'.1) = d.digits / 10 * (s'.1 * s.2) := by ring
        _ = d.digits / 10 * 10 * s.1 * s'.2 := by
          rw [← compare]
          ring
        _ = d.digits * s.1 * s'.2 := by rw [← digits]
        _ ≤ 10 ^ k * s.2 * s'.2 := Nat.mul_le_mul_right _ size
        _ = s.2 * (10 ^ k * s'.2) := by ring
    · exact within

/-- A number has at least as many digits as its length says. -/
lemma pow_length_toDigits_le {n : Nat} (positive : 0 < n) :
    10 ^ ((Nat.toDigits 10 n).length - 1) ≤ n := by
  by_contra short
  have fits : (Nat.toDigits 10 n).length - 1 ≠ 0 := by
    intro none
    rw [none, Nat.pow_zero] at short
    omega
  have := (Nat.length_toDigits_le_iff (b := 10) (by decide) (Nat.pos_of_ne_zero fits)).mpr
    (Nat.lt_of_not_le short)
  omega

/-- The first digit of a decimal is not higher than the decimal. -/
lemma Within.leadingExponent_le (within : Within k d) : d.leadingExponent ≤ k := by
  have least := pow_length_toDigits_le within.positive
  have filled : 0 < (Nat.toDigits 10 d.digits).length :=
    List.length_pos_of_ne_nil Nat.toDigits_ne_nil
  have size := within.size
  unfold powerOfTen at size
  simp only [Nat.pow_eq] at size
  unfold leadingExponent characters
  split at size
  · have bound : 10 ^ ((Nat.toDigits 10 d.digits).length - 1 + d.exponent.toNat) ≤ 10 ^ k := by
      rw [Nat.pow_add]
      exact (Nat.mul_le_mul_right _ least).trans (by simpa using size)
    have := (Nat.pow_le_pow_iff_right (by decide : 1 < 10)).mp bound
    omega
  · have bound : 10 ^ ((Nat.toDigits 10 d.digits).length - 1)
        ≤ 10 ^ (k + (-d.exponent).toNat) := by
      rw [Nat.pow_add 10 k]
      exact least.trans (by simpa using size)
    have := (Nat.pow_le_pow_iff_right (by decide : 1 < 10)).mp bound
    omega

/-! ## Single-precision numbers -/

lemma unitExponent_single : BinaryFormat.single.unitExponent = 149 := by decide

/-- The interval of a positive number is roomy. -/
lemma roomy_single (p : Nat) : (Target.ofPattern .single (p + 1)).Roomy := by
  have next := BinaryFormat.single.magnitude_succ p
  have after := BinaryFormat.single.magnitude_succ (p + 1)
  have gaps := BinaryFormat.single.magnitude_succ_le p
  have gap := BinaryFormat.single.gap_pos p
  have gap' := BinaryFormat.single.gap_pos (p + 1)
  have bits : BinaryFormat.single.fractionBits = 23 := rfl
  rw [bits] at gaps
  unfold Target.ofPattern
  constructor
  all_goals simp only [Nat.pow_eq, unitExponent_single, Nat.add_sub_cancel]
  all_goals omega

/-- A finite number is not larger than ten to the power 40. -/
lemma within_single (tie : Tie) {p : Nat} (positive : 0 < p)
    (finite : p < BinaryFormat.single.infinity) : Within 40 (shortest .single tie p) := by
  obtain ⟨p, rfl⟩ := Nat.exists_eq_add_of_le' positive
  have roomy := roomy_single p
  have found := Target.le_of_admits (roomy.admits_search tie)
  have limit : BinaryFormat.single.infinity = 255 * 2 ^ 23 := by decide
  have gap : ∀ q < 255 * 2 ^ 23, BinaryFormat.single.gap q ≤ 2 ^ 254 := by
    intro q small
    refine Nat.pow_le_pow_right (by decide) ?_
    show q / 2 ^ 23 - 1 ≤ 254
    omega
  have one : (Target.ofPattern .single (p + 1)).one = 2 ^ 150 := rfl
  have high : (Target.ofPattern .single (p + 1)).high ≤ 10 ^ 40 * 2 ^ 150 := by
    have here := BinaryFormat.single.magnitude_succ_le p
    have above := BinaryFormat.single.magnitude_succ_le (p + 1)
    have bits : BinaryFormat.single.fractionBits = 23 := rfl
    have gap₁ := gap p (by omega)
    have gap₂ := gap (p + 1) (by omega)
    rw [bits] at here above
    show BinaryFormat.single.magnitude (p + 1) + BinaryFormat.single.magnitude (p + 1 + 1) ≤ _
    omega
  refine Within.dropZeros ?_ 20
  generalize (Target.ofPattern .single (p + 1)).search tie 18 _ = d at found
  obtain ⟨-, denominator⟩ := powerOfTen_pos d.exponent
  constructor
  · by_contra zero
    have none : d.digits = 0 := by omega
    have least := Nat.mul_pos roomy.positive denominator
    rw [none, Nat.zero_mul, Nat.zero_mul] at found
    omega
  · have bound := found.2.trans (Nat.mul_le_mul_right _ high)
    rw [one] at bound
    have scale : 0 < 2 ^ 150 := by positivity
    refine Nat.le_of_mul_le_mul_right ?_ scale
    calc d.digits * (powerOfTen d.exponent).1 * 2 ^ 150
        ≤ 10 ^ 40 * 2 ^ 150 * (powerOfTen d.exponent).2 := bound
      _ = 10 ^ 40 * (powerOfTen d.exponent).2 * 2 ^ 150 := by ring

end Decimal

end HatchSensor
