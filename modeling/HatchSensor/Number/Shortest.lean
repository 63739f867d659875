import HatchSensor.Number.Binary

/-!
# Shortest decimals

A binary number is written with the fewest digits that read back as the same number; among the
decimals with that many digits the nearest one is taken.  Where two are equally near, a `Tie` says
which of them.

A decimal reads back as a pattern exactly when it lies between the midpoints towards the
neighbouring patterns, the midpoints included when the pattern is even.  `shortest` tries
1, 2, … digits and, on each grid of decimals, looks at the two that enclose the number.
-/

namespace HatchSensor

/-- The positive decimal number `digits × 10 ^ exponent`. -/
structure Decimal where
  /-- All digits, as one number. -/
  digits : Nat
  /-- The power of ten that the last digit counts. -/
  exponent : Int
deriving DecidableEq, Inhabited

namespace Decimal

/-- Drop zeros from the end of the digits, at most `fuel` of them. -/
def dropZeros : Nat → Decimal → Decimal
  | 0, d => d
  | fuel + 1, d =>
    if d.digits % 10 = 0 then dropZeros fuel ⟨d.digits / 10, d.exponent + 1⟩ else d

/-- The digits as characters, most significant first. -/
def characters (d : Decimal) : List Char :=
  Nat.toDigits 10 d.digits

/-- The exponent of the first digit. -/
def leadingExponent (d : Decimal) : Int :=
  d.exponent + (d.characters.length - 1 : Int)

/-- Which of two neighbouring decimals stands for a number halfway between them. -/
inductive Tie where
  /-- The one whose last digit is even. -/
  | toEven
  /-- The larger one. -/
  | up
deriving DecidableEq

/-- Whether the upper of two neighbours is taken, given the lower one. -/
def Tie.takesUpper (tie : Tie) (lower : Nat) : Bool :=
  match tie with
  | toEven => decide (lower % 2 = 1)
  | up => true

/-! ## The interval of a pattern -/

/-- A quotient of two natural numbers, the second positive, compared with a decimal grid. -/
structure Target where
  /-- Twice the magnitude, in units. -/
  value : Nat
  /-- The midpoint below, in half units. -/
  low : Nat
  /-- The midpoint above, in half units. -/
  high : Nat
  /-- Whether the midpoints themselves read back as the number. -/
  closed : Bool
  /-- The number of half units in one. -/
  one : Nat

/-- The interval that reads back as the positive finite pattern of a format. -/
def Target.ofPattern (f : BinaryFormat) (pattern : Nat) : Target :=
  let here := f.magnitude pattern
  { value := 2 * here
    low := f.magnitude (pattern - 1) + here
    high := here + f.magnitude (pattern + 1)
    closed := pattern % 2 = 0
    one := Nat.pow 2 (f.unitExponent + 1) }

/-- Whether the grid point `n × step.1 / step.2` lies in the interval. -/
def Target.admits (t : Target) (step : Nat × Nat) (n : Nat) : Bool :=
  let point := n * step.1 * t.one
  if t.closed then decide (t.low * step.2 ≤ point ∧ point ≤ t.high * step.2)
  else decide (t.low * step.2 < point ∧ point < t.high * step.2)

/-- The grid point nearest to the target among the two that enclose it, if it reads back. -/
def Target.nearest? (t : Target) (tie : Tie) (step : Nat × Nat) : Option Nat :=
  let scaled := t.value * step.2
  let width := step.1 * t.one
  let below := scaled / width
  let rest := scaled % width
  match t.admits step below, t.admits step (below + 1) with
  | true, true =>
    if 2 * rest < width then some below
    else if width < 2 * rest then some (below + 1)
    else some (if tie.takesUpper below then below + 1 else below)
  | true, false => some below
  | false, true => some (below + 1)
  | false, false => none

/-! ## The search -/

/-- Ten to an integer power, as numerator and denominator. -/
def powerOfTen (exponent : Int) : Nat × Nat :=
  if 0 ≤ exponent then (Nat.pow 10 exponent.toNat, 1) else (1, Nat.pow 10 (-exponent).toNat)

/-- The largest exponent, searched downwards from `top`, whose power of ten does not exceed the
target. -/
def Target.leadingExponent (t : Target) : Nat → Int → Int
  | 0, top => top
  | fuel + 1, top =>
    let step := powerOfTen top
    if step.1 * t.one ≤ t.value * step.2 then top else leadingExponent t fuel (top - 1)

/-- Try grids of one digit more each time, starting with the unit `10 ^ exponent`. -/
def Target.search (t : Target) (tie : Tie) : Nat → Int → Decimal
  | 0, exponent => ⟨0, exponent⟩
  | fuel + 1, exponent =>
    match t.nearest? tie (powerOfTen exponent) with
    | some digits => ⟨digits, exponent⟩
    | none => search t tie fuel (exponent - 1)

/-- The shortest decimal that reads back as a positive finite pattern.  Seventeen digits are
enough for either format, and no exponent lies outside -324 … 308. -/
def shortest (f : BinaryFormat) (tie : Tie) (pattern : Nat) : Decimal :=
  let target := Target.ofPattern f pattern
  let top := target.leadingExponent 640 309
  dropZeros 20 (target.search tie 18 top)

end Decimal

end HatchSensor
