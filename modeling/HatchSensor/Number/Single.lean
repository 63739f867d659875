import HatchSensor.Number.Binary

/-!
# Single-precision numbers

Temperatures, humidities and pressures are kept as 32-bit floating-point words, and the stored
records hold those words bit for bit.  A `Single` is such a word.  Comparison and addition are
defined on it exactly: comparison through a signed key in which the two zeros are one, addition
through the exact sum and one rounding.
-/

namespace HatchSensor

/-- A 32-bit floating-point word. -/
structure Single where
  /-- The word itself. -/
  bits : UInt32
deriving DecidableEq, Inhabited

namespace Single

/-- The word without its sign bit. -/
def pattern (x : Single) : Nat :=
  x.bits.toNat % 0x80000000

/-- The sign bit. -/
def isNegative (x : Single) : Bool :=
  decide (0x80000000 ≤ x.bits.toNat)

/-- The number with the given sign and pattern. -/
def ofPattern (negative : Bool) (pattern : Nat) : Single :=
  ⟨UInt32.ofNat (if negative then pattern + 0x80000000 else pattern)⟩

/-- Not a number at all. -/
def isNaN (x : Single) : Bool :=
  decide (BinaryFormat.single.infinity < x.pattern)

/-- Neither infinite nor "not a number". -/
def isFinite (x : Single) : Bool :=
  decide (x.pattern < BinaryFormat.single.infinity)

/-- Positive zero. -/
def zero : Single := ⟨0⟩

/-- Infinity with the given sign. -/
def infinity (negative : Bool) : Single :=
  ofPattern negative BinaryFormat.single.infinity

/-! ## Order -/

/-- The place of a number in the order of numbers; both zeros have place zero, and a word that is
not a number has none. -/
def key (x : Single) : Option Int :=
  if x.isNaN then none
  else some (if x.isNegative then -(x.pattern : Int) else x.pattern)

/-- Numerical "less than", false as soon as one side is not a number. -/
def less (x y : Single) : Bool :=
  match x.key, y.key with
  | some a, some b => decide (a < b)
  | _, _ => false

/-! ## Addition -/

/-- The exact value of a finite number, in units of the least positive one. -/
def units (x : Single) : Int :=
  let magnitude : Int := BinaryFormat.single.magnitude x.pattern
  if x.isNegative then -magnitude else magnitude

/-- The same word marked as a quiet "not a number". -/
def quiet (x : Single) : Single :=
  ⟨x.bits ||| 0x00400000⟩

/-- The word that stands for the sum of two opposite infinities. -/
def undefined : Single := ⟨0xffc00000⟩

/-- The sum, rounded to nearest with ties to even.  An operand that is not a number is the
result, the first such operand if both are. -/
def add (x y : Single) : Single :=
  if x.isNaN then x.quiet
  else if y.isNaN then y.quiet
  else if !x.isFinite then
    if !y.isFinite && x.isNegative != y.isNegative then undefined else x
  else if !y.isFinite then y
  else
    let sum := x.units + y.units
    if sum = 0 then ofPattern (x.isNegative && y.isNegative) 0
    else ofPattern (decide (sum < 0)) (BinaryFormat.single.round sum.natAbs 1)

instance : Add Single := ⟨add⟩

/-- The number itself when it lies between the bounds, else the bound it lies beyond. -/
def clamp (x low high : Single) : Single :=
  let raised := if x.less low then low else x
  if high.less raised then high else raised

/-! ## Whole numbers and quotients -/

/-- The number nearest to a natural number. -/
def ofNat (n : Nat) : Single :=
  ofPattern false (BinaryFormat.single.round (n * Nat.pow 2 BinaryFormat.single.unitExponent) 1)

/-- The number nearest to an integer. -/
def ofInt (n : Int) : Single :=
  ofPattern (decide (n < 0))
    (BinaryFormat.single.round (n.natAbs * Nat.pow 2 BinaryFormat.single.unitExponent) 1)

/-- The number nearest to the quotient of an integer and a natural number. -/
def ofQuotient (n : Int) (d : Nat) : Single :=
  ofPattern (decide (n < 0))
    (BinaryFormat.single.round (n.natAbs * Nat.pow 2 BinaryFormat.single.unitExponent) d)

end Single

end HatchSensor
