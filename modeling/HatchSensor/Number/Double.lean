import HatchSensor.Number.Single

/-!
# Double-precision numbers

Numbers in a JSON document that are not plain integers are read as 64-bit floating-point words.
The reader needs three operations on them: the nearest number to a natural number, and the product
and quotient with a power of ten, each rounded once.
-/

namespace HatchSensor

/-- A 64-bit floating-point word. -/
structure Double where
  /-- The word itself. -/
  bits : UInt64
deriving DecidableEq, Inhabited

namespace Double

/-- The word without its sign bit. -/
def pattern (x : Double) : Nat :=
  x.bits.toNat % 0x8000000000000000

/-- The sign bit. -/
def isNegative (x : Double) : Bool :=
  decide (0x8000000000000000 ≤ x.bits.toNat)

/-- The number with the given sign and pattern. -/
def ofPattern (negative : Bool) (pattern : Nat) : Double :=
  ⟨UInt64.ofNat (if negative then pattern + 0x8000000000000000 else pattern)⟩

/-- The magnitude of a finite number, in units of the least positive one. -/
def units (x : Double) : Nat :=
  BinaryFormat.double.magnitude x.pattern

/-! ## Scaling a pattern by a power of ten -/

/-- One, counted in units of the least positive number. -/
def one : Nat := Nat.pow 2 BinaryFormat.double.unitExponent

/-- The pattern nearest to a natural number. -/
def patternOfNat (n : Nat) : Nat :=
  BinaryFormat.double.round (n * one) 1

/-- The magnitude of the number nearest to ten to the power `k`, for `k` up to 308. -/
def powerOfTen (k : Nat) : Nat :=
  BinaryFormat.double.magnitude (patternOfNat (Nat.pow 10 k))

/-- The product of a number with ten to the power `k`. -/
def scaleUp (pattern k : Nat) : Nat :=
  BinaryFormat.double.round (BinaryFormat.double.magnitude pattern * powerOfTen k) one

/-- The quotient of a number by ten to the power `k`. -/
def scaleDown (pattern k : Nat) : Nat :=
  BinaryFormat.double.round (BinaryFormat.double.magnitude pattern * one) (powerOfTen k)

/-! ## Conversions -/

/-- The nearest double to an integer. -/
def ofInt (n : Int) : Double :=
  ofPattern (decide (n < 0)) (patternOfNat n.natAbs)

/-- The nearest single; a magnitude beyond its range becomes infinite. -/
def toSingle (x : Double) : Single :=
  Single.ofPattern x.isNegative
    (BinaryFormat.single.round x.units
      (Nat.pow 2 (BinaryFormat.double.unitExponent - BinaryFormat.single.unitExponent)))

end Double

end HatchSensor
