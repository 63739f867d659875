/-!
# Binary floating-point formats

A binary floating-point number is stored as a sign and a *pattern*, a natural number that grows
with the magnitude it stands for.  Every finite magnitude is a whole multiple of the least
positive one, so a magnitude is a natural number too, counted in that unit.

`Binary.magnitude` reads a pattern and `Binary.round` finds the pattern whose magnitude is
nearest to a quotient, a tie going to the even pattern.
-/

namespace HatchSensor

/-- A binary format, given by the widths of its two fields. -/
structure BinaryFormat where
  /-- Width of the stored part of the significand. -/
  fractionBits : Nat
  /-- Width of the exponent field. -/
  exponentBits : Nat

namespace BinaryFormat

/-- Thirty-two bits. -/
def single : BinaryFormat := ⟨23, 8⟩

/-- Sixty-four bits. -/
def double : BinaryFormat := ⟨52, 11⟩

/-- The pattern of infinity; larger patterns are not numbers. -/
def infinity (f : BinaryFormat) : Nat :=
  (Nat.pow 2 f.exponentBits - 1) * Nat.pow 2 f.fractionBits

/-- The least positive magnitude is one over two to this power. -/
def unitExponent (f : BinaryFormat) : Nat :=
  Nat.pow 2 (f.exponentBits - 1) - 2 + f.fractionBits

/-- The magnitude of a pattern, in units of the least positive magnitude.

A pattern in the lowest binade is its own magnitude.  Above it the exponent field says how often
the significand, with its leading bit restored, is doubled. -/
def magnitude (f : BinaryFormat) (pattern : Nat) : Nat :=
  let exponent := pattern / Nat.pow 2 f.fractionBits
  if exponent = 0 then pattern
  else
    (pattern % Nat.pow 2 f.fractionBits + Nat.pow 2 f.fractionBits) * Nat.pow 2 (exponent - 1)

/-- The whole number nearest to `num / den`; a tie goes to the even one. -/
def roundHalfEven (num den : Nat) : Nat :=
  let quotient := num / den
  let twice := 2 * (num % den)
  if twice < den ∨ (twice = den ∧ quotient % 2 = 0) then quotient else quotient + 1

/-- The pattern nearest to the magnitude `num / den`, which may be infinity.

With `shift` low bits to drop, the rounded significand plus `shift` binades is the pattern, and a
carry out of the significand lands in the exponent field where it belongs. -/
def round (f : BinaryFormat) (num den : Nat) : Nat :=
  let shift := (num / den).log2 - f.fractionBits
  let significand := roundHalfEven num (den * Nat.pow 2 shift)
  min (significand + shift * Nat.pow 2 f.fractionBits) f.infinity

end BinaryFormat

end HatchSensor
