import HatchSensor.Number.Double
import HatchSensor.Number.Shortest

/-!
# Decimal layouts

How the digits of a number are laid out: which exponents are written in plain positional form,
whether a whole number keeps a fraction `.0`, and which of two equally near decimals is taken.  A
layout is one record; the library has three of them, one for numbers in messages to people and one
for each width of number in JSON.
-/

namespace HatchSensor

/-- How a decimal is written. -/
structure DecimalLayout where
  /-- The exponents of the first digit that are written positionally; all of them if absent. -/
  positional : Option (Int × Int)
  /-- Whether a whole number in positional form is followed by `.0`. -/
  keepsFraction : Bool
  /-- Which of two equally near decimals is taken. -/
  tie : Decimal.Tie

namespace DecimalLayout

/-- Positional form: the point stands after `whole` digits, zeros filling the gap on either
side. -/
def positionalText (keepsFraction : Bool) (digits : List Char) (whole : Int) : List Char :=
  if whole ≤ 0 then
    ['0', '.'] ++ List.replicate (-whole).toNat '0' ++ digits
  else if digits.length ≤ whole.toNat then
    digits ++ List.replicate (whole.toNat - digits.length) '0'
      ++ (if keepsFraction then ['.', '0'] else [])
  else
    digits.take whole.toNat ++ ['.'] ++ digits.drop whole.toNat

/-- Exponent form: one digit, a point if more follow, and the exponent with its sign. -/
def exponentText (digits : List Char) (exponent : Int) : List Char :=
  let fraction := digits.drop 1
  digits.take 1 ++ (if fraction.isEmpty then [] else '.' :: fraction)
    ++ ['e', if exponent < 0 then '-' else '+'] ++ (Nat.repr exponent.natAbs).toList

/-- The text of a positive decimal. -/
def write (layout : DecimalLayout) (d : Decimal) : List Char :=
  let exponent := d.leadingExponent
  let plain :=
    match layout.positional with
    | none => true
    | some (low, high) => decide (low ≤ exponent ∧ exponent ≤ high)
  if plain then positionalText layout.keepsFraction d.characters (exponent + 1)
  else exponentText d.characters exponent

/-- The text of zero. -/
def zero (layout : DecimalLayout) : List Char :=
  if layout.keepsFraction then ['0', '.', '0'] else ['0']

/-- The text of a finite number of a format, given by its sign and pattern. -/
def writePattern (layout : DecimalLayout) (f : BinaryFormat) (negative : Bool) (pattern : Nat) :
    String :=
  let magnitude :=
    if pattern = 0 then layout.zero
    else layout.write (Decimal.shortest f layout.tie pattern)
  String.ofList (if negative then '-' :: magnitude else magnitude)

/-- Numbers in messages: always positional, whole numbers without a fraction. -/
def message : DecimalLayout := ⟨none, false, .up⟩

/-- Single-precision numbers in JSON. -/
def jsonSingle : DecimalLayout := ⟨some (-6, 12), true, .toEven⟩

/-- Double-precision numbers in JSON. -/
def jsonDouble : DecimalLayout := ⟨some (-5, 15), true, .toEven⟩

end DecimalLayout

/-- The text of a number in a message to people. -/
def Single.toText (x : Single) : String :=
  if x.isNaN then "NaN"
  else if x.isFinite then
    DecimalLayout.message.writePattern .single x.isNegative x.pattern
  else if x.isNegative then "-inf" else "inf"

/-- The text of a number in JSON, which has no word for what is not a finite number. -/
def Single.toJsonText (x : Single) : String :=
  if x.isFinite then DecimalLayout.jsonSingle.writePattern .single x.isNegative x.pattern
  else "null"

/-- The text of a finite number in JSON. -/
def Double.toJsonText (x : Double) : String :=
  DecimalLayout.jsonDouble.writePattern .double x.isNegative x.pattern

end HatchSensor
