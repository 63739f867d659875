/-!
# Numerals

Unsigned decimal numerals of a bounded size.  A numeral is one or more digits, possibly after a
plus sign; no blanks, no separators.
-/

namespace HatchSensor

/-- Why a text is not an unsigned numeral. -/
inductive NumeralError where
  /-- There is nothing to read. -/
  | empty
  /-- A character is not a digit. -/
  | digit
  /-- The value exceeds the limit. -/
  | overflow
deriving DecidableEq

namespace NumeralError

/-- The wording of the error. -/
def message : NumeralError → String
  | empty => "cannot parse integer from empty string"
  | digit => "invalid digit found in string"
  | overflow => "number too large to fit in target type"

end NumeralError

namespace Numeral

def digitValue (c : Char) : Nat := c.toNat - 48

/-- The value of the digits after those already read. -/
def readDigits (limit : Nat) : Nat → List Char → Except NumeralError Nat
  | value, [] => .ok value
  | value, c :: rest =>
    if c.isDigit then
      let next := value * 10 + digitValue c
      if next ≤ limit then readDigits limit next rest else .error .overflow
    else .error .digit

/-- The value of a numeral that is at most `limit`. -/
def read (limit : Nat) (text : String) : Except NumeralError Nat :=
  match text.toList with
  | [] => .error .empty
  | ['+'] => .error .digit
  | '+' :: rest => readDigits limit 0 rest
  | digits => readDigits limit 0 digits

/-- The largest 32-bit word. -/
def wordLimit : Nat := UInt32.size - 1

/-- The value of a numeral that fits a 32-bit word. -/
def word? (text : String) : Option UInt32 :=
  match read wordLimit text with
  | .ok n => some (UInt32.ofNat n)
  | .error _ => none

end Numeral

end HatchSensor
