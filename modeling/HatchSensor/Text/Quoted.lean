/-!
# Quoted text

A text between quotation marks, as it is shown to people: the quotation mark, the backslash and
the control characters are escaped, everything else stands for itself.
-/

namespace HatchSensor

namespace Text

/-- The characters of a number in base sixteen, lower case. -/
def hexNumber (n : Nat) : List Char :=
  Nat.toDigits 16 n

/-- Whether a character is a control character. -/
def isControl (c : Char) : Bool :=
  decide (c.toNat < 0x20) || (decide (0x7f ≤ c.toNat) && decide (c.toNat ≤ 0x9f))

/-- The escaped form of a character in quoted text. -/
def quoteChar (c : Char) : List Char :=
  match c with
  | '"' => ['\\', '"']
  | '\\' => ['\\', '\\']
  | '\n' => ['\\', 'n']
  | '\r' => ['\\', 'r']
  | '\t' => ['\\', 't']
  | '\x00' => ['\\', '0']
  | c => if isControl c then ['\\', 'u', '\x7b'] ++ hexNumber c.toNat ++ ['\x7d'] else [c]

/-- The text between quotation marks. -/
def quote (text : String) : String :=
  String.ofList ('"' :: text.toList.flatMap quoteChar ++ ['"'])

end Text

end HatchSensor
