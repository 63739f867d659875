/-!
# Blank characters

The characters that count as white space in a text, by their Unicode property, and the trimming
of a text at both ends.
-/

namespace HatchSensor

namespace Text

/-- The characters with the Unicode property `White_Space`. -/
def isBlank (c : Char) : Bool :=
  let n := c.toNat
  (9 ≤ n && n ≤ 13) || n == 0x20 || n == 0x85 || n == 0xa0 || n == 0x1680
    || (0x2000 ≤ n && n ≤ 0x200a) || n == 0x2028 || n == 0x2029 || n == 0x202f
    || n == 0x205f || n == 0x3000

/-- The text without the characters at its end that satisfy `p`. -/
def dropEndWhile (p : Char → Bool) (text : String) : String :=
  String.ofList ((text.toList.reverse.dropWhile p).reverse)

/-- The text without blanks at either end. -/
def trim (text : String) : String :=
  String.ofList (((text.toList.dropWhile isBlank).reverse.dropWhile isBlank).reverse)

/-- The letter in lower case if it is one of the twenty-six capitals. -/
def lowerLetter (c : Char) : Char :=
  if 'A' ≤ c ∧ c ≤ 'Z' then Char.ofNat (c.toNat + 32) else c

/-- The text with the twenty-six capitals in lower case. -/
def lowerLetters (text : String) : String :=
  String.ofList (text.toList.map lowerLetter)

/-- Whether two texts agree up to the case of the twenty-six letters. -/
def sameLetters (a b : String) : Bool :=
  lowerLetters a == lowerLetters b

end Text

end HatchSensor
