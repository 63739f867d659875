import HatchSensor.Json.Value
import HatchSensor.Bytes

/-!
# Reading JSON

A strict reader: one value with blanks around it and nothing else, no leading zeros, no bare
control characters, surrogate escapes in pairs, and at most 127 arrays and objects inside each
other.

A number with a fraction or an exponent, and an integer that does not fit 64 bits, is read from
its leading digits as far as they fit a 64-bit word, scaled once by a power of ten.  A number too
large for double precision makes the document unreadable.
-/

namespace HatchSensor

namespace Json

/-- How deeply arrays and objects may be nested. -/
def depthLimit : Nat := 127

/-- Drop the blanks in front. -/
def skipBlanks : List Char → List Char :=
  List.dropWhile fun c => c == ' ' || c == '\t' || c == '\n' || c == '\r'

/-! ## Strings -/

/-- The number that four hexadecimal digits stand for. -/
def hexUnit? (a b c d : Char) : Option Nat := do
  let a ← Bytes.hexValue? a
  let b ← Bytes.hexValue? b
  let c ← Bytes.hexValue? c
  let d ← Bytes.hexValue? d
  return ((a * 16 + b) * 16 + c) * 16 + d

/-- The character that a backslash and a letter stand for. -/
def escapedChar? : Char → Option Char
  | '"' => some '"'
  | '\\' => some '\\'
  | '/' => some '/'
  | 'b' => some '\x08'
  | 'f' => some '\x0c'
  | 'n' => some '\n'
  | 'r' => some '\r'
  | 't' => some '\t'
  | _ => none

/-- The rest of a string after its opening mark: its characters and what follows the closing
mark. -/
def readChars : List Char → Option (List Char × List Char)
  | [] => none
  | '"' :: rest => some ([], rest)
  | '\\' :: 'u' :: a :: b :: c :: d :: rest =>
    match hexUnit? a b c d with
    | none => none
    | some unit =>
      if unit < 0xd800 ∨ 0xe000 ≤ unit then
        (readChars rest).map fun r => (Char.ofNat unit :: r.1, r.2)
      else if 0xdc00 ≤ unit then none
      else
        match rest with
        | '\\' :: 'u' :: e :: f :: g :: h :: rest =>
          match hexUnit? e f g h with
          | none => none
          | some low =>
            if 0xdc00 ≤ low ∧ low < 0xe000 then
              (readChars rest).map fun r =>
                (Char.ofNat (0x10000 + (unit - 0xd800) * 0x400 + (low - 0xdc00)) :: r.1, r.2)
            else none
        | _ => none
  | '\\' :: letter :: rest =>
    match escapedChar? letter with
    | none => none
    | some c => (readChars rest).map fun r => (c :: r.1, r.2)
  | c :: rest =>
    if c = '\\' ∨ c.toNat < 0x20 then none
    else (readChars rest).map fun r => (c :: r.1, r.2)

/-- The rest of a string after its opening mark, as a text. -/
def readString (input : List Char) : Option (String × List Char) :=
  (readChars input).map fun r => (String.ofList r.1, r.2)

/-! ## Numbers -/

/-- The largest 64-bit word. -/
def longLimit : Nat := UInt64.size - 1

/-- Leading digits as one number, as long as it fits a 64-bit word, and the digits left over. -/
def gather : Nat → List Char → Nat × List Char
  | value, [] => (value, [])
  | value, c :: rest =>
    let next := value * 10 + (c.toNat - 48)
    if next ≤ longLimit then gather next rest else (value, c :: rest)

/-- The pattern of `pattern × 10 ^ exponent`, unless it is too large.  A very small exponent is
worked off in portions of 308; the number is zero after three of them. -/
def scale : Nat → Nat → Int → Option Nat
  | 0, _, _ => some 0
  | fuel + 1, pattern, exponent =>
    if exponent.natAbs ≤ 308 then
      if 0 ≤ exponent then
        let scaled := Double.scaleUp pattern exponent.natAbs
        if scaled < BinaryFormat.double.infinity then some scaled else none
      else some (Double.scaleDown pattern exponent.natAbs)
    else if pattern = 0 then some 0
    else if 0 ≤ exponent then none
    else scale fuel (Double.scaleDown pattern 308) (exponent + 308)

/-- The floating-point number `±significand × 10 ^ exponent`. -/
def makeFloat (negative : Bool) (significand : Nat) (exponent : Int) : Option JsonNumber :=
  (scale 4 (Double.patternOfNat significand) exponent).map fun pattern =>
    .float (Double.ofPattern negative pattern)

/-- The parts of a number literal. -/
structure Literal where
  /-- Whether it starts with a minus sign. -/
  negative : Bool
  /-- The digits before the point. -/
  whole : List Char
  /-- The digits after the point, if there is one. -/
  fraction : Option (List Char)
  /-- The exponent, if there is one. -/
  exponent : Option Int

def Literal.value (l : Literal) : Option JsonNumber :=
  let (lead, left) := gather 0 l.whole
  match l.fraction, l.exponent with
  | none, none =>
    if left.isEmpty then
      if !l.negative then some (.integer lead)
      else if 0 < lead ∧ lead ≤ 0x8000000000000000 then some (.integer (-(lead : Int)))
      else some (.float (Double.ofPattern true (Double.patternOfNat lead)))
    else makeFloat l.negative lead left.length
  | fraction, exponent =>
    let digits := fraction.getD []
    let (significand, ignored) := gather lead digits
    let kept := digits.length - ignored.length
    makeFloat l.negative significand (left.length - kept + exponent.getD 0)

/-- Digits in front, and what follows them. -/
def spanDigits (input : List Char) : List Char × List Char :=
  (input.takeWhile Char.isDigit, input.dropWhile Char.isDigit)

def digitsValue (digits : List Char) : Nat :=
  digits.foldl (fun n c => n * 10 + (c.toNat - 48)) 0

/-- The fraction of a literal: a point and at least one digit, or nothing. -/
def readFraction : List Char → Option (Option (List Char) × List Char)
  | '.' :: rest =>
    let (digits, rest) := spanDigits rest
    if digits.isEmpty then none else some (some digits, rest)
  | input => some (none, input)

/-- The digits of an exponent after its sign. -/
def readExponentDigits (sign : Int) (input : List Char) : Option (Option Int × List Char) :=
  let (digits, rest) := spanDigits input
  if digits.isEmpty then none else some (some (sign * digitsValue digits), rest)

/-- The exponent of a literal after its letter. -/
def readExponentSign : List Char → Option (Option Int × List Char)
  | '+' :: rest => readExponentDigits 1 rest
  | '-' :: rest => readExponentDigits (-1) rest
  | input => readExponentDigits 1 input

/-- The exponent of a literal, or nothing. -/
def readExponent : List Char → Option (Option Int × List Char)
  | 'e' :: rest => readExponentSign rest
  | 'E' :: rest => readExponentSign rest
  | input => some (none, input)

/-- A number without its sign. -/
def readUnsigned (negative : Bool) (input : List Char) : Option (JsonNumber × List Char) := do
  let (whole, rest) := spanDigits input
  if whole.isEmpty ∨ (whole.head? = some '0' ∧ whole.length ≠ 1) then none
  else
    let (fraction, rest) ← readFraction rest
    let (exponent, rest) ← readExponent rest
    let value ← Literal.value ⟨negative, whole, fraction, exponent⟩
    return (value, rest)

def readNumber : List Char → Option (JsonNumber × List Char)
  | '-' :: rest => readUnsigned true rest
  | input => readUnsigned false input

/-! ## Values -/

mutual

/-- A value in front of which there are no blanks.  `depth` is how many more arrays and objects
may be entered, `fuel` bounds the number of nested calls. -/
def readValue : Nat → Nat → List Char → Option (Json × List Char)
  | 0, _, _ => none
  | fuel + 1, depth, input =>
    match input with
    | 'n' :: 'u' :: 'l' :: 'l' :: rest => some (null, rest)
    | 't' :: 'r' :: 'u' :: 'e' :: rest => some (bool true, rest)
    | 'f' :: 'a' :: 'l' :: 's' :: 'e' :: rest => some (bool false, rest)
    | '"' :: rest => (readString rest).map fun r => (string r.1, r.2)
    | '[' :: rest =>
      match depth with
      | 0 => none
      | depth + 1 =>
        match skipBlanks rest with
        | ']' :: rest => some (array [], rest)
        | rest => (readItems fuel depth rest).map fun r => (array r.1, r.2)
    | '\x7b' :: rest =>
      match depth with
      | 0 => none
      | depth + 1 =>
        match skipBlanks rest with
        | '\x7d' :: rest => some (object [], rest)
        | rest => (readMembers fuel depth rest).map fun r => (object r.1, r.2)
    | input => (readNumber input).map fun r => (number r.1, r.2)

/-- The items of an array from the next one to the closing bracket. -/
def readItems : Nat → Nat → List Char → Option (List Json × List Char)
  | 0, _, _ => none
  | fuel + 1, depth, input =>
    match readValue fuel depth input with
    | none => none
    | some (item, rest) =>
      match skipBlanks rest with
      | ']' :: rest => some ([item], rest)
      | ',' :: rest =>
        (readItems fuel depth (skipBlanks rest)).map fun r => (item :: r.1, r.2)
      | _ => none

/-- The members of an object from the next one to the closing brace. -/
def readMembers : Nat → Nat → List Char → Option (List (String × Json) × List Char)
  | 0, _, _ => none
  | fuel + 1, depth, input =>
    match input with
    | '"' :: rest =>
      match readString rest with
      | none => none
      | some (name, rest) =>
        match skipBlanks rest with
        | ':' :: rest =>
          match readValue fuel depth (skipBlanks rest) with
          | none => none
          | some (value, rest) =>
            match skipBlanks rest with
            | '\x7d' :: rest => some ([(name, value)], rest)
            | ',' :: rest =>
              (readMembers fuel depth (skipBlanks rest)).map fun r => ((name, value) :: r.1, r.2)
            | _ => none
        | _ => none
    | _ => none

end

/-- The value of a document. -/
def parse? (text : String) : Option Json :=
  let input := skipBlanks text.toList
  match readValue (2 * input.length + 2) depthLimit input with
  | some (value, rest) => if (skipBlanks rest).isEmpty then some value else none
  | none => none

/-- The value of a document given as bytes, which must be UTF-8. -/
def parseBytes? (bytes : Bytes) : Option Json :=
  (Bytes.decodeUtf8 bytes).bind parse?

end Json

end HatchSensor
