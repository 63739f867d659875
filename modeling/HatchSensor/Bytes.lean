/-!
# Bytes

Stored records and messages are lists of bytes.  This module holds the three views of them that
the rest of the library uses: text in UTF-8, little-endian 32-bit words, and lower-case
hexadecimal digits.

The main statements are `decodeUtf8_encodeUtf8` and `encodeUtf8_of_decodeUtf8`: decoding is the
exact inverse of encoding, and whatever decodes is the encoding of its text.
-/

namespace HatchSensor

/-- A string of bytes. -/
abbrev Bytes := List UInt8

namespace Bytes

/-! ## Text -/

/-- The UTF-8 encoding of a text. -/
def encodeUtf8 (text : String) : Bytes :=
  text.toByteArray.data.toList

/-- The text whose UTF-8 encoding is `bytes`, if there is one. -/
def decodeUtf8 (bytes : Bytes) : Option String :=
  String.fromUTF8? ⟨bytes.toArray⟩

/-- Decoding an encoded text gives the text back. -/
@[simp]
theorem decodeUtf8_encodeUtf8 (text : String) : decodeUtf8 (encodeUtf8 text) = some text := by
  have same : (⟨(encodeUtf8 text).toArray⟩ : ByteArray) = text.toByteArray := by
    simp [encodeUtf8]
  simp only [decodeUtf8, String.fromUTF8?, same, dif_pos text.isValidUTF8]
  rfl

/-- Bytes that decode are the encoding of what they decode to. -/
theorem encodeUtf8_of_decodeUtf8 {bytes : Bytes} {text : String}
    (h : decodeUtf8 bytes = some text) : encodeUtf8 text = bytes := by
  simp only [decodeUtf8, String.fromUTF8?] at h
  split at h
  · obtain rfl := Option.some.inj h
    simp [encodeUtf8, String.fromUTF8]
  · exact absurd h (by simp)

/-- The number of bytes a text takes. -/
def textSize (text : String) : Nat :=
  text.utf8ByteSize

/-! ## Words -/

/-- The four bytes of a word, least significant first. -/
def ofWord (word : UInt32) : Bytes :=
  [word.toUInt8, (word >>> 8).toUInt8, (word >>> 16).toUInt8, (word >>> 24).toUInt8]

/-- The word whose bytes, least significant first, are the four given. -/
def toWord (b₀ b₁ b₂ b₃ : UInt8) : UInt32 :=
  b₀.toUInt32 ||| (b₁.toUInt32 <<< 8) ||| (b₂.toUInt32 <<< 16) ||| (b₃.toUInt32 <<< 24)

/-- The words of a string of bytes; up to three trailing bytes belong to no word. -/
def toWords : Bytes → List UInt32
  | b₀ :: b₁ :: b₂ :: b₃ :: rest => toWord b₀ b₁ b₂ b₃ :: toWords rest
  | _ => []

@[simp]
theorem length_ofWord (word : UInt32) : (ofWord word).length = 4 := rfl

/-! ## Hexadecimal digits -/

/-- The lower-case digit of a number below sixteen. -/
def hexDigit (n : Nat) : Char :=
  if n < 10 then Char.ofNat (48 + n) else Char.ofNat (87 + n)

/-- The two lower-case digits of a byte. -/
def hexPair (byte : UInt8) : List Char :=
  [hexDigit (byte.toNat / 16), hexDigit (byte.toNat % 16)]

/-- The value of a hexadecimal digit of either case. -/
def hexValue? (c : Char) : Option Nat :=
  if '0' ≤ c ∧ c ≤ '9' then some (c.toNat - 48)
  else if 'a' ≤ c ∧ c ≤ 'f' then some (c.toNat - 87)
  else if 'A' ≤ c ∧ c ≤ 'F' then some (c.toNat - 55)
  else none

/-- The lower-case hexadecimal text of a string of bytes. -/
def toHex (bytes : Bytes) : String :=
  String.ofList (bytes.flatMap hexPair)

/-- The bytes that pairs of hexadecimal digits stand for. -/
def ofHexDigits? : List Char → Option Bytes
  | [] => some []
  | a :: b :: rest => do
    let high ← hexValue? a
    let low ← hexValue? b
    return UInt8.ofNat (high * 16 + low) :: (← ofHexDigits? rest)
  | [_] => none

/-- The bytes that a hexadecimal text stands for. -/
def ofHex? (text : String) : Option Bytes :=
  ofHexDigits? text.toList

end Bytes

end HatchSensor
