import HatchSensor.Bytes
import HatchSensor.Text.Blank

/-!
# Device identities

A device identity is a number of 128 bits.  It may be written as 32 hexadecimal digits, in groups
of 8, 4, 4, 4 and 12 digits joined by hyphens, and the latter also between braces or after
`urn:uuid:`; its one canonical form is the second, in lower case.

`Uuid.parse` reads every accepted form and says of every other text what is wrong with it.
-/

namespace HatchSensor

/-- What is wrong with the text of an identity. -/
inductive UuidError where
  /-- A character that has no business there. -/
  | character (found : Char) (position : Nat)
  /-- A number of bytes that no form has. -/
  | length (found : Nat)
  /-- A number of groups other than five. -/
  | groupCount (found : Nat)
  /-- A group of the wrong length. -/
  | groupLength (group expected found : Nat)
deriving DecidableEq

namespace UuidError

/-- The wording of the error. -/
def message : UuidError → String
  | character found position =>
    "invalid character: found `" ++ String.singleton found ++ "` at " ++ position.repr
  | length found => "invalid length: found " ++ found.repr
  | groupCount found => "invalid group count: expected 5, found " ++ found.repr
  | groupLength group expected found =>
    "invalid group length in group " ++ group.repr ++ ": expected " ++ expected.repr
      ++ ", found " ++ found.repr

end UuidError

/-- An identity, as its 32 hexadecimal digits in lower case. -/
structure Uuid where
  digits : List Char
deriving DecidableEq

namespace Uuid

/-- Whether a character is a hexadecimal digit. -/
def isHex (c : Char) : Bool := (Bytes.hexValue? c).isSome

/-- The canonical form: five groups joined by hyphens. -/
def canonical (u : Uuid) : String :=
  let d := u.digits
  String.ofList (d.take 8 ++ ['-'] ++ (d.drop 8).take 4 ++ ['-'] ++ (d.drop 12).take 4 ++ ['-']
    ++ (d.drop 16).take 4 ++ ['-'] ++ d.drop 20)

/-- An identity written as digits only. -/
def ofDigits? (cs : List Char) : Option Uuid :=
  if cs.length = 32 ∧ cs.all isHex then some ⟨cs.map Text.lowerLetter⟩ else none

/-- An identity in groups. -/
def ofGroups? (cs : List Char) : Option Uuid :=
  if cs.length = 36 ∧ [8, 13, 18, 23].all fun i => cs[i]? == some '-' then
    ofDigits? (cs.take 8 ++ (cs.drop 9).take 4 ++ (cs.drop 14).take 4 ++ (cs.drop 19).take 4
      ++ cs.drop 24)
  else none

/-- The inside of a text between braces. -/
def unbrace? (cs : List Char) : Option (List Char) :=
  if cs.length ≥ 2 ∧ cs.head? = some '\x7b' ∧ cs.getLast? = some '\x7d' then
    some (cs.drop 1).dropLast
  else none

/-- What follows `urn:uuid:` in any case of its letters. -/
def unprefixed? (cs : List Char) : Option (List Char) :=
  if (cs.take 9).map Text.lowerLetter = "urn:uuid:".toList then some (cs.drop 9) else none

/-- The identity that a text without surrounding blanks stands for. -/
def ofChars? (cs : List Char) : Option Uuid :=
  (ofDigits? cs).or <| (ofGroups? cs).or <|
    ((unbrace? cs).bind ofGroups?).or ((unprefixed? cs).bind ofGroups?)

/-! ## Diagnosis -/

/-- The number of bytes of a list of characters. -/
def size (cs : List Char) : Nat :=
  cs.foldr (fun c n => c.utf8Size + n) 0

/-- Walk over a text: the byte positions of its hyphens, or its first stray character. -/
def hyphens (start : Nat) : Nat → List Char → Except UuidError (List Nat)
  | _, [] => .ok []
  | position, c :: rest =>
    if isHex c then hyphens start (position + c.utf8Size) rest
    else if c = '-' then (hyphens start (position + 1) rest).map (position :: ·)
    else .error (.character c (start + position))

/-- The first group that has the wrong length, given where the four hyphens are and the length of
the whole text. -/
def wrongGroup (total : Nat) : List Nat → List (Nat × Nat × Nat) → UuidError
  | found :: places, (group, start, expected) :: rest =>
    if found = start + expected then wrongGroup total places rest
    else .groupLength group expected (found - start)
  | _, _ => .groupLength 4 12 (total - 24)

/-- What is wrong with `whole`, of which the part `inner` that begins at byte `start` was looked
at.  `grouped` tells that only the form in groups is possible. -/
def diagnose (whole inner : List Char) (start : Nat) (grouped : Bool) : UuidError :=
  match hyphens start 0 inner with
  | .error e => e
  | .ok places =>
    if !grouped && places.isEmpty then .length (size whole)
    else if places.length ≠ 4 then .groupCount (places.length + 1)
    else wrongGroup (size whole) places [(0, 0, 8), (1, 9, 4), (2, 14, 4), (3, 19, 4)]

/-- The part of a text that has the size of the form in groups and stands where that form may
stand. -/
def groupsPart? (cs : List Char) : Option (List Char) :=
  if size cs = 36 then some cs
  else if size cs = 38 then unbrace? cs
  else if size cs = 45 then unprefixed? cs
  else none

/-- What is wrong with a text that stands for no identity. -/
def fault (cs : List Char) : UuidError :=
  match groupsPart? cs with
  | some inner => diagnose inner inner 0 true
  | none =>
    if size cs = 0 ∨ 45 < size cs then .length (size cs)
    else
      match unbrace? cs with
      | some inner => diagnose cs inner 1 true
      | none =>
        match unprefixed? cs with
        | some inner => diagnose cs inner 9 true
        | none => diagnose cs cs 0 false

/-- The identity that a text stands for; blanks around it do not count. -/
def parse (text : String) : Except UuidError Uuid :=
  let cs := (Text.trim text).toList
  match ofChars? cs with
  | some uuid => .ok uuid
  | none => .error (fault cs)

end Uuid

end HatchSensor
