import HatchSensor.Number.Double

/-!
# JSON values

The values a JSON document stands for.  Objects keep their members in document order and keep
repeated names, because one kind of message is read in that order; the usual view of an object,
in which the last member of a name wins and names are sorted, is `Json.get?` and `Json.entries`.
-/

namespace HatchSensor

/-- A number of a document: an integer literal that fits 64 bits, or a floating-point number. -/
inductive JsonNumber where
  /-- An integer literal. -/
  | integer (value : Int)
  /-- Any other number. -/
  | float (value : Double)
deriving DecidableEq

namespace JsonNumber

/-- The number as a 32-bit word, if it is an integer literal in range. -/
def word? : JsonNumber → Option UInt32
  | integer n => if 0 ≤ n ∧ n < 0x100000000 then some (UInt32.ofNat n.toNat) else none
  | float _ => none

/-- The nearest double-precision number. -/
def toDouble : JsonNumber → Double
  | integer n => Double.ofInt n
  | float x => x

/-- The single-precision number nearest to the number as it is written. -/
def toSingle : JsonNumber → Single
  | integer n => Single.ofInt n
  | float x => x.toSingle

end JsonNumber

/-- A JSON value. -/
inductive Json where
  /-- The value `null`. -/
  | null
  /-- A truth value. -/
  | bool (value : Bool)
  | number (value : JsonNumber)
  | string (text : String)
  /-- A sequence of values. -/
  | array (items : List Json)
  /-- Named values, in document order. -/
  | object (members : List (String × Json))

namespace Json

variable {α : Type}

/-! ## Views of an object -/

/-- Put an entry into a list sorted by name, replacing an entry of the same name. -/
def insertEntry (name : String) (value : α) : List (String × α) → List (String × α)
  | [] => [(name, value)]
  | (n, v) :: rest =>
    if name = n then (name, value) :: rest
    else if name < n then (name, value) :: (n, v) :: rest
    else (n, v) :: insertEntry name value rest

/-- The entries of an object: sorted by name, the last member of each name. -/
def entries (members : List (String × α)) : List (String × α) :=
  members.foldl (fun sorted m => insertEntry m.1 m.2 sorted) []

/-- The last member with a given name. -/
def lookup (members : List (String × α)) (name : String) : Option α :=
  (members.reverse.find? fun m => m.1 == name).map Prod.snd

/-- The members of an object. -/
def members? : Json → Option (List (String × Json))
  | object members => some members
  | _ => none

/-- The member of an object that a name stands for; nothing for other values. -/
def get? (value : Json) (name : String) : Option Json :=
  value.members?.bind fun members => lookup members name

/-- The text of a text value. -/
def string? : Json → Option String
  | string text => some text
  | _ => none

end Json

end HatchSensor
