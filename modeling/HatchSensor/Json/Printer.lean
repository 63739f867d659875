import HatchSensor.Json.Value
import HatchSensor.Number.Layout
import HatchSensor.Bytes

/-!
# Printing JSON

Compact JSON: no blanks, names sorted, and only those characters escaped that must be.  Messages
whose members have a fixed order are printed by `Json.writeMembers`, which takes them as they
come.
-/

namespace HatchSensor

namespace Json

/-- The form of a character inside a JSON string. -/
def escapeChar (c : Char) : List Char :=
  match c with
  | '"' => ['\\', '"']
  | '\\' => ['\\', '\\']
  | '\x08' => ['\\', 'b']
  | '\x0c' => ['\\', 'f']
  | '\n' => ['\\', 'n']
  | '\r' => ['\\', 'r']
  | '\t' => ['\\', 't']
  | c =>
    if c.toNat < 0x20 then ['\\', 'u', '0', '0'] ++ Bytes.hexPair (UInt8.ofNat c.toNat) else [c]

/-- A text as a JSON string. -/
def writeString (text : String) : String :=
  String.ofList ('"' :: text.toList.flatMap escapeChar ++ ['"'])

/-- The decimal text of an integer. -/
def writeInt (n : Int) : String :=
  if n < 0 then "-" ++ n.natAbs.repr else n.natAbs.repr

def writeNumber : JsonNumber → String
  | .integer n => writeInt n
  | .float x => x.toJsonText

/-- Members in the order given, each with the text of its value. -/
def writeMembers (members : List (String × String)) : String :=
  "\x7b" ++ ",".intercalate (members.map fun m => writeString m.1 ++ ":" ++ m.2) ++ "\x7d"

mutual

/-- A value as compact JSON. -/
def write : Json → String
  | null => "null"
  | bool b => if b then "true" else "false"
  | number n => writeNumber n
  | string text => writeString text
  | array items => "[" ++ ",".intercalate (writeAll items) ++ "]"
  | object members => writeMembers (entries (writeValues members))

/-- The texts of a sequence of values. -/
def writeAll : List Json → List String
  | [] => []
  | v :: rest => write v :: writeAll rest

/-- Members with the text of their values. -/
def writeValues : List (String × Json) → List (String × String)
  | [] => []
  | (name, v) :: rest => (name, write v) :: writeValues rest

end

end Json

end HatchSensor
