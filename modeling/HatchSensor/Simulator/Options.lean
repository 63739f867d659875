import HatchSensor.Text.Numeral

/-!
# Options of the simulator

Every argument is the name of an option and is followed by its value.  The first fault from the
left is reported.
-/

namespace HatchSensor

/-- What a simulation is asked to do. -/
structure SimulatorOptions where
  /-- How many waking periods to simulate. -/
  boots : UInt32
  /-- What the source of randomness starts from. -/
  seed : UInt64
deriving DecidableEq, Inhabited

/-- Why the arguments cannot be understood. -/
inductive OptionError where
  /-- An argument has no value. -/
  | missingValue (name : String)
  /-- The value of an option is not a number in its range. -/
  | invalid (name : String) (reason : NumeralError)
  /-- There is no such option. -/
  | unknown (name : String)
deriving DecidableEq

namespace OptionError

/-- The wording of the error. -/
def message : OptionError → String
  | missingValue name => "Missing value for " ++ name
  | invalid name reason => "Invalid " ++ name ++ ": " ++ reason.message
  | unknown name => "Unknown option " ++ name

end OptionError

namespace SimulatorOptions

/-- What is simulated if nothing is asked for. -/
def default : SimulatorOptions := ⟨24, 7⟩

/-- The largest seed. -/
def seedLimit : Nat := UInt64.size - 1

def readValue (name : String) (limit : Nat) (value : String) : Except OptionError Nat :=
  match Numeral.read limit value with
  | .ok n => .ok n
  | .error reason => .error (.invalid name reason)

/-- Give an option a value. -/
def assign (options : SimulatorOptions) (name value : String) :
    Except OptionError SimulatorOptions :=
  if name = "--boots" then do
    let n ← readValue name Numeral.wordLimit value
    return { options with boots := UInt32.ofNat n }
  else if name = "--seed" then do
    let n ← readValue name seedLimit value
    return { options with seed := UInt64.ofNat n }
  else .error (.unknown name)

/-- The options after those already understood. -/
def readFrom (options : SimulatorOptions) : List String → Except OptionError SimulatorOptions
  | [] => .ok options
  | [name] => .error (.missingValue name)
  | name :: value :: rest => do
    let options ← options.assign name value
    readFrom options rest

def ofArguments (arguments : List String) : Except OptionError SimulatorOptions :=
  default.readFrom arguments

end SimulatorOptions

end HatchSensor
