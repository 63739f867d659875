/-!
# Signal bits

The device's tasks talk to each other through one word of sticky bits.  Seven of them have names;
a set of bits is written as the set of the names it contains.
-/

namespace HatchSensor

/-- A set of signals, one bit each. -/
structure SignalBits where
  word : UInt32
deriving DecidableEq, Inhabited

namespace SignalBits

/-- No signal at all. -/
def none : SignalBits := ⟨0⟩

/-- A provisioning client has finished. -/
def credentialsReady : SignalBits := ⟨1⟩

/-- A usable shadow document has arrived. -/
def shadowReceived : SignalBits := ⟨2⟩

/-- The network link has an address. -/
def linkUp : SignalBits := ⟨4⟩

/-- The network link is down. -/
def linkDown : SignalBits := ⟨8⟩

def buttonReleased : SignalBits := ⟨16⟩

/-- The button is held. -/
def buttonPressed : SignalBits := ⟨32⟩

/-- A factory reset is wanted.  Every wait also waits for this bit. -/
def resetRequested : SignalBits := ⟨128⟩

/-- The signals in either set. -/
def union (a b : SignalBits) : SignalBits := ⟨a.word ||| b.word⟩

/-- The signals in both sets. -/
def inter (a b : SignalBits) : SignalBits := ⟨a.word &&& b.word⟩

/-- The bits that are not in the set. -/
def complement (a : SignalBits) : SignalBits := ⟨~~~a.word⟩

/-- The signals of the first set that are not in the second. -/
def without (a b : SignalBits) : SignalBits := a.inter b.complement

/-- No signal is in the set. -/
def isEmpty (a : SignalBits) : Bool := a.word == 0

/-- Every signal of the second set is in the first. -/
def contains (a b : SignalBits) : Bool := a.word &&& b.word == b.word

/-- Some signal is in both sets. -/
def intersects (a b : SignalBits) : Bool := a.word &&& b.word != 0

/-- The named signals, lowest bit first. -/
def named : List (SignalBits × String) :=
  [(credentialsReady, "BleCredentialsReady"), (shadowReceived, "ConfigShadowReceived"),
    (linkUp, "WifiUp"), (linkDown, "WifiDown"), (buttonReleased, "ButtonReleased"),
    (buttonPressed, "ButtonPressed"), (resetRequested, "ResetRequested")]

/-- The names of the signals in the set, between braces. -/
def toText (a : SignalBits) : String :=
  let names := (named.filter fun entry => a.contains entry.1).map Prod.snd
  "\x7b" ++ ", ".intercalate names ++ "\x7d"

end SignalBits

end HatchSensor
