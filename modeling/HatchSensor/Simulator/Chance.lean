import HatchSensor.Simulator.Walk

/-!
# A source of draws

A sequence of draws that depends on nothing but a seed: the `i`-th draw is made of the hash of the
seed moved on by `i` strides, so that it can be computed without those before it.
-/

namespace HatchSensor

namespace Chance

/-- The distance between two states. -/
def stride : UInt64 := 0x9e3779b97f4a7c15

/-- Spread the bits of a state. -/
def hash (state : UInt64) : UInt64 :=
  let a := (state ^^^ (state >>> 30)) * 0xbf58476d1ce4e5b9
  let b := (a ^^^ (a >>> 27)) * 0x94d049bb133111eb
  b ^^^ (b >>> 31)

/-- A number that depends on the seed and an index. -/
def word (seed : UInt64) (i : Nat) : Nat :=
  (hash (seed + UInt64.ofNat (i + 1) * stride)).toNat

/-- A point of the range from `low / unit` to `high / unit`. -/
def pick (low high : Int) (unit n : Nat) : Single :=
  Single.ofQuotient (low + (n % (high - low + 1).toNat : Nat)) unit

/-- The draws of a seed, in the order in which a reading makes its decisions: the change of the
temperature, whether something unlikely happens (once in twenty times), the humidity, and the
change of the pressure. -/
def draws (seed : UInt64) : Draws := fun i =>
  let n := word seed i
  some <| match i % 4 with
    | 0 => pick (-200000) 200000 1000000 n
    | 1 => if n % 20 = 0 then Single.ofNat 1 else .zero
    | 2 => pick 500000 599999 10000 n
    | _ => pick (-2000000) 1999999 10000 n

end Chance

end HatchSensor
