import HatchSensor.Signals.Bits

/-!
# The signal register

The register holds the signal bits and the list of parked waiters, oldest parking first.  Raising
bits takes the waiters whose mask they meet off the list; nothing but an explicit clear removes a
bit.  A waiter looks at the register through `SignalRegister.look`, which either answers with all
bits or parks it.
-/

namespace HatchSensor

/-- A task that is parked until one of the bits of its mask is raised. -/
structure Waiter where
  /-- Identifies the wait. -/
  id : UInt32
  /-- The bits it waits for. -/
  mask : SignalBits
deriving DecidableEq

/-- Sticky signal bits and the waiters parked on them. -/
structure SignalRegister where
  /-- The bits that are set. -/
  bits : SignalBits
  /-- The parked waiters. -/
  waiters : List Waiter
  /-- The identity of the next wait. -/
  nextId : UInt32
deriving Inhabited

namespace SignalRegister

/-- No bits and no waiters. -/
def empty : SignalRegister := ⟨.none, [], 0⟩

/-- Remove bits. -/
def clear (r : SignalRegister) (bits : SignalBits) : SignalRegister :=
  { r with bits := r.bits.without bits }

/-- Add bits; the waiters that are taken off the list to be woken are the second component. -/
def raise (r : SignalRegister) (bits : SignalBits) : SignalRegister × List Waiter :=
  let (ready, parked) := r.waiters.partition fun w => w.mask.intersects bits
  ({ r with bits := r.bits.union bits, waiters := parked }, ready)

/-- Add bits. -/
def set (r : SignalRegister) (bits : SignalBits) : SignalRegister :=
  (r.raise bits).1

/-- Add bits from an interrupt; tells whether a parked waiter was woken. -/
def setFromInterrupt (r : SignalRegister) (bits : SignalBits) : SignalRegister × Bool :=
  let (raised, ready) := r.raise bits
  (raised, !ready.isEmpty)

/-- Give out the identity of a new wait. -/
def register (r : SignalRegister) : SignalRegister × UInt32 :=
  ({ r with nextId := r.nextId + 1 }, r.nextId)

/-- Take a wait off the list. -/
def forget (r : SignalRegister) (id : UInt32) : SignalRegister :=
  { r with waiters := r.waiters.filter fun w => w.id != id }

/-- Look at the register on behalf of a wait: all bits if one of the mask is set, else the wait is
parked at the end of the list. -/
def look (r : SignalRegister) (id : UInt32) (mask : SignalBits) :
    SignalRegister × Option SignalBits :=
  if r.bits.intersects mask then (r, some r.bits)
  else ({ r with waiters := (r.forget id).waiters ++ [⟨id, mask⟩] }, none)

/-- The mask of a wait: what it asks for, and a reset request. -/
def waitMask (mask : SignalBits) : SignalBits :=
  mask.union .resetRequested

end SignalRegister

end HatchSensor
