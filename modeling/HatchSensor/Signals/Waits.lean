import HatchSensor.Signals.Register

/-!
# Waits in time

Several tasks may wait on the register at once, each with a timeout.  A `WaitRoom` is the register
together with the live waits and the time of day.  A wait is looked at only after it was woken, by
a raised bit or by its timeout; a look first inspects the bits and then the timeout, which cannot
end a wait on its very first look.
-/

namespace HatchSensor

/-- A live wait. -/
structure Wait where
  /-- The name its owner gave it. -/
  name : Nat
  /-- Its identity in the register. -/
  id : UInt32
  /-- The bits it waits for, with the reset bit. -/
  mask : SignalBits
  /-- The time at which it gives up. -/
  deadline : Nat
  /-- It has been looked at before. -/
  looked : Bool
  /-- It has been woken since it was last looked at. -/
  woken : Bool

/-- The register, the live waits in order of creation, and the time. -/
structure WaitRoom where
  register : SignalRegister
  /-- The live waits. -/
  waits : List Wait
  /-- The time in microseconds. -/
  now : Nat

namespace WaitRoom

/-- Nothing set, nobody waiting, time zero. -/
def empty : WaitRoom := ⟨.empty, [], 0⟩

/-- Raise bits and wake the waits whose mask they meet. -/
def raise (room : WaitRoom) (bits : SignalBits) : WaitRoom × List Waiter :=
  let (register, ready) := room.register.raise bits
  let waits := room.waits.map fun w =>
    if ready.any fun r => r.id == w.id then { w with woken := true } else w
  ({ room with register, waits }, ready)

/-- Raise bits from task context. -/
def set (room : WaitRoom) (bits : SignalBits) : WaitRoom :=
  (room.raise bits).1

/-- Raise bits from an interrupt; tells whether a parked wait was woken. -/
def setFromInterrupt (room : WaitRoom) (bits : SignalBits) : WaitRoom × Bool :=
  let (raised, ready) := room.raise bits
  (raised, !ready.isEmpty)

def clear (room : WaitRoom) (bits : SignalBits) : WaitRoom :=
  { room with register := room.register.clear bits }

/-- Create a wait that has not been looked at. -/
def create (room : WaitRoom) (name : Nat) (mask : SignalBits) (timeout : Nat) : WaitRoom × Wait :=
  let (register, id) := room.register.register
  let wait : Wait :=
    { name, id, mask := SignalRegister.waitMask mask, deadline := room.now + timeout,
      looked := false, woken := false }
  ({ room with register, waits := room.waits ++ [wait] }, wait)

/-- The wait is over: it leaves the register and the room. -/
def finish (room : WaitRoom) (id : UInt32) : WaitRoom :=
  { room with
    register := room.register.forget id
    waits := room.waits.filter fun w => w.id != id }

/-- Look at one wait.  The answer is all bits of the register if the wait is over. -/
def look (room : WaitRoom) (wait : Wait) : WaitRoom × Option SignalBits :=
  match room.register.look wait.id wait.mask with
  | (register, some bits) => (finish { room with register } wait.id, some bits)
  | (register, none) =>
    if wait.looked ∧ wait.deadline ≤ room.now then
      (finish { room with register } wait.id, some register.bits)
    else
      let parked := { wait with looked := true, woken := decide (wait.deadline ≤ room.now) }
      let waits := room.waits.map fun w => if w.id == wait.id then parked else w
      ({ room with register, waits }, none)

/-- Look at the given waits one after the other; the finished ones with what they saw. -/
def lookAll (room : WaitRoom) : List Wait → WaitRoom × List (Nat × SignalBits)
  | [] => (room, [])
  | wait :: rest =>
    let (looked, seen) := room.look wait
    let (final, finished) := lookAll looked rest
    (final, (seen.map fun bits => (wait.name, bits)).toList ++ finished)

/-- Look at every woken wait, oldest first. -/
def runWoken (room : WaitRoom) : WaitRoom × List (Nat × SignalBits) :=
  room.lookAll (room.waits.filter Wait.woken)

/-- Create a wait and look at it; a wait without any time is looked at once more. -/
def wait (room : WaitRoom) (name : Nat) (mask : SignalBits) (timeout : Nat) :
    WaitRoom × List (Nat × SignalBits) :=
  let (created, wait) := room.create name mask timeout
  match created.look wait with
  | (looked, some bits) => (looked, [(name, bits)])
  | (looked, none) =>
    looked.lookAll (looked.waits.filter fun w => w.id == wait.id && w.woken)

/-- Let time pass: waits whose time is up are woken. -/
def advance (room : WaitRoom) (duration : Nat) : WaitRoom :=
  let now := room.now + duration
  { room with
    now
    waits := room.waits.map fun w =>
      if w.looked && decide (w.deadline ≤ now) then { w with woken := true } else w }

def cancel (room : WaitRoom) (name : Nat) : WaitRoom :=
  (room.waits.filter fun w => w.name == name).foldl (fun room w => room.finish w.id) room

end WaitRoom

end HatchSensor
