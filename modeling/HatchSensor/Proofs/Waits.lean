import HatchSensor.Proofs.World
import HatchSensor.Proofs.Signals

/-!
# What a wait has seen

A phase learns about the register by looking at it, and acts on what it saw even if the register has
changed since.  `World.LastLook` says what the last look of a dialogue saw and that the register has
been in the hands of the others since then.  Every wait ends with a look:
`World.lastLook_awaitSignal`.
-/

namespace HatchSensor

/-- Requests that look at the register. -/
def DeviceRequest.looks : DeviceRequest → Bool
  | .signals => true
  | .look _ _ => true
  | .park _ _ _ _ => true
  | _ => false

/-- Requests that neither change the world nor look at the register. -/
def DeviceRequest.idle : DeviceRequest → Bool
  | .openWait => true
  | .closeWait _ => true
  | .instant => true
  | .ticks => true
  | .time => true
  | _ => false

/-- The exchange showed these bits of the register. -/
inductive Exchange.Saw : Exchange Surroundings → SignalBits → Prop
  /-- All bits were asked for. -/
  | signals (bits : SignalBits) : Saw ⟨DeviceRequest.signals, bits⟩ bits
  /-- A wait looked and found one of its bits. -/
  | look (id : UInt32) (mask bits : SignalBits) : Saw ⟨DeviceRequest.look id mask, some bits⟩ bits
  /-- A parked wait was woken. -/
  | park (id : UInt32) (mask : SignalBits) (deadline : Nat) (timer : Option Nat)
      (bits : SignalBits) :
      Saw ⟨DeviceRequest.park id mask deadline timer, Wake.signalled bits⟩ bits

namespace World

open Program

variable {L : Licence} {w w' : World}

/-- The last look at the register in the dialogue `d` found the world `v`, and up to the world `w`
nobody but the others has acted since. -/
def LastLook (L : Licence) (d : Dialogue Surroundings) (v w : World) : Prop :=
  ∃ before e after, d = before ++ e :: after ∧ e.Saw v.bits ∧
    (∀ f ∈ after, DeviceRequest.looks f.request = false) ∧ Others L v w

/-- What was said before the last look does not matter. -/
lemma LastLook.after {d : Dialogue Surroundings} {v : World} (h : LastLook L d v w)
    (earlier : Dialogue Surroundings) : LastLook L (earlier ++ d) v w := by
  obtain ⟨before, e, after, rfl, saw, blind, others⟩ := h
  exact ⟨earlier ++ before, e, after, by simp, saw, blind, others⟩

/-- An idle request leaves the world to the others. -/
lemma others_of_idle {r : DeviceRequest} {x : r.Answer} (h : answers L r w x w')
    (idle : r.idle = true) : Others L w w' := by
  obtain ⟨u, reply, others⟩ := h
  have still : u = w := by
    cases r <;> first | exact reply | exact absurd idle Bool.false_ne_true
  exact still ▸ others

/-- An idle request is no look. -/
lemma looks_of_idle {r : DeviceRequest} (idle : r.idle = true) : r.looks = false := by
  cases r <;> first | rfl | exact absurd idle Bool.false_ne_true

/-- The last look stays the last one while idle requests are made. -/
lemma LastLook.idle {d : Dialogue Surroundings} {v : World} (h : LastLook L d v w)
    {r : DeviceRequest} {x : r.Answer} (answered : answers L r w x w') (idle : r.idle = true) :
    LastLook L (d ++ [⟨r, x⟩]) v w' := by
  obtain ⟨before, e, after, rfl, saw, blind, others⟩ := h
  refine ⟨before, e, after ++ [⟨r, x⟩], by simp, saw, ?_,
    others.trans (others_of_idle answered idle)⟩
  intro f hf
  rcases List.mem_append.mp hf with hf | hf
  · exact blind f hf
  · rw [List.mem_singleton.mp hf]
    exact looks_of_idle idle

/-- Asking for the register is a look. -/
lemma lastLook_signals {bits : SignalBits} (h : answers L .signals w bits w') :
    bits = w.bits ∧ LastLook L [⟨DeviceRequest.signals, bits⟩] w w' := by
  obtain ⟨u, ⟨rfl, rfl⟩, others⟩ := h
  exact ⟨rfl, [], _, [], rfl, .signals _, by simp, others⟩

/-- The bits a wait returns are those of its last look. -/
lemma lastLook_awaitSignal {mask : SignalBits} {timeout : Nat} {d : Dialogue Surroundings}
    {bits : SignalBits} (h : Returns (answers L) (awaitSignal mask timeout) w d bits w') :
    ∃ v, bits = v.bits ∧ LastLook L d v w' := by
  obtain ⟨d₁, id, w₁, e₁, rfl, -, timed⟩ := returns_bind.mp h
  obtain ⟨d₂, start, w₂, e₂, rfl, -, waited⟩ := returns_bind.mp timed
  obtain ⟨found, w₃, e₃, rfl, look, rest⟩ := returns_request_bind.mp waited
  -- once the bits are known, all that is left is to close the wait
  have closes : ∀ {u v : World} {d : Dialogue Surroundings} {seen : SignalBits}
      {e : Dialogue Surroundings}, seen = v.bits → LastLook L d v u →
      Returns (answers L) (Surroundings.closeWait id >>= fun _ => pure seen) u e bits w' →
        bits = v.bits ∧ LastLook L (d ++ e) v w' := by
    intro u v d seen e same last close
    obtain ⟨d₄, y, w₄, e₄, rfl, closed, halted⟩ := returns_bind.mp close
    obtain ⟨rfl, answered⟩ := returns_request.mp closed
    obtain ⟨rfl, rfl, rfl⟩ := returns_done.mp halted
    rw [List.append_nil]
    exact ⟨same, last.idle answered rfl⟩
  suffices ending : ∃ v, bits = v.bits ∧ LastLook L (⟨DeviceRequest.look _ _, found⟩ :: e₃) v w' by
    obtain ⟨v, same, last⟩ := ending
    exact ⟨v, same, (last.after d₂).after d₁⟩
  cases found with
  | some seen =>
    obtain ⟨u, ⟨same, rfl⟩, others⟩ := look
    have saw : seen = u.bits := by
      split at same
      · exact Option.some.inj same
      · exact absurd same (by simp)
    subst saw
    exact ⟨u, closes rfl ⟨[], _, [], rfl, .look _ _ _, by simp, others⟩ rest⟩
  | none =>
    obtain ⟨wake, w₄, e₄, rfl, park, woken⟩ := returns_request_bind.mp rest
    have asks : Returns (answers L)
        (Surroundings.signals >>= fun seen => Surroundings.closeWait id >>= fun _ => pure seen)
        w₄ e₄ bits w' → bits = w₄.bits ∧ LastLook L e₄ w₄ w' := by
      intro asking
      obtain ⟨d₅, seen, w₅, e₅, rfl, signalled, close⟩ := returns_bind.mp asking
      obtain ⟨rfl, answered⟩ := returns_request.mp signalled
      obtain ⟨same, last⟩ := lastLook_signals answered
      exact closes same last close
    cases wake with
    | signalled seen =>
      obtain ⟨u, ⟨-, same, -⟩, others⟩ := park
      subst same
      obtain ⟨same, last⟩ :=
        closes rfl ⟨[], _, [], rfl, .park _ _ _ _ _, by simp, others⟩ woken
      exact ⟨u, same, last.after [_]⟩
    | expired =>
      obtain ⟨same, last⟩ := asks woken
      exact ⟨w₄, same, last.after [_, _]⟩
    | elapsed =>
      obtain ⟨same, last⟩ := asks woken
      exact ⟨w₄, same, last.after [_, _]⟩

end World

end HatchSensor
