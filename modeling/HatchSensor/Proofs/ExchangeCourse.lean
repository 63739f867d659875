import HatchSensor.Proofs.Received
import HatchSensor.Proofs.SharedRegister
import HatchSensor.Proofs.Waits

/-!
# The course of a shadow exchange

On a register that is shared with others, a shadow exchange can go only a few ways.
`ShadowExchange.Course` lists them by what is said and what comes of it; in between,
`ShadowExchange.Rounds` follows the session round by round.  A round that brings a usable document
is the last one, since the document raises the very signal that the wait beside the session looks
for before the pause is over.
-/

namespace HatchSensor

open Program SharedRegister

namespace ShadowExchange

variable {schedule : PumpSchedule} {thing : String} {current : HatchConfig} {preempts : Prop}
  {s t : SharedRegister} {d : Dialogue Surroundings}

/-! ## The ways it can go -/

/-- What is said in the pause after a step of the session. -/
def pause (schedule : PumpSchedule) (id : UInt32) (deadline now : Nat) (wake : Wake) :
    Dialogue Surroundings :=
  [⟨DeviceRequest.instant, now⟩,
    ⟨DeviceRequest.park id mask deadline (some (now + schedule.interval)), wake⟩]

/-- How the rounds of an exchange go, if at most so many are left. -/
inductive Rounds (schedule : PumpSchedule) (current : HatchConfig) (id : UInt32) (deadline : Nat) :
    Nat → Dialogue Surroundings → Attempt (Option HatchConfig) → Prop
  /-- No round is left. -/
  | spent : Rounds schedule current id deadline 0 [] (.ok none)
  /-- The session breaks down. -/
  | broken {n : Nat} {pumped : Pumped} {reason : Fault} (failed : pumped.outcome = .error reason) :
      Rounds schedule current id deadline (n + 1)
        (⟨DeviceRequest.pump schedule.step, pumped⟩ ::
          announcements (usable current pumped.documents).length)
        (.error reason)
  /-- The wait ends in the pause. -/
  | ended {n now : Nat} {pumped : Pumped} {wake : Wake} (worked : pumped.outcome = .ok ())
      (woken : wake ≠ .elapsed) :
      Rounds schedule current id deadline (n + 1)
        (⟨DeviceRequest.pump schedule.step, pumped⟩ ::
          (announcements (usable current pumped.documents).length ++
            pause schedule id deadline now wake))
        (.ok (usable current pumped.documents).getLast?)
  /-- The session has brought nothing, and the pause is over. -/
  | again {n now : Nat} {pumped : Pumped} {d : Dialogue Surroundings}
      {out : Attempt (Option HatchConfig)} (worked : pumped.outcome = .ok ())
      (silent : usable current pumped.documents = [])
      (later : Rounds schedule current id deadline n d out) :
      Rounds schedule current id deadline (n + 1)
        (⟨DeviceRequest.pump schedule.step, pumped⟩ ::
          (pause schedule id deadline now .elapsed ++ d))
        out

/-- How the wait beside the session goes. -/
inductive Waited (schedule : PumpSchedule) (current : HatchConfig) (id : UInt32) (deadline : Nat) :
    Dialogue Surroundings → Attempt (Option HatchConfig) → Prop
  /-- It is over before the session has worked at all. -/
  | foregone (bits : SignalBits) :
      Waited schedule current id deadline [⟨DeviceRequest.look id mask, some bits⟩] (.ok none)
  /-- The session works. -/
  | pumped {d : Dialogue Surroundings} {out : Attempt (Option HatchConfig)}
      (rounds : Rounds schedule current id deadline schedule.pumps d out) :
      Waited schedule current id deadline
        (⟨DeviceRequest.look id mask, (none : Option SignalBits)⟩ :: d) out

/-- What comes of the configuration that was received, if any, and the bits that are set then. -/
def verdict (received : Option HatchConfig) (bits : SignalBits) : ShadowOutcome :=
  if bits.contains .resetRequested then .resetRequested
  else
    match received with
    | some config => .updated config
    | none => .notReceived

/-- How the exchange ends once the session was pumped. -/
inductive Concluded (id : UInt32) :
    Attempt (Option HatchConfig) → Dialogue Surroundings → Except ExchangeError ShadowOutcome → Prop
  /-- The session broke down. -/
  | broken (reason : Fault) :
      Concluded id (.error reason) [⟨DeviceRequest.closeWait id, ()⟩] (.error (.pump reason))
  /-- The register is looked at for a reset request. -/
  | whole (received : Option HatchConfig) (bits : SignalBits) :
      Concluded id (.ok received)
        [⟨DeviceRequest.closeWait id, ()⟩, ⟨DeviceRequest.signals, bits⟩]
        (.ok (verdict received bits))

/-- How an exchange begins. -/
def opening (thing : String) (connected : Attempt Unit) : Dialogue Surroundings :=
  [⟨DeviceRequest.clear .shadowReceived, ()⟩,
    ⟨DeviceRequest.connect thing connectTimeout, connected⟩]

/-- What is said before the session works: the shadow is asked for, and a wait is opened. -/
def preamble (thing : String) (id : UInt32) (start : Nat) : Dialogue Surroundings :=
  opening thing (.ok ()) ++
    [⟨DeviceRequest.requestShadow thing, (.ok () : Attempt Unit)⟩, ⟨DeviceRequest.openWait, id⟩,
      ⟨DeviceRequest.instant, start⟩]

/-- How an exchange that was connected ends. -/
def closing : Dialogue Surroundings :=
  [⟨DeviceRequest.disconnect, ()⟩, ⟨DeviceRequest.clear .shadowReceived, ()⟩]

/-- How an exchange can go, and what comes of it. -/
inductive Course (schedule : PumpSchedule) (thing : String) (current : HatchConfig) :
    Dialogue Surroundings → Except ExchangeError ShadowOutcome → Prop
  /-- There is no session. -/
  | unconnected (reason : Fault) :
      Course schedule thing current (opening thing (.error reason)) (.error (.connect reason))
  /-- The shadow cannot be asked for. -/
  | unasked (reason : Fault) :
      Course schedule thing current
        (opening thing (.ok ()) ++
          (⟨DeviceRequest.requestShadow thing, (.error reason : Attempt Unit)⟩ :: closing))
        (.error (.request reason))
  /-- The shadow was asked for. -/
  | held {id : UInt32} {start : Nat} {d e : Dialogue Surroundings}
      {pumped : Attempt (Option HatchConfig)} {v : Except ExchangeError ShadowOutcome}
      (waited : Waited schedule current id (start + budget schedule) d pumped)
      (concluded : Concluded id pumped e v) :
      Course schedule thing current
        (preamble thing id start ++ (d ++ (e ++ closing))) v

/-! ## It goes one of these ways -/

/-- The exchange's own signal ends its wait. -/
lemma intersects_mask {bits : SignalBits} (h : bits.contains .shadowReceived = true) :
    bits.intersects mask = true := by
  have set : bits.bit 1 = true := SignalBits.contains_iff.mp h 1 (by decide) (by decide)
  exact SignalBits.intersects_iff.mpr ⟨1, by decide, set, by decide⟩

/-- Once a usable document was announced, the signal is set. -/
lemma contains_of_announcements {α : Type} {p q : Program Surroundings α} {count : Nat}
    (h : Reaches (answers preempts) p s (announcements (count + 1)) q t) :
    t.register.bits.contains .shadowReceived = true := by
  have stirs : ∀ {u v : SharedRegister}, Others preempts u v →
      u.register.bits.contains .shadowReceived = true →
        v.register.bits.contains .shadowReceived = true := by
    rintro u v (rfl | ⟨-, bits, rfl⟩) before
    · exact before
    · exact SignalBits.contains_union_left _ before
  obtain ⟨p', u, ⟨v, rfl, others⟩, rest⟩ := Reaches.tail h
  refine rest.along (P := fun e : Exchange Surroundings =>
      e.request = DeviceRequest.raise .shadowReceived)
    (I := fun u => u.register.bits.contains .shadowReceived = true) ?_ ?_
    (stirs others (SignalBits.contains_union_right _ _))
  · rintro r u x v raises ⟨u', reply, others⟩ before
    obtain rfl : r = DeviceRequest.raise .shadowReceived := raises
    obtain rfl := reply
    exact stirs others (SignalBits.contains_union_left _ before)
  · intro e he
    rw [List.eq_of_mem_replicate he]

lemma rounds_of_pumpAll {id : UInt32} {deadline pumps : Nat} {out : Attempt (Option HatchConfig)}
    (h : Returns (answers preempts) (pumpAll schedule current id deadline pumps none) s d out t) :
    Rounds schedule current id deadline pumps d out := by
  induction pumps generalizing s d with
  | zero =>
    obtain ⟨rfl, rfl, -⟩ := returns_done.mp h
    exact .spent
  | succ pumps ih =>
    obtain ⟨pumped, u₁, e₁, rfl, -, h₁⟩ := returns_request_bind.mp h
    obtain ⟨d₂, collected, u₂, e₂, rfl, collecting, h₂⟩ := returns_bind.mp h₁
    obtain ⟨received, rfl⟩ := received_of_collect collecting
    rw [Option.or_none] at received
    subst received
    cases ended : pumped.outcome with
    | error reason =>
      simp only [ended] at h₂
      obtain ⟨rfl, rfl, -⟩ := returns_done.mp h₂
      rw [List.append_nil]
      exact .broken ended
    | ok _ =>
      simp only [ended] at h₂
      obtain ⟨now, u₃, e₃, rfl, ⟨u, rfl, others⟩, h₃⟩ := returns_request_bind.mp h₂
      obtain ⟨wake, u₄, e₄, rfl, ⟨v, parked, -⟩, h₄⟩ := returns_request_bind.mp h₃
      cases wake with
      | signalled bits =>
        obtain ⟨rfl, rfl, -⟩ := returns_done.mp h₄
        exact .ended ended (by simp)
      | expired =>
        obtain ⟨rfl, rfl, -⟩ := returns_done.mp h₄
        exact .ended ended (by simp)
      | elapsed =>
        -- a usable document would have ended the wait before the pause was over
        have silent : usable current pumped.documents = [] := by
          cases brought : usable current pumped.documents with
          | nil => rfl
          | cons first rest =>
            rw [brought] at collecting
            have set := contains_of_announcements collecting
            have met : u₃.register.bits.intersects mask = true := by
              refine intersects_mask ?_
              rcases others with rfl | ⟨-, bits, rfl⟩
              · exact set
              · exact SignalBits.contains_union_left _ set
            exact absurd rfl (parked.not_elapsed met)
        have rest : Returns (answers preempts) (pumpAll schedule current id deadline pumps none)
            u₄ e₄ out t := by
          simpa only [silent, List.getLast?_nil] using h₄
        rw [silent]
        exact .again ended silent (ih rest)

lemma concluded_of_conclude {id : UInt32} {pumped : Attempt (Option HatchConfig)}
    {v : Except ExchangeError ShadowOutcome}
    (h : Returns (answers preempts) (conclude id pumped) s d v t) : Concluded id pumped d v := by
  obtain ⟨_, u₁, e₁, rfl, -, h₁⟩ := returns_request_bind.mp h
  cases pumped with
  | error reason =>
    obtain ⟨rfl, rfl, -⟩ := returns_done.mp h₁
    exact .broken reason
  | ok received =>
    obtain ⟨bits, u₂, e₂, rfl, -, h₂⟩ := returns_request_bind.mp h₁
    have same : e₂ = [] ∧ v = .ok (verdict received bits) := by
      unfold verdict
      split at h₂
      next reset =>
        obtain ⟨rfl, rfl, -⟩ := returns_done.mp h₂
        simp [reset]
      next calm =>
        cases received with
        | none =>
          obtain ⟨rfl, rfl, -⟩ := returns_done.mp h₂
          simp [calm]
        | some config =>
          obtain ⟨rfl, rfl, -⟩ := returns_done.mp h₂
          simp [calm]
    obtain ⟨rfl, rfl⟩ := same
    exact .whole received bits

/-- An exchange on a shared register goes one of these ways. -/
lemma course_of_fetch {v : Except ExchangeError ShadowOutcome}
    (h : Returns (answers preempts) (fetch schedule thing current) s d v t) :
    Course schedule thing current d v := by
  obtain ⟨_, u₁, e₁, rfl, -, h₁⟩ := returns_request_bind.mp h
  obtain ⟨connected, u₂, e₂, rfl, -, h₂⟩ := returns_request_bind.mp h₁
  cases connected with
  | error reason =>
    obtain ⟨rfl, rfl, -⟩ := returns_done.mp h₂
    exact .unconnected reason
  | ok _ =>
    obtain ⟨d₃, outcome, u₃, e₃, rfl, talk, h₃⟩ := returns_bind.mp h₂
    obtain ⟨_, u₄, e₄, rfl, -, h₄⟩ := returns_request_bind.mp h₃
    obtain ⟨_, u₅, e₅, rfl, -, halted⟩ := returns_request_bind.mp h₄
    obtain ⟨rfl, rfl, -⟩ := returns_done.mp halted
    -- what is left is the conversation inside the session
    obtain ⟨requested, v₁, f₁, rfl, -, k₁⟩ := returns_request_bind.mp talk
    cases requested with
    | error reason =>
      obtain ⟨rfl, rfl, -⟩ := returns_done.mp k₁
      exact .unasked reason
    | ok _ =>
      obtain ⟨id, v₂, f₂, rfl, -, k₂⟩ := returns_request_bind.mp k₁
      obtain ⟨start, v₃, f₃, rfl, -, k₃⟩ := returns_request_bind.mp k₂
      obtain ⟨found, v₄, f₄, rfl, -, k₄⟩ := returns_request_bind.mp k₃
      cases found with
      | some bits =>
        have ends : Returns (answers preempts) (conclude id (.ok none)) v₄ f₄ v u₃ := k₄
        exact .held (.foregone bits) (concluded_of_conclude ends)
      | none =>
        obtain ⟨c₅, pumped, v₅, f₅, rfl, pumping, concluding⟩ := returns_bind.mp k₄
        have ends : Returns (answers preempts) (conclude id pumped) v₅ f₅ v u₃ := concluding
        have course : Course schedule thing current _ v :=
          .held (.pumped (rounds_of_pumpAll pumping)) (concluded_of_conclude ends)
        simp only [preamble, opening, closing, List.cons_append, List.nil_append,
          List.append_assoc] at course ⊢
        exact course

end ShadowExchange

end HatchSensor
