import HatchSensor.Proofs.Footprints
import HatchSensor.Proofs.Waits

/-!
# Reset requests and deep sleep

The register does not survive deep sleep, so a reset request that is pending when the device goes to
sleep is lost.  Before it sleeps the device waits for the button to be released and serves a request
that this wait has seen; but if the button is up already, it goes to sleep without a look at the
request.

`Lifecycle.reset_lost_in_sleep_iff` says exactly which requests are lost: those that the last look
at the register saw together with a button that was up, and those that were raised after it.
-/

namespace HatchSensor

/-! ## Requests in the hands of the others -/

/-- Nobody but the device takes a reset request back. -/
def Licence.KeepsRequests (L : Licence) : Prop :=
  ∀ bits later, L.stirs bits later → bits.contains .resetRequested = true →
    later.contains .resetRequested = true

namespace World

variable {L : Licence} {v w : World}

/-- Between two worlds somebody has raised the reset request. -/
def Raised (L : Licence) (v w : World) : Prop :=
  ∃ u u', Acts L v u ∧ ¬ u.Requested ∧ Act L u u' ∧ u'.Requested ∧ Acts L u' w

/-- An act of somebody else leaves a request standing. -/
lemma Act.requested (h : Act L v w) (kept : L.KeepsRequests) (pending : v.Requested) :
    w.Requested := by
  cases h with
  | stir h => exact kept _ _ h pending
  | @write session later payload d effect blobs opened written =>
    show (if effect.finished then v.bits.union .credentialsReady else v.bits).contains
      .resetRequested = true
    split
    · exact SignalBits.contains_union_left _ pending
    · exact pending

lemma Acts.requested (h : Acts L v w) (kept : L.KeepsRequests) (pending : v.Requested) :
    w.Requested := by
  induction h with
  | refl => exact pending
  | tail _ act ih => exact act.requested kept ih

/-- While the others act, a request is pending if it was pending before or has been raised. -/
lemma Acts.requested_iff (h : Acts L v w) (kept : L.KeepsRequests) :
    w.Requested ↔ v.Requested ∨ Raised L v w := by
  constructor
  · intro pending
    induction h with
    | refl => exact Or.inl pending
    | @tail u w acts act ih =>
      by_cases before : u.Requested
      · rcases ih before with first | ⟨a, b, toA, quiet, raise, loud, toU⟩
        · exact Or.inl first
        · exact Or.inr ⟨a, b, toA, quiet, raise, loud, toU.tail act⟩
      · exact Or.inr ⟨u, w, acts, before, act, pending, .refl⟩
  · rintro (pending | ⟨u, u', -, -, -, pending, acts⟩)
    · exact h.requested kept pending
    · exact acts.requested kept pending

end World

/-! ## Falling asleep -/

namespace Lifecycle

open Program World

variable {L : Licence} {w w' : World} {d : Dialogue Surroundings} {requested seconds : UInt32}
  {remaining : Nat}

/-- Without another look the device goes to sleep. -/
lemma asks_fallAsleep
    (h : Asks (answers L) (Stage.fallAsleep remaining) w d (.sleep seconds) w') :
    d = [] ∧ w' = w := by
  rcases asks_bind.mp h with ⟨k, sleeping⟩ | ⟨d₁, a, u, d₂, -, -, k, halted⟩
  · rcases reaches_ask.mp sleeping with ⟨rfl, -, rfl⟩ | ⟨x, u, d', -, -, halted⟩
    · exact ⟨rfl, rfl⟩
    · exact absurd (reaches_done.mp halted).2.1 (by simp)
  · exact absurd (reaches_done.mp halted).2.1 (by simp)

/-- What the device does once it has found the button held. -/
def Stage.awaitRelease (requested : UInt32) (remaining : Nat) : Program Surroundings Stage := do
  let started ← Surroundings.ticks
  let bits ← awaitSignal .buttonReleased (max (requested.toNat * 1000000) shortestRelease)
  let ended ← Surroundings.ticks
  if bits.contains .resetRequested then return afterStep (← factoryReset.run)
  else fallAsleep (remaining - (tickDuration started ended).toNat)

/-- The device looks at the register and waits if the button is held. -/
lemma settle_eq (requested : UInt32) (remaining : Nat) :
    Stage.settle requested remaining = Surroundings.signals >>= fun bits =>
      if !bits.contains .buttonPressed then Stage.fallAsleep remaining
      else Stage.awaitRelease requested remaining := rfl

/-- A program that cannot sleep is over before the sleep is asked for. -/
lemma asks_sleep_bind {α β : Type} {f : Footprint} {p : Program Surroundings α}
    {k : α → Program Surroundings β} (stays : p.Stays f) (awake : f.sleeps = false)
    (h : Asks (answers L) (p >>= k) w d (.sleep seconds) w') :
    ∃ d₁ a u d₂, d = d₁ ++ d₂ ∧ Returns (answers L) p w d₁ a u ∧
      Asks (answers L) (k a) u d₂ (.sleep seconds) w' := by
  rcases asks_bind.mp h with first | second
  · exact absurd first (not_asks_sleep stays awake)
  · exact second

/-- A device that waits for the button goes to sleep only if its last look saw no request. -/
lemma lastLook_of_awaitRelease
    (h : Asks (answers L) (Stage.awaitRelease requested remaining) w d (.sleep seconds) w') :
    ∃ v, LastLook L d v w' ∧ ¬ v.Requested := by
  obtain ⟨d₁, started, w₁, e₁, rfl, -, h₁⟩ :=
    asks_sleep_bind (f := .none) stays_ticks rfl h
  obtain ⟨d₂, bits, w₂, e₂, rfl, waited, h₂⟩ :=
    asks_sleep_bind (f := .none) (stays_awaitSignal _ _) rfl h₁
  obtain ⟨d₃, ended, w₃, e₃, rfl, ticked, h₃⟩ :=
    asks_sleep_bind (f := .none) stays_ticks rfl h₂
  obtain ⟨v, rfl, last⟩ := lastLook_awaitSignal waited
  obtain ⟨rfl, answered⟩ := returns_request.mp ticked
  split at h₃
  · obtain ⟨d₄, y, w₄, e₄, -, -, k, halted⟩ := asks_sleep_bind
      (f := ⟨[HatchConfig.blob, Credentials.ssidBlob, Credentials.passwordBlob, Phase.blob],
        false, false, false⟩)
      (stays_factoryReset (by simp) (by simp) (by simp) (by simp)) rfl h₃
    exact absurd (reaches_done.mp halted).2.1 (by simp)
  · next quiet =>
    obtain ⟨rfl, rfl⟩ := asks_fallAsleep h₃
    rw [List.append_nil]
    exact ⟨v, (last.idle answered rfl).after d₁, quiet⟩

/-- Before it sleeps, the device has looked: it saw the button up, or no request. -/
lemma lastLook_of_settle
    (h : Asks (answers L) (Stage.settle requested remaining) w d (.sleep seconds) w') :
    (∃ v, LastLook L d v w' ∧ ¬ (v.Requested ∧ v.Held)) ∧
      (¬ L.preempts → (w'.Requested ↔ w.Requested ∧ ¬ w.Held)) := by
  rw [settle_eq] at h
  obtain ⟨d₁, bits, w₁, e₁, rfl, signalled, h₁⟩ :=
    asks_sleep_bind (f := .none) stays_signals rfl h
  obtain ⟨rfl, answered⟩ := returns_request.mp signalled
  obtain ⟨rfl, last⟩ := lastLook_signals answered
  split at h₁
  · next up =>
    have released : ¬ w.Held := by simpa [Held] using up
    obtain ⟨rfl, rfl⟩ := asks_fallAsleep h₁
    refine ⟨⟨w, last, fun both => released both.2⟩, fun alone => ?_⟩
    obtain ⟨u, ⟨-, rfl⟩, others⟩ := answered
    rw [others.eq_of_alone alone]
    exact ⟨fun pending => ⟨pending, released⟩, fun both => both.1⟩
  · next down =>
    have held : w.Held := by simpa [Held] using down
    obtain ⟨v, last', quiet⟩ := lastLook_of_awaitRelease h₁
    refine ⟨⟨v, last'.after _, fun both => quiet both.1⟩, fun alone => ?_⟩
    obtain ⟨before, e, after, -, -, -, others⟩ := last'
    rw [others.eq_of_alone alone]
    exact ⟨fun pending => absurd pending quiet, fun both => absurd held both.2⟩

/-- The device is over with this waking period, or it has found the button held, has served a
request and goes back to waiting. -/
lemma served_of_settle {stage : Stage}
    (h : Returns (answers L) (Stage.settle requested remaining) w d stage w') :
    stage.isOver = true ∨
      (∃ again left, stage = .settling again left) ∧
        (¬ L.preempts → w.Held ∧ ¬ w'.Requested) := by
  have asleep : ∀ {remaining u d u'},
      Returns (answers L) (Stage.fallAsleep remaining) u d stage u' → stage.isOver = true := by
    intro remaining u d u' falling
    obtain ⟨d₁, y, u₁, e₁, -, -, halted⟩ := returns_bind.mp falling
    rw [(returns_done.mp halted).2.1]
    rfl
  rw [settle_eq] at h
  obtain ⟨bits, w₁, e₁, rfl, answered, h₁⟩ := returns_request_bind.mp h
  obtain ⟨rfl, -⟩ := lastLook_signals answered
  split at h₁
  · exact Or.inl (asleep h₁)
  · next down =>
    have held : w.Held := by simpa [Held] using down
    obtain ⟨d₂, started, w₂, e₂, rfl, -, h₂⟩ := returns_bind.mp h₁
    obtain ⟨d₃, bits, w₃, e₃, rfl, -, h₃⟩ := returns_bind.mp h₂
    obtain ⟨d₄, ended, w₄, e₄, rfl, -, h₄⟩ := returns_bind.mp h₃
    split at h₄
    · obtain ⟨d₅, y, w₅, e₅, rfl, reset, halted⟩ := returns_bind.mp h₄
      obtain ⟨-, rfl, rfl⟩ := returns_done.mp halted
      cases y with
      | error e => exact Or.inl rfl
      | ok seconds =>
        obtain ⟨rfl, v, others⟩ := cleared_of_factoryReset reset
        refine Or.inr ⟨⟨handOff, _, rfl⟩, fun alone => ⟨held, ?_⟩⟩
        rw [others.eq_of_alone alone, Requested]
        simp
    · exact Or.inl (asleep h₄)

/-! ## The whole way to sleep -/

lemma advanceMany_settling {device : DeviceSettings} {rounds : Nat} :
    Stage.advanceMany device (rounds + 1) (.settling requested remaining) =
      Stage.settle requested remaining >>= Stage.advanceMany device rounds := rfl

/-- Whatever happens on the way to sleep, the last look before it saw the button up or no request;
and a device that is left alone between its waits sleeps on a request exactly if it was there from
the start, with the button up. -/
lemma lastLook_before_sleep {device : DeviceSettings} {rounds : Nat}
    (h : Asks (answers L) (Stage.advanceMany device rounds (.settling requested remaining)) w d
      (.sleep seconds) w') :
    (∃ v, LastLook L d v w' ∧ ¬ (v.Requested ∧ v.Held)) ∧
      (¬ L.preempts → (w'.Requested ↔ w.Requested ∧ ¬ w.Held)) := by
  induction rounds generalizing requested remaining w d with
  | zero =>
    obtain ⟨k, halted⟩ := h
    exact absurd (reaches_done.mp halted).2.1 (by simp)
  | succ rounds ih =>
    rw [advanceMany_settling] at h
    rcases asks_bind.mp h with first | ⟨d₁, stage, u, d₂, rfl, settled, later⟩
    · exact lastLook_of_settle first
    · rcases served_of_settle settled with isOver | ⟨⟨again, left, rfl⟩, served⟩
      · rw [advanceMany_of_isOver isOver] at later
        obtain ⟨k, asks⟩ := later
        exact absurd (reaches_done.mp asks).2.1 (by simp)
      · obtain ⟨⟨v, last, seen⟩, undisturbed⟩ := ih later
        refine ⟨⟨v, last.after d₁, seen⟩, fun alone => ?_⟩
        obtain ⟨held, quiet⟩ := served alone
        rw [undisturbed alone]
        exact ⟨fun both => absurd both.1 quiet, fun both => absurd held both.2⟩

/-- Which reset requests are lost when the device goes to sleep, whatever stage it was in when it
began to settle and however many requests it has served meanwhile.  Its last look at the register
found a world `v`; a request is lost exactly if it was there in `v` while the button was up, or was
raised after `v`.  A device that nobody preempts loses a request exactly if it was pending when the
device began to settle and the button was up then. -/
theorem reset_lost_in_sleep_iff (kept : L.KeepsRequests) {device : DeviceSettings} {rounds : Nat}
    (h : Asks (answers L) (Stage.advanceMany device rounds (.settling requested remaining)) w d
      (.sleep seconds) w') :
    (∃ v, LastLook L d v w' ∧
      (w'.Requested ↔ (v.Requested ∧ ¬ v.Held) ∨ Raised L v w')) ∧
      (¬ L.preempts → (w'.Requested ↔ w.Requested ∧ ¬ w.Held)) := by
  obtain ⟨⟨v, last, seen⟩, undisturbed⟩ := lastLook_before_sleep h
  refine ⟨⟨v, last, ?_⟩, undisturbed⟩
  obtain ⟨before, e, after, -, -, -, others⟩ := last
  rw [others.acts.requested_iff kept]
  constructor
  · rintro (pending | raised)
    · exact Or.inl ⟨pending, fun held => seen ⟨pending, held⟩⟩
    · exact Or.inr raised
  · rintro (⟨pending, -⟩ | raised)
    · exact Or.inl pending
    · exact Or.inr raised

/-! ## A long press that is over -/

/-- Nobody but the button monitor acts beside the device, at any time. -/
def buttonOnly : Licence where
  refuses _ := False
  stirs bits later := ∃ register event, register.bits = bits ∧
    later = (ButtonMonitor.publish register event).1.bits
  preempts := True

/-- The button monitor takes no request back. -/
lemma buttonOnly_keepsRequests : buttonOnly.KeepsRequests := by
  rintro bits later ⟨register, event, rfl, rfl⟩ pending
  exact ButtonMonitor.publish_keeps_resetRequested event pending

/-- A world in which nothing has happened. -/
def quietWorld : World := ⟨.empty, .none, none⟩

/-- The same world after a long press that is over. -/
def pressedWorld : World :=
  { quietWorld with bits := SignalBits.resetRequested.union .buttonReleased }

/-- The monitor makes the one of the other. -/
lemma acts_longPress : Acts buttonOnly quietWorld pressedWorld := by
  have event : ∀ (bits later : SignalBits) (e : ButtonEvent),
      later = (ButtonMonitor.publish ⟨bits, [], 0⟩ e).1.bits →
      Act buttonOnly { quietWorld with bits } { quietWorld with bits := later } :=
    fun bits later e h => .stir (w := { quietWorld with bits }) ⟨⟨bits, [], 0⟩, e, rfl, h⟩
  refine .tail (.tail (.tail .refl (event .none .buttonPressed .pressed ?_))
    (event _ (.union .resetRequested .buttonPressed) .resetRequested ?_))
    (event _ _ .resetReleased ?_)
  all_goals decide

/-- A long press that is over when the device begins to settle is lost: the device goes to sleep
with the request pending. -/
theorem released_request_is_lost :
    buttonOnly.KeepsRequests ∧
      ∃ d w', Acts buttonOnly quietWorld pressedWorld ∧
        Asks (answers buttonOnly) (Stage.advanceMany ⟨"", .standard⟩ 1 (.settling 900 900000))
          pressedWorld d (.sleep 900) w' ∧
        w'.Requested ∧ (∃ v, LastLook buttonOnly d v w' ∧
          (w'.Requested ↔ (v.Requested ∧ ¬ v.Held) ∨ Raised buttonOnly v w')) := by
  have asks : Asks (answers buttonOnly)
      (Stage.advanceMany ⟨"", .standard⟩ 1 (.settling 900 900000)) pressedWorld
      [⟨DeviceRequest.signals, pressedWorld.bits⟩] (.sleep 900) pressedWorld := by
    exact ⟨_, Reaches.ask ⟨pressedWorld, ⟨rfl, rfl⟩, .refl⟩ (.rest _ _)⟩
  have pending : pressedWorld.bits.contains .resetRequested = true := by decide
  exact ⟨buttonOnly_keepsRequests, _, _, acts_longPress, asks, pending,
    (reset_lost_in_sleep_iff buttonOnly_keepsRequests asks).1⟩

end Lifecycle

end HatchSensor
