import HatchSensor.Proofs.Received
import HatchSensor.Proofs.Waits

/-!
# No reset is reported unseen

A phase learns of a requested reset from the register only: from a look, a wait that was woken, or a
question for all bits.  In a dialogue in which none of these has shown the request, no part of a
phase gives up because of one.

`Program.Heeds` says what a program returns after such a dialogue.  It is proved along the program,
whatever the surroundings answer.
-/

namespace HatchSensor

open Program

/-- Nothing in the dialogue shows that a reset is requested. -/
def Unseen (d : Dialogue Surroundings) : Prop :=
  ∀ e ∈ d, ∀ bits, e.Saw bits → bits.contains .resetRequested = false

section Unseen

variable {d e : Dialogue Surroundings}

lemma unseen_append : Unseen (d ++ e) ↔ Unseen d ∧ Unseen e := by
  simp only [Unseen, List.forall_mem_append]

lemma unseen_singleton {x : Exchange Surroundings} :
    Unseen [x] ↔ ∀ bits, x.Saw bits → bits.contains .resetRequested = false := by
  simp only [Unseen, List.forall_mem_singleton]

end Unseen

/-! ## Programs that heed the register -/

namespace Program

variable {σ α β : Type} {B : Behaviour Surroundings σ} {Q : α → Prop} {R : β → Prop}

/-- As long as no request for a reset is seen, the program returns values with the property only. -/
def Heeds (B : Behaviour Surroundings σ) (Q : α → Prop) (p : Program Surroundings α) : Prop :=
  ∀ ⦃s d a t⦄, Returns B p s d a t → Unseen d → Q a

lemma heeds_done {a : α} (h : Q a) : Heeds B Q (.done a) := by
  intro s d b t halted _
  obtain ⟨-, rfl, -⟩ := returns_done.mp halted
  exact h

lemma heeds_bind {p : Program Surroundings α} {k : α → Program Surroundings β} (first : Heeds B Q p)
    (second : ∀ a, Q a → Heeds B R (k a)) : Heeds B R (p >>= k) := by
  intro s d b t h unseen
  obtain ⟨d₁, a, u, d₂, rfl, part, rest⟩ := returns_bind.mp h
  obtain ⟨unseen₁, unseen₂⟩ := unseen_append.mp unseen
  exact second a (first part unseen₁) rest unseen₂

/-- It does not matter what the first part returns. -/
lemma heeds_then {p : Program Surroundings α} {k : α → Program Surroundings β}
    (second : ∀ a, Heeds B R (k a)) : Heeds B R (p >>= k) :=
  heeds_bind (Q := fun _ => True) (fun _ _ _ _ _ _ => trivial) fun a _ => second a

lemma heeds_run_then {x : DeviceProgram α} {k : α → DeviceProgram β}
    {R : Except DeviceError β → Prop} (failed : ∀ e, R (.error e))
    (second : ∀ a, Heeds B R (k a).run) : Heeds B R (x >>= k).run := by
  rw [ExceptT.run_bind]
  refine heeds_then fun y => ?_
  cases y with
  | error e => exact heeds_done (failed e)
  | ok a => exact second a

lemma heeds_ask_bind {p : Program Surroundings α} {k : α → DeviceProgram β}
    {R : Except DeviceError β → Prop} (first : Heeds B Q p)
    (second : ∀ a, Q a → Heeds B R (k a).run) : Heeds B R (DeviceProgram.ask p >>= k).run := by
  rw [DeviceProgram.run_ask_bind]
  exact heeds_bind first second

end Program

variable {σ : Type} {B : Behaviour Surroundings σ}

/-- The bits show no request for a reset. -/
def SignalBits.Calm (bits : SignalBits) : Prop := bits.contains .resetRequested = false

lemma heeds_signals : Heeds B SignalBits.Calm Surroundings.signals := by
  intro s d bits t h unseen
  obtain ⟨rfl, -⟩ := returns_request.mp h
  exact unseen_singleton.mp unseen _ (.signals bits)

/-- A wait returns bits that it has seen. -/
lemma heeds_awaitSignal (mask : SignalBits) (timeout : Nat) :
    Heeds B SignalBits.Calm (awaitSignal mask timeout) := by
  have closes : ∀ {id : UInt32} {bits : SignalBits}, bits.Calm →
      Heeds B SignalBits.Calm (Surroundings.closeWait id >>= fun _ => pure bits) :=
    fun calm => heeds_then fun _ => heeds_done calm
  refine heeds_then fun id => heeds_then fun start =>
    heeds_bind (Q := fun found => ∀ bits, found = some bits → bits.Calm) ?_ fun found calm => ?_
  · intro s d found t h unseen bits seen
    obtain ⟨rfl, -⟩ := returns_request.mp h
    subst seen
    exact unseen_singleton.mp unseen _ (.look _ _ _)
  · cases found with
    | some bits => exact closes (calm bits rfl)
    | none =>
      refine heeds_bind (Q := fun wake => ∀ bits, wake = .signalled bits → bits.Calm) ?_
        fun wake calm => ?_
      · intro s d wake t h unseen bits seen
        obtain ⟨rfl, -⟩ := returns_request.mp h
        subst seen
        exact unseen_singleton.mp unseen _ (.park _ _ _ _ _)
      · cases wake with
        | signalled bits => exact closes (calm bits rfl)
        | expired => exact heeds_bind heeds_signals fun _ calm => closes calm
        | elapsed => exact heeds_bind heeds_signals fun _ calm => closes calm

/-- Going online is not given up for a reset. -/
lemma heeds_bringUp (timing : DeviceTiming) : Heeds B (· ≠ .resetRequested) (bringUp timing) := by
  refine heeds_then fun found => ?_
  cases found with
  | none => exact heeds_done (by simp)
  | some credentials =>
    refine heeds_then fun _ => heeds_then fun joined => ?_
    cases joined with
    | error e => exact heeds_done (by simp)
    | ok _ =>
      refine heeds_bind (heeds_awaitSignal _ _) fun bits calm => ?_
      rw [if_neg (Bool.eq_false_iff.mp calm)]
      split
      · exact heeds_done (by simp)
      · refine heeds_then fun set => ?_
        split
        · exact heeds_done (by simp)
        · refine heeds_bind heeds_signals fun bits calm => ?_
          rw [if_neg (Bool.eq_false_iff.mp calm)]
          exact heeds_done (by simp)

namespace ShadowExchange

lemma heeds_conclude (id : UInt32) (pumped : Attempt (Option HatchConfig)) :
    Heeds B (· ≠ .ok .resetRequested) (conclude id pumped) := by
  refine heeds_then fun _ => ?_
  cases pumped with
  | error reason => exact heeds_done (by simp)
  | ok received =>
    refine heeds_bind heeds_signals fun bits calm => ?_
    rw [if_neg (Bool.eq_false_iff.mp calm)]
    cases received with
    | none => exact heeds_done (by simp)
    | some config => exact heeds_done (by simp)

/-- Neither is a shadow exchange. -/
lemma heeds_fetch (schedule : PumpSchedule) (thing : String) (current : HatchConfig) :
    Heeds B (· ≠ .ok .resetRequested) (fetch schedule thing current) := by
  refine heeds_then fun _ => heeds_then fun connected => ?_
  cases connected with
  | error e => exact heeds_done (by simp)
  | ok _ =>
    refine heeds_bind ?_ fun outcome calm =>
      heeds_then fun _ => heeds_then fun _ => heeds_done calm
    refine heeds_then fun requested => ?_
    cases requested with
    | error e => exact heeds_done (by simp)
    | ok _ =>
      refine heeds_then fun id => heeds_then fun start => heeds_then fun found => ?_
      cases found with
      | some bits => exact heeds_conclude id (.ok none)
      | none => exact heeds_then fun pumped => heeds_conclude id pumped

end ShadowExchange

lemma heeds_fetchShadow (device : DeviceSettings) (current : HatchConfig) :
    Heeds B (· ≠ some .resetRequested) (fetchShadow device current) := by
  refine heeds_then fun name =>
    heeds_bind (ShadowExchange.heeds_fetch _ _ _) fun outcome calm => ?_
  cases outcome with
  | error e => exact heeds_done (by simp)
  | ok outcome => exact heeds_done fun same => calm (congrArg Except.ok (Option.some.inj same))

namespace Lifecycle

variable {L : Licence} {device : DeviceSettings} {d : Dialogue Surroundings}

/-- Consulting the cloud is not given up for a reset that nobody has seen. -/
lemma Consulted.not_reset {current : HatchConfig} {outcome : Option ShadowOutcome}
    (h : Consulted L device current d outcome) (unseen : Unseen d) :
    outcome ≠ some .resetRequested := by
  cases h with
  | down linked => simp
  | reset linked => exact absurd rfl (heeds_bringUp _ linked unseen)
  | up linked fetched => exact heeds_fetchShadow _ _ fetched (unseen_append.mp unseen).2

/-- Provisioning asks for sleep, unless it fails. -/
lemma heeds_provision (device : DeviceSettings) :
    Heeds B (· ≠ .ok 0) (provision device).run := by
  have asleep : ∀ {seconds : UInt32}, seconds ≠ 0 →
      Heeds B (· ≠ .ok 0) (pure seconds : DeviceProgram UInt32).run :=
    fun some => heeds_done fun same => some (Except.ok.inj same)
  refine heeds_run_then (by simp) fun _ => heeds_run_then (by simp) fun opened => ?_
  cases opened with
  | error reason => exact heeds_run_then (by simp) fun _ => asleep (by decide)
  | ok _ =>
    refine heeds_ask_bind (heeds_awaitSignal _ _) fun bits calm =>
      heeds_run_then (by simp) fun _ => heeds_run_then (by simp) fun _ => ?_
    rw [if_neg (Bool.eq_false_iff.mp calm)]
    split
    · exact asleep (by decide)
    · refine heeds_run_then (by simp) fun found => ?_
      cases found with
      | none => exact asleep (by decide)
      | some credentials =>
        exact heeds_run_then (by simp) fun _ => heeds_run_then (by simp) fun _ =>
          asleep (by decide)

end Lifecycle

end HatchSensor
