import HatchSensor.Proofs.BenchRuns
import HatchSensor.Proofs.DeepSleep
import HatchSensor.Bench.Action
import Mathlib.Algebra.Order.Floor.Div

/-!
# Sleep and a held button

A device that is to sleep and finds its button held waits for the release, and sleeps for what is
left of its time.  It tells the time by a counter of milliseconds that starts over after `2 ^ 32` of
them.  A reset that it sees meanwhile is carried out, and the device begins again, with a sleep of
one second.

`Lifecycle.Settles` is the course of all this, with the sleep that follows a hold: what is left in
whole seconds, rounded up, and at least one.  But there is a slip.  When the counter starts over
during a hold a millisecond gets lost, so that a hold of whole seconds is charged a second less.
`Lifecycle.sleep_follows_holds` says that this is all there is to it.
-/

namespace HatchSensor

open Program

namespace Lifecycle

/-! ## The charge -/

/-- The button was held when the device was to sleep. -/
structure Hold where
  /-- The counter before the wait for the release. -/
  started : UInt32
  /-- The milliseconds that were counted until the wait was over. -/
  elapsed : UInt32
  /-- The register when the wait was over. -/
  seen : SignalBits

/-- The seconds that are left after some milliseconds, rounded up, and at least one. -/
def secondsLeft (seconds : UInt32) (elapsed : Nat) : Nat :=
  max 1 ((1000 * seconds.toNat - elapsed) ⌈/⌉ 1000)

lemma secondsLeft_eq (seconds : UInt32) (elapsed : Nat) :
    secondsLeft seconds elapsed = max 1 ((1000 * seconds.toNat - elapsed + 999) / 1000) := by
  rw [secondsLeft, Nat.ceilDiv_eq_add_pred_div, Nat.add_sub_assoc (by decide)]

/-- The seconds of a sleep are those that are left. -/
lemma toNat_sleepSeconds (seconds : UInt32) (charged : Nat) :
    (Stage.sleepSeconds (seconds.toNat * 1000 - charged)).toNat = secondsLeft seconds charged := by
  have bound := seconds.toNat_lt
  have size : UInt32.size = 2 ^ 32 := rfl
  rw [Stage.sleepSeconds, shortestSleep, secondsLeft_eq, UInt32.toNat_ofNat_of_lt' (by omega)]
  omega

namespace Hold

/-- The counter has started over during the hold. -/
def StartsOver (hold : Hold) : Prop := 2 ^ 32 ≤ hold.started.toNat + hold.elapsed.toNat

instance (hold : Hold) : Decidable hold.StartsOver := inferInstanceAs (Decidable (_ ≤ _))

/-- The milliseconds that the device makes of the two samples of its counter. -/
def charged (hold : Hold) : Nat := (tickDuration hold.started (hold.started + hold.elapsed)).toNat

/-- While the counter goes on, every millisecond is charged. -/
lemma charged_of_not_startsOver {hold : Hold} (straight : ¬ hold.StartsOver) :
    hold.charged = hold.elapsed.toNat := by
  unfold StartsOver at straight
  have sum : (hold.started + hold.elapsed).toNat = hold.started.toNat + hold.elapsed.toNat := by
    rw [UInt32.toNat_add, Nat.mod_eq_of_lt (by omega)]
  have order : hold.started ≤ hold.started + hold.elapsed := by
    rw [UInt32.le_iff_toNat_le, sum]
    exact Nat.le_add_right _ _
  rw [charged, tickDuration, if_pos order, UInt32.toNat_sub_of_le _ _ order, sum]
  exact Nat.add_sub_cancel_left _ _

/-- A millisecond is lost when the counter starts over. -/
lemma charged_of_startsOver {hold : Hold} (wrapped : hold.StartsOver) :
    hold.charged + 1 = hold.elapsed.toNat := by
  have started := hold.started.toNat_lt
  have elapsed := hold.elapsed.toNat_lt
  unfold StartsOver at wrapped
  have sum : (hold.started + hold.elapsed).toNat + 2 ^ 32
      = hold.started.toNat + hold.elapsed.toNat := by
    rw [UInt32.toNat_add]
    omega
  have order : ¬ hold.started ≤ hold.started + hold.elapsed := by
    rw [UInt32.le_iff_toNat_le]
    omega
  have rest : (0xffffffff - hold.started).toNat = 0xffffffff - hold.started.toNat :=
    UInt32.toNat_sub_of_le _ _ (UInt32.le_iff_toNat_le.mpr (Nat.le_of_lt_succ started))
  rw [charged, tickDuration, if_neg order, UInt32.toNat_add, rest]
  omega

/-- The lost millisecond makes a second. -/
def Miscounted (hold : Hold) (seconds : UInt32) : Prop :=
  hold.StartsOver ∧ 1000 ∣ hold.elapsed.toNat ∧ hold.elapsed.toNat < 1000 * seconds.toNat

instance (hold : Hold) (seconds : UInt32) : Decidable (hold.Miscounted seconds) :=
  inferInstanceAs (Decidable (_ ∧ _))

/-- The seconds of the sleep that follows the hold. -/
def sleepAfter (hold : Hold) (seconds : UInt32) : Nat :=
  secondsLeft seconds hold.elapsed.toNat + if hold.Miscounted seconds then 1 else 0

lemma secondsLeft_charged (hold : Hold) (seconds : UInt32) :
    secondsLeft seconds hold.charged = hold.sleepAfter seconds := by
  unfold sleepAfter
  by_cases wrapped : hold.StartsOver
  · have lost := charged_of_startsOver wrapped
    rw [secondsLeft_eq, secondsLeft_eq]
    by_cases whole : hold.Miscounted seconds
    · obtain ⟨-, ⟨n, count⟩, short⟩ := whole
      rw [if_pos ⟨wrapped, ⟨n, count⟩, short⟩]
      omega
    · have uneven : ¬ (1000 ∣ hold.elapsed.toNat ∧ hold.elapsed.toNat < 1000 * seconds.toNat) :=
        fun both => whole ⟨wrapped, both⟩
      rw [if_neg whole]
      omega
  · rw [charged_of_not_startsOver wrapped, if_neg fun whole => wrapped whole.1, Nat.add_zero]

end Hold

/-! ## The course of falling asleep -/

variable {σ : Type} {B : Behaviour Surroundings σ} {u u' : σ} {d d' : Dialogue Surroundings}
  {seconds : UInt32} {hold : Hold} {rounds : Nat} {stage : Stage} {device : DeviceSettings}

/-- A device that is to sleep finds its button held, and waits. -/
inductive Held (B : Behaviour Surroundings σ) (seconds : UInt32) :
    σ → Dialogue Surroundings → Hold → σ → Prop
  /-- The counter is sampled before and after the wait. -/
  | waited {bits : SignalBits} {hold : Hold} {u₀ u₁ u₂ u₃ u₄ : σ} {d : Dialogue Surroundings}
      (look : B .signals u₀ bits u₁) (pressed : bits.contains .buttonPressed = true)
      (before : B .ticks u₁ hold.started u₂)
      (wait : Returns B (awaitSignal .buttonReleased
        (max (seconds.toNat * 1000000) shortestRelease)) u₂ d hold.seen u₃)
      (after : B .ticks u₃ (hold.started + hold.elapsed) u₄) :
      Held B seconds u₀ (⟨DeviceRequest.signals, bits⟩ :: ⟨DeviceRequest.ticks, hold.started⟩ ::
        (d ++ [⟨DeviceRequest.ticks, hold.started + hold.elapsed⟩])) hold u₄

/-- `Settles B rounds s u d stage u'`: a device that is to sleep for `s` seconds comes to `stage`
with the dialogue `d`, after at most `rounds` looks at the button. -/
inductive Settles (B : Behaviour Surroundings σ) :
    Nat → UInt32 → σ → Dialogue Surroundings → Stage → σ → Prop
  /-- It does not look again. -/
  | paused (seconds : UInt32) (u : σ) :
      Settles B 0 seconds u [] (.settling seconds (seconds.toNat * 1000)) u
  /-- The button is up, and the device sleeps for the whole time. -/
  | up {rounds : Nat} {seconds slept : UInt32} {bits : SignalBits} {u₀ u₁ u₂ : σ}
      (look : B .signals u₀ bits u₁) (released : bits.contains .buttonPressed = false)
      (exact : slept.toNat = secondsLeft seconds 0) (sleep : B (.sleep slept) u₁ () u₂) :
      Settles B (rounds + 1) seconds u₀
        [⟨DeviceRequest.signals, bits⟩, ⟨DeviceRequest.sleep slept, ()⟩] (.asleep slept) u₂
  /-- The button was held, and no reset was seen. -/
  | charged {rounds : Nat} {seconds slept : UInt32} {hold : Hold} {u₀ u₁ u₂ : σ}
      {d : Dialogue Surroundings} (held : Held B seconds u₀ d hold u₁)
      (quiet : hold.seen.contains .resetRequested = false)
      (law : slept.toNat = hold.sleepAfter seconds) (sleep : B (.sleep slept) u₁ () u₂) :
      Settles B (rounds + 1) seconds u₀ (d ++ [⟨DeviceRequest.sleep slept, ()⟩]) (.asleep slept) u₂
  /-- The button was held, a reset was seen and carried out, and everything starts again with a
  sleep of one second. -/
  | again {rounds : Nat} {seconds : UInt32} {hold : Hold} {u₀ u₁ u₂ u₃ : σ} {stage : Stage}
      {d₁ d₂ d₃ : Dialogue Surroundings} (held : Held B seconds u₀ d₁ hold u₁)
      (requested : hold.seen.contains .resetRequested = true)
      (reset : Returns B factoryReset.run u₁ d₂ (.ok 1) u₂)
      (later : Settles B rounds 1 u₂ d₃ stage u₃) :
      Settles B (rounds + 1) seconds u₀ (d₁ ++ d₂ ++ d₃) stage u₃
  /-- The reset could not be carried out. -/
  | failed {rounds : Nat} {seconds : UInt32} {hold : Hold} {u₀ u₁ u₂ : σ} {reason : DeviceError}
      {d₁ d₂ : Dialogue Surroundings} (held : Held B seconds u₀ d₁ hold u₁)
      (requested : hold.seen.contains .resetRequested = true)
      (reset : Returns B factoryReset.run u₁ d₂ (.error reason) u₂) :
      Settles B (rounds + 1) seconds u₀ (d₁ ++ d₂) (.failed reason) u₂

/-- The sleeps that a dialogue asks for. -/
def sleepsIn (d : Dialogue Surroundings) : List UInt32 :=
  d.filterMap fun e =>
    match e.request with
    | .sleep seconds => some seconds
    | _ => none

/-- The sleep at which a course ends. -/
def Stage.slept : Stage → List UInt32
  | asleep seconds => [seconds]
  | _ => []

/-! ## One look at the button -/

/-- What follows a hold. -/
def Stage.afterHold (seconds : UInt32) (hold : Hold) : Program Surroundings Stage := do
  if hold.seen.contains .resetRequested then return afterStep (← factoryReset.run)
  else fallAsleep (seconds.toNat * 1000 - hold.charged)

/-- The device sleeps once, for the seconds that are left. -/
lemma returns_fallAsleep {charged : Nat} :
    Returns B (Stage.fallAsleep (seconds.toNat * 1000 - charged)) u d stage u' ↔
      ∃ slept : UInt32, slept.toNat = secondsLeft seconds charged ∧ B (.sleep slept) u () u' ∧
        stage = .asleep slept ∧ d = [⟨DeviceRequest.sleep slept, ()⟩] := by
  have slept : ∀ slept : UInt32, slept.toNat = secondsLeft seconds charged ↔
      slept = Stage.sleepSeconds (seconds.toNat * 1000 - charged) := fun slept => by
    rw [← toNat_sleepSeconds, UInt32.toNat_inj]
  simp only [slept, exists_eq_left]
  constructor
  · intro h
    obtain ⟨_, u₁, d₁, rfl, answered, halted⟩ := returns_request_bind.mp h
    obtain ⟨rfl, rfl, rfl⟩ := returns_done.mp halted
    exact ⟨answered, rfl, rfl⟩
  · rintro ⟨answered, rfl, rfl⟩
    exact returns_request_bind.mpr ⟨(), u', [], rfl, answered, .rest _ _⟩

/-- Between two samples the counter has moved on by some milliseconds. -/
lemma exists_elapsed (started ended : UInt32) : ∃ elapsed, ended = started + elapsed :=
  ⟨ended - started, by rw [UInt32.add_comm, UInt32.sub_add_cancel]⟩

/-- The device looks at its button, and sleeps at once if it is up.  Otherwise it waits, and goes on
as the hold has been. -/
lemma returns_settle :
    Returns B (Stage.settle seconds (seconds.toNat * 1000)) u d stage u' ↔
      (∃ bits u₁ d', B .signals u bits u₁ ∧ bits.contains .buttonPressed = false ∧
        Returns B (Stage.fallAsleep (seconds.toNat * 1000 - 0)) u₁ d' stage u' ∧
        d = ⟨DeviceRequest.signals, bits⟩ :: d') ∨
      ∃ d₁ hold u₁ d₂, Held B seconds u d₁ hold u₁ ∧
        Returns B (Stage.afterHold seconds hold) u₁ d₂ stage u' ∧ d = d₁ ++ d₂ := by
  rw [settle_eq]
  constructor
  · intro h
    obtain ⟨bits, u₁, d₁, rfl, look, h₁⟩ := returns_request_bind.mp h
    split at h₁
    · next up => exact Or.inl ⟨bits, u₁, d₁, look, by simpa using up, h₁, rfl⟩
    · next down =>
      obtain ⟨started, u₂, d₂, rfl, before, h₂⟩ := returns_request_bind.mp h₁
      obtain ⟨d₃, seen, u₃, d₄, rfl, wait, h₃⟩ := returns_bind.mp h₂
      obtain ⟨ended, u₄, d₅, rfl, after, h₄⟩ := returns_request_bind.mp h₃
      obtain ⟨elapsed, rfl⟩ := exists_elapsed started ended
      have pressed : bits.contains .buttonPressed = true := by simpa using down
      refine Or.inr ⟨_, ⟨started, elapsed, seen⟩, u₄, d₅,
        .waited look pressed before wait after, h₄, ?_⟩
      simp only [List.cons_append, List.append_assoc, List.nil_append]
  · rintro (⟨bits, u₁, d', look, up, asleep, rfl⟩ | ⟨d₁, hold, u₁, d₂, held, later, rfl⟩)
    · refine returns_request_bind.mpr ⟨bits, u₁, d', rfl, look, ?_⟩
      rwa [up]
    · obtain ⟨look, pressed, before, wait, after⟩ := held
      refine returns_request_bind.mpr ⟨_, _, _, rfl, look, ?_⟩
      rw [pressed]
      refine returns_request_bind.mpr ⟨_, _, _, rfl, before, returns_bind.mpr ?_⟩
      refine ⟨_, _, _, _, List.append_assoc _ _ _, wait, returns_request_bind.mpr ?_⟩
      exact ⟨_, _, _, rfl, after, later⟩

/-- After a hold the device sleeps for what is left, or carries out the reset it has seen. -/
lemma returns_afterHold :
    Returns B (Stage.afterHold seconds hold) u d stage u' ↔
      (hold.seen.contains .resetRequested = false ∧
        ∃ slept : UInt32, slept.toNat = hold.sleepAfter seconds ∧ B (.sleep slept) u () u' ∧
          stage = .asleep slept ∧ d = [⟨DeviceRequest.sleep slept, ()⟩]) ∨
      hold.seen.contains .resetRequested = true ∧
        ∃ y, Returns B factoryReset.run u d y u' ∧ stage = Stage.afterStep y := by
  unfold Stage.afterHold
  cases hold.seen.contains .resetRequested with
  | false =>
    rw [if_neg Bool.false_ne_true, returns_fallAsleep, Hold.secondsLeft_charged]
    exact ⟨fun asleep => Or.inl ⟨rfl, asleep⟩, fun h => h.elim And.right fun no => nomatch no.1⟩
  | true =>
    rw [if_pos rfl]
    constructor
    · intro h
      obtain ⟨d₁, y, u₁, d₂, rfl, reset, halted⟩ := returns_bind.mp h
      obtain ⟨rfl, rfl, rfl⟩ := returns_done.mp halted
      exact Or.inr ⟨rfl, y, (List.append_nil d₁).symm ▸ reset, rfl⟩
    · rintro (⟨no, -⟩ | ⟨-, y, reset, rfl⟩)
      · exact nomatch no
      · exact returns_bind.mpr ⟨d, y, u', [], (List.append_nil d).symm, reset, .rest _ _⟩

/-! ## All of them -/

/-- A look at the button may be the last thing before the device is done. -/
lemma returns_of_settled_once {last : Stage} (isOver : last.isOver = true)
    (settled : Returns B (Stage.settle seconds (seconds.toNat * 1000)) u d last u') :
    Returns B (Stage.advanceMany device (rounds + 1) (.settling seconds (seconds.toNat * 1000)))
      u d last u' := by
  rw [advanceMany_settling, returns_bind]
  exact ⟨d, last, u', [], (List.append_nil d).symm, settled,
    advanceMany_of_isOver isOver ▸ .rest _ _⟩

/-- If a device is done after one look at the button, nothing follows. -/
lemma eq_of_settled_once {last : Stage} (isOver : last.isOver = true)
    (later : Returns B (Stage.advanceMany device rounds last) u d stage u') :
    d = [] ∧ stage = last ∧ u' = u := by
  rw [advanceMany_of_isOver isOver] at later
  exact returns_done.mp later

/-- A device that is to sleep follows its course. -/
lemma settles_of_returns
    (h : Returns B (Stage.advanceMany device rounds (.settling seconds (seconds.toNat * 1000)))
      u d stage u') : Settles B rounds seconds u d stage u' := by
  induction rounds generalizing seconds u d with
  | zero =>
    obtain ⟨rfl, rfl, rfl⟩ := returns_done.mp h
    exact .paused seconds u'
  | succ rounds ih =>
    rw [advanceMany_settling] at h
    obtain ⟨d₁, next, u₁, d₂, rfl, settled, later⟩ := returns_bind.mp h
    rcases returns_settle.mp settled with
      ⟨bits, u₂, d₃, look, up, asleep, rfl⟩ | ⟨d₃, hold, u₂, d₄, held, follows, rfl⟩
    · obtain ⟨slept, exact, sleep, rfl, rfl⟩ := returns_fallAsleep.mp asleep
      obtain ⟨rfl, rfl, rfl⟩ := eq_of_settled_once rfl later
      exact .up look up exact sleep
    rcases returns_afterHold.mp follows with
      ⟨quiet, slept, law, sleep, rfl, rfl⟩ | ⟨requested, y, reset, rfl⟩
    · obtain ⟨rfl, rfl, rfl⟩ := eq_of_settled_once rfl later
      rw [List.append_nil]
      exact .charged held quiet law sleep
    cases y with
    | error reason =>
      obtain ⟨rfl, rfl, rfl⟩ := eq_of_settled_once rfl later
      rw [List.append_nil]
      exact .failed held requested reset
    | ok asked =>
      obtain ⟨rfl, -⟩ := clears_of_factoryReset reset
      exact .again held requested reset (ih later)

/-- A course is followed by a device that is to sleep. -/
lemma returns_of_settles (h : Settles B rounds seconds u d stage u') :
    Returns B (Stage.advanceMany device rounds (.settling seconds (seconds.toNat * 1000)))
      u d stage u' := by
  induction h with
  | paused seconds u => exact .rest _ _
  | up look released exact sleep =>
    have asleep := returns_fallAsleep.mpr ⟨_, exact, sleep, rfl, rfl⟩
    exact returns_of_settled_once rfl
      (returns_settle.mpr (Or.inl ⟨_, _, _, look, released, asleep, rfl⟩))
  | @charged rounds seconds slept hold u₀ u₁ u₂ d held quiet law sleep =>
    have follows := returns_afterHold.mpr (Or.inl ⟨quiet, slept, law, sleep, rfl, rfl⟩)
    exact returns_of_settled_once rfl
      (returns_settle.mpr (Or.inr ⟨d, hold, u₁, _, held, follows, rfl⟩))
  | @again rounds seconds hold u₀ u₁ u₂ u₃ stage d₁ d₂ d₃ held requested reset later ih =>
    have follows : Returns B (Stage.afterHold seconds hold) u₁ d₂ (.settling 1 1000) u₂ :=
      returns_afterHold.mpr (Or.inr ⟨requested, .ok 1, reset, rfl⟩)
    have settled := returns_settle.mpr (Or.inr ⟨d₁, hold, u₁, d₂, held, follows, rfl⟩)
    exact returns_bind.mpr ⟨_, _, _, d₃, rfl, settled, ih⟩
  | @failed rounds seconds hold u₀ u₁ u₂ reason d₁ d₂ held requested reset =>
    have follows : Returns B (Stage.afterHold seconds hold) u₁ d₂ (.failed reason) u₂ :=
      returns_afterHold.mpr (Or.inr ⟨requested, .error reason, reset, rfl⟩)
    exact returns_of_settled_once rfl
      (returns_settle.mpr (Or.inr ⟨d₁, hold, u₁, d₂, held, follows, rfl⟩))

/-! ### Sleeping once -/

lemma sleepsIn_append : sleepsIn (d ++ d') = sleepsIn d ++ sleepsIn d' := List.filterMap_append

/-- A program that cannot sleep has no sleep in its dialogues. -/
lemma sleepsIn_of_stays {α : Type} {f : Footprint} {p q : Program Surroundings α}
    (h : Reaches B p u d q u') (stays : p.Stays f) (awake : f.sleeps = false) :
    sleepsIn d = [] := by
  refine List.filterMap_eq_nil_iff.mpr fun e there => ?_
  have allowed := (h.only stays).1 e there
  cases request : e.request with
  | sleep seconds =>
    rw [request] at allowed
    exact absurd (awake.symm.trans allowed) Bool.false_ne_true
  | _ => rfl

lemma sleepsIn_of_held (h : Held B seconds u d hold u') : sleepsIn d = [] := by
  cases h with
  | @waited bits hold u₀ u₁ u₂ u₃ u₄ d look pressed before wait after =>
    have awake : sleepsIn d = [] :=
      sleepsIn_of_stays wait (stays_awaitSignal (f := .none) _ _) rfl
    have rest : sleepsIn (d ++ [⟨DeviceRequest.ticks, hold.started + hold.elapsed⟩]) = [] := by
      rw [sleepsIn_append, awake]
      rfl
    exact rest

/-- A factory reset does not sleep. -/
lemma sleepsIn_of_factoryReset {y : Except DeviceError UInt32}
    (h : Returns B factoryReset.run u d y u') : sleepsIn d = [] :=
  sleepsIn_of_stays h
    (f := ⟨[HatchConfig.blob, Credentials.ssidBlob, Credentials.passwordBlob, Phase.blob],
      false, false, false⟩)
    (stays_factoryReset (by simp) (by simp) (by simp) (by simp)) rfl

/-- A course that ends asleep has one sleep, and every other has none. -/
lemma Settles.sleepsIn_eq (h : Settles B rounds seconds u d stage u') :
    sleepsIn d = stage.slept := by
  induction h with
  | paused seconds u => rfl
  | up look released exact sleep => rfl
  | charged held quiet law sleep =>
    rw [sleepsIn_append, sleepsIn_of_held held]
    rfl
  | again held requested reset later ih =>
    rw [sleepsIn_append, sleepsIn_append, sleepsIn_of_held held, sleepsIn_of_factoryReset reset, ih]
    rfl
  | failed held requested reset =>
    rw [sleepsIn_append, sleepsIn_of_held held, sleepsIn_of_factoryReset reset]
    rfl

/-- What a device does that is to sleep for some seconds, in any surroundings.  It follows its
course, with one sleep if it comes to sleep at all: for the seconds that are left after the last
hold, and for one more if the counter started over during that hold and whole seconds less than the
requested ones had been counted. -/
theorem sleep_follows_holds (device : DeviceSettings) (rounds : Nat) (seconds : UInt32) (u : σ)
    (d : Dialogue Surroundings) (stage : Stage) (u' : σ) :
    (Returns B (Stage.advanceMany device rounds (.settling seconds (seconds.toNat * 1000)))
      u d stage u' ↔ Settles B rounds seconds u d stage u') ∧
    (Settles B rounds seconds u d stage u' → sleepsIn d = stage.slept) :=
  ⟨⟨settles_of_returns, returns_of_settles⟩, Settles.sleepsIn_eq⟩

end Lifecycle

namespace TimedBench

open Lifecycle

/-- A bench whose counter is about to start over, and whose button is held for a second. -/
def heldBench : TimedBench ScriptedSensor BenchAction where
  world :=
    { Bench.start 0 (ScriptedSensor.start []) with
      clock := ⟨0, 4294967000, none⟩
      register := SignalRegister.empty.set .buttonPressed }
  now := 0
  pending := [(1000000, .advanceClock 1), (1000000, .set .buttonReleased)]
  sampleDue := none
  horizon := none

/-- The wait for the release ends after a second, without a reset. -/
lemma heldBench_waited : ∃ d seen t, Returns (answers Bench.rules)
    (awaitSignal .buttonReleased (max ((900 : UInt32).toNat * 1000000) shortestRelease))
    heldBench d seen t ∧ seen.contains .resetRequested = false ∧ t.world.clock.ticks = 704 := by
  obtain ⟨d, waited⟩ := returns_run Bench.rules
    (awaitSignal .buttonReleased (max ((900 : UInt32).toNat * 1000000) shortestRelease)) heldBench
  exact ⟨d, _, _, waited, by decide +kernel, by decide +kernel⟩

/-- The device wants to sleep for a quarter of an hour, spends a second of it on waiting, and sleeps
for all of it. -/
theorem held_second_is_not_charged :
    ∃ hold d t, hold.started = 4294967000 ∧ hold.elapsed = 1000 ∧
      Held (answers Bench.rules) 900 heldBench d hold t ∧
      ∃ d' t', Returns (answers Bench.rules)
          (Stage.advanceMany ⟨"", .standard⟩ 1 (.settling 900 900000)) heldBench
          d' (.asleep 900) t' ∧
        sleepsIn d' = [900] ∧ secondsLeft 900 1000 = 899 := by
  obtain ⟨d, seen, t, waited, quiet, counted⟩ := heldBench_waited
  have after : answers Bench.rules .ticks t ((4294967000 : UInt32) + (1000 : UInt32)) t :=
    congrArg (Prod.mk · t) counted
  have look : answers Bench.rules .signals heldBench SignalBits.buttonPressed heldBench := rfl
  have before : answers Bench.rules .ticks heldBench (4294967000 : UInt32) heldBench := rfl
  have held : Held (answers Bench.rules) 900 heldBench _ ⟨4294967000, 1000, seen⟩ t :=
    .waited look (by decide) before waited after
  have lost : (tickDuration 4294967000 (4294967000 + 1000)).toNat = 999 := by decide +kernel
  have law : (900 : UInt32).toNat = Hold.sleepAfter ⟨4294967000, 1000, seen⟩ 900 := by
    rw [← Hold.secondsLeft_charged, Hold.charged, lost]
    decide +kernel
  have course : Settles (answers Bench.rules) 1 900 heldBench _ (.asleep 900) _ :=
    .charged held quiet law rfl
  obtain ⟨follows, once⟩ := sleep_follows_holds (B := answers Bench.rules) ⟨"", .standard⟩ 1 900
    heldBench _ (.asleep 900) _
  exact ⟨_, _, _, rfl, rfl, held, _, _, follows.mpr course, once course, by decide +kernel⟩

end TimedBench

end HatchSensor
