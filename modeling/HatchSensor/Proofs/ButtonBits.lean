import HatchSensor.Proofs.Signals

/-!
# The button in the signal register

The monitor of the button owns two bits of a register that it shares with all other tasks.  While
the others leave these two alone, the register mirrors what the detector knows: the one bit is set
exactly while the button counts as pressed, and the other never at the same time.  The release wait
before deep sleep rests on this.

A reset request is raised once per press: the detector latches, and only a release unlatches it.

The proofs look at the detector once, in `Edge`, and at the register bit by bit.
-/

namespace HatchSensor

/-! ## Edges -/

/-- What one sample can do to the detector, and what it reveals. -/
inductive ButtonDetector.Edge :
    ButtonDetector → ButtonDetector → Option ButtonEvent → Prop
  /-- The button counts as what it did, and a latched detector stays so. -/
  | quiet {detector next : ButtonDetector} (same : next.isPressed = detector.isPressed)
      (latch : detector = .latched → next = .latched) : Edge detector next none
  | pressed (since : Nat) : Edge (.debouncing since) (.tracking since) (some .pressed)
  | released (since held : Nat) : Edge (.tracking since) .idle (some (.released held))
  | resetRequested (since : Nat) : Edge (.tracking since) .latched (some .resetRequested)
  | resetReleased : Edge .latched .idle (some .resetReleased)

/-- Every sample makes such a step. -/
lemma ButtonDetector.edge_sample (detector : ButtonDetector) (level : Bool) (now : Nat) :
    Edge detector (detector.sample level now).1 (detector.sample level now).2 := by
  cases detector with
  | idle => cases level <;> exact .quiet rfl (fun h => nomatch h)
  | debouncing since =>
    cases level with
    | false => exact .quiet rfl (fun h => nomatch h)
    | true =>
      unfold sample
      by_cases long : debounceInterval ≤ now - since
      · simp only [if_true, if_pos long]
        exact .pressed since
      · simp only [if_true, if_neg long]
        exact .quiet rfl (fun h => nomatch h)
  | tracking since =>
    cases level with
    | false => exact .released since (now - since)
    | true =>
      unfold sample
      by_cases long : resetHold ≤ now - since
      · simp only [if_true, if_pos long]
        exact .resetRequested since
      · simp only [if_true, if_neg long]
        exact .quiet rfl (fun h => nomatch h)
  | latched =>
    cases level with
    | false => exact .resetReleased
    | true => exact .quiet rfl id

namespace SignalBits

/-- The two bits that mirror the button. -/
def buttonBits : SignalBits := buttonPressed.union buttonReleased

/-- The bits that the monitor of the button may change. -/
def monitorBits : SignalBits := buttonBits.union resetRequested

/-- Outside of `mask` the two sets are the same. -/
def SameOutside (mask a b : SignalBits) : Prop := a.without mask = b.without mask

lemma sameOutside_iff {mask a b : SignalBits} :
    SameOutside mask a b ↔ ∀ i < 32, mask.bit i = false → a.bit i = b.bit i := by
  constructor
  · intro same i hi outside
    have one : (a.without mask).bit i = (b.without mask).bit i := congrArg (·.bit i) same
    rwa [bit_without a mask hi, bit_without b mask hi, outside, Bool.not_false, Bool.and_true,
      Bool.and_true] at one
  · intro same
    refine ext_bit fun i hi => ?_
    rw [bit_without a mask hi, bit_without b mask hi]
    cases outside : mask.bit i with
    | false => rw [same i hi outside]
    | true => rw [Bool.not_true, Bool.and_false, Bool.and_false]

/-- A set that does not meet another has none of its bits. -/
lemma bit_eq_false_of_apart {a b : SignalBits} (apart : a.intersects b = false) {i : Nat}
    (hi : i < 32) (hb : b.bit i = true) : a.bit i = false := by
  cases there : a.bit i with
  | false => rfl
  | true => exact (intersects_iff.mpr ⟨i, hi, there, hb⟩).symm.trans apart

/-! ### The two bits of the button -/

/-- A press takes the mark of a release away. -/
lemma contains_buttonReleased_of_press (a : SignalBits) :
    ((a.without buttonReleased).union buttonPressed).contains buttonReleased = false := by
  have gone : buttonReleased.bit 4 = true := by decide
  have other : buttonPressed.bit 4 = false := by decide
  rw [contains_buttonReleased, bit_union, bit_without a _ (by decide), gone, other, Bool.not_true,
    Bool.and_false, Bool.or_false]

/-- A release takes the mark of a press away. -/
lemma contains_buttonPressed_of_release (a : SignalBits) :
    ((a.without buttonPressed).union buttonReleased).contains buttonPressed = false := by
  have gone : buttonPressed.bit 5 = true := by decide
  have other : buttonReleased.bit 5 = false := by decide
  rw [contains_buttonPressed, bit_union, bit_without a _ (by decide), gone, other, Bool.not_true,
    Bool.and_false, Bool.or_false]

/-- Whatever does not meet the bits of the button can be added and cleared without touching them. -/
lemma bit_of_apart {a : SignalBits} (apart : a.intersects buttonBits = false) :
    a.bit 5 = false ∧ a.bit 4 = false :=
  ⟨bit_eq_false_of_apart apart (by decide) (by decide),
    bit_eq_false_of_apart apart (by decide) (by decide)⟩

end SignalBits

namespace ButtonMonitor

/-! ## The shared register -/

/-- The monitor and the register that it shares. -/
structure Watch where
  /-- What the monitor knows about the button. -/
  detector : ButtonDetector
  /-- The register of all tasks. -/
  register : SignalRegister

/-- What happens to the register while the button is monitored. -/
inductive Happening where
  /-- The monitor samples the button. -/
  | poll (level : Bool) (now : Nat)
  /-- Another task raises signals. -/
  | raised (bits : SignalBits)
  /-- Another task clears signals. -/
  | cleared (bits : SignalBits)

/-- The others leave the two bits of the button alone. -/
def Happening.Fair : Happening → Prop
  | poll _ _ => True
  | raised bits => bits.intersects .buttonBits = false
  | cleared bits => bits.intersects .buttonBits = false

instance : DecidablePred Happening.Fair
  | .poll _ _ => isTrue trivial
  | .raised bits => inferInstanceAs (Decidable (bits.intersects .buttonBits = false))
  | .cleared bits => inferInstanceAs (Decidable (bits.intersects .buttonBits = false))

namespace Watch

/-- The monitor was started. -/
def start (register : SignalRegister) (cause : WakeCause) (level : Bool) (now : Nat) : Watch where
  detector := (ButtonMonitor.start register cause level now).1
  register := (ButtonMonitor.start register cause level now).2

/-- The next thing has happened. -/
def after (w : Watch) : Happening → Watch
  | .poll level now =>
    ⟨(ButtonMonitor.poll w.detector w.register level now).1,
      (ButtonMonitor.poll w.detector w.register level now).2.1⟩
  | .raised bits => { w with register := w.register.set bits }
  | .cleared bits => { w with register := w.register.clear bits }

/-- All of these things have happened, in order. -/
def run (w : Watch) (happenings : List Happening) : Watch := happenings.foldl after w

/-- The signals that a sample raises: those it leaves in a register that was empty. -/
def raises (w : Watch) (level : Bool) (now : Nat) : SignalBits :=
  (ButtonMonitor.poll w.detector .empty level now).2.1.bits

/-- What each of the samples raises, in order. -/
def raisedBySamples (w : Watch) : List Happening → List SignalBits
  | [] => []
  | .poll level now :: rest =>
    w.raises level now :: (w.after (.poll level now)).raisedBySamples rest
  | other :: rest => (w.after other).raisedBySamples rest

/-- The register says of the button what the detector says, and only one thing. -/
structure Mirrors (w : Watch) : Prop where
  /-- The button is held exactly if the detector counts it as pressed. -/
  pressed : w.register.bits.contains .buttonPressed = w.detector.isPressed
  /-- It is never both held and released. -/
  apart : ¬ (w.register.bits.contains .buttonPressed = true ∧
    w.register.bits.contains .buttonReleased = true)

/-! ## One step -/

variable {w : Watch}

/-- The signals after an event, in terms of those before. -/
lemma bits_publish (register : SignalRegister) (event : ButtonEvent) :
    (publish register event).1.bits = match event with
      | .pressed => (register.bits.without .buttonReleased).union .buttonPressed
      | .released _ => (register.bits.without .buttonPressed).union .buttonReleased
      | .resetRequested => register.bits.union .resetRequested
      | .resetReleased => (register.bits.without .buttonPressed).union .buttonReleased := by
  cases event <;> rfl

/-- A sample takes an edge of the detector and publishes what it reveals. -/
lemma poll_cases (w : Watch) (level : Bool) (now : Nat) :
    ∃ next event, ButtonDetector.Edge w.detector next event ∧
      w.after (.poll level now) = ⟨next, match event with
        | none => w.register
        | some e => (publish w.register e).1⟩ ∧
      w.raises level now = match event with
        | none => .none
        | some e => (publish .empty e).1.bits := by
  refine ⟨_, _, w.detector.edge_sample level now, ?_, ?_⟩
  · simp only [after, ButtonMonitor.poll]
    split <;> next sampled => rw [sampled]
  · unfold raises ButtonMonitor.poll
    split
    · next sampled =>
      rw [sampled]
      rfl
    · next sampled => rw [sampled]

open SignalBits in
/-- The monitor changes none but its own bits. -/
lemma sameOutside_poll (w : Watch) (level : Bool) (now : Nat) :
    SameOutside monitorBits w.register.bits (w.after (.poll level now)).register.bits := by
  obtain ⟨next, event, -, stepped, -⟩ := w.poll_cases level now
  rw [stepped, sameOutside_iff]
  intro i hi outside
  simp only [monitorBits, buttonBits, bit_union, Bool.or_eq_false_iff] at outside
  cases event with
  | none => rfl
  | some e =>
    rw [bits_publish]
    cases e <;> simp [hi, outside]

open SignalBits in
/-- After a sample the reset request is there if the sample raised it, or if it was there before. -/
lemma resetRequested_poll (w : Watch) (level : Bool) (now : Nat) :
    (w.after (.poll level now)).register.bits.contains .resetRequested
      = (w.register.bits.contains .resetRequested
        || (w.raises level now).contains .resetRequested) := by
  obtain ⟨next, event, -, stepped, raised⟩ := w.poll_cases level now
  have one : buttonPressed.bit 7 = false := by decide
  have two : buttonReleased.bit 7 = false := by decide
  rw [stepped, raised]
  simp only [contains_resetRequested]
  cases event with
  | none => simp
  | some e =>
    simp only [bits_publish]
    cases e <;> simp [one, two, SignalRegister.empty]

/-- After a press the register shows a held button. -/
lemma mirrors_of_press {detector : ButtonDetector} {register : SignalRegister} {bits : SignalBits}
    (counts : detector.isPressed = true)
    (h : register.bits = (bits.without .buttonReleased).union .buttonPressed) :
    Mirrors ⟨detector, register⟩ where
  pressed := by rw [counts, h, SignalBits.contains_union_right]
  apart := by
    rw [h, SignalBits.contains_buttonReleased_of_press]
    exact fun both => Bool.false_ne_true both.2

/-- After a release the register shows a released button. -/
lemma mirrors_of_release {detector : ButtonDetector} {register : SignalRegister} {bits : SignalBits}
    (counts : detector.isPressed = false)
    (h : register.bits = (bits.without .buttonPressed).union .buttonReleased) :
    Mirrors ⟨detector, register⟩ where
  pressed := by rw [counts, h, SignalBits.contains_buttonPressed_of_release]
  apart := by
    rw [h, SignalBits.contains_buttonPressed_of_release]
    exact fun both => Bool.false_ne_true both.1

/-- What leaves the two bits alone, and what the detector counts, keeps the mirror. -/
lemma Mirrors.of_same {later : Watch} (h : w.Mirrors)
    (detector : later.detector.isPressed = w.detector.isPressed)
    (held : later.register.bits.bit 5 = w.register.bits.bit 5)
    (released : later.register.bits.bit 4 = w.register.bits.bit 4) : later.Mirrors := by
  obtain ⟨pressed, apart⟩ := h
  rw [SignalBits.contains_buttonPressed] at pressed apart
  rw [SignalBits.contains_buttonReleased] at apart
  constructor
  · rw [SignalBits.contains_buttonPressed, held, pressed, detector]
  · rw [SignalBits.contains_buttonPressed, SignalBits.contains_buttonReleased, held, released]
    exact apart

/-- Whatever happens next, the mirror is kept. -/
lemma Mirrors.after (h : w.Mirrors) {happening : Happening} (fair : happening.Fair) :
    (w.after happening).Mirrors := by
  cases happening with
  | poll level now =>
    obtain ⟨next, event, edge, stepped, -⟩ := w.poll_cases level now
    obtain ⟨detector, register⟩ := w
    rw [stepped]
    cases edge with
    | quiet same latch => exact h.of_same same rfl rfl
    | pressed since => exact mirrors_of_press rfl (bits_publish register .pressed)
    | released since held => exact mirrors_of_release rfl (bits_publish register (.released held))
    | resetRequested since =>
      have requests : ∀ i, SignalBits.resetRequested.bit i = false →
          (publish register .resetRequested).1.bits.bit i = register.bits.bit i := by
        intro i other
        rw [bits_publish, SignalBits.bit_union, other, Bool.or_false]
      exact h.of_same rfl (requests 5 (by decide)) (requests 4 (by decide))
    | resetReleased => exact mirrors_of_release rfl (bits_publish register .resetReleased)
  | raised bits =>
    obtain ⟨held, released⟩ := SignalBits.bit_of_apart fair
    refine h.of_same rfl ?_ ?_
    · show (w.register.bits.union bits).bit 5 = _
      rw [SignalBits.bit_union, held, Bool.or_false]
    · show (w.register.bits.union bits).bit 4 = _
      rw [SignalBits.bit_union, released, Bool.or_false]
  | cleared bits =>
    obtain ⟨held, released⟩ := SignalBits.bit_of_apart fair
    refine h.of_same rfl ?_ ?_
    · show (w.register.bits.without bits).bit 5 = _
      rw [SignalBits.bit_without _ _ (by decide), held, Bool.not_false, Bool.and_true]
    · show (w.register.bits.without bits).bit 4 = _
      rw [SignalBits.bit_without _ _ (by decide), released, Bool.not_false, Bool.and_true]

/-! ## Runs -/

/-- Whatever happens, the mirror is kept. -/
lemma Mirrors.run {happenings : List Happening} (h : w.Mirrors)
    (fair : ∀ happening ∈ happenings, happening.Fair) : (w.run happenings).Mirrors := by
  induction happenings generalizing w with
  | nil => exact h
  | cons first rest ih =>
    obtain ⟨fairFirst, fairRest⟩ := List.forall_mem_cons.mp fair
    exact ih (h.after fairFirst) fairRest

/-- At the start the register shows what the detector begins with. -/
lemma mirrors_start {register : SignalRegister}
    (unpressed : register.bits.contains .buttonPressed = false) (cause : WakeCause) (level : Bool)
    (now : Nat) : (start register cause level now).Mirrors := by
  unfold start ButtonMonitor.start
  cases pressed : (cause == .button || level) with
  | true => exact mirrors_of_press rfl rfl
  | false =>
    refine ⟨unpressed, fun both => ?_⟩
    exact Bool.false_ne_true (unpressed.symm.trans both.1)

open SignalBits in
/-- The start changes none but the two bits of the button. -/
lemma sameOutside_start (register : SignalRegister) (cause : WakeCause) (level : Bool) (now : Nat) :
    SameOutside buttonBits register.bits (start register cause level now).register.bits := by
  unfold start ButtonMonitor.start
  cases pressed : (cause == .button || level) with
  | true =>
    rw [sameOutside_iff]
    intro i hi outside
    show _ = ((register.bits.without buttonReleased).union buttonPressed).bit i
    simp only [buttonBits, bit_union, Bool.or_eq_false_iff] at outside
    simp [hi, outside]
  | false => rfl

/-! ## Reset requests -/

/-- A sample that raises the reset request latches the detector. -/
lemma latched_of_raises {level : Bool} {now : Nat}
    (h : (w.raises level now).contains .resetRequested = true) :
    (w.after (.poll level now)).detector = .latched := by
  obtain ⟨next, event, edge, stepped, raised⟩ := w.poll_cases level now
  obtain ⟨detector, register⟩ := w
  rw [raised] at h
  rw [stepped]
  cases edge with
  | resetRequested since => rfl
  | quiet _ _ => exact absurd h (by decide)
  | pressed since => exact absurd h (by decide)
  | released since held =>
    have other : ¬ ((SignalBits.none.without .buttonPressed).union .buttonReleased).contains
        .resetRequested = true := by decide
    exact absurd h other
  | resetReleased => exact absurd h (by decide)

/-- A latched detector raises no reset request, and it stays latched until it raises the release. -/
lemma raises_of_latched (latched : w.detector = .latched) (level : Bool) (now : Nat) :
    (w.raises level now).contains .resetRequested = false ∧
      ((w.raises level now).contains .buttonReleased = true ∨
        (w.after (.poll level now)).detector = .latched) := by
  obtain ⟨next, event, edge, stepped, raised⟩ := w.poll_cases level now
  obtain ⟨detector, register⟩ := w
  obtain rfl : detector = .latched := latched
  rw [raised, stepped]
  cases edge with
  | quiet same latch => exact ⟨by decide, Or.inr (latch rfl)⟩
  | resetReleased => exact ⟨by decide, Or.inl (by decide)⟩

/-- Before a latched detector raises a reset request, it raises the release. -/
lemma released_of_latched {happenings : List Happening} {between after : List SignalBits}
    {bits : SignalBits} (latched : w.detector = .latched)
    (raised : w.raisedBySamples happenings = between ++ bits :: after)
    (requests : bits.contains .resetRequested = true) :
    ∃ release ∈ between, release.contains .buttonReleased = true := by
  induction happenings generalizing w between with
  | nil => exact absurd raised (by simp [raisedBySamples])
  | cons first rest ih =>
    cases first with
    | poll level now =>
      obtain ⟨quiet, next⟩ := raises_of_latched latched level now
      rw [raisedBySamples] at raised
      cases between with
      | nil =>
        obtain ⟨rfl, -⟩ := List.cons.inj raised
        exact absurd requests (by rw [quiet]; decide)
      | cons head between =>
        obtain ⟨rfl, later⟩ := List.cons.inj raised
        rcases next with releases | still
        · exact ⟨_, List.mem_cons_self, releases⟩
        · obtain ⟨release, there, releases⟩ := ih still later
          exact ⟨release, List.mem_cons_of_mem _ there, releases⟩
    | raised others => exact ih (w := w.after (.raised others)) latched raised
    | cleared others => exact ih (w := w.after (.cleared others)) latched raised

/-- Between two reset requests lies a release. -/
lemma released_between {happenings : List Happening} {before between after : List SignalBits}
    {one two : SignalBits}
    (raised : w.raisedBySamples happenings = before ++ one :: (between ++ two :: after))
    (first : one.contains .resetRequested = true) (second : two.contains .resetRequested = true) :
    ∃ release ∈ between, release.contains .buttonReleased = true := by
  induction happenings generalizing w before with
  | nil => exact absurd raised (by simp [raisedBySamples])
  | cons happening rest ih =>
    cases happening with
    | poll level now =>
      rw [raisedBySamples] at raised
      cases before with
      | nil =>
        obtain ⟨rfl, later⟩ := List.cons.inj raised
        exact released_of_latched (latched_of_raises first) later second
      | cons head before =>
        obtain ⟨-, later⟩ := List.cons.inj raised
        exact ih later
    | raised others => exact ih (w := w.after (.raised others)) raised
    | cleared others => exact ih (w := w.after (.cleared others)) raised

/-! ## The theorem -/

/-- Start the monitor on a register on which the button is not marked as held, and let anything
happen: samples at any times and levels, and others who raise and clear any signals but the two of
the button.  At every moment the button is marked as held exactly if the detector counts it as
pressed, and never as released at the same time.  The start changes none but the two bits; a sample
changes none but these and the reset request, which is there afterwards if it was there before or if
the sample raises it; and between two samples that raise it lies one that raises the release. -/
theorem register_mirrors_button (register : SignalRegister)
    (unpressed : register.bits.contains .buttonPressed = false) (cause : WakeCause) (level : Bool)
    (now : Nat) (happenings : List Happening)
    (fair : ∀ happening ∈ happenings, happening.Fair) :
    ((start register cause level now).run happenings).Mirrors ∧
      SignalBits.SameOutside .buttonBits register.bits
        (start register cause level now).register.bits ∧
      (∀ (level' : Bool) (now' : Nat) (w later : Watch),
        w = (start register cause level now).run happenings → later = w.after (.poll level' now') →
        SignalBits.SameOutside .monitorBits w.register.bits later.register.bits ∧
          later.register.bits.contains .resetRequested
            = (w.register.bits.contains .resetRequested
              || (w.raises level' now').contains .resetRequested)) ∧
      ∀ (before between after : List SignalBits) (one two : SignalBits),
        (start register cause level now).raisedBySamples happenings
          = before ++ one :: (between ++ two :: after) →
        one.contains .resetRequested = true → two.contains .resetRequested = true →
        ∃ release ∈ between, release.contains .buttonReleased = true := by
  refine ⟨(mirrors_start unpressed cause level now).run fair, sameOutside_start _ _ _ _, ?_, ?_⟩
  · rintro level' now' w later - rfl
    exact ⟨sameOutside_poll w level' now', resetRequested_poll w level' now'⟩
  · intro before between after one two raised first second
    exact released_between raised first second

/-- A long press, during which others raise and take back what is theirs, its end, and a second long
press. -/
def twoPresses : List Happening :=
  [.poll true 0, .raised .shadowReceived, .poll true 60000, .poll true 9600000,
    .cleared .resetRequested, .poll true 9700000, .poll false 9800000, .poll true 9900000,
    .poll true 9960000, .raised .credentialsReady, .poll true 19500000]

/-- A device that woke up after its button had been released: two long presses, of which each raises
the reset request once, with a release between them. -/
theorem twoPresses_mirrored :
    let woken := start { SignalRegister.empty with bits := .buttonReleased } .timer false 0
    let expected : List SignalBits :=
      [.none, .buttonPressed, .resetRequested, .none, .buttonReleased, .none, .buttonPressed,
        .resetRequested]
    woken.raisedBySamples twoPresses = expected ∧ (woken.run twoPresses).Mirrors ∧
      (woken.run twoPresses).detector.isPressed = true ∧
      ∃ release ∈ [SignalBits.none, .buttonReleased, .none, .buttonPressed],
        release.contains .buttonReleased = true := by
  intro woken expected
  have raised : woken.raisedBySamples twoPresses = expected := by decide
  obtain ⟨mirrors, -, -, apart⟩ := register_mirrors_button
    { SignalRegister.empty with bits := .buttonReleased } (by decide) .timer false 0 twoPresses
    (by decide)
  refine ⟨raised, mirrors, by decide, ?_⟩
  exact apart [.none, .buttonPressed] _ [] .resetRequested .resetRequested raised (by decide)
    (by decide)

end Watch

end ButtonMonitor

end HatchSensor
