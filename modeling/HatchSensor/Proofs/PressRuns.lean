import HatchSensor.Button.Detector
import Mathlib.Data.List.DropRight
import Mathlib.Tactic.Lemma

/-!
# The events of a press

The detector has four states, but what it reveals can be told without them, from the samples alone.
Of the samples so far only the run at their end matters: as many of the last samples as possible, all
of which found the button held.  The first sample of a run sets its time; the press counts from the
first later sample on that comes the debounce interval after that time, and a reset is requested by
the first sample after that one that comes the reset interval after it.  A sample that finds the
button up ends the run and says how far the press had come.

The times of the samples are arbitrary: they may repeat, jump and run backwards, and a sample older
than the start of its run comes no time after it.

`ButtonDetector.Tells` is this description, and `events_tell_runs` says that the detector reveals
neither less nor more.
-/

namespace HatchSensor

/-- A sample of the button. -/
structure ButtonSample where
  /-- Whether the button was found held. -/
  level : Bool
  /-- When it was taken. -/
  time : Nat
deriving DecidableEq

namespace ButtonDetector

/-! ## Runs of samples -/

/-- The run at the end of the samples: as many of the last ones as found the button held without
interruption. -/
def heldRun (history : List ButtonSample) : List ButtonSample :=
  history.rtakeWhile (·.level)

/-- The samples of a run from the one on at which the press counts: the first later one that comes
the debounce interval after the first. -/
def counting (first : ButtonSample) (later : List ButtonSample) : List ButtonSample :=
  later.dropWhile fun s => decide (s.time - first.time < debounceInterval)

/-- After the sample at which the press counts there has been one that comes the reset interval
after the start of the run. -/
def Requested (first : ButtonSample) (later : List ButtonSample) : Prop :=
  ∃ s ∈ (counting first later).tail, resetHold ≤ s.time - first.time

/-- What a sample that follows some others reveals. -/
inductive Tells (past : List ButtonSample) (s : ButtonSample) : ButtonEvent → Prop
  /-- It is the first of its run to come the debounce interval after the start. -/
  | pressed {first : ButtonSample} {later : List ButtonSample}
      (run : heldRun past = first :: later) (fresh : counting first later = [])
      (held : s.level = true) (long : debounceInterval ≤ s.time - first.time) : Tells past s .pressed
  /-- The press counts, and this is the first sample since to come the reset interval after the
  start. -/
  | resetRequested {first : ButtonSample} {later : List ButtonSample}
      (run : heldRun past = first :: later) (counts : counting first later ≠ [])
      (fresh : ¬ Requested first later) (held : s.level = true)
      (long : resetHold ≤ s.time - first.time) : Tells past s .resetRequested
  /-- It ends a run that has counted as a press, but has not requested a reset. -/
  | released {first : ButtonSample} {later : List ButtonSample}
      (run : heldRun past = first :: later) (counts : counting first later ≠ [])
      (unasked : ¬ Requested first later) (up : s.level = false) :
      Tells past s (.released (s.time - first.time))
  /-- It ends a run that has requested a reset. -/
  | resetReleased {first : ButtonSample} {later : List ButtonSample}
      (run : heldRun past = first :: later) (asked : Requested first later)
      (up : s.level = false) : Tells past s .resetReleased

variable {history : List ButtonSample} {first s : ButtonSample} {later : List ButtonSample}

/-- Without a run there is nothing to tell. -/
lemma not_tells_of_up (up : heldRun history = []) (e : ButtonEvent) : ¬ Tells history s e := by
  intro told
  cases told with
  | pressed run | resetRequested run | released run | resetReleased run =>
    exact absurd (up.symm.trans run) (by simp)

/-- What is told of a run. -/
lemma tells_iff_of_run (run : heldRun history = first :: later) (e : ButtonEvent) :
    Tells history s e ↔ match e with
      | .pressed => counting first later = [] ∧ s.level = true ∧
          debounceInterval ≤ s.time - first.time
      | .resetRequested => counting first later ≠ [] ∧ ¬ Requested first later ∧ s.level = true ∧
          resetHold ≤ s.time - first.time
      | .released held => counting first later ≠ [] ∧ ¬ Requested first later ∧ s.level = false ∧
          held = s.time - first.time
      | .resetReleased => Requested first later ∧ s.level = false := by
  constructor
  · intro told
    cases told with
    | pressed run' fresh held long =>
      obtain ⟨rfl, rfl⟩ := List.cons.inj (run'.symm.trans run)
      exact ⟨fresh, held, long⟩
    | resetRequested run' counts fresh held long =>
      obtain ⟨rfl, rfl⟩ := List.cons.inj (run'.symm.trans run)
      exact ⟨counts, fresh, held, long⟩
    | released run' counts unasked up =>
      obtain ⟨rfl, rfl⟩ := List.cons.inj (run'.symm.trans run)
      exact ⟨counts, unasked, up, rfl⟩
    | resetReleased run' asked up =>
      obtain ⟨rfl, rfl⟩ := List.cons.inj (run'.symm.trans run)
      exact ⟨asked, up⟩
  · intro told
    cases e with
    | pressed => exact .pressed run told.1 told.2.1 told.2.2
    | resetRequested => exact .resetRequested run told.1 told.2.1 told.2.2.1 told.2.2.2
    | released held =>
      obtain ⟨counts, unasked, up, rfl⟩ := told
      exact .released run counts unasked up
    | resetReleased => exact .resetReleased run told.1 told.2

/-! ### One more sample -/

/-- A sample that finds the button held prolongs the run. -/
lemma heldRun_concat_of_held (history : List ButtonSample) (held : s.level = true) :
    heldRun (history ++ [s]) = heldRun history ++ [s] :=
  List.rtakeWhile_concat_pos _ _ _ held

/-- A sample that finds it up ends the run. -/
lemma heldRun_concat_of_up (history : List ButtonSample) (up : s.level = false) :
    heldRun (history ++ [s]) = [] := by
  have other : ¬ s.level = true := by simp [up]
  exact List.rtakeWhile_concat_neg _ _ _ other

/-- A press that counts goes on counting. -/
lemma counting_concat_of_counts (counts : counting first later ≠ []) (s : ButtonSample) :
    counting first (later ++ [s]) = counting first later ++ [s] := by
  have some : (counting first later).isEmpty = false := by simpa using counts
  unfold counting at *
  rw [List.dropWhile_append, some]
  rfl

/-- A press that does not count yet counts from a sample on that comes late enough. -/
lemma counting_concat_of_fresh (fresh : counting first later = []) (s : ButtonSample) :
    counting first (later ++ [s])
      = if debounceInterval ≤ s.time - first.time then [s] else [] := by
  have none : (counting first later).isEmpty = true := by simp [fresh]
  unfold counting at *
  rw [List.dropWhile_append, if_pos none]
  by_cases long : debounceInterval ≤ s.time - first.time
  · simp [long]
  · simp [Nat.not_le.mp long, long]

/-- A press that does not count has requested nothing. -/
lemma not_requested_of_fresh (fresh : counting first later = []) : ¬ Requested first later := by
  rintro ⟨s, among, -⟩
  rw [fresh] at among
  exact absurd among List.not_mem_nil

/-- A press that has only just counted has requested nothing. -/
lemma not_requested_of_single (just : counting first later = [s]) : ¬ Requested first later := by
  rintro ⟨other, among, -⟩
  rw [just] at among
  exact absurd among List.not_mem_nil

/-- What is requested stays so, and a sample of a press that counts requests it if it comes late
enough. -/
lemma requested_concat (counts : counting first later ≠ []) (s : ButtonSample) :
    Requested first (later ++ [s]) ↔ Requested first later ∨ resetHold ≤ s.time - first.time := by
  unfold Requested
  rw [counting_concat_of_counts counts, List.tail_append_of_ne_nil counts]
  constructor
  · rintro ⟨x, among, long⟩
    rcases List.mem_append.mp among with before | last
    · exact Or.inl ⟨x, before, long⟩
    · exact Or.inr (List.mem_singleton.mp last ▸ long)
  · rintro (⟨x, before, long⟩ | long)
    · exact ⟨x, List.mem_append_left _ before, long⟩
    · exact ⟨s, List.mem_append_right _ (List.mem_singleton.mpr rfl), long⟩

/-- A press that has requested a reset counts. -/
lemma Requested.counts (asked : Requested first later) : counting first later ≠ [] :=
  fun fresh => not_requested_of_fresh fresh asked

/-! ## What the detector remembers -/

/-- The state of the detector says how far the run at the end of the samples has come. -/
inductive Remembers (history : List ButtonSample) : ButtonDetector → Prop
  | idle (up : heldRun history = []) : Remembers history .idle
  | debouncing {first : ButtonSample} {later : List ButtonSample}
      (run : heldRun history = first :: later) (fresh : counting first later = []) :
      Remembers history (.debouncing first.time)
  | tracking {first : ButtonSample} {later : List ButtonSample}
      (run : heldRun history = first :: later) (counts : counting first later ≠ [])
      (unasked : ¬ Requested first later) : Remembers history (.tracking first.time)
  | latched {first : ButtonSample} {later : List ButtonSample}
      (run : heldRun history = first :: later) (asked : Requested first later) :
      Remembers history .latched

namespace Remembers

variable {d : ButtonDetector}

/-- A sample is remembered. -/
lemma sample (h : Remembers history d) (s : ButtonSample) :
    Remembers (history ++ [s]) (d.sample s.level s.time).1 := by
  cases held : s.level with
  | false =>
    -- whatever the state was, the button is up and the run is over
    have up : Remembers (history ++ [s]) .idle := .idle (heldRun_concat_of_up history held)
    cases h with
    | idle | debouncing | tracking | latched => exact up
  | true =>
    have prolonged := heldRun_concat_of_held history held
    cases h with
    | idle up =>
      have run : heldRun (history ++ [s]) = s :: [] := by rw [prolonged, up, List.nil_append]
      exact .debouncing run rfl
    | @debouncing first later run fresh =>
      rw [run, List.cons_append] at prolonged
      have next := counting_concat_of_fresh fresh s
      unfold ButtonDetector.sample
      by_cases long : debounceInterval ≤ s.time - first.time
      · rw [if_pos long] at next
        simp only [if_true, if_pos long]
        exact .tracking prolonged (by simp [next]) (not_requested_of_single next)
      · rw [if_neg long] at next
        simp only [if_true, if_neg long]
        exact .debouncing prolonged next
    | @tracking first later run counts unasked =>
      rw [run, List.cons_append] at prolonged
      have next := requested_concat counts s
      have still : counting first (later ++ [s]) ≠ [] := by simp [counting_concat_of_counts counts s]
      unfold ButtonDetector.sample
      by_cases long : resetHold ≤ s.time - first.time
      · simp only [if_true, if_pos long]
        exact .latched prolonged (next.mpr (Or.inr long))
      · simp only [if_true, if_neg long]
        refine .tracking prolonged still fun asked => ?_
        rcases next.mp asked with before | late
        · exact unasked before
        · exact long late
    | @latched first later run asked =>
      rw [run, List.cons_append] at prolonged
      exact .latched prolonged ((requested_concat asked.counts s).mpr (Or.inl asked))

/-- What a sample reveals is what the samples tell. -/
lemma reveals_iff (h : Remembers history d) (s : ButtonSample) (e : ButtonEvent) :
    (d.sample s.level s.time).2 = some e ↔ Tells history s e := by
  cases h with
  | idle up =>
    have silent : (ButtonDetector.sample s.level s.time .idle).2 = none := by
      cases level : s.level <;> rfl
    rw [silent]
    exact iff_of_false (by simp) (not_tells_of_up up e)
  | @debouncing first later run fresh =>
    have unasked := not_requested_of_fresh fresh
    rw [tells_iff_of_run run]
    unfold ButtonDetector.sample
    cases held : s.level with
    | false => cases e <;> simp [fresh, unasked]
    | true =>
      by_cases long : debounceInterval ≤ s.time - first.time
      · cases e <;> simp [fresh, unasked, long]
      · cases e <;> simp [fresh, unasked, long]
  | @tracking first later run counts unasked =>
    rw [tells_iff_of_run run]
    unfold ButtonDetector.sample
    cases held : s.level with
    | false => cases e <;> simp [counts, unasked, eq_comm]
    | true =>
      by_cases long : resetHold ≤ s.time - first.time
      · cases e <;> simp [counts, unasked, long]
      · cases e <;> simp [counts, unasked, long]
  | @latched first later run asked =>
    rw [tells_iff_of_run run]
    unfold ButtonDetector.sample
    cases held : s.level with
    | false => cases e <;> simp [asked]
    | true => cases e <;> simp [asked, asked.counts]

end Remembers

/-! ## All samples -/

/-- The detector after some samples. -/
def after (d : ButtonDetector) (samples : List ButtonSample) : ButtonDetector :=
  samples.foldl (fun d s => (d.sample s.level s.time).1) d

/-- What each of some samples reveals, in order. -/
def events (d : ButtonDetector) : List ButtonSample → List (Option ButtonEvent)
  | [] => []
  | s :: later => (d.sample s.level s.time).2 :: (d.sample s.level s.time).1.events later

lemma length_events (d : ButtonDetector) (samples : List ButtonSample) :
    (d.events samples).length = samples.length := by
  induction samples generalizing d with
  | nil => rfl
  | cons s later ih => exact congrArg (· + 1) (ih _)

/-- What a sample reveals depends on the state that the samples before it have led to. -/
lemma events_getElem? (d : ButtonDetector) (past later : List ButtonSample) (s : ButtonSample) :
    (d.events (past ++ s :: later))[past.length]?
      = some ((d.after past).sample s.level s.time).2 := by
  induction past generalizing d with
  | nil => rfl
  | cons x past ih =>
    rw [List.cons_append, events, List.length_cons, List.getElem?_cons_succ, ih]
    rfl

/-- Samples are remembered. -/
lemma Remembers.after {d : ButtonDetector} (h : Remembers history d)
    (samples : List ButtonSample) : Remembers (history ++ samples) (d.after samples) := by
  induction samples generalizing history d with
  | nil => rwa [List.append_nil]
  | cons s later ih =>
    have next := ih (h.sample s)
    rwa [List.append_assoc] at next

/-- What a detector that was started at some time is to remember.  If the button was held, it is in
a run that began then and has counted as a press already. -/
def remembered (pressed : Bool) (now : Nat) : List ButtonSample :=
  if pressed then [⟨true, now⟩, ⟨true, now + debounceInterval⟩] else []

lemma remembers_start (pressed : Bool) (now : Nat) :
    Remembers (remembered pressed now) (start pressed now) := by
  cases pressed with
  | false => exact .idle rfl
  | true =>
    have counts : counting ⟨true, now⟩ [⟨true, now + debounceInterval⟩]
        = [⟨true, now + debounceInterval⟩] := by
      simp [counting]
    have run : heldRun (remembered true now)
        = ⟨true, now⟩ :: [⟨true, now + debounceInterval⟩] := rfl
    exact .tracking run (by simp [counts]) (not_requested_of_single counts)

/-- Start the detector, with the button held or not, and take any samples at any times.  There is one
outcome for each sample, and it is an event exactly if the samples so far tell of that event; a
button that was held at the start is in a run that began then and counts already. -/
theorem events_tell_runs (pressed : Bool) (now : Nat) (samples : List ButtonSample) :
    ((start pressed now).events samples).length = samples.length ∧
      ∀ (past : List ButtonSample) (s : ButtonSample) (later : List ButtonSample)
        (e : ButtonEvent), samples = past ++ s :: later →
        (((start pressed now).events samples)[past.length]? = some (some e) ↔
          Tells (remembered pressed now ++ past) s e) := by
  refine ⟨length_events _ _, ?_⟩
  rintro past s later e rfl
  have known := (remembers_start pressed now).after past
  rw [events_getElem?, Option.some_inj]
  exact known.reveals_iff s e

/-- A bounce, and then a long press whose second sample is older than its first. -/
def bounceAndPress : List ButtonSample :=
  [⟨true, 0⟩, ⟨true, 49999⟩, ⟨false, 60000⟩, ⟨true, 100000⟩, ⟨true, 90000⟩, ⟨true, 150000⟩,
    ⟨true, 9599999⟩, ⟨true, 9600000⟩, ⟨true, 9700000⟩, ⟨false, 9800000⟩]

/-- The bounce reveals nothing and the press three events; a button that was held at the start has
been pressed for as long as the detector runs. -/
theorem bounceAndPress_told :
    (start false 0).events bounceAndPress
        = [none, none, none, none, none, some .pressed, none, some .resetRequested, none,
          some .resetReleased] ∧
      Tells (bounceAndPress.take 7) ⟨true, 9600000⟩ .resetRequested ∧
      Tells (remembered true 40000) ⟨false, 70000⟩ (.released 30000) := by
  have events : (start false 0).events bounceAndPress
      = [none, none, none, none, none, some .pressed, none, some .resetRequested, none,
        some .resetReleased] := by decide
  obtain ⟨-, press⟩ := events_tell_runs false 0 bounceAndPress
  obtain ⟨-, release⟩ := events_tell_runs true 40000 [⟨false, 70000⟩]
  refine ⟨events, ?_, ?_⟩
  · refine (press (bounceAndPress.take 7) ⟨true, 9600000⟩ _ .resetRequested rfl).mp ?_
    rw [events]
    rfl
  · exact (release [] ⟨false, 70000⟩ [] (.released 30000) rfl).mp (by decide)

end ButtonDetector

end HatchSensor
