import HatchSensor.Proofs.Publishing

/-!
# The log is given up only for what was published

`LogKept` says of a stretch of a dialogue that the log is what the dialogue makes of it, and that
every removal in it was earned: the cycle in which it happens has published everything that was in
the log at that moment, and its own reading after it.  The law holds for every phase, wherever the
phase is cut short, and stretches with the law can be put one after the other.
-/

namespace HatchSensor

open Program World

/-- The configuration in force after an attempt to read it. -/
def HatchConfig.ofRead : Stored (Option Bytes) → HatchConfig
  | .ok content => ofBlob content
  | .error _ => default

namespace Cycle

/-- The cycle with this dialogue has taken the reading. -/
def Took (r : Reading) (d : Dialogue Surroundings) : Prop :=
  ∃ stored climate now rest,
    d = [⟨DeviceRequest.blob (.read HatchConfig.blob), stored⟩, ⟨DeviceRequest.sense, .ok climate⟩,
      ⟨DeviceRequest.time, now⟩] ++ rest ∧
    r = readingOf (.ofRead stored) climate now

/-- The dialogue of a cycle in which the readings `l` were accepted by the cloud, in order, and
after them the reading that the cycle itself has taken, and in which nothing else was published. -/
def Published (l : List Reading) (cycle : Dialogue Surroundings) : Prop :=
  ∃ r between name hatch, Took r cycle ∧ Silent between ∧
    cycle = between ++ batch name hatch (l ++ [r]) ++ farewell

end Cycle

/-- What was said, ending with a cycle that has published the log as it is now. -/
def Earned (l : List Reading) (before : Dialogue Surroundings) : Prop :=
  ∃ earlier cycle, before = earlier ++ cycle ∧ Cycle.Published (replay before l) cycle

/-- The log is kept from `w` to `w'`: it is what the dialogue makes of it, and whenever it was to be
removed this was earned. -/
structure LogKept (w : World) (d : Dialogue Surroundings) (w' : World) : Prop where
  /-- The log is what the dialogue makes of it. -/
  logged : w'.logged = replay d w.logged
  /-- A removal was earned. -/
  earned : ∀ before e after, d = before ++ e :: after → e.removesLog → Earned w.logged before

/-! ## Stretches of a dialogue -/

/-- An exchange of two stretches lies in the first or in the second. -/
lemma append_eq_append_cons {α : Type} {a b before after : List α} {e : α}
    (h : a ++ b = before ++ e :: after) :
    (∃ m, a = before ++ e :: m) ∨ ∃ m, before = a ++ m ∧ b = m ++ e :: after := by
  rcases List.append_eq_append_iff.mp h with ⟨m, rfl, rfl⟩ | ⟨m, rfl, second⟩
  · exact Or.inr ⟨m, rfl, rfl⟩
  · cases m with
    | nil => exact Or.inr ⟨[], by simp, by simpa using second.symm⟩
    | cons f m =>
      obtain ⟨rfl, -⟩ := List.cons.inj second
      exact Or.inl ⟨m, rfl⟩

namespace LogKept

variable {L : Licence} {u v w w' : World} {d e : Dialogue Surroundings}

/-- A stretch without removals keeps the log if it does what the dialogue says. -/
lemma of_noRemoval (logged : w'.logged = replay d w.logged) (kept : ∀ e ∈ d, ¬ e.removesLog) :
    LogKept w d w' where
  logged := logged
  earned := by
    rintro before e after rfl removal
    exact absurd removal (kept e (by simp))

lemma refl (w : World) : LogKept w [] w :=
  .of_noRemoval rfl fun _ he => absurd he List.not_mem_nil

lemma trans (first : LogKept u d v) (second : LogKept v e w) : LogKept u (d ++ e) w where
  logged := by rw [replay_append, ← first.logged, second.logged]
  earned := by
    intro before f after split removal
    rcases append_eq_append_cons split with ⟨m, rfl⟩ | ⟨m, rfl, rfl⟩
    · exact first.earned before f m rfl removal
    · obtain ⟨earlier, cycle, rfl, published⟩ := second.earned m f after rfl removal
      refine ⟨d ++ earlier, cycle, (List.append_assoc _ _ _).symm, ?_⟩
      rwa [replay_append, ← first.logged]

/-- A program that keeps to other blobs keeps the log. -/
lemma of_stays {α : Type} {f : Footprint} {p q : Program Surroundings α}
    (h : Reaches (answers L) p w d q w') (stays : p.Stays f)
    (other : ReadingLog.blob ∉ f.names) : LogKept w d w' := by
  have quiet : ∀ e ∈ d, DeviceRequest.changes e.request ≠ some ReadingLog.blob :=
    fun e he => changes_of_allows ((h.only stays).1 e he) other
  refine .of_noRemoval ?_ fun e he removal => ?_
  · rw [replay_of_quiet quiet, World.logged, log_of_stays h stays other, World.logged]
  · exact quiet e he (congrArg DeviceRequest.changes removal)

end LogKept

/-! ## One cycle -/

namespace Cycle

variable {L : Licence} {w w' : World} {d : Dialogue Surroundings}

/-- Buffering makes no removal. -/
lemma noRemoval_buffer (r : Reading) :
    (buffer r).Only fun request => request ≠ DeviceRequest.blob (.remove ReadingLog.blob) := by
  refine only_bind (only_onBlobs (ReadingLog.only_append r) ?_) fun y => ?_
  · exact fun request adds same => adds.2 (DeviceRequest.blob.inj same)
  cases y with
  | ok _ => exact .done _
  | error e => exact only_request fun same => nomatch same

/-- Buffering a reading keeps the log. -/
lemma logKept_buffer {r : Reading} {q : Program Surroundings Unit}
    (h : Reaches (answers L) (buffer r) w d q w') : LogKept w d w' := by
  refine .of_noRemoval ?_ ((h.only (noRemoval_buffer r)).1)
  rcases reaches_bind.mp h with ⟨request, k, first, -⟩ | ⟨d₁, y, w₁, d₂, rfl, first, second⟩
  · exact (ReadingLog.logged_of_append first).1
  · have appended := (ReadingLog.logged_of_append first).1
    have reported : LogKept w₁ d₂ w' := by
      cases y with
      | ok _ => exact .of_stays (f := .none) second (.done _) List.not_mem_nil
      | error e => exact .of_stays (f := .none) second (only_request trivial) List.not_mem_nil
    rw [replay_append, ← appended, reported.logged]

/-- What follows publishing. -/
def conclude (current : Reading) : PublishOutcome × HatchConfig →
    Program Surroundings (Except DeviceError (Option PublishOutcome × HatchConfig))
  | (.published, config) => do
    match ← onBlobs ReadingLog.clear.run with
    | .ok _ => return .ok (some .published, config.resetCounters)
    | .error e => return .error (.logNotCleared e)
  | (outcome, config) => do
    buffer current
    return .ok (some outcome, config)

/-- A reading is buffered, or it is published with the log, after which the log is given up or the
reading is buffered after all. -/
lemma run_deliver (device : DeviceSettings) (config : HatchConfig) (current : Reading) :
    (deliver device config current).run =
      match config.publishReason current.time with
      | none => buffer current >>= fun _ => .done (.ok (none, config))
      | some _ => publish device config current >>= conclude current := by
  unfold deliver
  cases config.publishReason current.time with
  | none => exact DeviceProgram.run_ask_bind _ _
  | some reason =>
    refine (DeviceProgram.run_ask_bind _ _).trans ?_
    congr 1
    funext result
    obtain ⟨outcome, config⟩ := result
    cases outcome with
    | published =>
      refine (DeviceProgram.run_store_bind _ _ _).trans ?_
      rw [conclude]
      congr 1
      funext y
      cases y <;> rfl
    | failed => exact DeviceProgram.run_ask_bind _ _
    | offline => exact DeviceProgram.run_ask_bind _ _
    | resetRequested => exact DeviceProgram.run_ask_bind _ _

/-- A stretch of a cycle keeps the log, given that the stretch before the removal is what publishing
the log and `current` has left. -/
structure Delivered (current : Reading) (w : World) (d : Dialogue Surroundings) (w' : World) :
    Prop where
  /-- The log is what the dialogue makes of it. -/
  logged : w'.logged = replay d w.logged
  /-- A removal was preceded by the whole batch, and nothing has touched the log before it. -/
  earned : ∀ before e after, d = before ++ e :: after → e.removesLog →
    (∃ between name hatch, Silent between ∧
      before = between ++ batch name hatch (w.logged ++ [current]) ++ farewell) ∧
      ∀ l, replay before l = l

lemma Delivered.of_kept {current : Reading} (logged : w'.logged = replay d w.logged)
    (kept : ∀ e ∈ d, ¬ e.removesLog) : Delivered current w d w' where
  logged := logged
  earned := by
    rintro before e after rfl removal
    exact absurd removal (kept e (by simp))

/-- Publishing leaves the log alone. -/
lemma quiet_publish {α : Type} {p q : Program Surroundings α}
    (h : Reaches (answers L) p w d q w') (stays : p.Stays ⟨[], false, true, false⟩) :
    w'.logged = w.logged ∧ (∀ l, replay d l = l) ∧ ∀ e ∈ d, ¬ e.removesLog := by
  have quiet : ∀ e ∈ d, DeviceRequest.changes e.request ≠ some ReadingLog.blob :=
    fun e he => changes_of_allows ((h.only stays).1 e he) List.not_mem_nil
  refine ⟨?_, replay_of_quiet quiet, fun e he removal => ?_⟩
  · rw [World.logged, log_of_stays h stays List.not_mem_nil, World.logged]
  · exact quiet e he (congrArg DeviceRequest.changes removal)

/-- Where a cycle goes on by buffering its reading, it removes nothing. -/
lemma logged_of_buffering {α : Type} {k : Unit → α} {q : Program Surroundings α} {current : Reading}
    (h : Reaches (answers L) (buffer current >>= fun x => .done (k x)) w d q w') :
    w'.logged = replay d w.logged ∧ ∀ e ∈ d, ¬ e.removesLog := by
  have kept := (h.only (only_bind (noRemoval_buffer current) fun _ => .done _)).1
  rcases reaches_bind.mp h with ⟨r, k', first, -⟩ | ⟨d₁, y, w₁, d₂, rfl, first, second⟩
  · exact ⟨(logKept_buffer first).logged, kept⟩
  · obtain ⟨rfl, -, rfl⟩ := reaches_done.mp second
    rw [List.append_nil] at kept ⊢
    exact ⟨(logKept_buffer first).logged, kept⟩

section Published

variable {current : Reading} {v : World} {e : Dialogue Surroundings}

/-- After publishing, the reading is buffered after all. -/
lemma Delivered.of_buffering {α : Type} {k : Unit → α} {q : Program Surroundings α}
    (same : v.logged = w.logged) (silent : ∀ l, replay d l = l) (kept : ∀ f ∈ d, ¬ f.removesLog)
    (h : Reaches (answers L) (buffer current >>= fun x => .done (k x)) v e q w') :
    Delivered current w (d ++ e) w' := by
  obtain ⟨logged, later⟩ := logged_of_buffering h
  refine .of_kept ?_ fun f here => ?_
  · rw [replay_append, silent, logged, same]
  · exact (List.mem_append.mp here).elim (kept f) (later f)

/-- After the whole batch was published, the log is removed, unless the store fails. -/
lemma Delivered.of_removal {y : Stored Unit} (same : v.logged = w.logged)
    (silent : ∀ l, replay d l = l) (kept : ∀ f ∈ d, ¬ f.removesLog)
    (sent : ∃ between name hatch, Silent between ∧
      d = between ++ batch name hatch (w.logged ++ [current]) ++ farewell)
    (removed : answers L (.blob (.remove ReadingLog.blob)) v y w') :
    Delivered current w (d ++ [⟨DeviceRequest.blob (.remove ReadingLog.blob), y⟩]) w' := by
  constructor
  · rw [replay_append, silent]
    rcases log_of_remove removed with ⟨rfl, gone⟩ | ⟨⟨reason, rfl⟩, still⟩
    · rw [World.logged, gone]
      rfl
    · rw [World.logged, still, ← World.logged, same]
      rfl
  · intro before f after split removal
    rcases append_eq_append_cons split with ⟨m, early⟩ | ⟨m, rfl, late⟩
    · have here : f ∈ d := by
        rw [early]
        exact List.mem_append_right _ List.mem_cons_self
      exact absurd removal (kept f here)
    · obtain rfl : m = [] := by
        have length := congrArg List.length late
        rw [List.length_append, List.length_singleton, List.length_cons] at length
        exact List.eq_nil_of_length_eq_zero (by omega)
      rw [List.append_nil]
      exact ⟨sent, silent⟩

/-- What follows publishing gives the log up only if all of it was published. -/
lemma delivered_of_conclude {outcome : PublishOutcome} {config : HatchConfig}
    {q : Program Surroundings (Except DeviceError (Option PublishOutcome × HatchConfig))}
    (same : v.logged = w.logged) (silent : ∀ l, replay d l = l) (kept : ∀ f ∈ d, ¬ f.removesLog)
    (sent : Sent (w.logged ++ [current]) farewell d outcome)
    (h : Reaches (answers L) (conclude current (outcome, config)) v e q w') :
    Delivered current w (d ++ e) w' := by
  cases outcome with
  | failed => exact .of_buffering same silent kept h
  | offline => exact .of_buffering same silent kept h
  | resetRequested => exact .of_buffering same silent kept h
  | published =>
    obtain ⟨name, hatch, l, -, -, all⟩ := sent
    obtain ⟨-, between, quiet, batched⟩ := all rfl
    rcases reaches_bind.mp h with ⟨r, k, clearing, -⟩ | ⟨d₁, y, u, d₂, rfl, cleared, halted⟩
    · obtain ⟨rfl, rfl⟩ := reaches_request_ask clearing
      rw [List.append_nil]
      exact .of_kept (by rw [same, silent]) kept
    · obtain ⟨rfl, removed⟩ := returns_request.mp cleared
      have ended : d₂ = [] ∧ w' = u := by
        cases y with
        | ok _ =>
          obtain ⟨rfl, -, rfl⟩ := reaches_done.mp halted
          exact ⟨rfl, rfl⟩
        | error reason =>
          obtain ⟨rfl, -, rfl⟩ := reaches_done.mp halted
          exact ⟨rfl, rfl⟩
      obtain ⟨rfl, rfl⟩ := ended
      exact .of_removal same silent kept ⟨between, name, hatch, quiet, batched⟩ removed

end Published

/-- The delivery of a reading gives the log up only after all of it was published. -/
lemma delivered_deliver {device : DeviceSettings} {config : HatchConfig} {current : Reading}
    {q : Program Surroundings (Except DeviceError (Option PublishOutcome × HatchConfig))}
    (h : Reaches (answers L) (deliver device config current).run w d q w') :
    Delivered current w d w' := by
  rw [run_deliver] at h
  cases reason : config.publishReason current.time with
  | none =>
    simp only [reason] at h
    obtain ⟨logged, kept⟩ := logged_of_buffering h
    exact .of_kept logged kept
  | some why =>
    simp only [reason] at h
    have stays := stays_publish (f := ⟨[], false, true, false⟩) rfl device config current
    rcases reaches_bind.mp h with ⟨r, k, first, -⟩ | ⟨d₁, result, w₁, d₂, rfl, first, second⟩
    · obtain ⟨same, silent, kept⟩ := quiet_publish first stays
      exact .of_kept (by rw [same, silent]) kept
    · obtain ⟨same, silent, kept⟩ := quiet_publish first stays
      exact delivered_of_conclude same silent kept (sent_publish first) second

/-- The end of a cycle: the configuration is stored. -/
def finish (now : UInt32) : Except DeviceError (Option PublishOutcome × HatchConfig) →
    Program Surroundings (Except DeviceError CycleOutcome)
  | .error e => .done (.error e)
  | .ok (published, config) => do
    match ← onBlobs config.save.run with
    | .ok _ => return .ok (outcome config now published)
    | .error e => return .error (.configNotStored e)

/-- The end of a cycle stores the configuration and nothing else. -/
lemma stays_finish (now : UInt32)
    (delivered : Except DeviceError (Option PublishOutcome × HatchConfig)) :
    (finish now delivered).Stays ⟨[HatchConfig.blob], false, false, false⟩ := by
  cases delivered with
  | error e => exact .done _
  | ok result =>
    obtain ⟨published, config⟩ := result
    refine only_bind (stays_onBlobs (Blob.changesOnly_write (List.mem_singleton.mpr rfl))
      fun _ h => h) fun y => ?_
    cases y with
    | ok _ => exact .done _
    | error e => exact .done _

/-- A cycle loads the configuration, takes a reading, delivers it and stores the configuration. -/
lemma run_cycle (device : DeviceSettings) :
    (run device).run = onBlobs HatchConfig.load >>= fun config =>
      Surroundings.sense >>= fun
        | .error _ => .done (.ok (.sleep config.interval))
        | .ok climate => Surroundings.time >>= fun now =>
          (deliver device (config.record (readingOf config climate now).temperature)
            (readingOf config climate now)).run >>= finish now := by
  unfold run
  refine (DeviceProgram.run_ask_bind _ _).trans ?_
  congr 1
  funext config
  refine (DeviceProgram.run_ask_bind _ _).trans ?_
  congr 1
  funext sensed
  cases sensed with
  | error e => rfl
  | ok climate =>
    refine (DeviceProgram.run_ask_bind _ _).trans ?_
    congr 1
    funext now
    rw [ExceptT.run_bind]
    congr 1
    funext y
    cases y with
    | error e => rfl
    | ok delivered =>
      obtain ⟨published, config⟩ := delivered
      refine (DeviceProgram.run_store_bind _ _ _).trans ?_
      rw [finish]
      congr 1
      funext y
      cases y <;> rfl

/-- Loading the configuration reads its blob. -/
lemma returns_load {σ : Type} {B : Behaviour Surroundings σ} {s t : σ} {config : HatchConfig}
    (h : Returns B (onBlobs HatchConfig.load) s d config t) :
    ∃ stored, d = [⟨DeviceRequest.blob (.read HatchConfig.blob), stored⟩] ∧
      B (.blob (.read HatchConfig.blob)) s stored t ∧ config = .ofRead stored := by
  unfold HatchConfig.load at h
  rw [onBlobs_bind] at h
  obtain ⟨stored, w₁, d₂, rfl, answered, value⟩ := returns_request_bind.mp h
  cases stored with
  | ok content =>
    obtain ⟨rfl, rfl, rfl⟩ := returns_done.mp value
    exact ⟨_, rfl, answered, rfl⟩
  | error e =>
    obtain ⟨rfl, rfl, rfl⟩ := returns_done.mp value
    exact ⟨_, rfl, answered, rfl⟩

/-- A cycle keeps the log, wherever it is cut short. -/
theorem logKept_cycle {device : DeviceSettings}
    {q : Program Surroundings (Except DeviceError CycleOutcome)}
    (h : Reaches (answers L) (run device).run w d q w') : LogKept w d w' := by
  have quiet : ∀ {α : Type} {p q : Program Surroundings α} {u u' : World}
      {e : Dialogue Surroundings}, Reaches (answers L) p u e q u' →
      p.Stays ⟨[HatchConfig.blob], false, false, false⟩ → LogKept u e u' :=
    fun h stays => .of_stays h stays (by decide)
  rw [run_cycle] at h
  rcases reaches_bind.mp h with ⟨r, k, loading, -⟩ | ⟨d₁, config, w₁, e₁, rfl, loaded, h₁⟩
  · exact quiet loading (stays_reading Session.changesOnly_loadConfig)
  have kept₁ : LogKept w d₁ w₁ := quiet loaded (stays_reading Session.changesOnly_loadConfig)
  obtain ⟨stored, rfl, -, rfl⟩ := returns_load loaded
  rcases reaches_bind.mp h₁ with ⟨r, k, sensing, -⟩ | ⟨d₂, sensed, w₂, e₂, rfl, sense, h₂⟩
  · exact kept₁.trans (quiet sensing (only_request trivial))
  have kept₂ := kept₁.trans (quiet sense (only_request trivial))
  obtain ⟨rfl, -⟩ := returns_request.mp sense
  rw [← List.append_assoc]
  cases sensed with
  | error e =>
    exact kept₂.trans (quiet h₂ (.done _))
  | ok climate =>
    rcases reaches_bind.mp h₂ with ⟨r, k, timing, -⟩ | ⟨d₃, now, w₃, e₃, rfl, timed, h₃⟩
    · exact kept₂.trans (quiet timing (only_request trivial))
    have kept₃ := kept₂.trans (quiet timed (only_request trivial))
    obtain ⟨rfl, -⟩ := returns_request.mp timed
    rw [← List.append_assoc]
    -- from here on the cycle knows its reading, and what is published is earned
    have earned : ∀ {u : World} {e : Dialogue Surroundings},
        Delivered (readingOf (.ofRead stored) climate now) w₃ e u →
        LogKept w ([⟨DeviceRequest.blob (.read HatchConfig.blob), stored⟩] ++
          [⟨DeviceRequest.sense, .ok climate⟩] ++ [⟨DeviceRequest.time, now⟩] ++ e) u := by
      intro u e delivered
      constructor
      · rw [replay_append, ← kept₃.logged, delivered.logged]
      · intro before f after split removal
        rcases append_eq_append_cons split with ⟨m, early⟩ | ⟨m, rfl, late⟩
        · exact kept₃.earned before f m early removal
        · obtain ⟨⟨between, name, hatch, quiet, rfl⟩, silent⟩ :=
            delivered.earned m f after late removal
          have opening : Silent ([⟨DeviceRequest.blob (.read HatchConfig.blob), stored⟩] ++
              [⟨DeviceRequest.sense, .ok climate⟩] ++ [⟨DeviceRequest.time, now⟩]) :=
            ((silent_singleton rfl).append (silent_singleton rfl)).append (silent_singleton rfl)
          refine ⟨[], _, rfl, _, _, name, hatch, ⟨stored, climate, now, _, rfl, rfl⟩,
            opening.append quiet, ?_⟩
          rw [replay_append, ← kept₃.logged, silent]
          simp
    rcases reaches_bind.mp h₃ with ⟨r, k, delivering, -⟩ | ⟨d₄, y, w₄, e₄, rfl, delivered, h₄⟩
    · exact earned (delivered_deliver delivering)
    · rw [← List.append_assoc]
      exact (earned (delivered_deliver delivered)).trans (quiet h₄ (stays_finish _ _))

end Cycle

end HatchSensor
