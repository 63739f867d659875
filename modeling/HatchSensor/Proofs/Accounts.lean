import HatchSensor.Proofs.LogKept

/-!
# What becomes of the reading of a cycle

A cycle that is over has put its reading at the end of the log, or the cloud has accepted it after
everything that was in the log, or adding it to the log has failed and the loss was reported.  In
each of these cases, and also if the cycle was cut short, what the cloud has accepted is a prefix of
the log and the reading, in order.
-/

namespace HatchSensor

open Program World

namespace Cycle

/-- What the cloud has accepted are the messages of a prefix of the readings. -/
def AcceptsPrefix (l : List Reading) (d : Dialogue Surroundings) : Prop :=
  ∃ name hatch sent, sent <+: l ∧ accepted d = sent.map (payload name hatch)

/-- The cloud has accepted the messages of all the readings. -/
def AcceptsAll (l : List Reading) (d : Dialogue Surroundings) : Prop :=
  ∃ name hatch, accepted d = l.map (payload name hatch)

/-- Adding the reading to the log has failed, and the loss was reported. -/
def Lost (L : Licence) (r : Reading) (d : Dialogue Surroundings) : Prop :=
  ∃ earlier part later u e v,
    d = earlier ++ part ++ ⟨DeviceRequest.report (.readingLost r.time e), ()⟩ :: later ∧
      Returns (answers L) (onBlobs (ReadingLog.append r).run) u part (.error e) v

/-- What has become of a reading from `w` to `w'`. -/
structure Settled (L : Licence) (r : Reading) (w : World) (d : Dialogue Surroundings) (w' : World) :
    Prop where
  /-- What was accepted is a prefix of the log and the reading. -/
  inOrder : AcceptsPrefix (w.logged ++ [r]) d
  /-- The reading is the last of the log, or was accepted after the log, or is lost. -/
  settled : w'.logged = w.logged ++ [r] ∨ AcceptsAll (w.logged ++ [r]) d ∨ Lost L r d

variable {L : Licence} {u v w w' : World} {r : Reading} {d : Dialogue Surroundings}

/-- What is said before and after, without publishing and without touching the log, does not
matter. -/
lemma Settled.extend (h : Settled L r u d v) {earlier later : Dialogue Surroundings}
    (before : u.logged = w.logged) (after : w'.logged = v.logged) (first : Silent earlier)
    (last : Silent later) : Settled L r w (earlier ++ d ++ later) w' := by
  have same : accepted (earlier ++ d ++ later) = accepted d := by
    rw [accepted_append, accepted_append, first.accepted, last.accepted, List.nil_append,
      List.append_nil]
  obtain ⟨⟨name, hatch, sent, part, payloads⟩, settled⟩ := h
  rw [before] at part settled
  refine ⟨⟨name, hatch, sent, part, same.trans payloads⟩, ?_⟩
  rcases settled with kept | ⟨name, hatch, payloads⟩ | ⟨e₁, part, e₂, a, e, b, rfl, failed⟩
  · exact Or.inl (after.trans kept)
  · exact Or.inr (Or.inl ⟨name, hatch, same.trans payloads⟩)
  · exact Or.inr (Or.inr ⟨earlier ++ e₁, part, e₂ ++ later, a, e, b, by simp, failed⟩)

/-! ## Buffering -/

lemma changesOnly_append (r : Reading) :
    (ReadingLog.append r).run.ChangesOnly [ReadingLog.blob] :=
  changesOnly_of_name ((ReadingLog.only_append r).mono fun _ adds => List.mem_singleton.mpr adds.1)

lemma stays_buffer (r : Reading) : (buffer r).Stays ⟨[ReadingLog.blob], false, false, false⟩ := by
  refine only_bind (stays_onBlobs (changesOnly_append r) fun _ h => h) fun y => ?_
  cases y with
  | ok _ => exact .done _
  | error e => exact only_request trivial

/-- After a reading was buffered it is the last of the log, or its own append has failed. -/
lemma settled_buffer (h : Returns (answers L) (buffer r) w d () w') :
    Silent d ∧ (w'.logged = w.logged ++ [r] ∨ Lost L r d) := by
  refine ⟨silent_of_stays h (stays_buffer r) rfl, ?_⟩
  obtain ⟨d₁, y, w₁, d₂, rfl, first, second⟩ := returns_bind.mp h
  rcases (ReadingLog.logged_of_append first).2 y rfl with ⟨rfl, added⟩ | ⟨⟨e, rfl⟩, -⟩
  · obtain ⟨-, -, rfl⟩ := returns_done.mp second
    exact Or.inl added
  · obtain ⟨rfl, -⟩ := returns_request.mp second
    exact Or.inr ⟨[], d₁, [], w, e, w₁, by simp, first⟩

/-! ## Delivery -/

/-- A delivery that is over has settled its reading. -/
lemma settled_deliver {device : DeviceSettings} {config : HatchConfig}
    {y : Except DeviceError (Option PublishOutcome × HatchConfig)}
    (h : Returns (answers L) (deliver device config r).run w d y w') : Settled L r w d w' := by
  have buffering : ∀ {α : Type} {k : Unit → α} {a : α} {u : World} {e : Dialogue Surroundings},
      u.logged = w.logged →
      Returns (answers L) (buffer r >>= fun x => .done (k x)) u e a w' →
        Silent e ∧ (w'.logged = w.logged ++ [r] ∨ Lost L r e) := by
    intro α k a u e same h
    obtain ⟨d₁, x, w₁, d₂, rfl, first, second⟩ := returns_bind.mp h
    obtain ⟨rfl, -, rfl⟩ := returns_done.mp second
    rw [List.append_nil, ← same]
    exact settled_buffer first
  rw [run_deliver] at h
  cases reason : config.publishReason r.time with
  | none =>
    simp only [reason] at h
    obtain ⟨silent, kept⟩ := buffering rfl h
    refine ⟨⟨"", "", [], List.nil_prefix, silent.accepted⟩, ?_⟩
    rcases kept with kept | lost
    · exact Or.inl kept
    · exact Or.inr (Or.inr lost)
  | some why =>
    simp only [reason] at h
    obtain ⟨d₁, result, w₁, d₂, rfl, first, second⟩ := returns_bind.mp h
    obtain ⟨same, -, -⟩ := quiet_publish first (stays_publish rfl device config r)
    obtain ⟨outcome, config'⟩ := result
    obtain ⟨name, hatch, sent, part, payloads, all⟩ := sent_publish first
    -- the reading was not published with the whole log, and so it is buffered
    have unpublished : (Silent d₂ ∧ (w'.logged = w.logged ++ [r] ∨ Lost L r d₂)) →
        Settled L r w (d₁ ++ d₂) w' := by
      rintro ⟨silent, kept⟩
      refine ⟨⟨name, hatch, sent, part, ?_⟩, ?_⟩
      · rw [accepted_append, silent.accepted, payloads, List.append_nil]
      · rcases kept with kept | ⟨e₁, part, e₂, a, e, b, rfl, failed⟩
        · exact Or.inl kept
        · exact Or.inr (Or.inr ⟨d₁ ++ e₁, part, e₂, a, e, b, by simp, failed⟩)
    cases outcome with
    | failed => exact unpublished (buffering same second)
    | offline => exact unpublished (buffering same second)
    | resetRequested => exact unpublished (buffering same second)
    | published =>
      obtain ⟨rfl, -⟩ := all rfl
      obtain ⟨y, w₂, d₄, rfl, -, halted⟩ := returns_request_bind.mp second
      have ended : d₄ = [] := by
        cases y with
        | ok _ => exact (returns_done.mp halted).1
        | error e => exact (returns_done.mp halted).1
      have everything :
          accepted (d₁ ++ ([⟨DeviceRequest.blob (.remove ReadingLog.blob), y⟩] ++ d₄))
            = (w.logged ++ [r]).map (payload name hatch) := by
        rw [accepted_append, payloads, ended]
        exact List.append_nil _
      exact ⟨⟨name, hatch, _, List.prefix_rfl, everything⟩,
        Or.inr (Or.inl ⟨name, hatch, everything⟩)⟩

/-! ## The cycle -/

/-- A cycle that is over has settled the reading it took, if the sensor gave it one. -/
theorem settled_cycle {device : DeviceSettings} {y : Except DeviceError CycleOutcome}
    (h : Returns (answers L) (run device).run w d y w') :
    (Silent d ∧ w'.logged = w.logged ∧ ∀ r, ¬ Took r d) ∨ ∃ r, Took r d ∧ Settled L r w d w' := by
  rw [run_cycle] at h
  obtain ⟨d₁, config, w₁, e₁, rfl, loaded, h₁⟩ := returns_bind.mp h
  have same₁ : w₁.logged = w.logged := by
    rw [logged, log_of_stays (f := .none) loaded
      (stays_reading Session.changesOnly_loadConfig) List.not_mem_nil, logged]
  obtain ⟨stored, rfl, -, rfl⟩ := returns_load loaded
  obtain ⟨d₂, sensed, w₂, e₂, rfl, sense, h₂⟩ := returns_bind.mp h₁
  have same₂ : w₂.logged = w₁.logged := by
    rw [logged, log_of_stays (f := .none) sense (only_request trivial) List.not_mem_nil, logged]
  obtain ⟨rfl, -⟩ := returns_request.mp sense
  cases sensed with
  | error e =>
    obtain ⟨rfl, -, rfl⟩ := returns_done.mp h₂
    refine Or.inl ⟨(silent_singleton rfl).append (silent_singleton rfl), same₂.trans same₁, ?_⟩
    rintro r ⟨_, _, _, rest, same, -⟩
    simp at same
  | ok climate =>
    obtain ⟨d₃, now, w₃, e₃, rfl, timed, h₃⟩ := returns_bind.mp h₂
    have same₃ : w₃.logged = w₂.logged := by
      rw [logged, log_of_stays (f := .none) timed (only_request trivial) List.not_mem_nil, logged]
    obtain ⟨rfl, -⟩ := returns_request.mp timed
    obtain ⟨d₄, y, w₄, e₄, rfl, delivered, h₄⟩ := returns_bind.mp h₃
    have same₄ : w'.logged = w₄.logged := by
      rw [logged, log_of_stays h₄ (stays_finish now _) (by decide), logged]
    refine Or.inr ⟨_, ⟨stored, climate, now, d₄ ++ e₄, rfl, rfl⟩, ?_⟩
    have whole : Settled L (readingOf (.ofRead stored) climate now) w
        ([⟨DeviceRequest.blob (.read HatchConfig.blob), stored⟩] ++
          ([⟨DeviceRequest.sense, .ok climate⟩] ++ [⟨DeviceRequest.time, now⟩]) ++ d₄ ++ e₄) w' :=
      (settled_deliver delivered).extend (same₃.trans (same₂.trans same₁)) same₄
        ((silent_singleton rfl).append ((silent_singleton rfl).append (silent_singleton rfl)))
        (silent_of_stays h₄ (stays_finish now _) rfl)
    simpa using whole

/-- What a cycle has had accepted, however far it has come, is a prefix of the log and the reading
it took. -/
theorem acceptsPrefix_cycle {device : DeviceSettings}
    {q : Program Surroundings (Except DeviceError CycleOutcome)}
    (h : Reaches (answers L) (run device).run w d q w') :
    Silent d ∨ ∃ r, Took r d ∧ AcceptsPrefix (w.logged ++ [r]) d := by
  -- a cycle that was cut short could have been brought to its end
  obtain ⟨d', y, v, ending⟩ := exists_returns (answers_total L) q w'
  rcases settled_cycle (h.append ending) with ⟨silent, -, -⟩ | ⟨r, took, settled⟩
  · exact Or.inl fun e he => silent e (List.mem_append_left _ he)
  · obtain ⟨stored, climate, now, rest, same, rfl⟩ := took
    rcases List.append_eq_append_iff.mp same with ⟨m, early, -⟩ | ⟨m, rfl, -⟩
    · refine Or.inl fun e he => ?_
      have known : e ∈ [⟨DeviceRequest.blob (.read HatchConfig.blob), stored⟩,
          ⟨DeviceRequest.sense, .ok climate⟩, ⟨DeviceRequest.time, now⟩] :=
        early ▸ List.mem_append_left _ he
      simp only [List.mem_cons, List.not_mem_nil, or_false] at known
      rcases known with rfl | rfl | rfl <;> rfl
    · obtain ⟨name, hatch, sent, part, payloads⟩ := settled.inOrder
      rw [accepted_append] at payloads
      obtain ⟨first, last, rfl, payloads, -⟩ := List.map_eq_append_iff.mp payloads.symm
      exact Or.inr ⟨_, ⟨stored, climate, now, m, rfl, rfl⟩, name, hatch, first,
        (List.prefix_append first last).trans part, payloads.symm⟩

end Cycle

end HatchSensor
