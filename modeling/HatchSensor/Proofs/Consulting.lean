import HatchSensor.Proofs.Accounts

/-!
# Consulting the cloud

The configuring phase and the publication of readings both begin by going online and asking for the
shadow.  `Lifecycle.Consulted` says what this has brought; it decides whether a reset was requested
on the way and which configuration is in force afterwards.
-/

namespace HatchSensor

open Program World

/-- The configuration in force after the cloud was asked. -/
def HatchConfig.refreshed (c : HatchConfig) : Option ShadowOutcome → HatchConfig
  | some (.updated config) => config
  | _ => c

namespace Lifecycle

/-- What going online and asking for the shadow has brought. -/
inductive Consulted (L : Licence) (device : DeviceSettings) (current : HatchConfig) :
    Dialogue Surroundings → Option ShadowOutcome → Prop
  /-- There was no link. -/
  | down {d u v} (linked : Returns (answers L) (bringUp device.timing) u d .down v) :
      Consulted L device current d none
  /-- A reset was requested before the link was up. -/
  | reset {d u v} (linked : Returns (answers L) (bringUp device.timing) u d .resetRequested v) :
      Consulted L device current d (some .resetRequested)
  /-- The link came up, and the shadow was asked for. -/
  | up {d e u v v' outcome} (linked : Returns (answers L) (bringUp device.timing) u d .up v)
      (fetched : Returns (answers L) (fetchShadow device current) v e outcome v') :
      Consulted L device current (d ++ e) outcome

variable {L : Licence} {device : DeviceSettings} {w w' : World} {d : Dialogue Surroundings}

/-- What was said decides what the cloud has brought. -/
lemma Consulted.unique {current : HatchConfig} {d' e e' : Dialogue Surroundings}
    {outcome outcome' : Option ShadowOutcome} (h : Consulted L device current d outcome)
    (h' : Consulted L device current d' outcome') (same : d ++ e = d' ++ e') :
    d = d' ∧ outcome = outcome' := by
  cases h with
  | down linked =>
    cases h' with
    | down linked' => exact ⟨(linked.unique linked' same).1, rfl⟩
    | reset linked' => exact nomatch (linked.unique linked' same).2
    | up linked' fetched' =>
      rw [List.append_assoc] at same
      exact nomatch (linked.unique linked' same).2
  | reset linked =>
    cases h' with
    | down linked' => exact nomatch (linked.unique linked' same).2
    | reset linked' => exact ⟨(linked.unique linked' same).1, rfl⟩
    | up linked' fetched' =>
      rw [List.append_assoc] at same
      exact nomatch (linked.unique linked' same).2
  | up linked fetched =>
    rw [List.append_assoc] at same
    cases h' with
    | down linked' => exact nomatch (linked.unique linked' same).2
    | reset linked' => exact nomatch (linked.unique linked' same).2
    | up linked' fetched' =>
      rw [List.append_assoc] at same
      obtain ⟨rfl, -⟩ := linked.unique linked' same
      obtain ⟨rfl, rfl⟩ := fetched.unique fetched' (List.append_cancel_left same)
      exact ⟨rfl, rfl⟩

/-! ## Asking for a hatch -/

/-- Asking for a hatch is consulting the cloud, and leaving the network. -/
lemma consulted_of_askForHatch {current : HatchConfig} {outcome : Option ShadowOutcome}
    (h : Returns (answers L) (askForHatch device current) w d outcome w') :
    ∃ consulted, d = consulted ++ [⟨DeviceRequest.leave, ()⟩] ∧
      Consulted L device current consulted outcome := by
  have leaves : ∀ {o : Option ShadowOutcome} {u : World} {e : Dialogue Surroundings},
      Returns (answers L) (Surroundings.leave >>= fun _ => pure o) u e outcome w' →
        e = [⟨DeviceRequest.leave, ()⟩] ∧ outcome = o := by
    intro o u e leaving
    obtain ⟨_, u₁, d₂, rfl, -, halted⟩ := returns_request_bind.mp leaving
    obtain ⟨rfl, rfl, -⟩ := returns_done.mp halted
    exact ⟨rfl, rfl⟩
  obtain ⟨d₁, status, w₁, d₂, rfl, linked, h₁⟩ := returns_bind.mp h
  cases status with
  | down =>
    obtain ⟨rfl, rfl⟩ := leaves h₁
    exact ⟨d₁, rfl, .down linked⟩
  | resetRequested =>
    obtain ⟨rfl, rfl⟩ := leaves h₁
    exact ⟨d₁, rfl, .reset linked⟩
  | up =>
    obtain ⟨d₃, found, w₂, d₄, rfl, fetched, h₂⟩ := returns_bind.mp h₁
    obtain ⟨rfl, rfl⟩ := leaves h₂
    exact ⟨d₁ ++ d₃, (List.append_assoc _ _ _).symm, .up linked fetched⟩

/-! ## Publishing -/

/-- Publishing the log does not look for a reset. -/
lemma outcome_of_publishLog {hatch : String} {current : Reading} {outcome : PublishOutcome}
    (h : Returns (answers L) (Cycle.publishLog device hatch current) w d outcome w') :
    outcome ≠ .resetRequested := by
  obtain ⟨d₁, y, w₁, e₁, -, -, h₁⟩ := returns_bind.mp h
  cases y with
  | error e =>
    rw [(returns_done.mp h₁).2.1]
    simp
  | ok readings =>
    obtain ⟨d₂, name, w₂, e₂, -, -, h₂⟩ := returns_bind.mp h₁
    obtain ⟨d₃, opened, w₃, e₃, -, -, h₃⟩ := returns_bind.mp h₂
    cases opened with
    | error e =>
      rw [(returns_done.mp h₃).2.1]
      simp
    | ok _ =>
      obtain ⟨d₄, result, w₄, e₄, -, sent, h₄⟩ := returns_bind.mp h₃
      obtain ⟨d₅, _, w₅, e₅, -, -, halted⟩ := returns_bind.mp h₄
      rw [(returns_done.mp halted).2.1]
      rcases Cycle.sent_publishAll sent with ⟨rfl, -⟩ | ⟨rfl, -⟩
      · simp
      · simp

/-- Publishing begins with consulting the cloud, which decides whether a reset was requested and
which configuration is in force. -/
lemma consulted_of_publish {config force : HatchConfig} {current : Reading}
    {sent : PublishOutcome}
    (h : Returns (answers L) (Cycle.publish device config current) w d (sent, force) w') :
    ∃ consulted rest outcome, d = consulted ++ rest ∧ Consulted L device config consulted outcome ∧
      (sent = .resetRequested ↔ outcome = some .resetRequested) ∧
      force = config.refreshed outcome := by
  have logs : ∀ {hatch : String} {c : HatchConfig} {u u' : World} {e : Dialogue Surroundings}
      {result : PublishOutcome × HatchConfig},
      Returns (answers L) (Cycle.publishLog device hatch current >>= fun o => pure (o, c)) u e
        result u' → result.1 ≠ .resetRequested ∧ result.2 = c := by
    intro hatch c u u' e result publishing
    obtain ⟨d₁, o, w₁, e₁, -, sent, halted⟩ := returns_bind.mp publishing
    obtain ⟨-, rfl, -⟩ := returns_done.mp halted
    exact ⟨outcome_of_publishLog sent, rfl⟩
  obtain ⟨d₁, result, w₁, d₂, rfl, online, h₁⟩ := returns_bind.mp h
  obtain ⟨d₃, _, w₂, d₄, rfl, -, halted⟩ := returns_bind.mp h₁
  obtain ⟨rfl, rfl, -⟩ := returns_done.mp halted
  obtain ⟨e₁, status, w₃, e₂, rfl, linked, h₂⟩ := returns_bind.mp online
  cases status with
  | down =>
    obtain ⟨rfl, same, -⟩ := returns_done.mp h₂
    obtain ⟨rfl, rfl⟩ := Prod.mk.inj same
    exact ⟨e₁, d₃ ++ [], none, by simp, .down linked, by simp, rfl⟩
  | resetRequested =>
    obtain ⟨rfl, same, -⟩ := returns_done.mp h₂
    obtain ⟨rfl, rfl⟩ := Prod.mk.inj same
    exact ⟨e₁, d₃ ++ [], some .resetRequested, by simp, .reset linked, by simp, rfl⟩
  | up =>
    obtain ⟨e₃, fetched, w₄, e₄, rfl, shadow, h₃⟩ := returns_bind.mp h₂
    refine ⟨e₁ ++ e₃, e₄ ++ (d₃ ++ []), fetched, by simp, .up linked shadow, ?_⟩
    cases fetched with
    | none =>
      obtain ⟨-, same, -⟩ := returns_done.mp h₃
      obtain ⟨rfl, rfl⟩ := Prod.mk.inj same
      exact ⟨by simp, rfl⟩
    | some found =>
      cases found with
      | resetRequested =>
        obtain ⟨-, same, -⟩ := returns_done.mp h₃
        obtain ⟨rfl, rfl⟩ := Prod.mk.inj same
        exact ⟨by simp, rfl⟩
      | notReceived =>
        obtain ⟨noReset, rfl⟩ := logs h₃
        exact ⟨⟨fun same => absurd same noReset, fun same => absurd same (by simp)⟩, rfl⟩
      | updated refreshed =>
        obtain ⟨noReset, rfl⟩ := logs h₃
        exact ⟨⟨fun same => absurd same noReset, fun same => absurd same (by simp)⟩, rfl⟩

/-- A reading that is not published leaves the configuration alone; for one that is, the cloud is
consulted. -/
lemma consulted_of_deliver {config force : HatchConfig} {current : Reading}
    {published : Option PublishOutcome}
    (h : Returns (answers L) (Cycle.deliver device config current).run w d
      (.ok (published, force)) w') :
    (config.publishReason current.time = none ∧ published = none ∧ force = config) ∨
      config.publishReason current.time ≠ none ∧ ∃ consulted rest outcome, d = consulted ++ rest ∧
        Consulted L device config consulted outcome ∧
        (published = some .resetRequested ↔ outcome = some .resetRequested) ∧
        ∀ now, force.ended now = (config.refreshed outcome).ended now := by
  rw [Cycle.run_deliver] at h
  cases reason : config.publishReason current.time with
  | none =>
    simp only [reason] at h
    obtain ⟨d₁, _, w₁, d₂, rfl, -, halted⟩ := returns_bind.mp h
    obtain ⟨-, same, -⟩ := returns_done.mp halted
    obtain ⟨rfl, rfl⟩ := Prod.mk.inj (Except.ok.inj same)
    exact Or.inl ⟨rfl, rfl, rfl⟩
  | some why =>
    simp only [reason] at h
    obtain ⟨d₁, result, w₁, d₂, rfl, first, second⟩ := returns_bind.mp h
    obtain ⟨o, force'⟩ := result
    obtain ⟨consulted, rest, outcome, rfl, asked, reset, rfl⟩ := consulted_of_publish first
    refine Or.inr ⟨by simp, consulted, rest ++ d₂, outcome, List.append_assoc _ _ _, asked, ?_⟩
    have buffered : ∀ {o' : PublishOutcome},
        Returns (answers L) (Cycle.buffer current >>= fun _ =>
          (.done (.ok (some o', config.refreshed outcome)) :
            Program Surroundings (Except DeviceError (Option PublishOutcome × HatchConfig))))
          w₁ d₂ (.ok (published, force)) w' →
          published = some o' ∧ force = config.refreshed outcome := by
      intro o' buffering
      obtain ⟨d₃, _, w₂, d₄, -, -, halted⟩ := returns_bind.mp buffering
      exact Prod.mk.inj (Except.ok.inj (returns_done.mp halted).2.1)
    have kept : ∀ {o' : PublishOutcome}, (o' = .resetRequested ↔ outcome = some .resetRequested) →
        published = some o' ∧ force = config.refreshed outcome →
        (published = some .resetRequested ↔ outcome = some .resetRequested) ∧
          ∀ now, force.ended now = (config.refreshed outcome).ended now := by
      rintro o' reset ⟨rfl, rfl⟩
      exact ⟨by rw [Option.some.injEq, reset], fun _ => rfl⟩
    cases o with
    | failed => exact kept reset (buffered second)
    | offline => exact kept reset (buffered second)
    | resetRequested => exact kept reset (buffered second)
    | published =>
      obtain ⟨d₃, y, w₂, d₄, -, -, halted⟩ := returns_bind.mp second
      cases y with
      | error e => exact nomatch (returns_done.mp halted).2.1
      | ok _ =>
        obtain ⟨rfl, rfl⟩ := Prod.mk.inj (Except.ok.inj (returns_done.mp halted).2.1)
        -- the counters do not bear on whether the hatch is over
        exact ⟨by rw [Option.some.injEq, reset], fun now => rfl⟩

end Lifecycle

end HatchSensor
