import HatchSensor.Proofs.Consulting

/-!
# What the cloud can make of the configuration

A shadow exchange hands on the configuration that the last usable document among those delivered to
it makes of the current one.  This holds whatever the surroundings answer, so it is all that the
phases need to know about the exchange: every configuration it brings is some document's, merged
onto the configuration the exchange began with and accepted.
-/

namespace HatchSensor

open Program

/-- Some document makes the configuration `c` of the current one. -/
def HatchConfig.MadeOf (current c : HatchConfig) : Prop :=
  ∃ document, applyShadow document current = .ok c

/-- The configuration that a shadow exchange hands on. -/
def ShadowOutcome.config? : ShadowOutcome → Option HatchConfig
  | updated config => some config
  | _ => none

/-- The documents that an exchange delivered. -/
def Exchange.documents : Exchange Surroundings → List Bytes
  | ⟨.pump _, pumped⟩ => Pumped.documents pumped
  | _ => []

namespace ShadowExchange

/-- The configurations that the usable ones of some documents make of the current one. -/
def usable (current : HatchConfig) (documents : List Bytes) : List HatchConfig :=
  documents.filterMap fun document => (applyShadow document current).toOption

/-- The configurations that the usable documents of a dialogue make of the current one. -/
def merged (current : HatchConfig) (d : Dialogue Surroundings) : List HatchConfig :=
  d.flatMap fun e => usable current e.documents

variable {σ : Type} {B : Behaviour Surroundings σ} {s t : σ} {d e : Dialogue Surroundings}
  {current : HatchConfig}

@[simp]
lemma usable_nil : usable current [] = [] := rfl

lemma mem_usable {documents : List Bytes} {c : HatchConfig} :
    c ∈ usable current documents ↔
      ∃ document ∈ documents, applyShadow document current = .ok c := by
  have made : ∀ document, (applyShadow document current).toOption = some c ↔
      applyShadow document current = .ok c := by
    intro document
    cases applyShadow document current <;> simp [Except.toOption]
  simp only [usable, List.mem_filterMap, made]

@[simp]
lemma merged_nil : merged current [] = [] := rfl

@[simp]
lemma merged_cons (x : Exchange Surroundings) :
    merged current (x :: d) = usable current x.documents ++ merged current d :=
  List.flatMap_cons

@[simp]
lemma merged_append : merged current (d ++ e) = merged current d ++ merged current e :=
  List.flatMap_append

lemma mem_merged {c : HatchConfig} :
    c ∈ merged current d ↔
      ∃ x ∈ d, ∃ document ∈ x.documents, applyShadow document current = .ok c := by
  simp only [merged, List.mem_flatMap, mem_usable]

/-- A dialogue in which nothing was delivered brings nothing. -/
lemma merged_eq_nil (silent : ∀ x ∈ d, x.documents = []) : merged current d = [] := by
  refine List.flatMap_eq_nil_iff.mpr fun x hx => ?_
  rw [silent x hx, usable_nil]

/-! ## Documents -/

/-- What is said while documents are merged: the signal is raised for every usable one. -/
def announcements (count : Nat) : Dialogue Surroundings :=
  List.replicate count ⟨DeviceRequest.raise .shadowReceived, ()⟩

lemma merged_announcements (count : Nat) : merged current (announcements count) = [] := by
  refine merged_eq_nil fun x hx => ?_
  rw [List.eq_of_mem_replicate hx]
  rfl

/-- Documents are merged one by one, each onto the same configuration; the last usable one
counts. -/
lemma received_of_collect {received later : Option HatchConfig} {documents : List Bytes}
    (h : Returns B (collect current received documents) s d later t) :
    later = (usable current documents).getLast?.or received ∧
      d = announcements (usable current documents).length := by
  induction documents generalizing received s d with
  | nil =>
    obtain ⟨rfl, rfl, -⟩ := returns_done.mp h
    exact ⟨rfl, rfl⟩
  | cons document rest ih =>
    rw [collect] at h
    cases applied : applyShadow document current with
    | error reason =>
      have unusable : usable current (document :: rest) = usable current rest := by
        simp [usable, applied, Except.toOption]
      simp only [applied] at h
      rw [unusable]
      exact ih h
    | ok config =>
      have first : usable current (document :: rest) = config :: usable current rest := by
        simp [usable, applied, Except.toOption]
      simp only [applied] at h
      obtain ⟨_, u, d₂, rfl, -, collecting⟩ := returns_request_bind.mp h
      obtain ⟨rfl, rfl⟩ := ih collecting
      rw [first]
      refine ⟨?_, rfl⟩
      rw [List.getLast?_cons]
      cases (usable current rest).getLast? <;> rfl

/-! ## The exchange -/

/-- What the rounds of an exchange have received is the last of what they brought, or what was
there before. -/
lemma received_of_pumpAll {schedule : PumpSchedule} {id : UInt32} {deadline pumps : Nat}
    {received later : Option HatchConfig}
    (h : Returns B (pumpAll schedule current id deadline pumps received) s d (.ok later) t) :
    later = (merged current d).getLast?.or received := by
  induction pumps generalizing received s d with
  | zero =>
    obtain ⟨rfl, same, -⟩ := returns_done.mp h
    exact Except.ok.inj same
  | succ pumps ih =>
    obtain ⟨pumped, u₁, e₁, rfl, -, h₁⟩ := returns_request_bind.mp h
    obtain ⟨d₂, collected, u₂, e₂, rfl, collecting, h₂⟩ := returns_bind.mp h₁
    obtain ⟨rfl, rfl⟩ := received_of_collect collecting
    -- what this round has brought comes before what the dialogue goes on with
    have brought : ∀ {rest : Dialogue Surroundings} {x : Exchange Surroundings},
        x = ⟨DeviceRequest.pump schedule.step, pumped⟩ →
        (merged current (x :: (announcements (usable current pumped.documents).length
          ++ rest))).getLast?.or received
          = (merged current rest).getLast?.or
            ((usable current pumped.documents).getLast?.or received) := by
      rintro rest x rfl
      rw [merged_cons, merged_append, merged_announcements, List.nil_append, List.getLast?_append,
        Option.or_assoc]
      rfl
    rw [brought rfl]
    cases ended : pumped.outcome with
    | error reason =>
      simp only [ended] at h₂
      exact nomatch (returns_done.mp h₂).2.1
    | ok _ =>
      simp only [ended] at h₂
      obtain ⟨now, u₃, e₃, rfl, -, h₃⟩ := returns_request_bind.mp h₂
      obtain ⟨wake, u₄, e₄, rfl, -, h₄⟩ := returns_request_bind.mp h₃
      cases wake with
      | elapsed =>
        have again : Returns B (pumpAll schedule current id deadline pumps
            ((usable current pumped.documents).getLast?.or received)) u₄ e₄ (.ok later) t := h₄
        have last := ih again
        exact last
      | signalled bits =>
        obtain ⟨rfl, same, -⟩ := returns_done.mp h₄
        exact Except.ok.inj same
      | expired =>
        obtain ⟨rfl, same, -⟩ := returns_done.mp h₄
        exact Except.ok.inj same

lemma received_of_conclude (current : HatchConfig) {id : UInt32}
    {pumped : Attempt (Option HatchConfig)} {outcome : ShadowOutcome}
    (h : Returns B (conclude id pumped) s d (.ok outcome) t) (known : outcome ≠ .resetRequested) :
    pumped = .ok outcome.config? ∧ merged current d = [] := by
  obtain ⟨_, u₁, e₁, rfl, -, h₁⟩ := returns_request_bind.mp h
  cases pumped with
  | error reason => exact nomatch (returns_done.mp h₁).2.1
  | ok received =>
    obtain ⟨bits, u₂, e₂, rfl, -, h₂⟩ := returns_request_bind.mp h₁
    split at h₂
    · exact absurd (Except.ok.inj (returns_done.mp h₂).2.1) known
    · cases received with
      | none =>
        obtain ⟨rfl, same, -⟩ := returns_done.mp h₂
        cases same
        exact ⟨rfl, rfl⟩
      | some found =>
        obtain ⟨rfl, same, -⟩ := returns_done.mp h₂
        cases same
        exact ⟨rfl, rfl⟩

lemma merged_of_converse {schedule : PumpSchedule} {thing : String} {outcome : ShadowOutcome}
    (h : Returns B (converse schedule thing current) s d (.ok outcome) t)
    (known : outcome ≠ .resetRequested) : (merged current d).getLast? = outcome.config? := by
  obtain ⟨requested, u₁, e₁, rfl, -, h₁⟩ := returns_request_bind.mp h
  cases requested with
  | error reason => exact nomatch (returns_done.mp h₁).2.1
  | ok _ =>
    obtain ⟨id, u₂, e₂, rfl, -, h₂⟩ := returns_request_bind.mp h₁
    obtain ⟨start, u₃, e₃, rfl, -, h₃⟩ := returns_request_bind.mp h₂
    obtain ⟨found, u₄, e₄, rfl, -, h₄⟩ := returns_request_bind.mp h₃
    cases found with
    | some bits =>
      have ends : Returns B (conclude id (.ok none)) u₄ e₄ (.ok outcome) t := h₄
      obtain ⟨nothing, silent⟩ := received_of_conclude current ends known
      simp only [merged_cons, silent]
      exact Except.ok.inj nothing
    | none =>
      obtain ⟨d₅, pumped, u₅, e₅, rfl, pumping, concluding⟩ := returns_bind.mp h₄
      have ends : Returns B (conclude id pumped) u₅ e₅ (.ok outcome) t := concluding
      obtain ⟨rfl, silent⟩ := received_of_conclude current ends known
      have last := received_of_pumpAll pumping
      rw [Option.or_none] at last
      simp only [merged_cons, merged_append, silent, List.append_nil]
      exact last.symm

/-- Unless a reset was requested meanwhile, an exchange that succeeds hands on what the last usable
document makes of the current configuration, if there was one. -/
lemma merged_of_fetch {schedule : PumpSchedule} {thing : String} {outcome : ShadowOutcome}
    (h : Returns B (fetch schedule thing current) s d (.ok outcome) t)
    (known : outcome ≠ .resetRequested) : (merged current d).getLast? = outcome.config? := by
  obtain ⟨_, u₁, e₁, rfl, -, h₁⟩ := returns_request_bind.mp h
  obtain ⟨connected, u₂, e₂, rfl, -, h₂⟩ := returns_request_bind.mp h₁
  cases connected with
  | error reason => exact nomatch (returns_done.mp h₂).2.1
  | ok _ =>
    obtain ⟨d₃, ended, u₃, e₃, rfl, talk, h₃⟩ := returns_bind.mp h₂
    obtain ⟨_, u₄, e₄, rfl, -, h₄⟩ := returns_request_bind.mp h₃
    obtain ⟨_, u₅, e₅, rfl, -, halted⟩ := returns_request_bind.mp h₄
    obtain ⟨rfl, rfl, -⟩ := returns_done.mp halted
    -- all that counts was said inside the session
    simp only [merged_cons, merged_append]
    change (merged current d₃ ++ []).getLast? = _
    rw [List.append_nil]
    exact merged_of_converse talk known

end ShadowExchange

section Phases

variable {σ : Type} {B : Behaviour Surroundings σ} {s t : σ} {d : Dialogue Surroundings}
  {device : DeviceSettings} {current c : HatchConfig}

lemma mem_merged_of_fetchShadow
    (h : Returns B (fetchShadow device current) s d (some (.updated c)) t) :
    c ∈ ShadowExchange.merged current d := by
  obtain ⟨d₁, name, u₁, e₁, rfl, -, h₁⟩ := returns_bind.mp h
  obtain ⟨d₂, outcome, u₂, e₂, rfl, fetched, halted⟩ := returns_bind.mp h₁
  cases outcome with
  | error e => exact nomatch (returns_done.mp halted).2.1
  | ok outcome =>
    obtain ⟨-, same, -⟩ := returns_done.mp halted
    cases same
    have found := List.mem_of_getLast? (ShadowExchange.merged_of_fetch fetched nofun)
    rw [ShadowExchange.merged_append, ShadowExchange.merged_append]
    exact List.mem_append_right _ (List.mem_append_left _ found)

variable {L : Licence}

/-- What consulting the cloud has brought was delivered on the way. -/
lemma Lifecycle.Consulted.mem_merged
    (h : Consulted L device current d (some (.updated c))) :
    c ∈ ShadowExchange.merged current d := by
  cases h with
  | up linked fetched =>
    rw [ShadowExchange.merged_append]
    exact List.mem_append_right _ (mem_merged_of_fetchShadow fetched)

/-- What consulting the cloud has brought is some document's. -/
lemma Lifecycle.Consulted.madeOf
    (h : Consulted L device current d (some (.updated c))) : current.MadeOf c := by
  obtain ⟨_, -, document, -, applied⟩ := ShadowExchange.mem_merged.mp h.mem_merged
  exact ⟨document, applied⟩

/-- After the cloud was consulted the configuration is the same, or some document's. -/
lemma Lifecycle.Consulted.refreshed {outcome : Option ShadowOutcome}
    (h : Consulted L device current d outcome) :
    current.refreshed outcome = current ∨ current.MadeOf (current.refreshed outcome) := by
  rcases outcome with _ | (config | _ | _)
  · exact Or.inl rfl
  · exact Or.inr h.madeOf
  · exact Or.inl rfl
  · exact Or.inl rfl

end Phases

end HatchSensor
