import HatchSensor.Proofs.HatchRecord
import HatchSensor.Proofs.Session

/-!
# What a client's commands do

A command is a sequence of steps, each of which may be refused, and a refused step ends the command.
What a write does to the configuration and to the credentials can therefore be read off its steps:
new thresholds are merged onto the configuration that was loaded, and nothing else touches it.
-/

namespace HatchSensor

namespace Session

open Program

/-! ## Steps -/

section Steps

variable {α β : Type}

/-- A sequence of steps, step by step. -/
lemma run_bind (m : Step α) (f : α → Step β) (session : Session) :
    (m >>= f).run session = m.run session >>= fun
      | (.ok a, later) => (f a).run later
      | (.error e, later) => .done (.error e, later) := by
  rw [ExceptT.run_bind]
  refine congrArg (m.run session >>= ·) (funext fun y => ?_)
  obtain ⟨_ | _, later⟩ := y <;> rfl

/-- A question to the store. -/
lemma run_ask_bind (p : Program Blobs α) (f : α → Step β) (session : Session) :
    (ask p >>= f).run session = p >>= fun a => (f a).run session := by
  have first : (ask p).run session = p >>= fun a => .done (.ok a, session) := rfl
  rw [run_bind, first, bind_assoc]
  rfl

/-- A store operation. -/
lemma run_store (explain : StoreError → CommandError) (p : BlobProgram α) (session : Session) :
    (store explain p).run session = p.run >>= fun
      | .ok a => .done (.ok a, session)
      | .error e => .done (.error (explain e), session) := rfl

end Steps

variable {refuses : BlobRequest → Prop} {session later : Session} {m m' : BlobMap}
  {d : Dialogue Blobs}

/-- A store operation leaves the session as it is, and its failure is explained. -/
lemma returns_store {α : Type} {explain : StoreError → CommandError} {p : BlobProgram α}
    {y : Except CommandError α}
    (h : Returns (BlobMap.Answers refuses) ((store explain p).run session) m d (y, later) m') :
    ∃ result, Returns (BlobMap.Answers refuses) p.run m d result m' ∧ later = session ∧
      y = result.mapError explain := by
  rw [run_store] at h
  obtain ⟨d₁, result, m₁, d₂, rfl, performed, halted⟩ := returns_bind.mp h
  cases result with
  | ok a =>
    obtain ⟨rfl, same, rfl⟩ := returns_done.mp halted
    obtain ⟨rfl, rfl⟩ := Prod.mk.inj same
    exact ⟨_, by rwa [List.append_nil], rfl, rfl⟩
  | error e =>
    obtain ⟨rfl, same, rfl⟩ := returns_done.mp halted
    obtain ⟨rfl, rfl⟩ := Prod.mk.inj same
    exact ⟨_, by rwa [List.append_nil], rfl, rfl⟩

/-- A command is carried out, and the reply says how it went. -/
lemma returns_handle {message : ClientMessage} {command : Command} {effect : WriteEffect}
    (body : message.body = .command command)
    (h : Returns (BlobMap.Answers refuses) (handle session message) m d (effect, later) m') :
    ∃ outcome, Returns (BlobMap.Answers refuses) ((execute command).run session) m d
        (outcome, later) m' ∧
      (effect.reply = some ⟨message.id, .done⟩ ↔ ∃ finished, outcome = .ok finished) := by
  unfold handle at h
  rw [body] at h
  obtain ⟨d₁, ⟨outcome, after⟩, m₁, d₂, rfl, executed, halted⟩ := returns_bind.mp h
  cases outcome with
  | ok finished =>
    obtain ⟨rfl, same, rfl⟩ := returns_done.mp halted
    obtain ⟨rfl, rfl⟩ := Prod.mk.inj same
    exact ⟨_, by rwa [List.append_nil], iff_of_true rfl ⟨finished, rfl⟩⟩
  | error e =>
    obtain ⟨rfl, same, rfl⟩ := returns_done.mp halted
    obtain ⟨rfl, rfl⟩ := Prod.mk.inj same
    exact ⟨_, by rwa [List.append_nil], iff_of_false (by simp) (by simp)⟩

/-! ## Thresholds -/

/-- Loading the configuration gives what its blob stands for, or the defaults if it cannot be
read. -/
lemma returns_loadConfig {c : HatchConfig}
    (h : Returns (BlobMap.Answers refuses) HatchConfig.load m d c m') :
    m' = m ∧ (c = .ofBlob (m.get? HatchConfig.blob) ∨ c = .default) := by
  obtain ⟨y, m₁, d₂, -, answered, value⟩ := returns_request_bind.mp h
  obtain ⟨rfl, rfl | ⟨-, e, rfl⟩⟩ := BlobMap.answers_read.mp answered
  · obtain ⟨-, rfl, rfl⟩ := returns_done.mp value
    exact ⟨rfl, Or.inl rfl⟩
  · obtain ⟨-, rfl, rfl⟩ := returns_done.mp value
    exact ⟨rfl, Or.inr rfl⟩

/-- The configuration is as it was, or thresholds were merged onto it, or onto the defaults if it
could not be read. -/
def ThresholdsSet (refuses : BlobRequest → Prop) (m m' : BlobMap) : Prop :=
  m'.get? HatchConfig.blob = m.get? HatchConfig.blob ∨
    ∃ (update : ThresholdUpdate) (current updated : HatchConfig),
      (current = .ofBlob (m.get? HatchConfig.blob) ∨
        refuses (.read HatchConfig.blob) ∧ current = .default) ∧
      update.apply current = .ok updated ∧ m'.get? HatchConfig.blob = some updated.encode

lemma thresholdsSet_of_storeThresholds {update : ThresholdUpdate} {y : Except CommandError Unit}
    (h : Returns (BlobMap.Answers refuses) ((storeThresholds update).run session) m d (y, later)
      m') : ThresholdsSet refuses m m' := by
  unfold storeThresholds at h
  rw [run_ask_bind] at h
  obtain ⟨d₁, current, m₁, d₂, -, loaded, h₁⟩ := returns_bind.mp h
  obtain ⟨rfl, found⟩ := returns_loadConfig loaded
  have known : current = .ofBlob (m₁.get? HatchConfig.blob) ∨
      refuses (.read HatchConfig.blob) ∧ current = .default := by
    rcases Classical.em (refuses (.read HatchConfig.blob)) with no | readable
    · exact found.imp_right fun same => ⟨no, same⟩
    · exact Or.inl (HatchConfig.load_eq_ofBlob readable loaded).1
  cases applied : update.apply current with
  | error e =>
    simp only [applied] at h₁
    obtain ⟨-, -, rfl⟩ := returns_done.mp h₁
    exact Or.inl rfl
  | ok updated =>
    simp only [applied] at h₁
    obtain ⟨saved, save, -⟩ := returns_store h₁
    obtain ⟨-, answered⟩ := returns_request.mp save
    rcases BlobMap.answers_write.mp answered with ⟨-, rfl⟩ | ⟨-, -, rfl⟩
    · exact Or.inr ⟨update, current, updated, known, applied, BlobMap.get?_put_self _ _ _⟩
    · exact Or.inl rfl

/-- Whatever a client writes, all it can do to the configuration is to set thresholds. -/
lemma thresholdsSet_of_write {payload : Bytes} {effect : WriteEffect}
    (h : Returns (BlobMap.Answers refuses) (session.write payload) m d (effect, later) m') :
    ThresholdsSet refuses m m' := by
  unfold write at h
  split at h
  · next message _ =>
    by_cases thresholds : ∃ update, message.body = .command (.setThresholds update)
    · obtain ⟨update, body⟩ := thresholds
      obtain ⟨outcome, executed, -⟩ := returns_handle body h
      rw [execute, run_bind] at executed
      obtain ⟨d₃, z, m₂, d₄, -, stored, rest⟩ := returns_bind.mp executed
      obtain ⟨result, after'⟩ := z
      have same : m' = m₂ := by
        cases result <;> exact (returns_done.mp rest).2.2
      exact same ▸ thresholdsSet_of_storeThresholds stored
    · have other : ∀ command, message.body = .command command → ∀ name ∈ command.blobs,
          name ∈ [Credentials.ssidBlob, Credentials.passwordBlob, IdentityItem.uuid.blob,
            IdentityItem.certificate.blob, IdentityItem.privateKey.blob,
            IdentityItem.rootCa.blob] := by
        intro command body
        cases command with
        | setThresholds update => exact absurd ⟨update, body⟩ thresholds
        | _ => simp [Command.blobs]
      exact Or.inl (Reaches.get?_eq h (changesOnly_handle session message other) (by decide))
  · have within : Program.ChangesOnly [Credentials.ssidBlob, Credentials.passwordBlob]
        (handleBare session payload) :=
      changesOnly_handleBare (by simp) (by simp) session payload
    exact Or.inl (Reaches.get?_eq h within (by decide))

end Session

end HatchSensor
