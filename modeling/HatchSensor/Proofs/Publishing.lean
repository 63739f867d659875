import HatchSensor.Proofs.LogReplay

/-!
# Publishing the log

What the cloud accepts while a cycle publishes is always the messages of a prefix of the log
followed by the current reading, in order, and the outcome is "published" only if that prefix is
everything: `Cycle.Sent`.
-/

namespace HatchSensor

open Program World

/-! ## Accepted payloads -/

/-- The payload that the cloud has accepted. -/
def Exchange.accepted : Exchange Surroundings → Option Bytes
  | ⟨.publish _ payload _, .ok _⟩ => some payload
  | _ => none

/-- The payloads that the cloud has accepted, in order. -/
def accepted (d : Dialogue Surroundings) : List Bytes := d.filterMap Exchange.accepted

@[simp]
lemma accepted_append (d e : Dialogue Surroundings) :
    accepted (d ++ e) = accepted d ++ accepted e :=
  List.filterMap_append

/-- An accepted payload was published. -/
lemma exists_of_mem_accepted {payload : Bytes} {d : Dialogue Surroundings}
    (h : payload ∈ accepted d) : ∃ before topic timeout after,
      d = before ++ ⟨DeviceRequest.publish topic payload timeout, .ok ()⟩ :: after := by
  obtain ⟨⟨r, x⟩, there, same⟩ := List.mem_filterMap.mp h
  obtain ⟨before, after, rfl⟩ := List.append_of_mem there
  cases r with
  | publish topic content timeout =>
    cases x with
    | ok _ =>
      obtain rfl := Option.some.inj same
      exact ⟨before, topic, timeout, after, rfl⟩
    | error e => exact nomatch same
  | _ => exact nomatch same

/-- Requests that publish. -/
def DeviceRequest.publishes : DeviceRequest → Bool
  | .publish _ _ _ => true
  | _ => false

/-- Nothing is published in the dialogue. -/
def Silent (d : Dialogue Surroundings) : Prop :=
  ∀ e ∈ d, DeviceRequest.publishes e.request = false

lemma silent_nil : Silent [] := fun _ he => absurd he List.not_mem_nil

lemma silent_singleton {e : Exchange Surroundings}
    (h : DeviceRequest.publishes e.request = false) : Silent [e] := by
  intro f hf
  rwa [List.mem_singleton.mp hf]

lemma Silent.append {d e : Dialogue Surroundings} (first : Silent d) (second : Silent e) :
    Silent (d ++ e) := by
  intro f hf
  rcases List.mem_append.mp hf with hf | hf
  · exact first f hf
  · exact second f hf

/-- Where nothing is published nothing is accepted. -/
lemma Silent.accepted {d : Dialogue Surroundings} (h : Silent d) : accepted d = [] := by
  rw [HatchSensor.accepted, List.filterMap_eq_nil_iff]
  rintro ⟨r, x⟩ he
  have quiet := h _ he
  cases r with
  | publish topic payload timeout => exact absurd quiet (by simp [DeviceRequest.publishes])
  | _ => rfl

/-- A program that does not publish is silent. -/
lemma silent_of_stays {α : Type} {L : Licence} {f : Footprint} {p q : Program Surroundings α}
    {w w' : World} {d : Dialogue Surroundings} (h : Reaches (answers L) p w d q w')
    (stays : p.Stays f) (silent : f.publishes = false) : Silent d := by
  rintro ⟨r, x⟩ he
  have allowed := (h.only stays).1 _ he
  cases r with
  | publish topic payload timeout => exact absurd (silent.symm.trans allowed) Bool.false_ne_true
  | _ => rfl

namespace Cycle

/-- What is published for a reading. -/
def payload (name hatch : String) (r : Reading) : Bytes := Bytes.encodeUtf8 (r.message name hatch)

/-- The exchanges in which readings are published, one after the other, with success. -/
def batch (name hatch : String) (rs : List Reading) : Dialogue Surroundings :=
  rs.map fun r => ⟨DeviceRequest.publish topic (payload name hatch r) publishTimeout, .ok ()⟩

@[simp]
lemma accepted_batch (name hatch : String) (rs : List Reading) :
    accepted (batch name hatch rs) = rs.map (payload name hatch) := by
  induction rs with
  | nil => rfl
  | cons r rs ih => exact congrArg (payload name hatch r :: ·) ih

/-- How publishing `l` may have gone, the session being closed by `closing`: a prefix of it has been
accepted, and if the outcome is "published" that is all of it. -/
def Sent (l : List Reading) (closing d : Dialogue Surroundings) (outcome : PublishOutcome) : Prop :=
  ∃ name hatch sent, sent <+: l ∧ accepted d = sent.map (payload name hatch) ∧
    (outcome = .published →
      sent = l ∧ ∃ between, Silent between ∧ d = between ++ batch name hatch l ++ closing)

/-- If nothing was sent, not everything was. -/
lemma Sent.of_silent {l : List Reading} {closing d : Dialogue Surroundings}
    {outcome : PublishOutcome} (silent : Silent d) (failed : outcome ≠ .published) :
    Sent l closing d outcome :=
  ⟨"", "", [], List.nil_prefix, silent.accepted, fun all => absurd all failed⟩

/-- What was said before publishing began does not matter. -/
lemma Sent.after {l : List Reading} {closing d : Dialogue Surroundings} {outcome : PublishOutcome}
    (h : Sent l closing d outcome) {earlier : Dialogue Surroundings}
    (quiet : Silent earlier) : Sent l closing (earlier ++ d) outcome := by
  obtain ⟨name, hatch, sent, first, payloads, all⟩ := h
  refine ⟨name, hatch, sent, first, ?_, fun published => ?_⟩
  · rw [accepted_append, quiet.accepted, payloads, List.nil_append]
  · obtain ⟨whole, between, silent, rfl⟩ := all published
    exact ⟨whole, earlier ++ between, quiet.append silent, by simp⟩

/-- What is said afterwards belongs to the closing. -/
lemma Sent.close {l : List Reading} {closing d : Dialogue Surroundings} {outcome : PublishOutcome}
    (h : Sent l closing d outcome) {later : Dialogue Surroundings} (still : Silent later) :
    Sent l (closing ++ later) (d ++ later) outcome := by
  obtain ⟨name, hatch, sent, first, payloads, all⟩ := h
  refine ⟨name, hatch, sent, first, ?_, fun published => ?_⟩
  · rw [accepted_append, still.accepted, payloads, List.append_nil]
  · obtain ⟨whole, between, silent, rfl⟩ := all published
    exact ⟨whole, between, silent, by simp⟩

section

variable {L : Licence} {w w' : World} {d : Dialogue Surroundings} {outcome : PublishOutcome}

/-- Readings are published in order, up to the first that fails. -/
lemma sent_publishAll {name hatch : String} {rs : List Reading}
    (h : Returns (answers L) (publishAll name hatch rs) w d outcome w') :
    (outcome = .published ∧ d = batch name hatch rs) ∨
      (outcome = .failed ∧ ∃ sent, sent <+: rs ∧ accepted d = sent.map (payload name hatch)) := by
  induction rs generalizing w d with
  | nil =>
    obtain ⟨rfl, rfl, -⟩ := returns_done.mp h
    exact Or.inl ⟨rfl, rfl⟩
  | cons r rs ih =>
    obtain ⟨d₁, x, w₁, d₂, rfl, first, second⟩ := returns_bind.mp h
    obtain ⟨rfl, -⟩ := returns_request.mp first
    cases x with
    | error e =>
      obtain ⟨rfl, rfl, -⟩ := returns_done.mp second
      exact Or.inr ⟨rfl, [], List.nil_prefix, rfl⟩
    | ok _ =>
      rcases ih second with ⟨rfl, rfl⟩ | ⟨rfl, sent, first, payloads⟩
      · exact Or.inl ⟨rfl, rfl⟩
      · refine Or.inr ⟨rfl, r :: sent, List.cons_prefix_cons.mpr ⟨rfl, first⟩, ?_⟩
        rw [accepted_append, payloads]
        rfl

/-- The log that publishing reads is the log. -/
lemma readAll_eq_logged {l : List Reading}
    (h : Returns (answers L) (onBlobs ReadingLog.readAll.run) w d (.ok l) w') : l = w.logged := by
  unfold ReadingLog.readAll at h
  rw [onBlobs_run_bind] at h
  obtain ⟨y, w₁, d₂, -, answered, value⟩ := returns_request_bind.mp h
  cases y with
  | error e => exact nomatch (returns_done.mp value).2.1
  | ok content =>
    rw [Except.ok.inj (returns_done.mp value).2.1, (log_of_read answered).2 content rfl]
    rfl

lemma changesOnly_readAll {names : List String} : ReadingLog.readAll.run.ChangesOnly names :=
  only_run_bind Blob.changesOnly_read fun _ => .done _

/-- Publishing the log sends a prefix of the log and the current reading. -/
lemma sent_publishLog {device : DeviceSettings} {hatch : String} {current : Reading}
    (h : Returns (answers L) (publishLog device hatch current) w d outcome w') :
    Sent (w.logged ++ [current]) [⟨DeviceRequest.disconnect, ()⟩] d outcome := by
  obtain ⟨d₁, y, w₁, e₁, rfl, read, h₁⟩ := returns_bind.mp h
  have quiet₁ := silent_of_stays (f := .none) read (stays_reading changesOnly_readAll) rfl
  refine Sent.after ?_ quiet₁
  cases y with
  | error e =>
    obtain ⟨rfl, rfl, -⟩ := returns_done.mp h₁
    exact .of_silent silent_nil (by simp)
  | ok readings =>
    obtain rfl := readAll_eq_logged read
    obtain ⟨d₂, name, w₂, e₂, rfl, named, h₂⟩ := returns_bind.mp h₁
    have quiet₂ :=
      silent_of_stays (f := .none) named (stays_reading (changesOnly_cloudName _)) rfl
    obtain ⟨opened, w₃, e₃, rfl, -, h₃⟩ := returns_request_bind.mp h₂
    refine Sent.after (Sent.after ?_ (silent_singleton rfl)) quiet₂
    cases opened with
    | error e =>
      obtain ⟨rfl, rfl, -⟩ := returns_done.mp h₃
      exact .of_silent silent_nil (by simp)
    | ok _ =>
      obtain ⟨d₄, result, w₄, e₄, rfl, published, h₄⟩ := returns_bind.mp h₃
      obtain ⟨_, w₅, e₅, rfl, -, halted⟩ := returns_request_bind.mp h₄
      obtain ⟨rfl, rfl, -⟩ := returns_done.mp halted
      have middle : Sent (w.logged ++ [current]) [] d₄ outcome := by
        rcases sent_publishAll published with ⟨rfl, rfl⟩ | ⟨rfl, sent, first, payloads⟩
        · exact ⟨name, hatch, _, List.prefix_rfl, accepted_batch _ _ _,
            fun _ => ⟨rfl, [], silent_nil, by simp⟩⟩
        · exact ⟨name, hatch, sent, first, payloads, fun all => absurd all (by simp)⟩
      exact middle.close (silent_singleton rfl)

/-- Going online leaves the log alone, so that what is published is still the log it began with. -/
lemma sent_publishOnline {device : DeviceSettings} {config config' : HatchConfig}
    {current : Reading}
    (h : Returns (answers L) (publishOnline device config current) w d (outcome, config') w') :
    Sent (w.logged ++ [current]) [⟨DeviceRequest.disconnect, ()⟩] d outcome := by
  have stopped : ∀ {o : PublishOutcome} {c : HatchConfig} {u : World} {e : Dialogue Surroundings},
      o ≠ .published → Returns (answers L) (.done (o, c)) u e (outcome, config') w' →
        Sent (w.logged ++ [current]) [⟨DeviceRequest.disconnect, ()⟩] e outcome := by
    intro o c u e failed halted
    obtain ⟨rfl, same, -⟩ := returns_done.mp halted
    obtain ⟨rfl, rfl⟩ := Prod.mk.inj same
    exact .of_silent silent_nil failed
  have sent : ∀ {hatch : String} {c : HatchConfig} {u : World} {e : Dialogue Surroundings},
      u.logged = w.logged →
      Returns (answers L) (publishLog device hatch current >>= fun o => pure (o, c)) u e
        (outcome, config') w' →
        Sent (w.logged ++ [current]) [⟨DeviceRequest.disconnect, ()⟩] e outcome := by
    intro hatch c u e same publishing
    obtain ⟨d₁, o, w₁, e₁, rfl, published, halted⟩ := returns_bind.mp publishing
    obtain ⟨rfl, value, -⟩ := returns_done.mp halted
    obtain ⟨rfl, rfl⟩ := Prod.mk.inj value
    rw [List.append_nil, ← same]
    exact sent_publishLog published
  obtain ⟨d₁, status, w₁, e₁, rfl, linked, h₁⟩ := returns_bind.mp h
  refine Sent.after ?_ (silent_of_stays (f := .none) linked (stays_bringUp _) rfl)
  cases status with
  | down => exact stopped (by simp) h₁
  | resetRequested => exact stopped (by simp) h₁
  | up =>
    obtain ⟨d₂, fetched, w₂, e₂, rfl, shadow, h₂⟩ := returns_bind.mp h₁
    refine Sent.after ?_ (silent_of_stays (f := .none) shadow (stays_fetchShadow _ _) rfl)
    have same : w₂.logged = w.logged := by
      rw [logged, log_of_stays shadow (stays_fetchShadow (f := .none) _ _) List.not_mem_nil,
        log_of_stays linked (stays_bringUp (f := .none) _) List.not_mem_nil, logged]
    cases fetched with
    | none => exact stopped (by simp) h₂
    | some found =>
      cases found with
      | resetRequested => exact stopped (by simp) h₂
      | notReceived => exact sent same h₂
      | updated refreshed => exact sent same h₂

/-- The end of a session in which everything was published. -/
def farewell : Dialogue Surroundings :=
  [⟨DeviceRequest.disconnect, ()⟩, ⟨DeviceRequest.leave, ()⟩]

/-- Publishing sends a prefix of the log and the current reading, and ends off the network. -/
lemma sent_publish {device : DeviceSettings} {config config' : HatchConfig} {current : Reading}
    (h : Returns (answers L) (publish device config current) w d (outcome, config') w') :
    Sent (w.logged ++ [current]) farewell d outcome := by
  obtain ⟨d₁, result, w₁, e₁, rfl, online, h₁⟩ := returns_bind.mp h
  obtain ⟨_, w₂, e₂, rfl, -, halted⟩ := returns_request_bind.mp h₁
  obtain ⟨rfl, rfl, -⟩ := returns_done.mp halted
  exact (sent_publishOnline online).close (silent_singleton rfl)

end

/-! ## Footprints -/

lemma stays_publishAll {f : Footprint} (publishes : f.publishes = true) (name hatch : String)
    (rs : List Reading) : (publishAll name hatch rs).Stays f := by
  induction rs with
  | nil => exact .done _
  | cons r rs ih =>
    refine only_bind (only_request publishes) fun x => ?_
    cases x with
    | error e => exact .done _
    | ok _ => exact ih

lemma stays_publishLog {f : Footprint} (publishes : f.publishes = true) (device : DeviceSettings)
    (hatch : String) (current : Reading) : (publishLog device hatch current).Stays f := by
  refine only_bind (stays_reading changesOnly_readAll) fun y => ?_
  cases y with
  | error e => exact .done _
  | ok readings =>
    refine only_bind (stays_reading (changesOnly_cloudName _)) fun name =>
      only_bind (only_request trivial) fun opened => ?_
    cases opened with
    | error e => exact .done _
    | ok _ =>
      exact only_bind (stays_publishAll publishes _ _ _) fun _ =>
        only_bind (only_request trivial) fun _ => .done _

lemma stays_publish {f : Footprint} (publishes : f.publishes = true) (device : DeviceSettings)
    (config : HatchConfig) (current : Reading) : (publish device config current).Stays f := by
  refine only_bind ?_ fun _ => only_bind (only_request trivial) fun _ => .done _
  refine only_bind (stays_bringUp _) fun status => ?_
  cases status with
  | down => exact .done _
  | resetRequested => exact .done _
  | up =>
    refine only_bind (stays_fetchShadow _ _) fun fetched => ?_
    cases fetched with
    | none => exact .done _
    | some found =>
      cases found with
      | resetRequested => exact .done _
      | notReceived => exact only_bind (stays_publishLog publishes _ _ _) fun _ => .done _
      | updated refreshed => exact only_bind (stays_publishLog publishes _ _ _) fun _ => .done _

end Cycle

end HatchSensor
