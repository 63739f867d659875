import HatchSensor.Proofs.ExchangeCourse
import HatchSensor.Proofs.HelpfulWorld

/-!
# What a shadow exchange may cost and bring

A shadow exchange is bounded, brings what the cloud has delivered and nothing else, and cleans up
after itself, whatever the cloud answers and whatever bits others set meanwhile:
`ShadowExchange.exchange_is_well_conducted`.

There is one way to lose a configuration that has arrived.  A step of the session that brings a
document and then fails ends the exchange with its failure, and the document is forgotten:
`ShadowExchange.delivered_config_follows_its_step`.
-/

namespace HatchSensor

open Program SharedRegister

/-- The session works. -/
def DeviceRequest.pumps : DeviceRequest → Bool
  | .pump _ => true
  | _ => false

/-- A session is opened. -/
def DeviceRequest.connects : DeviceRequest → Bool
  | .connect _ _ => true
  | _ => false

/-- A wait is opened. -/
def DeviceRequest.opensWait : DeviceRequest → Bool
  | .openWait => true
  | _ => false

/-- The session is closed. -/
def DeviceRequest.disconnects : DeviceRequest → Bool
  | .disconnect => true
  | _ => false

/-- The cloud is asked for something that may fail. -/
def DeviceRequest.risky : DeviceRequest → Bool
  | .connect _ _ => true
  | .requestShadow _ => true
  | .pump _ => true
  | _ => false

/-- The cloud has failed to do what it was asked. -/
inductive Exchange.Failed : Exchange Surroundings → Prop
  /-- There is no session. -/
  | connect (client : String) (timeout : Nat) (reason : Fault) :
      Failed ⟨DeviceRequest.connect client timeout, (.error reason : Attempt Unit)⟩
  /-- The shadow cannot be asked for. -/
  | request (thing : String) (reason : Fault) :
      Failed ⟨DeviceRequest.requestShadow thing, (.error reason : Attempt Unit)⟩
  /-- The session breaks down. -/
  | pump (timeout : Nat) {pumped : Pumped} {reason : Fault} (h : pumped.outcome = .error reason) :
      Failed ⟨DeviceRequest.pump timeout, pumped⟩

/-- The exchange has brought a usable document, or shown that a reset is requested. -/
def Exchange.Settles (current : HatchConfig) (e : Exchange Surroundings) : Prop :=
  ShadowExchange.usable current e.documents ≠ [] ∨
    ∃ bits, e.Saw bits ∧ bits.contains .resetRequested = true

namespace ShadowExchange

variable {schedule : PumpSchedule} {thing : String} {current : HatchConfig} {preempts : Prop}
  {id : UInt32} {deadline n : Nat} {s t : SharedRegister} {d e : Dialogue Surroundings}
  {out : Attempt (Option HatchConfig)} {v : Except ExchangeError ShadowOutcome}

/-! ## What is asked for while the wait goes on -/

/-- What is asked for while the wait of an identity goes on. -/
def Working (id : UInt32) : DeviceRequest → Prop
  | .pump _ => True
  | .raise bits => bits = .shadowReceived
  | .instant => True
  | .look other _ => other = id
  | .park other _ _ _ => other = id
  | _ => False

lemma Working.talks {r : DeviceRequest} (h : Working id r) : Talks (· = id) r := by
  cases r <;> first | exact h | exact h.elim

lemma working_announcements (count : Nat) : ∀ e ∈ announcements count, Working id e.request := by
  intro e he
  rw [List.eq_of_mem_replicate he]
  rfl

lemma working_pause {now : Nat} {wake : Wake} :
    ∀ e ∈ pause schedule id deadline now wake, Working id e.request := by
  simp [pause, Working]

lemma Rounds.working (h : Rounds schedule current id deadline n d out) :
    ∀ e ∈ d, Working id e.request := by
  induction h with
  | spent => exact fun e he => absurd he List.not_mem_nil
  | broken failed => exact List.forall_mem_cons.mpr ⟨trivial, working_announcements _⟩
  | ended worked woken =>
    exact List.forall_mem_cons.mpr ⟨trivial, List.forall_mem_append.mpr
      ⟨working_announcements _, working_pause⟩⟩
  | again worked silent later ih =>
    exact List.forall_mem_cons.mpr ⟨trivial, List.forall_mem_append.mpr ⟨working_pause, ih⟩⟩

lemma Waited.working (h : Waited schedule current id deadline d out) :
    ∀ e ∈ d, Working id e.request := by
  cases h with
  | foregone bits => exact List.forall_mem_singleton.mpr rfl
  | pumped rounds => exact List.forall_mem_cons.mpr ⟨rfl, rounds.working⟩

/-! ## How often the session works -/

/-- The number of times the session works in a dialogue. -/
def pumpCount (d : Dialogue Surroundings) : Nat := d.countP fun e => DeviceRequest.pumps e.request

/-- The session does not work in a dialogue. -/
def Still (d : Dialogue Surroundings) : Prop := ∀ e ∈ d, DeviceRequest.pumps e.request = false

/-- Once an exchange settles what the dialogue is about, the session does not work any more. -/
def Prompt (current : HatchConfig) (d : Dialogue Surroundings) : Prop :=
  d.Pairwise fun e f => e.Settles current → DeviceRequest.pumps f.request = false

lemma pumpCount_append : pumpCount (d ++ e) = pumpCount d + pumpCount e := List.countP_append

lemma pumpCount_cons_le (x : Exchange Surroundings) : pumpCount (x :: d) ≤ pumpCount d + 1 := by
  rw [pumpCount, List.countP_cons]
  split
  · exact Nat.le_refl _
  · exact Nat.le_succ _

lemma Still.pumpCount (h : Still d) : pumpCount d = 0 :=
  List.countP_eq_zero.mpr fun e he => by simp [h e he]

lemma Still.prompt (h : Still d) : Prompt current d :=
  List.pairwise_iff_forall_sublist.mpr fun {_ f} sub _ => h f (sub.subset (by simp))

lemma still_announcements (count : Nat) : Still (announcements count) := by
  intro e he
  rw [List.eq_of_mem_replicate he]
  rfl

lemma still_pause {now : Nat} {wake : Wake} : Still (pause schedule id deadline now wake) := by
  simp [Still, pause, DeviceRequest.pumps]

lemma still_preamble {start : Nat} : Still (preamble thing id start) := by
  simp [Still, preamble, opening, DeviceRequest.pumps]

lemma still_closing : Still closing := by simp [Still, closing, DeviceRequest.pumps]

lemma Still.append (h : Still d) (h' : Still e) : Still (d ++ e) :=
  List.forall_mem_append.mpr ⟨h, h'⟩

lemma Concluded.still (h : Concluded id out d v) : Still d := by
  cases h <;> simp [Still, DeviceRequest.pumps]

lemma Prompt.append (h : Prompt current d) (still : Still e) : Prompt current (d ++ e) :=
  List.pairwise_append.mpr ⟨h, still.prompt, fun _ _ f hf _ => still f hf⟩

/-- An exchange that settles nothing may come before anything. -/
lemma Prompt.cons {x : Exchange Surroundings} (h : Prompt current d)
    (unsettled : ¬ x.Settles current) : Prompt current (x :: d) :=
  List.pairwise_cons.mpr ⟨fun _ _ settled => absurd settled unsettled, h⟩

/-- Anything may come before what the session does not work in. -/
lemma Still.prompt_cons (x : Exchange Surroundings) (h : Still d) : Prompt current (x :: d) :=
  List.pairwise_cons.mpr ⟨fun f hf _ => h f hf, h.prompt⟩

/-- What neither brings a usable document nor shows the register settles nothing. -/
lemma not_settles {x : Exchange Surroundings} (silent : usable current x.documents = [])
    (blind : ∀ bits, ¬ x.Saw bits) : ¬ x.Settles current := by
  rintro (brought | ⟨bits, saw, -⟩)
  · exact brought silent
  · exact blind bits saw

lemma not_saw_of_blind {x : Exchange Surroundings} (blind : DeviceRequest.looks x.request = false)
    (bits : SignalBits) : ¬ x.Saw bits := by
  intro saw
  cases saw <;> exact Bool.noConfusion blind

lemma prompt_pause {now : Nat} (h : Prompt current d) :
    Prompt current (pause schedule id deadline now .elapsed ++ d) := by
  refine (h.cons (not_settles rfl ?_)).cons (not_settles rfl (not_saw_of_blind rfl))
  intro bits saw
  cases saw

/-- The session works at most as often as there are rounds left. -/
lemma Rounds.pumpCount_le (h : Rounds schedule current id deadline n d out) : pumpCount d ≤ n := by
  have last : ∀ {x : Exchange Surroundings} {rest : Dialogue Surroundings} {m : Nat},
      Still rest → pumpCount (x :: rest) ≤ m + 1 := by
    intro x rest m still
    have count := pumpCount_cons_le (d := rest) x
    rw [still.pumpCount] at count
    omega
  induction h with
  | spent => exact Nat.le_refl 0
  | broken failed => exact last (still_announcements _)
  | ended worked woken => exact last ((still_announcements _).append still_pause)
  | again worked silent later ih =>
    refine (pumpCount_cons_le _).trans (Nat.succ_le_succ ?_)
    rw [pumpCount_append, still_pause.pumpCount, Nat.zero_add]
    exact ih

/-- No round follows one that settles what the exchange is about. -/
lemma Rounds.prompt (h : Rounds schedule current id deadline n d out) : Prompt current d := by
  induction h with
  | spent => exact .nil
  | broken failed => exact (still_announcements _).prompt_cons _
  | ended worked woken => exact ((still_announcements _).append still_pause).prompt_cons _
  | again worked silent later ih =>
    exact (prompt_pause ih).cons (not_settles silent (not_saw_of_blind rfl))

/-! ## Failures -/

/-- Some part of a dialogue has failed. -/
def Broke (d : Dialogue Surroundings) : Prop := ∃ e ∈ d, e.Failed

lemma broke_cons {x : Exchange Surroundings} : Broke (x :: d) ↔ x.Failed ∨ Broke d := by
  simp [Broke]

lemma broke_append : Broke (d ++ e) ↔ Broke d ∨ Broke e := by
  simp [Broke, or_and_right, exists_or]

/-- Where nothing is asked that may fail, nothing fails. -/
lemma not_broke (h : ∀ e ∈ d, DeviceRequest.risky e.request = false) : ¬ Broke d := by
  rintro ⟨e, he, failed⟩
  have safe := h e he
  cases failed <;> exact Bool.noConfusion safe

lemma not_broke_announcements (count : Nat) : ¬ Broke (announcements count) := by
  refine not_broke fun e he => ?_
  rw [List.eq_of_mem_replicate he]
  rfl

lemma not_broke_pause {now : Nat} {wake : Wake} :
    ¬ Broke (pause schedule id deadline now wake) :=
  not_broke (by simp [pause, DeviceRequest.risky])

lemma not_failed_pump {timeout : Nat} {pumped : Pumped} (worked : pumped.outcome = .ok ()) :
    ¬ Exchange.Failed ⟨DeviceRequest.pump timeout, pumped⟩ := by
  intro failed
  cases failed with
  | pump timeout h => exact nomatch worked.symm.trans h

/-- The rounds come to a failure exactly if the session breaks down in one of them. -/
lemma Rounds.broke_iff (h : Rounds schedule current id deadline n d out) :
    Broke d ↔ ∃ reason, out = .error reason := by
  induction h with
  | spent => simp [Broke]
  | broken failed => exact ⟨fun _ => ⟨_, rfl⟩, fun _ => broke_cons.mpr (Or.inl (.pump _ failed))⟩
  | ended worked woken =>
    rw [broke_cons, broke_append]
    simp [not_failed_pump worked, not_broke_announcements, not_broke_pause]
  | again worked silent later ih =>
    rw [broke_cons, broke_append, ← ih]
    simp [not_failed_pump worked, not_broke_pause]

/-! ## The whole exchange -/

lemma not_broke_closing : ¬ Broke closing := not_broke (by simp [closing, DeviceRequest.risky])

lemma Waited.pumpCount_le (h : Waited schedule current id deadline d out) :
    pumpCount d ≤ schedule.pumps := by
  cases h with
  | foregone bits => exact Nat.zero_le _
  | pumped rounds => exact rounds.pumpCount_le

lemma Waited.prompt (h : Waited schedule current id deadline d out) (still : Still e) :
    Prompt current (d ++ e) := by
  cases h with
  | foregone bits => exact still.prompt_cons _
  | pumped rounds =>
    refine (rounds.prompt.append still).cons (not_settles rfl ?_)
    intro bits saw
    cases saw

lemma Waited.broke_iff (h : Waited schedule current id deadline d out) :
    Broke d ↔ ∃ reason, out = .error reason := by
  have looks : ∀ {mask : SignalBits} {found : Option SignalBits},
      ¬ Exchange.Failed ⟨DeviceRequest.look id mask, found⟩ := nofun
  cases h with
  | foregone bits => simp [looks, Broke]
  | pumped rounds => rw [broke_cons, rounds.broke_iff]; simp [looks]

lemma Concluded.broke_iff (h : Concluded id out d v) :
    ¬ Broke d ∧ ((∃ reason, out = .error reason) ↔ ∃ reason, v = .error reason) := by
  have safe : ∀ e ∈ d, DeviceRequest.risky e.request = false := by
    cases h <;> simp [DeviceRequest.risky]
  refine ⟨not_broke safe, ?_⟩
  cases h <;> simp

/-- Nothing is settled before the session works. -/
lemma Prompt.after_preamble {start : Nat} (h : Prompt current d) :
    Prompt current (preamble thing id start ++ d) := by
  have unsettled : ∀ x ∈ preamble thing id start, ¬ x.Settles current := by
    have plain : ∀ x ∈ preamble thing id start,
        x.documents = [] ∧ DeviceRequest.looks x.request = false := by
      simp [preamble, opening, Exchange.documents, DeviceRequest.looks]
    intro x hx
    obtain ⟨silent, blind⟩ := plain x hx
    exact not_settles (by rw [silent, usable_nil]) (not_saw_of_blind blind)
  exact List.pairwise_append.mpr ⟨still_preamble.prompt, h,
    fun x hx _ _ settled => absurd settled (unsettled x hx)⟩

lemma not_broke_preamble {start : Nat} : ¬ Broke (preamble thing id start) := by
  rintro ⟨x, hx, failed⟩
  simp only [preamble, opening, List.cons_append, List.nil_append, List.mem_cons,
    List.not_mem_nil, or_false] at hx
  rcases hx with rfl | rfl | rfl | rfl | rfl <;> cases failed

namespace Course

lemma pumpCount_le (h : Course schedule thing current d v) : pumpCount d ≤ schedule.pumps := by
  cases h with
  | unconnected reason => exact Nat.zero_le _
  | unasked reason => exact Nat.zero_le _
  | held waited concluded =>
    rw [pumpCount_append, pumpCount_append, still_preamble.pumpCount,
      (concluded.still.append still_closing).pumpCount, Nat.zero_add, Nat.add_zero]
    exact waited.pumpCount_le

lemma prompt (h : Course schedule thing current d v) : Prompt current d := by
  cases h with
  | unconnected reason =>
    refine Still.prompt ?_
    simp [Still, opening, DeviceRequest.pumps]
  | unasked reason =>
    refine Still.prompt ?_
    simp [Still, opening, closing, DeviceRequest.pumps]
  | held waited concluded =>
    exact (waited.prompt (concluded.still.append still_closing)).after_preamble

/-- An exchange fails exactly if the cloud has failed in it. -/
lemma broke_iff (h : Course schedule thing current d v) :
    Broke d ↔ ∃ reason, v = .error reason := by
  cases h with
  | unconnected reason =>
    exact ⟨fun _ => ⟨_, rfl⟩, fun _ => ⟨_, List.mem_cons_of_mem _ List.mem_cons_self,
      .connect _ _ reason⟩⟩
  | unasked reason =>
    exact ⟨fun _ => ⟨_, rfl⟩, fun _ => ⟨_, List.mem_append_right _ List.mem_cons_self,
      .request _ reason⟩⟩
  | held waited concluded =>
    obtain ⟨whole, same⟩ := concluded.broke_iff
    rw [broke_append, broke_append, broke_append, waited.broke_iff, same]
    simp [not_broke_preamble, whole, not_broke_closing]

/-- The session is closed once if it was opened, and else never. -/
lemma disconnects (h : Course schedule thing current d v) :
    ∃ (connected : Attempt Unit) (rest : Dialogue Surroundings),
      d = opening thing connected ++ rest ∧
      (∀ e ∈ rest, DeviceRequest.connects e.request = false) ∧
      rest.countP (fun e => DeviceRequest.disconnects e.request)
        = if connected.isOk then 1 else 0 := by
  cases h with
  | unconnected reason => exact ⟨_, [], (List.append_nil _).symm, by simp, rfl⟩
  | unasked reason =>
    refine ⟨_, _, rfl, ?_, rfl⟩
    simp [closing, DeviceRequest.connects]
  | @held id start d e out v waited concluded =>
    have quiet : ∀ x ∈ d ++ e, DeviceRequest.connects x.request = false ∧
        DeviceRequest.disconnects x.request = false := by
      refine List.forall_mem_append.mpr ⟨fun x hx => ?_, ?_⟩
      · have working := waited.working x hx
        revert working
        cases x.request <;> simp [Working, DeviceRequest.connects, DeviceRequest.disconnects]
      · cases concluded <;> simp [DeviceRequest.connects, DeviceRequest.disconnects]
    have once : (d ++ e).countP (fun x => DeviceRequest.disconnects x.request) = 0 :=
      List.countP_eq_zero.mpr fun x hx => by simp [(quiet x hx).2]
    refine ⟨.ok (), [⟨DeviceRequest.requestShadow thing, (.ok () : Attempt Unit)⟩,
      ⟨DeviceRequest.openWait, id⟩, ⟨DeviceRequest.instant, start⟩] ++ ((d ++ e) ++ closing),
      by simp [preamble], ?_, ?_⟩
    · refine List.forall_mem_append.mpr ⟨by simp [DeviceRequest.connects],
        List.forall_mem_append.mpr ⟨fun x hx => (quiet x hx).1, ?_⟩⟩
      simp [closing, DeviceRequest.connects]
    · rw [List.countP_append, List.countP_append, once]
      rfl

end Course

/-! ## The register in the course of it -/

/-- The register from the end of the pumping to the end of the exchange: what is seen of it in
between is later than the one and earlier than the other. -/
lemma seen_of_whole {α : Type} {p q : Program Surroundings α} {before : Dialogue Surroundings}
    {bits : SignalBits}
    (h : Reaches (answers preempts) p s
      (before ++ (d ++ ([⟨DeviceRequest.closeWait id, ()⟩, ⟨DeviceRequest.signals, bits⟩] ++
        closing))) q t) :
    ∃ p' u v, Reaches (answers preempts) p s (before ++ d) p' u ∧ bits = v.register.bits ∧
      Changes (fun _ => True) u v ∧ Changes (fun _ => True) v t := by
  rw [← List.append_assoc] at h
  obtain ⟨p', u, first, rest⟩ := h.split
  obtain ⟨p₁, v, closed, rest⟩ := rest.tail
  obtain ⟨p₂, v', ⟨v'', ⟨same, rfl⟩, others⟩, rest'⟩ := rest.tail
  have closes : Talks (fun _ => True) (.closeWait id) := trivial
  have last : Changes (fun _ => True) v' t :=
    changes_of_reaches rest' (by simp [closing, Talks])
  exact ⟨p', u, _, first, same, changes_of_answers closes closed, others.changes.trans last⟩

lemma verdict_of_requested {received : Option HatchConfig} {bits : SignalBits}
    (h : bits.contains .resetRequested = true) : verdict received bits = .resetRequested :=
  if_pos h

/-- The verdict on what an exchange has received. -/
lemma ended_of_fetch {outcome : ShadowOutcome}
    (h : Returns (answers preempts) (fetch schedule thing current) s d (.ok outcome) t) :
    ∃ before id q u after, d = before ++ ⟨DeviceRequest.closeWait id, ()⟩ :: after ∧
      Reaches (answers preempts) (fetch schedule thing current) s before q u ∧ Still after ∧
      (u.Requested → outcome = .resetRequested) ∧
      ∀ c, outcome = .updated c → ¬ u.Requested ∧ (merged current before).getLast? = some c := by
  have course := course_of_fetch h
  generalize value : (Except.ok outcome : Except ExchangeError ShadowOutcome) = v at course
  cases course with
  | unconnected reason => exact nomatch value
  | unasked reason => exact nomatch value
  | @held id start d e out v waited concluded =>
    cases concluded with
    | broken reason => exact nomatch value
    | whole received bits =>
      obtain rfl := Except.ok.inj value
      obtain ⟨q, u, v, first, rfl, before, -⟩ := seen_of_whole h
      refine ⟨_, id, q, u, _, (List.append_assoc _ _ _).symm, first, ?_, fun requested => ?_,
        fun c updated => ?_⟩
      · exact List.forall_mem_cons.mpr ⟨rfl, still_closing⟩
      · have seen : v.register.bits.contains .resetRequested = true := before.requested requested
        exact verdict_of_requested seen
      · rw [updated] at h
        have last := merged_of_fetch h nofun
        rw [← List.append_assoc, merged_append] at last
        refine ⟨fun requested => ?_, ?_⟩
        · have seen : v.register.bits.contains .resetRequested = true := before.requested requested
          exact nomatch updated.symm.trans (verdict_of_requested seen)
        · change (merged current (preamble thing id start ++ d) ++ []).getLast? = some c at last
          rwa [List.append_nil] at last

/-- No wait is opened in a dialogue. -/
def Unopened (d : Dialogue Surroundings) : Prop :=
  ∀ e ∈ d, DeviceRequest.opensWait e.request = false

lemma Unopened.not_mem (h : Unopened d) (id : UInt32) : ⟨DeviceRequest.openWait, id⟩ ∉ d :=
  fun opened => Bool.noConfusion (h _ opened)

lemma Waited.unopened (h : Waited schedule current id deadline d out) : Unopened d := by
  intro x hx
  have working := h.working x hx
  revert working
  cases x.request <;> simp [Working, DeviceRequest.opensWait]

/-- The only wait of an exchange is the one that is opened before the session works. -/
lemma id_of_mem_held {id' : UInt32} {start : Nat} (unopened : Unopened d)
    (h : ⟨DeviceRequest.openWait, id'⟩ ∈ preamble thing id start ++ d) : id' = id := by
  rcases List.mem_append.mp h with h | h
  · simp only [preamble, opening, List.cons_append, List.nil_append, List.mem_cons,
      List.not_mem_nil, or_false] at h
    rcases h with h | h | h | h | h <;> cases h
    rfl
  · exact absurd h (unopened.not_mem id')

/-- A wait that was closed is not parked, and the others are as they were before it was opened. -/
lemma waiters_of_held {α : Type} {p q : Program Surroundings α} {start : Nat} {x : Unit}
    (h : Reaches (answers preempts) p s
      (preamble thing id start ++ (d ++ (⟨DeviceRequest.closeWait id, x⟩ :: e))) q t)
    (working : ∀ y ∈ d, Working id y.request)
    (idle : ∀ y ∈ e, Talks (fun _ => False) y.request) :
    t.register.waiters.Sublist s.register.waiters ∧ ∀ w ∈ t.register.waiters, w.id ≠ id := by
  obtain ⟨p₁, u₁, first, rest₁⟩ := h.split
  obtain ⟨p₂, u₂, second, rest₂⟩ := rest₁.split
  obtain ⟨p₃, u₃, ⟨u, rfl, others⟩, last⟩ := rest₂.tail
  have before : Changes (fun _ => False) s u₁ :=
    changes_of_reaches first (by simp [preamble, opening, Talks])
  have during : Changes (· = id) u₁ u₂ :=
    changes_of_reaches second fun y hy => (working y hy).talks
  have rest : Changes (fun _ => False) { u₂ with register := u₂.register.forget id } t :=
    others.changes.trans (changes_of_reaches last idle)
  have after : t.register.waiters.Sublist (u₂.register.forget id).waiters := rest.waiters
  refine ⟨(after.trans during.others_waiters).trans before.waiters, fun w hw => ?_⟩
  have kept := List.mem_filter.mp (after.subset hw)
  simpa using kept.2

/-- Whatever waits were parked before, none but them is parked afterwards, and none of the
exchange's own. -/
lemma waiters_of_fetch
    (h : Returns (answers preempts) (fetch schedule thing current) s d v t) :
    t.register.waiters.Sublist s.register.waiters ∧
      ∀ id, ⟨DeviceRequest.openWait, id⟩ ∈ d → ∀ w ∈ t.register.waiters, w.id ≠ id := by
  have course := course_of_fetch h
  cases course with
  | unconnected reason =>
    have changes : Changes (fun _ => False) s t :=
      changes_of_reaches h (by simp [opening, Talks])
    have unopened : Unopened (opening thing (.error reason)) := by
      simp [Unopened, opening, DeviceRequest.opensWait]
    exact ⟨changes.waiters, fun id opened => absurd opened (unopened.not_mem id)⟩
  | unasked reason =>
    have changes : Changes (fun _ => False) s t :=
      changes_of_reaches h (by simp [opening, closing, Talks])
    have unopened : Unopened (opening thing (.ok ()) ++
        (⟨DeviceRequest.requestShadow thing, (.error reason : Attempt Unit)⟩ :: closing)) := by
      simp [Unopened, opening, closing, DeviceRequest.opensWait]
    exact ⟨changes.waiters, fun id opened => absurd opened (unopened.not_mem id)⟩
  | @held id start d e out v waited concluded =>
    have unopened : Unopened (d ++ (e ++ closing)) := by
      refine List.forall_mem_append.mpr ⟨waited.unopened, ?_⟩
      cases concluded <;> simp [closing, DeviceRequest.opensWait]
    have parked : t.register.waiters.Sublist s.register.waiters ∧
        ∀ w ∈ t.register.waiters, w.id ≠ id := by
      cases concluded with
      | broken reason => exact waiters_of_held h waited.working (by simp [closing, Talks])
      | whole received bits => exact waiters_of_held h waited.working (by simp [closing, Talks])
    refine ⟨parked.1, fun id' opened => ?_⟩
    rw [id_of_mem_held unopened opened]
    exact parked.2

/-- Every exchange ends with its signal cleared. -/
lemma cleared_of_fetch
    (h : Returns (answers preempts) (fetch schedule thing current) s d v t) :
    Cleared preempts t := by
  have closes : ∀ before, d = before ++ closing → Cleared preempts t := by
    rintro before rfl
    have last : before ++ closing = (before ++ [⟨DeviceRequest.disconnect, ()⟩]) ++
        [⟨DeviceRequest.clear .shadowReceived, ()⟩] := by simp [closing]
    rw [last] at h
    obtain ⟨q, u, -, rest⟩ := Reaches.split h
    obtain ⟨p', u', cleared, halted⟩ := rest.tail
    cases halted
    exact cleared_of_clear cleared
  have course := course_of_fetch h
  cases course with
  | unconnected reason =>
    obtain ⟨p₁, u, cleared, rest⟩ := Reaches.tail h
    obtain ⟨p₂, u', connected, halted⟩ := rest.tail
    cases halted
    exact (cleared_of_clear cleared).connect connected
  | unasked reason =>
    exact closes (opening thing (.ok ()) ++
      [⟨DeviceRequest.requestShadow thing, (.error reason : Attempt Unit)⟩]) (by simp)
  | @held id start d e out v waited concluded =>
    exact closes (preamble thing id start ++ (d ++ e)) (by simp)

/-- An exchange changes no bit but its own. -/
lemma kept_of_fetch (r : SignalRegister)
    (h : Returns (answers preempts) (fetch schedule thing current) (.start r) d v t) :
    Kept r.bits t := by
  have changes : Changes (fun _ => True) (.start r) t :=
    changes_of_reaches h (Reaches.only h (only_fetch schedule thing current)).1
  refine changes.kept (SignalBits.ext_bit fun i hi => ?_)
  simp [SharedRegister.start, SignalBits.bit_without _ _ hi]

/-! ## What holds of every exchange -/

/-- An exchange that began on the register `r`, said `d`, came to `v` and has left the register
`t`: what it has cost, what it has brought and what it leaves behind. -/
structure WellConducted (schedule : PumpSchedule) (thing : String) (current : HatchConfig)
    (preempts : Prop) (r : SignalRegister) (d : Dialogue Surroundings)
    (v : Except ExchangeError ShadowOutcome) (t : SharedRegister) : Prop where
  /-- The session works at most as often as the schedule says. -/
  bounded : pumpCount d ≤ schedule.pumps
  /-- It does not work again after it has brought a usable document, nor after a reset request was
  seen. -/
  prompt : Prompt current d
  /-- There is one attempt to open a session, and the session is closed once if it was opened and
  else never. -/
  closed : ∃ (connected : Attempt Unit) (rest : Dialogue Surroundings),
    d = opening thing connected ++ rest ∧
    (∀ e ∈ rest, DeviceRequest.connects e.request = false) ∧
    rest.countP (fun e => DeviceRequest.disconnects e.request) = if connected.isOk then 1 else 0
  /-- It fails exactly if the cloud has failed in it. -/
  fails : Broke d ↔ ∃ reason, v = .error reason
  /-- Otherwise there is a moment at which the session works no more and the wait is about to be
  closed.  A reset that is requested then is the outcome; a configuration is the outcome only if
  none is, and it is what the last usable document makes of the current one. -/
  ended : ∀ outcome, v = .ok outcome → ∃ before id q u after,
    d = before ++ ⟨DeviceRequest.closeWait id, ()⟩ :: after ∧
    Reaches (answers preempts) (fetch schedule thing current) (.start r) before q u ∧
    Still after ∧ (u.Requested → outcome = .resetRequested) ∧
    ∀ c, outcome = .updated c → ¬ u.Requested ∧ (merged current before).getLast? = some c
  /-- Its signal is cleared, unless others preempt it and set the signal after that. -/
  cleared : Cleared preempts t
  /-- While nobody preempts it, its signal is gone. -/
  gone : ¬ preempts → t.register.bits.contains .shadowReceived = false
  /-- The other bits are those that were set before and those that others have set. -/
  kept : Kept r.bits t
  /-- None but waits that were parked before is parked, and none of its own. -/
  unparked : t.register.waiters.Sublist r.waiters ∧
    ∀ id, ⟨DeviceRequest.openWait, id⟩ ∈ d → ∀ w ∈ t.register.waiters, w.id ≠ id

/-- Whatever the cloud answers and whatever bits others set meanwhile, a shadow exchange comes to
its end from wherever it is, and is then well conducted. -/
theorem exchange_is_well_conducted (schedule : PumpSchedule) (thing : String)
    (current : HatchConfig) (preempts : Prop) (r : SignalRegister) :
    (∀ d q u, Reaches (answers preempts) (fetch schedule thing current) (.start r) d q u →
      ∃ e v t, Returns (answers preempts) q u e v t) ∧
    ∀ d v t, Returns (answers preempts) (fetch schedule thing current) (.start r) d v t →
      WellConducted schedule thing current preempts r d v t := by
  constructor
  · intro d q u _
    exact exists_returns (answers_total preempts) q u
  · intro d v t h
    have course := course_of_fetch h
    exact
      { bounded := course.pumpCount_le
        prompt := course.prompt
        closed := course.disconnects
        fails := course.broke_iff
        ended := fun outcome value => ended_of_fetch (value ▸ h)
        cleared := cleared_of_fetch h
        gone := (cleared_of_fetch h).gone
        kept := kept_of_fetch r h
        unparked := waiters_of_fetch h }

/-- The course of an exchange on a fresh register with a cloud whose every step brings the same. -/
def served (pumped : Pumped) :
    Dialogue Surroundings × Except ExchangeError ShadowOutcome × SharedRegister :=
  Program.converse (serving pumped) (fetch ⟨100000, 50000, 3⟩ "peep" .default) (.start .empty)

lemma returns_served (pumped : Pumped) :
    Returns (answers False) (fetch ⟨100000, 50000, 3⟩ "peep" .default) (.start .empty)
      (served pumped).1 (served pumped).2.1 (served pumped).2.2 :=
  returns_converse (answers_serving False pumped) _ _

/-- The configuration that the hatch document makes of that of a new device. -/
def hatchConfig : HatchConfig := (usable .default [hatchDocument]).head?.getD .default

/-- An exchange with a cloud that brings a hatch at once hands on its configuration. -/
theorem first_document_is_handed_on :
    (served ⟨[hatchDocument], .ok ()⟩).2.1 = .ok (.updated hatchConfig) ∧
      WellConducted ⟨100000, 50000, 3⟩ "peep" .default False .empty
        (served ⟨[hatchDocument], .ok ()⟩).1 (served ⟨[hatchDocument], .ok ()⟩).2.1
        (served ⟨[hatchDocument], .ok ()⟩).2.2 := by
  have updated : (served ⟨[hatchDocument], .ok ()⟩).2.1 = .ok (.updated hatchConfig) := by
    decide +kernel
  have conducted := (exchange_is_well_conducted ⟨100000, 50000, 3⟩ "peep" .default False .empty).2
    _ _ _ (returns_served ⟨[hatchDocument], .ok ()⟩)
  exact ⟨updated, conducted⟩

/-! ## What becomes of a delivered configuration -/

/-- Nothing arrives in a pause. -/
lemma merged_pause {now : Nat} {wake : Wake} :
    merged current (pause schedule id deadline now wake) = [] := rfl

/-- What the rounds bring is decided by the step that delivered a usable document. -/
lemma Rounds.delivered (h : Rounds schedule current id deadline n d out) {c : HatchConfig}
    (brought : (merged current d).getLast? = some c) :
    ∃ pumped : Pumped, ⟨DeviceRequest.pump schedule.step, pumped⟩ ∈ d ∧
      (usable current pumped.documents).getLast? = some c ∧
      out = match pumped.outcome with
        | .ok () => .ok (some c)
        | .error reason => .error reason := by
  induction h with
  | spent => exact nomatch brought
  | @broken n pumped reason failed =>
    rw [merged_cons, merged_announcements, List.append_nil] at brought
    exact ⟨pumped, List.mem_cons_self, brought, by rw [failed]⟩
  | @ended n now pumped wake worked woken =>
    rw [merged_cons, merged_append, merged_announcements, merged_pause, List.append_nil,
      List.append_nil] at brought
    have last : (usable current pumped.documents).getLast? = some c := brought
    exact ⟨pumped, List.mem_cons_self, last, by rw [worked, last]⟩
  | @again n now pumped d out worked silent later ih =>
    rw [merged_cons, merged_append, merged_pause, List.nil_append] at brought
    have none_first : usable current
        (Exchange.documents ⟨DeviceRequest.pump schedule.step, pumped⟩) = [] := silent
    rw [none_first, List.nil_append] at brought
    obtain ⟨pumped', there, last, same⟩ := ih brought
    exact ⟨pumped', List.mem_cons_of_mem _ (List.mem_append_right _ there), last, same⟩

/-- The exchange ends as the pumping did, unless a reset request is seen. -/
lemma Concluded.follows {c : HatchConfig} {outcome : Attempt Unit} (h : Concluded id out d v)
    (same : out = match outcome with
      | .ok () => .ok (some c)
      | .error reason => .error reason)
    (unseen : ∀ bits, ⟨DeviceRequest.signals, bits⟩ ∈ d →
      SignalBits.contains bits .resetRequested = false) :
    v = match outcome with
      | .ok () => .ok (.updated c)
      | .error reason => .error (.pump reason) := by
  cases h with
  | broken reason =>
    cases outcome with
    | ok _ => exact nomatch same
    | error other => rw [Except.error.inj same]
  | whole received bits =>
    cases outcome with
    | error other => exact nomatch same
    | ok _ =>
      have found := Except.ok.inj same
      have calm := unseen bits (by simp)
      simp [verdict, found, calm]

/-- While no reset is requested in the end, none is seen at the end of the pumping. -/
lemma unseen_of_fetch {start : Nat} (calm : ¬ t.Requested) (concluded : Concluded id out e v)
    (h : Returns (answers preempts) (fetch schedule thing current) s
      (preamble thing id start ++ (d ++ (e ++ closing))) v t)
    {bits : SignalBits} (looked : ⟨DeviceRequest.signals, bits⟩ ∈ e) :
    SignalBits.contains bits .resetRequested = false := by
  cases concluded with
  | broken reason => exact nomatch List.mem_singleton.mp looked
  | whole received seen =>
    obtain ⟨q, u, v, -, same, -, after⟩ := seen_of_whole h
    have there : bits = seen := by
      simp only [List.mem_cons, List.not_mem_nil, or_false] at looked
      rcases looked with other | same
      · cases other
      · cases same
        rfl
    rw [there, same, Bool.eq_false_iff]
    exact fun requested => calm (after.requested requested)

/-- A configuration that was delivered is handed on exactly if the very step of the session that
delivered it ends well.  If that step fails, the exchange fails for its reason and the configuration
is lost, although nobody has asked for a reset. -/
theorem delivered_config_follows_its_step {c : HatchConfig}
    (h : Returns (answers preempts) (fetch schedule thing current) s d v t)
    (delivered : (merged current d).getLast? = some c) (calm : ¬ t.Requested) :
    ∃ pumped : Pumped, ⟨DeviceRequest.pump schedule.step, pumped⟩ ∈ d ∧
      (usable current pumped.documents).getLast? = some c ∧
      v = match pumped.outcome with
        | .ok () => .ok (.updated c)
        | .error reason => .error (.pump reason) := by
  have course := course_of_fetch h
  cases course with
  | unconnected reason => exact nomatch delivered
  | unasked reason => exact nomatch delivered
  | @held id start d e out v waited concluded =>
    have apart : merged current e = [] := by cases concluded <;> rfl
    have opens : merged current (preamble thing id start) = [] := rfl
    have closes : merged current closing = [] := rfl
    rw [merged_append, merged_append, merged_append, opens, apart, closes, List.nil_append,
      List.append_nil, List.append_nil] at delivered
    cases waited with
    | foregone bits => exact nomatch delivered
    | pumped rounds =>
      obtain ⟨pumped, there, last, same⟩ := rounds.delivered delivered
      refine ⟨pumped, ?_, last, ?_⟩
      · exact List.mem_append_right _ (List.mem_append_left _ (List.mem_cons_of_mem _ there))
      · exact concluded.follows same fun bits looked => unseen_of_fetch calm concluded h looked

/-- A step of the session that brings a hatch and then loses the connection. -/
def lostStep : Pumped := ⟨[hatchDocument], .error ⟨"MQTT connection lost"⟩⟩

/-- A document that arrives just before the connection is lost is lost with it: no reset is
requested, and still its configuration is not handed on. -/
theorem document_is_lost_with_connection :
    (merged .default (served lostStep).1).getLast? = some hatchConfig ∧
      ¬ (served lostStep).2.2.Requested ∧
      (served lostStep).2.1 ≠ .ok (.updated hatchConfig) ∧
      ∃ pumped : Pumped, ⟨DeviceRequest.pump 100000, pumped⟩ ∈ (served lostStep).1 ∧
        (usable .default pumped.documents).getLast? = some hatchConfig ∧
        (served lostStep).2.1 = match pumped.outcome with
          | .ok () => .ok (.updated hatchConfig)
          | .error reason => .error (.pump reason) := by
  have delivered : (merged .default (served lostStep).1).getLast? = some hatchConfig := by
    decide +kernel
  have calm : ¬ (served lostStep).2.2.Requested := by
    have unset : (served lostStep).2.2.register.bits.contains .resetRequested = false := by
      decide +kernel
    exact Bool.eq_false_iff.mp unset
  have lost : (served lostStep).2.1 ≠ .ok (.updated hatchConfig) := by decide +kernel
  exact ⟨delivered, calm, lost,
    delivered_config_follows_its_step (returns_served lostStep) delivered calm⟩

end ShadowExchange

end HatchSensor
