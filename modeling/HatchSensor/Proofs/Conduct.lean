import HatchSensor.Proofs.Footprints

/-!
# Conduct

What a program may ask for depends on what was said before: a session is not closed unless it was
opened, and a reading is not published unless it was taken.  `Program.Conducts` states this of a
program without mentioning its surroundings.  It follows the program along every answer there is,
and carries the dialogue so far; every exchange must be legal after that dialogue, and when the
program is over its value and the whole dialogue must satisfy a postcondition.

The rules below go along the program text.  `Program.Conducts.follow` takes the result to every
dialogue that the program really has, with any surroundings whatever.
-/

namespace HatchSensor

namespace Program

variable {S : Signature} {α β : Type} {legal : Dialogue S → Exchange S → Prop}
  {past : Dialogue S}

/-- After the dialogue `past` every further exchange of the program is legal, whatever the answers
are, and its value and the dialogue in the end satisfy `post`. -/
def Conducts (legal : Dialogue S → Exchange S → Prop) (post : α → Dialogue S → Prop) :
    Program S α → Dialogue S → Prop
  | .done a, past => post a past
  | .ask r k, past =>
    ∀ x, legal past ⟨r, x⟩ ∧ Conducts legal post (k x) (past ++ [⟨r, x⟩])

/-! ## Rules -/

section Rules

variable {post post' mid : α → Dialogue S → Prop}

lemma conducts_request {r : S.Request} {post : S.Answer r → Dialogue S → Prop}
    (h : ∀ x, legal past ⟨r, x⟩ ∧ post x (past ++ [⟨r, x⟩])) :
    Conducts legal post (request r) past := h

/-- A program that begins with a request goes on after its answer. -/
lemma conducts_request_bind {r : S.Request} {f : S.Answer r → Program S α}
    (h : ∀ x, legal past ⟨r, x⟩ ∧ Conducts legal post (f x) (past ++ [⟨r, x⟩])) :
    Conducts legal post (request r >>= f) past := h

/-- What follows from a postcondition is one. -/
lemma Conducts.mono {p : Program S α} (h : Conducts legal post p past)
    (imp : ∀ a later, post a later → post' a later) : Conducts legal post' p past := by
  induction p generalizing past with
  | done a => exact imp a past h
  | ask r k ih =>
    intro x
    obtain ⟨lawful, rest⟩ := h x
    exact ⟨lawful, ih x rest⟩

/-- What every exchange keeps holds in the end as well. -/
lemma Conducts.frame {I : Dialogue S → Prop} {p : Program S α} (h : Conducts legal post p past)
    (lasts : ∀ past e, I past → I (past ++ [e])) (holds : I past) :
    Conducts legal (fun a later => post a later ∧ I later) p past := by
  induction p generalizing past with
  | done a => exact ⟨h, holds⟩
  | ask r k ih =>
    intro x
    obtain ⟨lawful, rest⟩ := h x
    exact ⟨lawful, ih x rest (lasts past _ holds)⟩

/-- The second part of a sequence begins where the first has ended. -/
lemma conducts_bind {p : Program S α} {f : α → Program S β} {post : β → Dialogue S → Prop}
    (first : Conducts legal mid p past)
    (second : ∀ a later, mid a later → Conducts legal post (f a) later) :
    Conducts legal post (p >>= f) past := by
  induction p generalizing past with
  | done a => exact second a past first
  | ask r k ih =>
    intro x
    obtain ⟨lawful, rest⟩ := first x
    exact ⟨lawful, ih x rest⟩

/-- An error cuts a sequence short. -/
lemma conducts_run_bind {ε : Type} {p : ExceptT ε (Program S) α} {f : α → ExceptT ε (Program S) β}
    {mid : Except ε α → Dialogue S → Prop} {post : Except ε β → Dialogue S → Prop}
    (first : Conducts legal mid p.run past)
    (failed : ∀ e later, mid (.error e) later → post (.error e) later)
    (second : ∀ a later, mid (.ok a) later → Conducts legal post (f a).run later) :
    Conducts legal post (p >>= f).run past := by
  rw [ExceptT.run_bind]
  refine conducts_bind first fun y later holds => ?_
  cases y with
  | error e => exact failed e later holds
  | ok a => exact second a later holds

/-- What every allowed exchange keeps, and makes legal, a program with no other requests keeps. -/
lemma conducts_of_only {P : S.Request → Prop} {I : Dialogue S → Prop} {p : Program S α}
    (only : p.Only P)
    (step : ∀ r x past, P r → I past → legal past ⟨r, x⟩ ∧ I (past ++ [⟨r, x⟩]))
    (h : I past) : Conducts legal (fun _ => I) p past := by
  induction only generalizing past with
  | done a => exact h
  | @ask r k first _ ih =>
    intro x
    obtain ⟨lawful, kept⟩ := step r x past first h
    exact ⟨lawful, ih x kept⟩

/-- Surroundings that may answer anything. -/
def anything : Behaviour S Unit := fun _ _ _ _ => True

/-- What a program with nothing but legal requests comes to, however it is answered, is a
postcondition. -/
lemma conducts_of_returns {P : S.Request → Prop} {p : Program S α} (only : p.Only P)
    (lawful : ∀ r x past, P r → legal past ⟨r, x⟩)
    (ends : ∀ d a, Returns anything p () d a () → post a (past ++ d)) :
    Conducts legal post p past := by
  induction only generalizing past with
  | done a =>
    have closed := ends [] a (.rest _ _)
    rwa [List.append_nil] at closed
  | @ask r k first _ ih =>
    refine fun x => ⟨lawful r x past first, ih x fun d a later => ?_⟩
    have closed := ends (⟨r, x⟩ :: d) a (Reaches.ask trivial later)
    rwa [List.append_cons] at closed

end Rules

/-! ## Dialogues -/

/-- Every exchange of a dialogue is legal after what was said before it. -/
def Throughout (legal : Dialogue S → Exchange S → Prop) (past d : Dialogue S) : Prop :=
  ∀ before e after, d = before ++ e :: after → legal (past ++ before) e

section Dialogues

variable {σ : Type} {B : Behaviour S σ} {post : α → Dialogue S → Prop} {p q : Program S α}
  {s t : σ} {d d' : Dialogue S} {e : Exchange S}

lemma throughout_nil : Throughout legal past [] := fun _ _ _ same => absurd same (by simp)

lemma throughout_cons :
    Throughout legal past (e :: d) ↔ legal past e ∧ Throughout legal (past ++ [e]) d := by
  constructor
  · intro h
    refine ⟨by simpa using h [] e d rfl, fun before x after same => ?_⟩
    have later := h (e :: before) x after (by rw [same, List.cons_append])
    rwa [List.append_cons] at later
  · rintro ⟨first, rest⟩ before x after same
    cases before with
    | nil =>
      obtain ⟨rfl, -⟩ := List.cons.inj same
      rwa [List.append_nil]
    | cons y before =>
      obtain ⟨rfl, split⟩ := List.cons.inj same
      rw [List.append_cons]
      exact rest before x after split

lemma throughout_append :
    Throughout legal past (d ++ d') ↔
      Throughout legal past d ∧ Throughout legal (past ++ d) d' := by
  induction d generalizing past with
  | nil => simp [throughout_nil]
  | cons e d ih =>
    rw [List.cons_append, throughout_cons, ih, throughout_cons, and_assoc, List.append_assoc,
      List.singleton_append]

/-- Whether every exchange of a dialogue is legal can be found out one by one. -/
instance instDecidableThroughout [∀ past e, Decidable (legal past e)] :
    (past d : Dialogue S) → Decidable (Throughout legal past d)
  | _, [] => isTrue throughout_nil
  | past, e :: d =>
    have := instDecidableThroughout (past ++ [e]) d
    decidable_of_iff _ throughout_cons.symm

/-- Wherever the program comes to, all exchanges were legal, and it goes on in the same way. -/
lemma Conducts.follow (h : Conducts legal post p past) (reached : Reaches B p s d q t) :
    Throughout legal past d ∧ Conducts legal post q (past ++ d) := by
  induction reached generalizing past with
  | rest p s => exact ⟨throughout_nil, by simpa using h⟩
  | @ask r k s t u x d q answered _ ih =>
    obtain ⟨lawful, rest⟩ := h x
    obtain ⟨later, ends⟩ := ih rest
    rw [List.append_cons]
    exact ⟨throughout_cons.mpr ⟨lawful, later⟩, ends⟩

/-- Once the program is over, all exchanges were legal, and the postcondition holds. -/
lemma Conducts.returned {a : α} (h : Conducts legal post p past) (ended : Returns B p s d a t) :
    Throughout legal past d ∧ post a (past ++ d) :=
  h.follow ended

end Dialogues

end Program

/-! ## Phases -/

namespace DeviceProgram

open Program

variable {α β : Type} {legal : Dialogue Surroundings → Exchange Surroundings → Prop}
  {past : Dialogue Surroundings} {post : Except DeviceError β → Dialogue Surroundings → Prop}

/-- A question of a phase. -/
lemma conducts_ask_bind {p : Program Surroundings α} {f : α → DeviceProgram β}
    {mid : α → Dialogue Surroundings → Prop} (first : Conducts legal mid p past)
    (second : ∀ a later, mid a later → Conducts legal post (f a).run later) :
    Conducts legal post (DeviceProgram.ask p >>= f).run past := by
  rw [run_ask_bind]
  exact conducts_bind first second

/-- A store operation of a phase. -/
lemma conducts_store_bind {explain : StoreError → DeviceError} {p : BlobProgram α}
    {f : α → DeviceProgram β} {mid : Stored α → Dialogue Surroundings → Prop}
    (first : Conducts legal mid (onBlobs p.run) past)
    (failed : ∀ e later, mid (.error e) later → post (.error (explain e)) later)
    (second : ∀ a later, mid (.ok a) later → Conducts legal post (f a).run later) :
    Conducts legal post (DeviceProgram.store explain p >>= f).run past := by
  rw [run_store_bind]
  refine conducts_bind first fun y later holds => ?_
  cases y with
  | error e => exact failed e later holds
  | ok a => exact second a later holds

end DeviceProgram

end HatchSensor
