import HatchSensor.Program
import Mathlib.Tactic.Lemma

/-!
# Dialogues

The proofs follow a program through one of its dialogues with surroundings that have a state and
need not be deterministic.  A `Behaviour` says which answers a request may get in a state and which
states may follow; `Program.Reaches` says how far a program may have come after a dialogue, and
`Program.Returns` that it is over.

A power failure may end a dialogue anywhere, so what always holds is stated of `Reaches`, and what
holds once a program is over of `Returns`.

The second half is about the requests a program can make at all, whatever it is answered:
`Program.Only`.
-/

namespace HatchSensor

/-- A request together with the answer it got. -/
structure Exchange (S : Signature) where
  /-- The request. -/
  request : S.Request
  /-- The answer. -/
  answer : S.Answer request

/-- The exchanges of a program with its surroundings, in order. -/
abbrev Dialogue (S : Signature) := List (Exchange S)

/-- The answers that a request may get in a state, each with the states that may follow. -/
abbrev Behaviour (S : Signature) (σ : Type) := (r : S.Request) → σ → S.Answer r → σ → Prop

namespace Program

variable {S T : Signature} {σ τ α β : Type} {B : Behaviour S σ}

/-! ## Following a program -/

/-- `Reaches B p s d q t`: after the dialogue `d` the program `p`, started in the state `s`, may
have come to `q`, in the state `t`. -/
inductive Reaches (B : Behaviour S σ) : Program S α → σ → Dialogue S → Program S α → σ → Prop
  /-- Nothing has happened yet. -/
  | rest (p : Program S α) (s : σ) : Reaches B p s [] p s
  /-- A request was answered, and the rest of the program went on from there. -/
  | ask {r : S.Request} {k : S.Answer r → Program S α} {s t u : σ} {x : S.Answer r}
      {d : Dialogue S} {q : Program S α} (answered : B r s x t) (later : Reaches B (k x) t d q u) :
      Reaches B (.ask r k) s (⟨r, x⟩ :: d) q u

/-- After the dialogue `d` the program may be over with the value `a`. -/
def Returns (B : Behaviour S σ) (p : Program S α) (s : σ) (d : Dialogue S) (a : α) (t : σ) : Prop :=
  Reaches B p s d (.done a) t

/-- After the dialogue `d` the program may be about to make the request `r`. -/
def Asks (B : Behaviour S σ) (p : Program S α) (s : σ) (d : Dialogue S) (r : S.Request) (t : σ) :
    Prop :=
  ∃ k, Reaches B p s d (.ask r k) t

/-- A program that is over stays where it is. -/
@[simp]
lemma reaches_done {a : α} {s : σ} {d : Dialogue S} {q : Program S α} {t : σ} :
    Reaches B (.done a) s d q t ↔ d = [] ∧ q = .done a ∧ t = s := by
  constructor
  · rintro ⟨⟩
    exact ⟨rfl, rfl, rfl⟩
  · rintro ⟨rfl, rfl, rfl⟩
    exact .rest _ _

/-- A request either has not been answered yet, or it is the first exchange. -/
lemma reaches_ask {r : S.Request} {k : S.Answer r → Program S α} {s : σ} {d : Dialogue S}
    {q : Program S α} {t : σ} :
    Reaches B (.ask r k) s d q t ↔
      (d = [] ∧ q = .ask r k ∧ t = s) ∨
        ∃ x u d', d = ⟨r, x⟩ :: d' ∧ B r s x u ∧ Reaches B (k x) u d' q t := by
  constructor
  · rintro (_ | ⟨answered, later⟩)
    · exact Or.inl ⟨rfl, rfl, rfl⟩
    · exact Or.inr ⟨_, _, _, rfl, answered, later⟩
  · rintro (⟨rfl, rfl, rfl⟩ | ⟨x, u, d', rfl, answered, later⟩)
    · exact .rest _ _
    · exact .ask answered later

/-- A finished program has the value it was given. -/
@[simp]
lemma returns_done {a b : α} {s t : σ} {d : Dialogue S} :
    Returns B (.done a) s d b t ↔ d = [] ∧ b = a ∧ t = s := by
  simp [Returns]

/-- A program that starts with a request returns after its first exchange. -/
@[simp]
lemma returns_ask {r : S.Request} {k : S.Answer r → Program S α} {s t : σ} {d : Dialogue S}
    {a : α} :
    Returns B (.ask r k) s d a t ↔
      ∃ x u d', d = ⟨r, x⟩ :: d' ∧ B r s x u ∧ Returns B (k x) u d' a t := by
  simp [Returns, reaches_ask]

/-- A request returns the answer it gets. -/
@[simp]
lemma returns_request {r : S.Request} {s t : σ} {d : Dialogue S} {x : S.Answer r} :
    Returns B (request r) s d x t ↔ d = [⟨r, x⟩] ∧ B r s x t := by
  simp only [request, returns_ask, returns_done]
  constructor
  · rintro ⟨_, _, _, rfl, answered, rfl, rfl, rfl⟩
    exact ⟨rfl, answered⟩
  · rintro ⟨rfl, answered⟩
    exact ⟨_, _, _, rfl, answered, rfl, rfl, rfl⟩

/-- A request has not been answered yet, or it has and there is nothing else to do. -/
lemma reaches_request {r : S.Request} {s t : σ} {d : Dialogue S} {q : Program S (S.Answer r)} :
    Reaches B (request r) s d q t ↔
      (d = [] ∧ q = request r ∧ t = s) ∨ ∃ x, d = [⟨r, x⟩] ∧ q = .done x ∧ B r s x t := by
  rw [request, reaches_ask]
  constructor
  · rintro (rest | ⟨x, u, d', rfl, answered, halted⟩)
    · exact Or.inl rest
    · obtain ⟨rfl, rfl, rfl⟩ := reaches_done.mp halted
      exact Or.inr ⟨x, rfl, rfl, answered⟩
  · rintro (rest | ⟨x, rfl, rfl, answered⟩)
    · exact Or.inl rest
    · exact Or.inr ⟨x, t, [], rfl, answered, .rest _ _⟩

/-- A single request that has not been answered has changed nothing. -/
lemma reaches_request_ask {r r' : S.Request} {k : S.Answer r' → Program S (S.Answer r)} {s t : σ}
    {d : Dialogue S} (h : Reaches B (request r) s d (.ask r' k) t) : d = [] ∧ t = s := by
  rcases reaches_ask.mp h with ⟨rfl, -, rfl⟩ | ⟨x, u, d', -, -, halted⟩
  · exact ⟨rfl, rfl⟩
  · exact absurd (reaches_done.mp halted).2.1 (by simp)

/-! ## Sequences -/

/-- What the first part of a sequence reaches, the sequence reaches with the second part to come. -/
lemma Reaches.bind {p q : Program S α} {s t : σ} {d : Dialogue S} (h : Reaches B p s d q t)
    (f : α → Program S β) : Reaches B (p >>= f) s d (q >>= f) t := by
  induction h with
  | rest p s => exact .rest _ _
  | ask answered _ ih => exact .ask answered ih

/-- Dialogues are put together. -/
lemma Reaches.append {p q r : Program S α} {s t u : σ} {d e : Dialogue S}
    (first : Reaches B p s d q t) (second : Reaches B q t e r u) :
    Reaches B p s (d ++ e) r u := by
  induction first with
  | rest p s => exact second
  | ask answered _ ih => exact .ask answered (ih second)

/-- A dialogue can be taken apart anywhere. -/
lemma Reaches.split {p r : Program S α} {s u : σ} {d e : Dialogue S}
    (h : Reaches B p s (d ++ e) r u) : ∃ q t, Reaches B p s d q t ∧ Reaches B q t e r u := by
  induction d generalizing p s with
  | nil => exact ⟨p, s, .rest _ _, h⟩
  | cons x d ih =>
    cases h with
    | ask answered later =>
      obtain ⟨q, t, first, second⟩ := ih later
      exact ⟨q, t, .ask answered first, second⟩

/-- The first exchange of a dialogue leaves the program with the rest of it. -/
lemma Reaches.tail {p q : Program S α} {s u : σ} {r : S.Request} {x : S.Answer r} {d : Dialogue S}
    (h : Reaches B p s (⟨r, x⟩ :: d) q u) :
    ∃ p' t, B r s x t ∧ Reaches B p' t d q u := by
  cases h with
  | ask answered later => exact ⟨_, _, answered, later⟩

/-- What every exchange of a dialogue keeps, the whole dialogue keeps. -/
lemma Reaches.along {P : Exchange S → Prop} {I : σ → Prop}
    (step : ∀ r s x t, P ⟨r, x⟩ → B r s x t → I s → I t) {p q : Program S α} {s t : σ}
    {d : Dialogue S} (h : Reaches B p s d q t) (hd : ∀ e ∈ d, P e) (hs : I s) : I t := by
  induction h with
  | rest p s => exact hs
  | ask answered _ ih =>
    obtain ⟨first, rest⟩ := List.forall_mem_cons.mp hd
    exact ih rest (step _ _ _ _ first answered hs)

/-- Surroundings that are part of larger ones are followed in these. -/
lemma Reaches.project {B' : Behaviour S τ} (part : σ → τ)
    (step : ∀ r s x t, B r s x t → B' r (part s) x (part t)) {p q : Program S α} {s t : σ}
    {d : Dialogue S} (h : Reaches B p s d q t) : Reaches B' p (part s) d q (part t) := by
  induction h with
  | rest p s => exact .rest _ _
  | ask answered _ ih => exact .ask (step _ _ _ _ answered) ih

/-- A sequence is in its first part, about to make a request, or the first part has returned and it
is in the second. -/
lemma reaches_bind {p : Program S α} {f : α → Program S β} {s t : σ} {d : Dialogue S}
    {q : Program S β} :
    Reaches B (p >>= f) s d q t ↔
      (∃ r k, Reaches B p s d (.ask r k) t ∧ q = .ask r fun x => k x >>= f) ∨
        ∃ d₁ a u d₂, d = d₁ ++ d₂ ∧ Returns B p s d₁ a u ∧ Reaches B (f a) u d₂ q t := by
  constructor
  · intro h
    induction p generalizing s d with
    | done a => exact Or.inr ⟨[], a, s, d, rfl, .rest _ _, h⟩
    | ask r k ih =>
      rw [ask_bind] at h
      rcases reaches_ask.mp h with ⟨rfl, rfl, rfl⟩ | ⟨x, u, d', rfl, answered, later⟩
      · exact Or.inl ⟨r, k, .rest _ _, rfl⟩
      · rcases ih x later with ⟨r', k', first, rfl⟩ | ⟨d₁, a, v, d₂, rfl, first, second⟩
        · exact Or.inl ⟨r', k', .ask answered first, rfl⟩
        · exact Or.inr ⟨_ :: d₁, a, v, d₂, rfl, Reaches.ask answered first, second⟩
  · rintro (⟨r, k, first, rfl⟩ | ⟨d₁, a, u, d₂, rfl, first, second⟩)
    · exact first.bind f
    · exact (first.bind f).append second

/-- A sequence returns once both of its parts have. -/
lemma returns_bind {p : Program S α} {f : α → Program S β} {s t : σ} {d : Dialogue S} {b : β} :
    Returns B (p >>= f) s d b t ↔
      ∃ d₁ a u d₂, d = d₁ ++ d₂ ∧ Returns B p s d₁ a u ∧ Returns B (f a) u d₂ b t := by
  constructor
  · intro h
    rcases reaches_bind.mp h with ⟨r, k, -, halted⟩ | split
    · exact absurd halted (by simp)
    · exact split
  · rintro ⟨d₁, a, u, d₂, rfl, first, second⟩
    exact (first.bind f).append second

/-- A sequence that starts with a request goes on with the answer it gets. -/
lemma returns_request_bind {r : S.Request} {f : S.Answer r → Program S β} {s t : σ} {d : Dialogue S}
    {b : β} :
    Returns B (request r >>= f) s d b t ↔
      ∃ x u d', d = ⟨r, x⟩ :: d' ∧ B r s x u ∧ Returns B (f x) u d' b t :=
  returns_ask

/-- The answer is the one in the dialogue. -/
lemma Returns.answered {r : S.Request} {x : S.Answer r} {f : S.Answer r → Program S β} {s t : σ}
    {d : Dialogue S} {b : β} (h : Returns B (request r >>= f) s (⟨r, x⟩ :: d) b t) :
    ∃ u, B r s x u ∧ Returns B (f x) u d b t := by
  obtain ⟨x', u, d', same, answered, later⟩ := returns_request_bind.mp h
  obtain ⟨first, rfl⟩ := List.cons.inj same
  cases first
  exact ⟨u, answered, later⟩

/-- A sequence is about to make a request of its first part, or of its second. -/
lemma asks_bind {p : Program S α} {f : α → Program S β} {s t : σ} {d : Dialogue S}
    {r : S.Request} :
    Asks B (p >>= f) s d r t ↔
      Asks B p s d r t ∨
        ∃ d₁ a u d₂, d = d₁ ++ d₂ ∧ Returns B p s d₁ a u ∧ Asks B (f a) u d₂ r t := by
  constructor
  · rintro ⟨k, h⟩
    rcases reaches_bind.mp h with ⟨r', k', first, same⟩ | ⟨d₁, a, u, d₂, rfl, first, second⟩
    · cases same
      exact Or.inl ⟨k', first⟩
    · exact Or.inr ⟨d₁, a, u, d₂, rfl, first, k, second⟩
  · rintro (⟨k, first⟩ | ⟨d₁, a, u, d₂, rfl, first, k, second⟩)
    · exact ⟨_, first.bind f⟩
    · exact ⟨k, (first.bind f).append second⟩

/-- What has been said decides whether a program is over, and with which value: of two dialogues
that end it, neither goes on where the other stops. -/
lemma Returns.unique {p : Program S α} {s s' t t' : σ} {d d' e e' : Dialogue S} {a a' : α}
    (h : Returns B p s d a t) (h' : Returns B p s' d' a' t') (same : d ++ e = d' ++ e') :
    d = d' ∧ a = a' := by
  induction p generalizing s s' d d' with
  | done b =>
    obtain ⟨rfl, rfl, -⟩ := returns_done.mp h
    obtain ⟨rfl, rfl, -⟩ := returns_done.mp h'
    exact ⟨rfl, rfl⟩
  | ask r k ih =>
    obtain ⟨x, u, f, rfl, -, later⟩ := returns_ask.mp h
    obtain ⟨x', u', f', rfl, -, later'⟩ := returns_ask.mp h'
    obtain ⟨head, tail⟩ := List.cons.inj same
    obtain rfl : x = x' := by
      cases head
      rfl
    obtain ⟨rfl, rfl⟩ := ih x later later' tail
    exact ⟨rfl, rfl⟩

/-- Surroundings that always have an answer bring every program to its end. -/
lemma exists_returns (total : ∀ r s, ∃ x t, B r s x t) (p : Program S α) (s : σ) :
    ∃ d a t, Returns B p s d a t := by
  induction p generalizing s with
  | done a => exact ⟨[], a, s, .rest _ _⟩
  | ask r k ih =>
    obtain ⟨x, t, answered⟩ := total r s
    obtain ⟨d, a, u, later⟩ := ih x t
    exact ⟨_, a, u, Reaches.ask answered later⟩

/-! ## The requests a program can make -/

/-- Every request that the program can come to satisfies `P`, whatever the answers are. -/
inductive Only (P : S.Request → Prop) : Program S α → Prop
  /-- A finished program makes no request. -/
  | done (a : α) : Only P (.done a)
  /-- The first request satisfies `P`, and so do the others after every answer. -/
  | ask {r : S.Request} {k : S.Answer r → Program S α} (first : P r)
      (later : ∀ x, Only P (k x)) : Only P (.ask r k)

section Only

variable {P Q : S.Request → Prop}

/-- A single request is the only one. -/
lemma only_request {r : S.Request} (h : P r) : Only P (request r) :=
  .ask h fun x => .done x

/-- A sequence makes the requests of its parts. -/
lemma only_bind {p : Program S α} {f : α → Program S β} (first : Only P p)
    (second : ∀ a, Only P (f a)) : Only P (p >>= f) := by
  induction first with
  | done a => exact second a
  | ask first _ ih => exact .ask first ih

/-- A sequence that an error may cut short makes the requests of its parts. -/
lemma only_run_bind {ε : Type} {x : ExceptT ε (Program S) α} {f : α → ExceptT ε (Program S) β}
    (first : Only P x.run) (second : ∀ a, Only P (f a).run) : Only P (x >>= f).run := by
  rw [ExceptT.run_bind]
  refine only_bind first fun y => ?_
  cases y with
  | error e => exact .done _
  | ok a => exact second a

/-- Fewer requests are also among more. -/
lemma Only.mono {p : Program S α} (h : Only P p) (imp : ∀ r, P r → Q r) : Only Q p := by
  induction h with
  | done a => exact .done a
  | ask first _ ih => exact .ask (imp _ first) ih

/-- An expansion makes the requests that the answers are made of. -/
lemma only_expand {R : T.Request → Prop} {answer : (r : S.Request) → Program T (S.Answer r)}
    (h : ∀ r, P r → Only R (answer r)) {p : Program S α} (hp : Only P p) :
    Only R (expand answer p) := by
  induction hp with
  | done a => exact .done a
  | ask first _ ih => exact only_bind (h _ first) ih

/-- Every exchange of a dialogue is one the program can come to, and so are those to come. -/
lemma Reaches.only {p q : Program S α} {s t : σ} {d : Dialogue S} (h : Reaches B p s d q t)
    (hp : Only P p) : (∀ e ∈ d, P e.request) ∧ Only P q := by
  induction h with
  | rest p s => exact ⟨fun e he => absurd he List.not_mem_nil, hp⟩
  | ask answered _ ih =>
    cases hp with
    | ask first later =>
      obtain ⟨rest, last⟩ := ih (later _)
      refine ⟨fun e he => ?_, last⟩
      rcases List.mem_cons.mp he with rfl | he
      · exact first
      · exact rest e he

/-- A program does not ask for what it cannot come to ask for. -/
lemma not_asks_of_only {p : Program S α} (hp : Only P p) {s t : σ} {d : Dialogue S}
    {r : S.Request} (other : ¬ P r) : ¬ Asks B p s d r t := by
  rintro ⟨k, h⟩
  cases (h.only hp).2 with
  | ask first _ => exact other first

/-- What every allowed exchange keeps, the whole dialogue keeps. -/
lemma Reaches.keeps {I : σ → Prop} (step : ∀ r s x t, P r → B r s x t → I s → I t)
    {p q : Program S α} {s t : σ} {d : Dialogue S} (h : Reaches B p s d q t) (hp : Only P p)
    (hs : I s) : I t :=
  h.along step (h.only hp).1 hs

end Only

/-! ## Dialogues with a machine -/

/-- The dialogue of a program with surroundings that answer by a function of their state, with its
value and the last state. -/
def converse (react : (r : S.Request) → σ → S.Answer r × σ) :
    Program S α → σ → Dialogue S × α × σ
  | .done a, s => ([], a, s)
  | .ask r k, s =>
    let (x, t) := react r s
    let (d, a, u) := converse react (k x) t
    (⟨r, x⟩ :: d, a, u)

/-- Surroundings that answer by a function can always be followed to the end. -/
lemma returns_converse {react : (r : S.Request) → σ → S.Answer r × σ}
    (h : ∀ r s, B r s (react r s).1 (react r s).2) (p : Program S α) (s : σ) :
    Returns B p s (converse react p s).1 (converse react p s).2.1 (converse react p s).2.2 := by
  induction p generalizing s with
  | done a => exact .rest _ _
  | ask r k ih => exact Reaches.ask (h r s) (ih (react r s).1 (react r s).2)

end Program

end HatchSensor
