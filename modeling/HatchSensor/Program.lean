/-!
# Programs that ask their surroundings

A phase of the device never touches hardware.  It is a `Program`: a tree whose inner nodes are
requests to the surroundings and whose branches are the possible answers.  The same tree is run
against a simulated bench, against a scripted board, or against surroundings that may answer
anything at all.

The two ways to run a program are `Program.run`, which answers every request in a monad of the
caller's choice, and `Program.expand`, which answers every request by another program.
-/

namespace HatchSensor

/-! ## Signatures -/

/-- The requests a program may make, and the type of answer each of them gets. -/
structure Signature where
  Request : Type
  Answer : Request → Type

/-- A finite dialogue over the signature `S` that ends with a value of type `α`. -/
inductive Program (S : Signature) (α : Type) : Type where
  /-- The dialogue is over. -/
  | done (value : α) : Program S α
  /-- Make a request and go on with its answer. -/
  | ask (request : S.Request) (next : S.Answer request → Program S α) : Program S α

namespace Program

variable {S T : Signature} {α β γ : Type}

/-- Run `p`, then the program that `f` makes of its value. -/
def bind : Program S α → (α → Program S β) → Program S β
  | done a, f => f a
  | ask r k, f => ask r fun x => (k x).bind f

instance : Monad (Program S) where
  pure := done
  bind := bind

/-- The program that makes one request and returns its answer. -/
def request (r : S.Request) : Program S (S.Answer r) :=
  ask r done

/-! ## Running a program -/

/-- Answer every request of a program in the monad `m`, in order. -/
def run {m : Type → Type} [Monad m] (answer : (r : S.Request) → m (S.Answer r)) :
    Program S α → m α
  | done a => pure a
  | ask r k => do run answer (k (← answer r))

/-- Answer every request of a program by a program over another signature. -/
def expand (answer : (r : S.Request) → Program T (S.Answer r)) :
    Program S α → Program T α
  | done a => done a
  | ask r k => (answer r).bind fun x => expand answer (k x)

/-! ## Equations -/

@[simp]
theorem pure_eq_done (a : α) : (pure a : Program S α) = done a := rfl

@[simp]
theorem done_bind (a : α) (f : α → Program S β) : (done a >>= f) = f a := rfl

@[simp]
theorem ask_bind (r : S.Request) (k : S.Answer r → Program S α) (f : α → Program S β) :
    (ask r k >>= f) = ask r fun x => k x >>= f := rfl

/-- A program that is followed by nothing is that program. -/
theorem bind_done (p : Program S α) : (p >>= fun a => done a) = p := by
  induction p with
  | done a => rfl
  | ask r k ih => exact congrArg (ask r) (funext ih)

/-- Sequencing is associative. -/
theorem bind_bind (p : Program S α) (f : α → Program S β) (g : β → Program S γ) :
    (p >>= f >>= g) = (p >>= fun a => f a >>= g) := by
  induction p with
  | done a => rfl
  | ask r k ih => exact congrArg (ask r) (funext ih)

instance : LawfulMonad (Program S) :=
  LawfulMonad.mk' (Program S) bind_done (fun _ _ => rfl) bind_bind

/-- A sequence is expanded piece by piece. -/
theorem expand_bind (answer : (r : S.Request) → Program T (S.Answer r))
    (p : Program S α) (f : α → Program S β) :
    expand answer (p >>= f) = (expand answer p >>= fun a => expand answer (f a)) := by
  induction p with
  | done a => rfl
  | ask r k ih =>
    have step : ∀ x, expand answer (k x >>= f)
        = (expand answer (k x) >>= fun a => expand answer (f a)) := ih
    calc expand answer (ask r k >>= f)
        = (answer r >>= fun x => expand answer (k x >>= f)) := rfl
      _ = (answer r >>= fun x => expand answer (k x) >>= fun a => expand answer (f a)) := by
          simp only [step]
      _ = (expand answer (ask r k) >>= fun a => expand answer (f a)) :=
          (bind_bind (answer r) (fun x => expand answer (k x)) _).symm

end Program

end HatchSensor
