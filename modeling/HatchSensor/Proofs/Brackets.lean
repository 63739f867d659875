import HatchSensor.Proofs.Dialogue
import Mathlib.Data.List.Induction

/-!
# Brackets

What is opened has to be closed.  A `Bracket` says which exchanges of a dialogue open something and
which close it, so that along the dialogue it is open or closed.

Two things are enough for the exchanges to match, `Bracket.matched`: nothing is closed that is not
open, and in the end all is closed.  The first concerns one exchange and what was said before it,
and the second the whole dialogue; neither looks ahead, and both can be proved along a program.
-/

namespace HatchSensor

/-- Exchanges that open something and exchanges that close it: whether it is open afterwards, or
nothing if the exchange does neither. -/
abbrev Bracket (S : Signature) := Exchange S → Option Bool

namespace Bracket

variable {S : Signature} {b : Bracket S} {d front between : Dialogue S} {e : Exchange S}

/-- Whether it is open after a dialogue that began with it closed. -/
def isOpen (b : Bracket S) (d : Dialogue S) : Bool :=
  d.foldl (fun before e => (b e).getD before) false

@[simp]
lemma isOpen_nil : b.isOpen [] = false := rfl

@[simp]
lemma isOpen_concat : b.isOpen (d ++ [e]) = (b e).getD (b.isOpen d) := by
  simp [isOpen]

/-- What is closed stays closed until it is opened. -/
lemma isOpen_append_of_closed (closed : b.isOpen front = false)
    (none : ∀ x ∈ between, b x ≠ some true) : b.isOpen (front ++ between) = false := by
  induction between generalizing front with
  | nil => rwa [List.append_nil]
  | cons x rest ih =>
    obtain ⟨first, others⟩ := List.forall_mem_cons.mp none
    have still : b.isOpen (front ++ [x]) = false := by
      rw [isOpen_concat, closed]
      cases turn : b x with
      | none => rfl
      | some opened =>
        cases opened with
        | false => rfl
        | true => exact absurd turn first
    have later := ih still others
    rwa [List.append_assoc] at later

/-- What neither opens nor closes changes nothing. -/
lemma isOpen_append_of_idle (idle : ∀ x ∈ between, b x = none) :
    b.isOpen (front ++ between) = b.isOpen front := by
  induction between generalizing front with
  | nil => rw [List.append_nil]
  | cons x rest ih =>
    obtain ⟨first, others⟩ := List.forall_mem_cons.mp idle
    have later : b.isOpen (front ++ [x] ++ rest) = b.isOpen (front ++ [x]) := ih others
    rw [List.append_assoc, isOpen_concat, first] at later
    exact later

/-- What is open now and closed in the end is closed in between: there is a first exchange that
closes it, and it is open until then. -/
lemma exists_closes (opened : b.isOpen front = true) (closed : b.isOpen (front ++ d) = false) :
    ∃ during c rest, d = during ++ c :: rest ∧ b c = some false ∧
      ∀ first x second, during = first ++ x :: second →
        b.isOpen (front ++ first) = true ∧ b x ≠ some false := by
  induction d generalizing front with
  | nil =>
    rw [List.append_nil, opened] at closed
    exact absurd closed (by decide)
  | cons x rest ih =>
    by_cases closes : b x = some false
    · exact ⟨[], x, rest, rfl, closes, fun first y second same => absurd same (by simp)⟩
    · have still : b.isOpen (front ++ [x]) = true := by
        rw [isOpen_concat, opened]
        cases turn : b x with
        | none => rfl
        | some open' =>
          cases open' with
          | true => rfl
          | false => exact absurd turn closes
      have closed' : b.isOpen (front ++ [x] ++ rest) = false := by
        rw [List.append_assoc]
        exact closed
      obtain ⟨during, c, rest', rfl, shuts, kept⟩ := ih still closed'
      refine ⟨x :: during, c, rest', rfl, shuts, fun first y second same => ?_⟩
      cases first with
      | nil =>
        obtain ⟨rfl, -⟩ := List.cons.inj same
        exact ⟨by rwa [List.append_nil], closes⟩
      | cons x' first =>
        obtain ⟨rfl, split⟩ := List.cons.inj same
        have there := kept first y second split
        rwa [List.append_assoc] at there

/-- What is open was opened, and not closed or opened anew since. -/
lemma exists_opens (opened : b.isOpen d = true) :
    ∃ before o during, d = before ++ o :: during ∧ b o = some true ∧ ∀ x ∈ during, b x = none := by
  induction d using List.reverseRecOn with
  | nil => exact absurd opened (by simp)
  | append_singleton d e ih =>
    rw [isOpen_concat] at opened
    cases turn : b e with
    | none =>
      rw [turn] at opened
      obtain ⟨before, o, during, rfl, opens, idle⟩ := ih opened
      refine ⟨before, o, during ++ [e], by simp, opens, fun x hx => ?_⟩
      rcases List.mem_append.mp hx with hx | hx
      · exact idle x hx
      · rwa [List.mem_singleton.mp hx]
    | some opens =>
      rw [turn] at opened
      obtain rfl : opens = true := opened
      exact ⟨d, e, [], rfl, turn, by simp⟩

/-- If nothing is closed that is not open, and all is closed in the end, then whatever was opened is
closed, and only once until it is opened again. -/
lemma matched (strict : ∀ before e after, d = before ++ e :: after → b e = some false →
    b.isOpen before = true) (closed : b.isOpen d = false) {before after : Dialogue S}
    {o : Exchange S} (here : d = before ++ o :: after) (opens : b o = some true) :
    ∃ during c rest, after = during ++ c :: rest ∧ b c = some false ∧
      (∀ first x second, during = first ++ x :: second →
        b.isOpen (before ++ o :: first) = true ∧ b x ≠ some false) ∧
      ∀ between y later, rest = between ++ y :: later → (∀ z ∈ between, b z ≠ some true) →
        b y ≠ some false := by
  have opened : b.isOpen (before ++ [o]) = true := by rw [isOpen_concat, opens, Option.getD_some]
  have ends : b.isOpen (before ++ [o] ++ after) = false := by
    rwa [List.append_assoc, List.singleton_append, ← here]
  obtain ⟨during, c, rest, rfl, shuts, kept⟩ := exists_closes opened ends
  refine ⟨during, c, rest, rfl, shuts, fun first x second same => ?_, ?_⟩
  · have there := kept first x second same
    rwa [List.append_assoc, List.singleton_append] at there
  · intro between y later split none again
    have shut : b.isOpen (before ++ o :: during ++ [c]) = false := by
      rw [isOpen_concat, shuts, Option.getD_some]
    have still := isOpen_append_of_closed shut none
    have reopened := strict (before ++ o :: during ++ [c] ++ between) y later
      (by rw [here, split]; simp) again
    exact absurd (still.symm.trans reopened) Bool.false_ne_true

end Bracket

end HatchSensor
