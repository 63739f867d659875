import HatchSensor.Text.Blank
import Mathlib.Data.List.DropRight
import Mathlib.Tactic.Lemma

/-!
# Texts that are trimmed

A text loses the characters of one kind at its end, or the blanks at both ends.  What is left is the
part that neither begins nor ends in such a character, with nothing but such characters around it.
-/

namespace HatchSensor

namespace Text

/-! ## One end -/

section End

variable {α : Type} {p : α → Bool} {l core : List α}

/-- What is left of a list is what does not end in an element of the kind, with nothing but such
elements behind it. -/
lemma rdropWhile_eq_iff :
    l.rdropWhile p = core ↔
      (∃ tail, l = core ++ tail ∧ ∀ x ∈ tail, p x = true) ∧
        ∀ x, core.getLast? = some x → p x = false := by
  constructor
  · rintro rfl
    refine ⟨⟨l.rtakeWhile p, List.rdropWhile_append_rtakeWhile.symm,
      fun x => List.mem_rtakeWhile_imp⟩, fun x last => ?_⟩
    obtain ⟨some, rfl⟩ := List.mem_getLast?_eq_getLast last
    exact Bool.eq_false_iff.mpr (List.rdropWhile_last_not p l some)
  · rintro ⟨⟨tail, rfl, all⟩, last⟩
    induction tail using List.reverseRecOn with
    | nil =>
      rw [List.append_nil, List.rdropWhile_eq_self_iff]
      intro some
      exact Bool.eq_false_iff.mp (last _ (List.getLast?_eq_getLast_of_ne_nil some))
    | append_singleton tail x ih =>
      rw [← List.append_assoc, List.rdropWhile_concat_pos p _ x (all x (by simp))]
      exact ih fun y hy => all y (List.mem_append_left _ hy)

end End

lemma toList_dropEndWhile (p : Char → Bool) (text : String) :
    (dropEndWhile p text).toList = text.toList.rdropWhile p :=
  String.toList_ofList

/-! ## Both ends -/

/-- What is left between the blanks neither begins nor ends in a blank. -/
lemma toList_trim_eq_iff {text : String} {core : List Char} (some : core ≠ []) :
    (trim text).toList = core ↔
      (∃ before after, text.toList = before ++ core ++ after ∧
        (∀ c ∈ before, isBlank c = true) ∧ ∀ c ∈ after, isBlank c = true) ∧
      (∀ c, core.head? = Option.some c → isBlank c = false) ∧
        ∀ c, core.getLast? = Option.some c → isBlank c = false := by
  have trimmed : (trim text).toList = (text.toList.dropWhile isBlank).rdropWhile isBlank :=
    String.toList_ofList
  obtain ⟨first, rest, rfl⟩ := List.exists_cons_of_ne_nil some
  rw [trimmed, rdropWhile_eq_iff]
  constructor
  · rintro ⟨⟨after, shape, ends⟩, last⟩
    have whole := (List.takeWhile_append_dropWhile (p := isBlank) (l := text.toList)).symm
    rw [shape, ← List.append_assoc] at whole
    refine ⟨⟨_, after, whole, fun c => List.mem_takeWhile_imp, ends⟩, ?_, last⟩
    rintro c ⟨⟩
    have head := List.head?_dropWhile_not isBlank text.toList
    rw [shape] at head
    simpa using head
  · rintro ⟨⟨before, after, shape, begins, ends⟩, head, last⟩
    refine ⟨⟨after, ?_, ends⟩, last⟩
    rw [shape, List.append_assoc, List.dropWhile_append_of_pos begins, List.cons_append,
      List.dropWhile_cons_of_neg]
    exact Bool.eq_false_iff.mp (head first rfl)

end Text

end HatchSensor
