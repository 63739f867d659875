import HatchSensor.Text.Numeral
import HatchSensor.Proofs.Trimming

/-!
# What numerals stand for

A text denotes a number if it is made of decimal digits, with a plus sign in front of them or not,
and blanks around all of this or not.  `Numeral.word?_trim_eq_some_iff` says that the texts that are
read as a word are exactly those that denote one; `Numeral.denotes_repr` that every number has such
a text.
-/

namespace HatchSensor

namespace Numeral

variable {limit value n : Nat} {digits core : List Char} {text : String} {w : UInt32}

/-- The characters are the digits of a number, possibly after a plus sign. -/
def Spells (core : List Char) (n : Nat) : Prop :=
  ∃ digits, (core = digits ∨ core = '+' :: digits) ∧ digits ≠ [] ∧
    (∀ c ∈ digits, c.isDigit = true) ∧ Nat.ofDigitChars 10 digits 0 = n

/-- The text is a numeral of a number, with blanks around it or not. -/
def Denotes (text : String) (n : Nat) : Prop :=
  ∃ before core after, text.toList = before ++ core ++ after ∧
    (∀ c ∈ before, Text.isBlank c = true) ∧ (∀ c ∈ after, Text.isBlank c = true) ∧ Spells core n

/-! ## Digits -/

/-- Digits only add to what has been read. -/
lemma le_ofDigitChars (value : Nat) (digits : List Char) :
    value ≤ Nat.ofDigitChars 10 digits value := by
  induction digits generalizing value with
  | nil => exact Nat.le_refl _
  | cons c rest ih =>
    rw [Nat.ofDigitChars_cons]
    exact Nat.le_trans (by omega) (ih _)

lemma readDigits_eq_ok_iff (fits : value ≤ limit) :
    readDigits limit value digits = .ok n ↔
      (∀ c ∈ digits, c.isDigit = true) ∧ Nat.ofDigitChars 10 digits value = n ∧ n ≤ limit := by
  induction digits generalizing value with
  | nil =>
    rw [readDigits, Nat.ofDigitChars_nil, Except.ok.injEq]
    constructor
    · rintro rfl
      exact ⟨fun c none => absurd none List.not_mem_nil, rfl, fits⟩
    · exact fun h => h.2.1
  | cons c rest ih =>
    have next : 10 * value + (c.toNat - '0'.toNat) = value * 10 + digitValue c := by
      rw [Nat.mul_comm]
      rfl
    rw [readDigits, Nat.ofDigitChars_cons, next, List.forall_mem_cons]
    by_cases digit : c.isDigit = true
    · by_cases small : value * 10 + digitValue c ≤ limit
      · simp only [digit, small, if_true, true_and, ih small]
      · have large := le_ofDigitChars (value * 10 + digitValue c) rest
        simp only [digit, small, if_true, if_false, true_and]
        refine iff_of_false nofun ?_
        rintro ⟨-, rfl, bound⟩
        omega
    · simp only [digit]
      exact iff_of_false nofun fun h => nomatch h.1.1

/-- After a plus sign come digits. -/
lemma spells_plus_iff {rest : List Char} :
    Spells ('+' :: rest) n ↔
      rest ≠ [] ∧ (∀ c ∈ rest, c.isDigit = true) ∧ Nat.ofDigitChars 10 rest 0 = n := by
  constructor
  · rintro ⟨digits, rfl | same, some, all, sum⟩
    · exact absurd (all '+' List.mem_cons_self) (by decide)
    · obtain ⟨-, rfl⟩ := List.cons.inj same
      exact ⟨some, all, sum⟩
  · rintro ⟨some, all, sum⟩
    exact ⟨rest, Or.inr rfl, some, all, sum⟩

/-- Without a plus sign there are only digits. -/
lemma spells_iff (unsigned : ∀ rest, core ≠ '+' :: rest) :
    Spells core n ↔
      core ≠ [] ∧ (∀ c ∈ core, c.isDigit = true) ∧ Nat.ofDigitChars 10 core 0 = n := by
  constructor
  · rintro ⟨digits, rfl | signed, some, all, sum⟩
    · exact ⟨some, all, sum⟩
    · exact absurd signed (unsigned digits)
  · rintro ⟨some, all, sum⟩
    exact ⟨core, Or.inl rfl, some, all, sum⟩

/-- A numeral that is read spells a number that is not too large. -/
lemma read_eq_ok_iff : read limit text = .ok n ↔ Spells text.toList n ∧ n ≤ limit := by
  unfold read
  split
  · next nothing =>
    rw [nothing, spells_iff fun _ => (List.cons_ne_nil _ _).symm]
    exact iff_of_false nofun fun h => h.1.1 rfl
  · next plus =>
    rw [plus, spells_plus_iff]
    exact iff_of_false nofun fun h => h.1.1 rfl
  · next rest some signed =>
    rw [signed, spells_plus_iff, readDigits_eq_ok_iff (Nat.zero_le _), and_assoc, and_assoc]
    exact (and_iff_right some).symm
  · next some _ unsigned =>
    rw [spells_iff unsigned, readDigits_eq_ok_iff (Nat.zero_le _), and_assoc, and_assoc]
    exact (and_iff_right some).symm

/-! ## Words -/

lemma word?_eq_some_iff : word? text = some w ↔ Spells text.toList w.toNat := by
  have bound : w.toNat ≤ wordLimit := Nat.le_pred_of_lt w.toNat_lt_size
  unfold word?
  split
  · next n reads =>
    obtain ⟨spells, fits⟩ := read_eq_ok_iff.mp reads
    have word : (UInt32.ofNat n).toNat = n :=
      UInt32.toNat_ofNat_of_lt' (Nat.lt_of_le_pred (by decide) fits)
    rw [Option.some.injEq]
    constructor
    · rintro rfl
      rwa [word]
    · intro same
      have both := read_eq_ok_iff.mpr ⟨same, bound⟩
      obtain rfl := Except.ok.inj (reads.symm.trans both)
      exact UInt32.ofNat_toNat
  · next e fails =>
    refine iff_of_false nofun fun spells => ?_
    exact nomatch fails.symm.trans (read_eq_ok_iff.mpr ⟨spells, bound⟩)

/-- No part of a numeral is blank. -/
lemma isBlank_of_spells (spells : Spells core n) {c : Char} (there : c ∈ core) :
    Text.isBlank c = false := by
  have digit : ∀ {c : Char}, c.isDigit = true → Text.isBlank c = false := fun {c} digit => by
    have range : 48 ≤ c.toNat ∧ c.toNat ≤ 57 := by
      simpa [Char.isDigit, UInt32.le_iff_toNat_le] using digit
    simp only [Text.isBlank, Bool.or_eq_false_iff, Bool.and_eq_false_iff, decide_eq_false_iff_not,
      beq_eq_false_iff_ne]
    omega
  obtain ⟨digits, rfl | rfl, -, all, -⟩ := spells
  · exact digit (all c there)
  · rcases List.mem_cons.mp there with rfl | inside
    · decide
    · exact digit (all c inside)

/-- What a text denotes is spelled between its blanks. -/
lemma denotes_iff : Denotes text n ↔ Spells (Text.trim text).toList n := by
  have filled : ∀ {core : List Char}, Spells core n → core ≠ [] := by
    rintro core ⟨digits, rfl | rfl, some, -, -⟩
    · exact some
    · exact List.cons_ne_nil _ _
  constructor
  · rintro ⟨before, core, after, shape, begins, ends, spells⟩
    have trimmed : (Text.trim text).toList = core :=
      (Text.toList_trim_eq_iff (filled spells)).mpr ⟨⟨before, after, shape, begins, ends⟩,
        fun c first => isBlank_of_spells spells (List.mem_of_head? first),
        fun c last => isBlank_of_spells spells (List.mem_of_getLast? last)⟩
    rwa [trimmed]
  · intro spells
    obtain ⟨⟨before, after, shape, begins, ends⟩, -⟩ :=
      (Text.toList_trim_eq_iff (filled spells)).mp rfl
    exact ⟨before, _, after, shape, begins, ends, spells⟩

/-- A text is read as a word, whatever blanks are around it, exactly if it denotes this word. -/
lemma word?_trim_eq_some_iff : word? (Text.trim text) = some w ↔ Denotes text w.toNat := by
  rw [word?_eq_some_iff, denotes_iff]

/-- A text denotes one number at most. -/
lemma Denotes.unique {n' : Nat} (h : Denotes text n) (h' : Denotes text n') : n = n' := by
  rw [denotes_iff] at h h'
  generalize (Text.trim text).toList = core at h h'
  by_cases signed : ∃ rest, core = '+' :: rest
  · obtain ⟨rest, rfl⟩ := signed
    exact (spells_plus_iff.mp h).2.2.symm.trans (spells_plus_iff.mp h').2.2
  · have unsigned : ∀ rest, core ≠ '+' :: rest := fun rest same => signed ⟨rest, same⟩
    exact ((spells_iff unsigned).mp h).2.2.symm.trans ((spells_iff unsigned).mp h').2.2

/-- A text with a minus sign in front denotes nothing. -/
lemma not_denotes_of_minus {rest : List Char} (negative : text.toList = '-' :: rest) :
    ¬ Denotes text n := by
  rintro ⟨before, core, after, shape, begins, -, spells⟩
  rw [negative] at shape
  cases before with
  | cons c before =>
    obtain ⟨rfl, -⟩ := List.cons.inj shape
    exact absurd (begins '-' List.mem_cons_self) (by decide)
  | nil =>
    obtain ⟨digits, rfl | rfl, some, all, -⟩ := spells
    · obtain ⟨c, digits, rfl⟩ := List.exists_cons_of_ne_nil some
      obtain ⟨rfl, -⟩ := List.cons.inj shape
      exact absurd (all '-' List.mem_cons_self) (by decide)
    · exact absurd (List.cons.inj shape).1 (by decide)

/-- A number is denoted by its decimal text. -/
lemma denotes_repr (n : Nat) : Denotes n.repr n := by
  refine ⟨[], Nat.toDigits 10 n, [], ?_, nofun, nofun, Nat.toDigits 10 n, Or.inl rfl,
    Nat.toDigits_ne_nil, fun c => Nat.isDigit_of_mem_toDigits (by decide) (by decide),
    Nat.ofDigitChars_ten_toDigits⟩
  rw [Nat.toList_repr, List.nil_append, List.append_nil]

/-- The decimal text of an integer denotes this integer, if it is not negative. -/
lemma denotes_toString_iff {i : Int} : Denotes (toString i) n ↔ i = n := by
  cases i with
  | ofNat m =>
    have text : toString (Int.ofNat m) = m.repr := rfl
    rw [text, Int.ofNat_eq_natCast, Int.natCast_inj]
    exact ⟨(denotes_repr m).unique, fun same => same ▸ denotes_repr m⟩
  | negSucc m =>
    have text : (toString (Int.negSucc m)).toList = '-' :: m.succ.repr.toList := by
      have sign : toString (Int.negSucc m) = "-" ++ m.succ.repr := rfl
      rw [sign, String.toList_append]
      rfl
    exact iff_of_false (not_denotes_of_minus text) nofun

end Numeral

end HatchSensor
