import HatchSensor.Number.Layout
import HatchSensor.Proofs.PrintedJson
import HatchSensor.Proofs.ShortestDecimals

/-!
# Printed numbers are read

Every single-precision number is printed in JSON as something that the reader reads: a finite one as
a number, in positional form or with an exponent, and any other one as the word for nothing
(`Single.exists_spells`).

A literal can be read if it is not too large for double precision.  That a printed one is not has to
be followed through both: the decimal that the printer makes is below `10 ^ 40`
(`Decimal.within_single`), and the reader stays far below infinity when it scales a 64-bit word by
`10 ^ 60` at most (`Json.exists_value`).
-/

namespace HatchSensor

/-! ## Rounding -/

namespace BinaryFormat

variable {f : BinaryFormat} {num den s : Nat}

lemma roundHalfEven_le (num den : Nat) : roundHalfEven num den ≤ num / den + 1 := by
  unfold roundHalfEven
  dsimp only
  split <;> omega

/-- A small quotient is rounded to a pattern in a low binade. -/
lemma round_le (small : num / den < 2 ^ (f.fractionBits + 1 + s)) :
    f.round num den ≤ (s + 2) * 2 ^ f.fractionBits := by
  have low : (num / den).log2 < f.fractionBits + 1 + s := by
    by_cases zero : num / den = 0
    · rw [zero, Nat.log2_zero]
      omega
    · exact (Nat.log2_lt zero).mpr small
  unfold round
  simp only [Nat.pow_eq]
  generalize shift : (num / den).log2 - f.fractionBits = k
  have quotient : num / (den * 2 ^ k) < 2 ^ (f.fractionBits + 1) := by
    rw [← Nat.div_div_eq_div_mul, Nat.div_lt_iff_lt_mul (Nat.two_pow_pos k), ← Nat.pow_add]
    exact Nat.lt_of_lt_of_le Nat.lt_log2_self (Nat.pow_le_pow_right (by decide) (by omega))
  have significand := roundHalfEven_le num (den * 2 ^ k)
  have binades : k * 2 ^ f.fractionBits ≤ s * 2 ^ f.fractionBits :=
    Nat.mul_le_mul_right _ (by omega)
  rw [Nat.pow_succ] at quotient
  rw [Nat.add_mul]
  exact (Nat.min_le_left _ _).trans (by omega)

/-- It is not rounded to infinity. -/
lemma round_lt_infinity (small : num / den < 2 ^ (f.fractionBits + 1 + s))
    (low : s + 2 < 2 ^ f.exponentBits - 1) : f.round num den < f.infinity := by
  refine Nat.lt_of_le_of_lt (round_le small) ?_
  unfold infinity
  simp only [Nat.pow_eq]
  exact Nat.mul_lt_mul_of_pos_right low (Nat.two_pow_pos _)

end BinaryFormat

namespace Double

variable {n k b : Nat}

lemma unitExponent_double : BinaryFormat.double.unitExponent = 1074 := by decide

lemma one_eq : one = 2 ^ BinaryFormat.double.unitExponent := by
  unfold one
  generalize BinaryFormat.double.unitExponent = u
  rfl

lemma mul_lt_two_pow {x y a b : Nat} (first : x < 2 ^ a) (second : y < 2 ^ b) :
    x * y < 2 ^ (a + b) := by
  rw [Nat.pow_add]
  exact Nat.mul_lt_mul_of_lt_of_lt first second

/-- The magnitude of a natural number after rounding. -/
lemma magnitude_patternOfNat_lt (small : n < 2 ^ b) :
    BinaryFormat.double.magnitude (patternOfNat n) < 2 ^ (b + 1075) := by
  have bits : BinaryFormat.double.fractionBits = 52 := rfl
  have unit := unitExponent_double
  have quotient : n * one / 1 < 2 ^ (BinaryFormat.double.fractionBits + 1 + (b + 1021)) := by
    have exponent : BinaryFormat.double.fractionBits + 1 + (b + 1021)
        = b + BinaryFormat.double.unitExponent := by omega
    rw [Nat.div_one, one_eq, exponent, Nat.pow_add]
    exact Nat.mul_lt_mul_of_pos_right small (Nat.two_pow_pos _)
  have bound := BinaryFormat.magnitude_lt (BinaryFormat.round_le quotient)
  have exponent : BinaryFormat.double.fractionBits + 2 + (b + 1021) = b + 1075 := by omega
  rwa [exponent] at bound

/-- A 64-bit word can be multiplied with ten to the power 60. -/
lemma scaleUp_lt_infinity (word : n < 2 ^ 64) (low : k ≤ 60) :
    scaleUp (patternOfNat n) k < BinaryFormat.double.infinity := by
  have ten : 10 ^ k < 2 ^ 240 :=
    Nat.lt_of_le_of_lt (Nat.pow_le_pow_right (by decide) low) (by decide)
  have product : BinaryFormat.double.magnitude (patternOfNat n) * powerOfTen k < _ :=
    mul_lt_two_pow (magnitude_patternOfNat_lt word) (magnitude_patternOfNat_lt ten)
  have bits : BinaryFormat.double.fractionBits = 52 := rfl
  have unit := unitExponent_double
  have exponent : 64 + 1075 + (240 + 1075)
      = BinaryFormat.double.fractionBits + 1 + 1327 + BinaryFormat.double.unitExponent := by omega
  refine BinaryFormat.round_lt_infinity (s := 1327) ?_ (by decide)
  rwa [one_eq, Nat.div_lt_iff_lt_mul (Nat.two_pow_pos _), ← pow_add, ← exponent]

end Double

/-! ## The values of literals -/

namespace Json

/-- A negative power of ten never makes a number too large. -/
lemma exists_scale_of_neg (fuel pattern : Nat) {e : Int} (negative : e < 0) :
    ∃ p, scale fuel pattern e = some p := by
  induction fuel generalizing pattern e with
  | zero => exact ⟨_, rfl⟩
  | succ fuel ih =>
    have below : ¬ 0 ≤ e := by omega
    unfold scale
    rw [if_neg below, if_neg below]
    split
    · exact ⟨_, rfl⟩
    · next far =>
      split
      · exact ⟨_, rfl⟩
      · exact ih _ (by omega)

/-- A 64-bit word can be scaled by `10 ^ 60` at most. -/
lemma exists_makeFloat (negative : Bool) {n : Nat} (word : n ≤ longLimit) {e : Int} (low : e ≤ 60) :
    ∃ value, makeFloat negative n e = some value := by
  have scaled : ∃ p, scale 4 (Double.patternOfNat n) e = some p := by
    by_cases positive : 0 ≤ e
    · have near : e.natAbs ≤ 308 := by omega
      have small : n < 2 ^ 64 := by
        unfold longLimit at word
        simp only [UInt64.size] at word
        omega
      have finite := Double.scaleUp_lt_infinity small (by omega : e.natAbs ≤ 60)
      unfold scale
      rw [if_pos near, if_pos positive]
      dsimp only
      rw [if_pos finite]
      exact ⟨_, rfl⟩
    · exact exists_scale_of_neg 4 _ (by omega)
  obtain ⟨p, scaled⟩ := scaled
  unfold makeFloat
  rw [scaled]
  exact ⟨_, rfl⟩

/-- What is gathered is a 64-bit word. -/
lemma gather_le {value : Nat} (word : value ≤ longLimit) (digits : List Char) :
    (gather value digits).1 ≤ longLimit ∧ (gather value digits).2.length ≤ digits.length := by
  induction digits generalizing value with
  | nil => exact ⟨word, Nat.le_refl _⟩
  | cons c rest ih =>
    unfold gather
    dsimp only
    split
    · next fits =>
      obtain ⟨small, short⟩ := ih fits
      exact ⟨small, short.trans (Nat.le_succ _)⟩
    · exact ⟨word, Nat.le_refl _⟩

/-- A literal that is not too long has a value. -/
lemma exists_value (l : Literal) (short : l.whole.length + l.exponent.getD 0 ≤ 60) :
    ∃ n, l.value = some n := by
  obtain ⟨negative, whole, fraction, exponent⟩ := l
  obtain ⟨lead, left⟩ := gather_le (Nat.zero_le longLimit) whole
  have float : ∀ digits : List Char, ∃ n,
      makeFloat negative (gather (gather 0 whole).1 digits).1
        ((gather 0 whole).2.length
          - (digits.length - (gather (gather 0 whole).1 digits).2.length : Nat)
          + exponent.getD 0) = some n := by
    intro digits
    refine exists_makeFloat negative (gather_le lead digits).1 ?_
    dsimp only at short
    omega
  unfold Literal.value
  dsimp only
  split
  · split
    · split
      · exact ⟨_, rfl⟩
      · split
        · exact ⟨_, rfl⟩
        · exact ⟨_, rfl⟩
    · refine exists_makeFloat negative lead ?_
      dsimp only [Option.getD_none] at short
      omega
  · exact float _

/-! ## Texts of numbers -/

/-- The characters are those of a number without its sign, whatever follows it. -/
structure Readable (text : List Char) : Prop where
  /-- It begins with a digit. -/
  begins : ∃ c tail, text = c :: tail ∧ c.isDigit
  reads : ∀ negative, ∃ n, ∀ rest, Follows rest →
    readUnsigned negative (text ++ rest) = some (n, rest)

/-- With its sign, it spells a number. -/
lemma Readable.exists_spells {text : List Char} (readable : Readable text) (depth : Nat)
    (negative : Bool) : ∃ n, Spells depth 1
      (String.ofList (if negative then '-' :: text else text)) (.number n) := by
  obtain ⟨n, reads⟩ := readable.reads negative
  exact ⟨n, spells_signed depth negative readable.begins reads⟩

section Texts

variable {whole fraction : List Char}

/-- Zeros are digits. -/
lemma isDigit_of_mem_replicate {n : Nat} : ∀ c ∈ List.replicate n '0', c.isDigit := by
  intro c there
  rw [List.eq_of_mem_replicate there]
  decide

lemma isDigit_of_mem_zero : ∀ c ∈ ['0'], c.isDigit := isDigit_of_mem_replicate (n := 1)

/-- One of them can stand before the point. -/
lemma whole_zero : Whole ['0'] := ⟨isDigit_of_mem_zero, by decide⟩

/-- A number with a fraction can be read. -/
lemma readable_decimal (h : Whole whole) (short : whole.length ≤ 60)
    (all : ∀ c ∈ fraction, c.isDigit) (some : fraction ≠ []) :
    Readable (whole ++ '.' :: fraction) where
  begins := h.begins _
  reads := by
    intro negative
    obtain ⟨n, value⟩ := exists_value ⟨negative, whole, fraction, none⟩ (by
      dsimp only [Option.getD_none]
      omega)
    refine ⟨n, fun rest follows => ?_⟩
    have text : whole ++ '.' :: fraction ++ rest = whole ++ '.' :: (fraction ++ rest) := by simp
    rw [text, readUnsigned_decimal negative h all some follows, value]
    rfl

/-- An exponent, with its sign and its digits. -/
def exponentMark (e : Int) : List Char :=
  ['e', if e < 0 then '-' else '+'] ++ Nat.toDigits 10 e.natAbs

/-- The digits of a number have its value. -/
lemma digitsValue_toDigits (n : Nat) : digitsValue (Nat.toDigits 10 n) = n := by
  have same : ∀ (digits : List Char) (value : Nat),
      digits.foldl (fun n c => n * 10 + (c.toNat - 48)) value
        = Nat.ofDigitChars 10 digits value := by
    intro digits
    induction digits with
    | nil => exact fun _ => rfl
    | cons c digits ih =>
      intro value
      rw [List.foldl_cons, ih, Nat.ofDigitChars_cons, Nat.mul_comm]
      rfl
  rw [digitsValue, same, Nat.ofDigitChars_ten_toDigits]

/-- An exponent is read as itself. -/
lemma readExponent_mark (e : Int) {rest : List Char} (follows : Follows rest) :
    readExponent (exponentMark e ++ rest) = some (some e, rest) := by
  have filled : (Nat.toDigits 10 e.natAbs).isEmpty = false :=
    List.isEmpty_eq_false_iff.mpr Nat.toDigits_ne_nil
  have digits : ∀ sign : Int, readExponentDigits sign (Nat.toDigits 10 e.natAbs ++ rest)
      = some (some (sign * e.natAbs), rest) := by
    intro sign
    unfold readExponentDigits
    rw [spanDigits_append (whole_toDigits e.natAbs).digits follows.plain]
    dsimp only
    rw [if_neg (by simp [filled]), digitsValue_toDigits]
  unfold exponentMark
  by_cases negative : e < 0
  · have value : (-1) * (e.natAbs : Int) = e := by omega
    rw [if_pos negative]
    show readExponentDigits (-1) (Nat.toDigits 10 e.natAbs ++ rest) = _
    rw [digits, value]
  · have value : 1 * (e.natAbs : Int) = e := by omega
    rw [if_neg negative]
    show readExponentDigits 1 (Nat.toDigits 10 e.natAbs ++ rest) = _
    rw [digits, value]

/-- A number with an exponent can be read, be there a fraction or not. -/
lemma readable_exponent (h : Whole whole) (all : ∀ c ∈ fraction, c.isDigit) {e : Int}
    (short : whole.length + e ≤ 60) :
    Readable (whole ++ (if fraction.isEmpty then [] else '.' :: fraction) ++ exponentMark e) where
  begins := by
    rw [List.append_assoc]
    exact h.begins _
  reads := by
    intro negative
    have letter : ∀ rest : List Char, (exponentMark e ++ rest).takeWhile Char.isDigit = [] ∧
        (exponentMark e ++ rest).dropWhile Char.isDigit = exponentMark e ++ rest :=
      fun rest => ⟨rfl, rfl⟩
    cases fraction with
    | nil =>
      obtain ⟨n, value⟩ := exists_value ⟨negative, whole, none, some e⟩ short
      refine ⟨n, fun rest follows => ?_⟩
      have text : whole ++ [] ++ exponentMark e ++ rest = whole ++ (exponentMark e ++ rest) := by
        simp
      have point : readFraction (exponentMark e ++ rest)
          = some (none, exponentMark e ++ rest) := rfl
      rw [List.isEmpty_nil, if_pos rfl, text]
      unfold readUnsigned
      rw [spanDigits_append h.digits (letter rest)]
      dsimp only
      rw [if_neg h.proper, point]
      simp [readExponent_mark e follows, value]
    | cons c fraction =>
      obtain ⟨n, value⟩ := exists_value ⟨negative, whole, some (c :: fraction), some e⟩ short
      refine ⟨n, fun rest follows => ?_⟩
      have text : whole ++ ('.' :: c :: fraction) ++ exponentMark e ++ rest
          = whole ++ '.' :: (c :: fraction ++ (exponentMark e ++ rest)) := by simp
      have point := readFraction_append all (List.cons_ne_nil _ _) (letter rest)
      rw [List.isEmpty_cons, if_neg (by decide), text]
      unfold readUnsigned
      rw [spanDigits_append h.digits ⟨rfl, rfl⟩]
      dsimp only
      rw [if_neg h.proper, point]
      simp [readExponent_mark e follows, value]

end Texts

end Json

/-! ## Layouts -/

namespace DecimalLayout

open Json

variable {digits : List Char}

/-- The digits of a positive number: there are some, and the first is no zero. -/
structure Leading (digits : List Char) : Prop where
  all : ∀ c ∈ digits, c.isDigit
  filled : digits ≠ []
  first : digits.head? ≠ some '0'

lemma leading_toDigits {n : Nat} (positive : 0 < n) : Leading (Nat.toDigits 10 n) where
  all := (whole_toDigits n).digits
  filled := Nat.toDigits_ne_nil
  first := fun zero => Nat.ne_of_gt positive (eq_zero_of_head?_toDigits zero)

/-- With any digits behind them, or without the last of them, they can stand before the point. -/
lemma Leading.whole (leading : Leading digits) {whole : List Char} (all : ∀ c ∈ whole, c.isDigit)
    (filled : whole ≠ []) (same : whole.head? = digits.head?) : Whole whole where
  digits := all
  proper := by
    rintro (none | ⟨zero, -⟩)
    · exact filled (List.isEmpty_iff.mp none)
    · exact leading.first (same.symm.trans zero)

/-- Digits in positional form can be read. -/
lemma readable_positionalText (leading : Leading digits) {point : Int} (near : point ≤ 60) :
    Readable (positionalText true digits point) := by
  obtain ⟨c, tail, rfl⟩ := List.exists_cons_of_ne_nil leading.filled
  unfold positionalText
  split
  · have fraction : ∀ d ∈ List.replicate (-point).toNat '0' ++ c :: tail, d.isDigit := by
      intro d there
      exact (List.mem_append.mp there).elim (isDigit_of_mem_replicate d) (leading.all d)
    have text : ['0', '.'] ++ List.replicate (-point).toNat '0' ++ c :: tail
        = ['0'] ++ '.' :: (List.replicate (-point).toNat '0' ++ c :: tail) := rfl
    rw [text]
    exact readable_decimal whole_zero (by decide) fraction (by simp)
  · next positive =>
    split
    · next long =>
      have whole : Whole (c :: tail ++ List.replicate (point.toNat - (c :: tail).length) '0') := by
        refine leading.whole (fun d there => ?_) (by simp) rfl
        exact (List.mem_append.mp there).elim (leading.all d) (isDigit_of_mem_replicate d)
      have short : (c :: tail ++ List.replicate (point.toNat - (c :: tail).length) '0').length
          ≤ 60 := by
        rw [List.length_append, List.length_replicate]
        omega
      rw [if_pos rfl]
      exact readable_decimal whole short isDigit_of_mem_zero (List.cons_ne_nil _ _)
    · next short =>
      obtain ⟨n, places⟩ : ∃ n, point.toNat = n + 1 := ⟨point.toNat - 1, by omega⟩
      have whole : Whole ((c :: tail).take point.toNat) := by
        refine leading.whole (fun d there => leading.all d (List.mem_of_mem_take there)) ?_ ?_
        · rw [places]
          exact List.cons_ne_nil _ _
        · rw [places]
          rfl
      have rest : (c :: tail).drop point.toNat ≠ [] := by
        intro none
        have := List.drop_eq_nil_iff.mp none
        omega
      have text : (c :: tail).take point.toNat ++ ['.'] ++ (c :: tail).drop point.toNat
          = (c :: tail).take point.toNat ++ '.' :: (c :: tail).drop point.toNat := by simp
      have length : ((c :: tail).take point.toNat).length ≤ 60 := by
        rw [List.length_take]
        omega
      rw [text]
      refine readable_decimal whole length (fun d there => ?_) rest
      exact leading.all d (List.mem_of_mem_drop there)

/-- Digits with an exponent can be read. -/
lemma readable_exponentText (leading : Leading digits) {exponent : Int} (near : exponent ≤ 59) :
    Readable (exponentText digits exponent) := by
  obtain ⟨c, tail, rfl⟩ := List.exists_cons_of_ne_nil leading.filled
  have whole : Whole [c] :=
    leading.whole (fun d there => leading.all d (List.mem_of_mem_take (i := 1) there))
      (List.cons_ne_nil _ _) rfl
  have fraction : ∀ d ∈ tail, d.isDigit := by
    intro d there
    exact leading.all d (List.mem_cons_of_mem c there)
  have text : exponentText (c :: tail) exponent
      = [c] ++ (if tail.isEmpty then [] else '.' :: tail) ++ exponentMark exponent := by
    unfold exponentText exponentMark
    rw [Nat.toList_repr, List.append_assoc _ _ (Nat.toDigits 10 exponent.natAbs)]
    rfl
  rw [text]
  exact readable_exponent whole fraction (by simpa using (by omega : (1 : Int) + exponent ≤ 60))

/-- A decimal that is not too large can be read in any layout that keeps a fraction. -/
lemma readable_write {layout : DecimalLayout} (keeps : layout.keepsFraction = true) {d : Decimal}
    (within : Decimal.Within 40 d) : Readable (layout.write d) := by
  have leading := leading_toDigits within.positive
  have near := within.leadingExponent_le
  unfold write
  dsimp only
  rw [keeps]
  generalize d.leadingExponent = exponent at near
  have point : exponent + 1 ≤ 60 := by omega
  cases layout.positional with
  | none =>
    rw [if_pos rfl]
    exact readable_positionalText leading point
  | some limits =>
    obtain ⟨low, high⟩ := limits
    dsimp only
    split
    · exact readable_positionalText leading point
    · exact readable_exponentText leading (by omega : exponent ≤ 59)

end DecimalLayout

/-- The text of a number spells a value, which is a number if it is finite. -/
lemma Single.exists_spells (x : Single) (depth : Nat) :
    ∃ value, Json.Spells depth 1 x.toJsonText value := by
  unfold Single.toJsonText
  split
  · next finite =>
    have small : x.pattern < BinaryFormat.single.infinity := of_decide_eq_true finite
    have readable : Json.Readable (if x.pattern = 0 then DecimalLayout.jsonSingle.zero
        else DecimalLayout.jsonSingle.write
          (Decimal.shortest .single DecimalLayout.jsonSingle.tie x.pattern)) := by
      split
      · exact Json.readable_decimal Json.whole_zero (by decide) Json.isDigit_of_mem_zero
          (List.cons_ne_nil _ _)
      · next other =>
        exact DecimalLayout.readable_write rfl
          (Decimal.within_single _ (Nat.pos_of_ne_zero other) small)
    obtain ⟨n, spells⟩ := readable.exists_spells depth x.isNegative
    exact ⟨.number n, spells⟩
  · refine ⟨.null, fun rest => rfl, fun fuel rest enough _ => ?_⟩
    obtain ⟨fuel, rfl⟩ := Nat.exists_eq_add_of_le' enough
    rfl

end HatchSensor
