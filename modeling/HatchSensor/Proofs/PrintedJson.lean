import HatchSensor.Json.Printer
import HatchSensor.Json.Reader
import Mathlib.Tactic.Lemma

/-!
# What is printed is read

The reader gives back the values that messages are printed from.  A text `Spells` a value if it is
read as this value whatever follows it.  Texts, numbers and objects of values that are spelled are
spelled by what `Json.writeString`, the decimal digits and `Json.writeMembers` make of them.

The reader is given fuel, so that it is also said how much of it a text takes.
-/

namespace HatchSensor

namespace Json

/-- What may follow a value in a document. -/
inductive Follows : List Char → Prop
  /-- The document is over. -/
  | nothing : Follows []
  /-- There is another member. -/
  | comma (rest : List Char) : Follows (',' :: rest)
  /-- That was the last member. -/
  | brace (rest : List Char) : Follows ('\x7d' :: rest)

/-- The text is read as the value, whatever follows it. -/
structure Spells (depth size : Nat) (text : String) (value : Json) : Prop where
  /-- The text does not begin with a blank. -/
  unblank : ∀ rest, skipBlanks (text.toList ++ rest) = text.toList ++ rest
  reads : ∀ fuel rest, size ≤ fuel → Follows rest →
    readValue fuel depth (text.toList ++ rest) = some (value, rest)

/-! ## Texts -/

/-- The form of a character is read as this character. -/
lemma readChars_escapeChar (c : Char) (rest : List Char) :
    readChars (escapeChar c ++ rest) = (readChars rest).map fun r => (c :: r.1, r.2) := by
  unfold escapeChar
  split
  · rfl
  · rfl
  · rfl
  · rfl
  · rfl
  · rfl
  · rfl
  next mark slash _ _ _ _ _ =>
    split
    · next control =>
      -- there are 32 such characters
      have all : ∀ n < 0x20, hexUnit? '0' '0' (Bytes.hexDigit (n / 16)) (Bytes.hexDigit (n % 16))
          = some n := by decide
      have size : (UInt8.ofNat c.toNat).toNat = c.toNat := by
        rw [UInt8.toNat_ofNat']
        exact Nat.mod_eq_of_lt (by omega)
      have unit := all c.toNat control
      rw [Bytes.hexPair, size]
      simp only [List.cons_append, List.nil_append, readChars, unit]
      rw [if_pos (Or.inl (by omega)), Char.ofNat_toNat]
    · next plain =>
      have passes : ¬ (c = '\\' ∨ c.toNat < 0x20) := not_or.mpr ⟨slash, plain⟩
      rw [List.singleton_append, readChars, if_neg passes]
      · exact mark
      · exact fun _ _ _ _ _ same _ => slash same
      · exact fun _ _ same _ => slash same

lemma readChars_write (text rest : List Char) :
    readChars (text.flatMap escapeChar ++ '"' :: rest) = some (text, rest) := by
  induction text with
  | nil => rfl
  | cons c text ih =>
    rw [List.flatMap_cons, List.append_assoc, readChars_escapeChar, ih]
    rfl

/-- A printed text is read as this text. -/
lemma readString_write (text : String) (rest : List Char) :
    readString (text.toList.flatMap escapeChar ++ '"' :: rest) = some (text, rest) := by
  rw [readString, readChars_write, Option.map_some, String.ofList_toList]

lemma toList_writeString (text : String) :
    (writeString text).toList = '"' :: (text.toList.flatMap escapeChar ++ ['"']) := by
  rw [writeString, String.toList_ofList]
  rfl

lemma spells_string (depth : Nat) (text : String) :
    Spells depth 1 (writeString text) (.string text) where
  unblank := fun rest => by rw [toList_writeString]; rfl
  reads := by
    intro fuel rest enough _
    obtain ⟨fuel, rfl⟩ := Nat.exists_eq_add_of_le' enough
    have read := readString_write text rest
    rw [toList_writeString, List.cons_append, List.append_assoc, List.singleton_append, readValue,
      read]
    rfl

/-! ## Numbers -/

/-- The digits before the point: at least one, and no zero in front of others. -/
structure Whole (whole : List Char) : Prop where
  digits : ∀ c ∈ whole, c.isDigit
  proper : ¬ (whole.isEmpty = true ∨ (whole.head? = some '0' ∧ whole.length ≠ 1))

section Literals

variable {whole rest : List Char}

/-- Digits are told from what does not begin with one. -/
lemma spanDigits_append {digits : List Char} (all : ∀ c ∈ digits, c.isDigit)
    (plain : rest.takeWhile Char.isDigit = [] ∧ rest.dropWhile Char.isDigit = rest) :
    spanDigits (digits ++ rest) = (digits, rest) := by
  rw [spanDigits, List.takeWhile_append_of_pos all, List.dropWhile_append_of_pos all, plain.1,
    plain.2, List.append_nil]

lemma Follows.plain (follows : Follows rest) :
    rest.takeWhile Char.isDigit = [] ∧ rest.dropWhile Char.isDigit = rest := by
  cases follows <;> exact ⟨rfl, rfl⟩

lemma Follows.readFraction (follows : Follows rest) : readFraction rest = some (none, rest) := by
  cases follows <;> rfl

lemma Follows.readExponent (follows : Follows rest) : readExponent rest = some (none, rest) := by
  cases follows <;> rfl

/-- An integer literal is read as its value. -/
lemma readUnsigned_whole (negative : Bool) (h : Whole whole) (follows : Follows rest) :
    readUnsigned negative (whole ++ rest)
      = (Literal.value ⟨negative, whole, none, none⟩).map fun n => (n, rest) := by
  unfold readUnsigned
  rw [spanDigits_append h.digits follows.plain]
  dsimp only
  rw [if_neg h.proper]
  cases value : Literal.value ⟨negative, whole, none, none⟩ <;>
    simp [follows.readFraction, follows.readExponent, value]

/-- A fraction is told from what follows it. -/
lemma readFraction_append {fraction : List Char} (all : ∀ c ∈ fraction, c.isDigit)
    (some : fraction ≠ [])
    (plain : rest.takeWhile Char.isDigit = [] ∧ rest.dropWhile Char.isDigit = rest) :
    readFraction ('.' :: (fraction ++ rest)) = Option.some (Option.some fraction, rest) := by
  have found : readFraction ('.' :: (fraction ++ rest))
      = if (spanDigits (fraction ++ rest)).1.isEmpty = true then none
        else Option.some (Option.some (spanDigits (fraction ++ rest)).1,
          (spanDigits (fraction ++ rest)).2) := rfl
  rw [found, spanDigits_append all plain, if_neg (by rwa [List.isEmpty_iff])]

/-- A literal with a fraction is read as its value. -/
lemma readUnsigned_decimal (negative : Bool) (h : Whole whole) {fraction : List Char}
    (all : ∀ c ∈ fraction, c.isDigit) (some : fraction ≠ []) (follows : Follows rest) :
    readUnsigned negative (whole ++ '.' :: (fraction ++ rest))
      = (Literal.value ⟨negative, whole, fraction, none⟩).map fun n => (n, rest) := by
  have point := readFraction_append all some follows.plain
  unfold readUnsigned
  rw [spanDigits_append h.digits ⟨rfl, rfl⟩]
  dsimp only
  rw [if_neg h.proper]
  cases value : Literal.value ⟨negative, whole, fraction, none⟩ <;>
    simp [point, follows.readExponent, value]

/-- A digit begins neither a word nor a text, an array, an object or a negative number. -/
lemma readValue_digit {c : Char} (digit : c.isDigit) (fuel depth : Nat) (rest : List Char) :
    readValue (fuel + 1) depth (c :: rest)
      = (readUnsigned false (c :: rest)).map fun r => (number r.1, r.2) := by
  have number : readNumber (c :: rest) = readUnsigned false (c :: rest) := by
    unfold readNumber
    split
    · next same =>
      obtain ⟨rfl, -⟩ := List.cons.inj same
      exact absurd digit (by decide)
    · rfl
  rw [readValue.eq_def]
  dsimp only
  split <;> first
    | (next same =>
        obtain ⟨rfl, -⟩ := List.cons.inj same
        exact absurd digit (by decide))
    | rw [number]

lemma skipBlanks_digit {c : Char} (digit : c.isDigit) (rest : List Char) :
    skipBlanks (c :: rest) = c :: rest := by
  have unblank : (c == ' ' || c == '\t' || c == '\n' || c == '\r') = false := by
    refine Bool.eq_false_iff.mpr fun blank => ?_
    simp only [Bool.or_eq_true, beq_iff_eq] at blank
    rcases blank with ((rfl | rfl) | rfl) | rfl <;> exact absurd digit (by decide)
  rw [skipBlanks, List.dropWhile_cons, unblank]
  rfl

/-- A text that begins with a digit spells the number that its literal is read as. -/
lemma spells_number (depth : Nat) {text : String} {c : Char} {tail : List Char} {n : JsonNumber}
    (begins : text.toList = c :: tail) (digit : c.isDigit)
    (reads : ∀ rest, Follows rest →
      readUnsigned false (text.toList ++ rest) = some (n, rest)) :
    Spells depth 1 text (.number n) where
  unblank := by
    intro rest
    rw [begins, List.cons_append, skipBlanks_digit digit]
  reads := by
    intro fuel rest enough follows
    obtain ⟨fuel, rfl⟩ := Nat.exists_eq_add_of_le' enough
    have read := reads rest follows
    rw [begins, List.cons_append] at read ⊢
    rw [readValue_digit digit, read]
    rfl

/-- So does one with a sign before it. -/
lemma spells_signed (depth : Nat) (negative : Bool) {text : List Char} {n : JsonNumber}
    (begins : ∃ c tail, text = c :: tail ∧ c.isDigit)
    (reads : ∀ rest, Follows rest → readUnsigned negative (text ++ rest) = some (n, rest)) :
    Spells depth 1 (String.ofList (if negative then '-' :: text else text)) (.number n) := by
  obtain ⟨c, tail, rfl, digit⟩ := begins
  cases negative with
  | false => exact spells_number depth String.toList_ofList digit (by simpa using reads)
  | true =>
    have signed : ∀ rest, (String.ofList ('-' :: c :: tail)).toList ++ rest
        = '-' :: (c :: tail ++ rest) := by
      intro rest
      rw [String.toList_ofList]
      rfl
    rw [if_pos rfl]
    constructor
    · intro rest
      rw [signed]
      rfl
    · intro fuel rest enough follows
      obtain ⟨fuel, rfl⟩ := Nat.exists_eq_add_of_le' enough
      have minus : readValue (fuel + 1) depth ('-' :: (c :: tail ++ rest))
          = (readUnsigned true (c :: tail ++ rest)).map fun r => (number r.1, r.2) := rfl
      rw [signed, minus, reads rest follows]
      rfl

lemma Whole.begins (h : Whole whole) (rest : List Char) :
    ∃ c tail, whole ++ rest = c :: tail ∧ c.isDigit := by
  cases whole with
  | nil => exact absurd (Or.inl rfl) h.proper
  | cons c tail => exact ⟨c, tail ++ rest, rfl, h.digits c List.mem_cons_self⟩

/-- A decimal fraction spells its value. -/
lemma spells_decimal (depth : Nat) (negative : Bool) {fraction : List Char} {n : JsonNumber}
    (h : Whole whole) (all : ∀ c ∈ fraction, c.isDigit) (some : fraction ≠ [])
    (value : Literal.value ⟨negative, whole, fraction, none⟩ = Option.some n) :
    Spells depth 1 (String.ofList
      (if negative then '-' :: (whole ++ '.' :: fraction) else whole ++ '.' :: fraction))
      (.number n) := by
  refine spells_signed depth negative (h.begins _) fun rest follows => ?_
  have text : whole ++ '.' :: fraction ++ rest = whole ++ '.' :: (fraction ++ rest) := by simp
  rw [text, readUnsigned_decimal negative h all some follows, value]
  rfl

end Literals

/-! ## Decimal digits -/

/-- Digits are gathered into their number as long as it fits. -/
lemma gather_eq (digits : List Char) (value : Nat)
    (fits : Nat.ofDigitChars 10 digits value ≤ longLimit) :
    gather value digits = (Nat.ofDigitChars 10 digits value, []) := by
  induction digits generalizing value with
  | nil => rfl
  | cons c digits ih =>
    have next : value * 10 + (c.toNat - 48) = 10 * value + (c.toNat - '0'.toNat) := by
      rw [Nat.mul_comm]
      rfl
    rw [Nat.ofDigitChars_cons, ← next] at fits ⊢
    have least : value * 10 + (c.toNat - 48) ≤ longLimit := by
      rw [Nat.ofDigitChars_eq_ofDigitChars_zero] at fits
      have := Nat.le_mul_of_pos_left (value * 10 + (c.toNat - 48))
        (Nat.pow_pos (n := digits.length) (show 0 < 10 by decide))
      omega
    rw [gather, if_pos least]
    exact ih _ fits

/-- No number but zero begins with a zero. -/
lemma eq_zero_of_head?_toDigits {n : Nat} (h : (Nat.toDigits 10 n).head? = some '0') : n = 0 := by
  induction n using Nat.strongRecOn with
  | _ n ih =>
    rw [Nat.toDigits_eq_if (by decide)] at h
    split at h
    · next small =>
      have all : ∀ k < 10, [Nat.digitChar k].head? = some '0' → k = 0 := by decide
      exact all n small h
    · next large =>
      rcases first : Nat.toDigits 10 (n / 10) with _ | ⟨c, digits⟩
      · exact absurd first Nat.toDigits_ne_nil
      · rw [first] at h
        have zero := ih (n / 10) (by omega) (first ▸ h)
        omega

lemma whole_toDigits (n : Nat) : Whole (Nat.toDigits 10 n) where
  digits := fun c => Nat.isDigit_of_mem_toDigits (by decide) (by decide)
  proper := by
    rintro (none | ⟨zero, long⟩)
    · exact Nat.toDigits_ne_nil (List.isEmpty_iff.mp none)
    · rw [eq_zero_of_head?_toDigits zero] at long
      exact long rfl

/-- A number that fits 64 bits is spelled by its digits. -/
lemma spells_nat (depth : Nat) {n : Nat} (fits : n ≤ longLimit) :
    Spells depth 1 n.repr (.number (.integer n)) := by
  have gathered : gather 0 (Nat.toDigits 10 n) = (n, []) := by
    rw [gather_eq _ _ (by rwa [Nat.ofDigitChars_ten_toDigits]), Nat.ofDigitChars_ten_toDigits]
  have value : Literal.value ⟨false, Nat.toDigits 10 n, none, none⟩ = some (.integer n) := by
    unfold Literal.value
    dsimp only
    rw [gathered]
    rfl
  rcases first : Nat.toDigits 10 n with _ | ⟨c, digits⟩
  · exact absurd first Nat.toDigits_ne_nil
  refine spells_number depth (Nat.toList_repr.trans first) ?_ fun rest follows => ?_
  · exact (whole_toDigits n).digits c (by rw [first]; exact List.mem_cons_self)
  · rw [Nat.toList_repr, readUnsigned_whole false (whole_toDigits n) follows, value]
    rfl

/-! ## Objects -/

/-- A member of an object: its name, the text of its value, and the value. -/
structure Member where
  name : String
  text : String
  value : Json

namespace Member

/-- The member as it is printed. -/
def printed (m : Member) : String := writeString m.name ++ ":" ++ m.text

variable {depth size : Nat} {m : Member}

lemma toList_printed (m : Member) (rest : List Char) :
    m.printed.toList ++ rest
      = '"' :: (m.name.toList.flatMap escapeChar ++ '"' :: ':' :: (m.text.toList ++ rest)) := by
  rw [printed, String.toList_append, String.toList_append, toList_writeString]
  simp

/-- Members begin with the mark of a text. -/
lemma exists_quote (members : List Member) (rest : List Char) :
    ∃ tail, (",".intercalate ((m :: members).map printed)).toList ++ rest = '"' :: tail := by
  cases members with
  | nil =>
    rw [List.map_singleton, String.intercalate_singleton, toList_printed]
    exact ⟨_, rfl⟩
  | cons m' members =>
    rw [List.map_cons, List.map_cons, String.intercalate_cons_cons, String.toList_append,
      String.toList_append, List.append_assoc, List.append_assoc, toList_printed]
    exact ⟨_, rfl⟩

lemma skipBlanks_colon (rest : List Char) : skipBlanks (':' :: rest) = ':' :: rest := rfl

/-- The last member is read as its name and its value. -/
lemma readMembers_last (spelled : Spells depth size m.text m.value) {fuel : Nat}
    (enough : size ≤ fuel) (rest : List Char) :
    readMembers (fuel + 1) depth (m.printed.toList ++ '\x7d' :: rest)
      = some ([(m.name, m.value)], rest) := by
  have value := spelled.reads fuel _ enough (.brace rest)
  rw [toList_printed, readMembers, readString_write]
  simp only [skipBlanks_colon, spelled.unblank, value]
  rfl

/-- Another member comes before those that follow it. -/
lemma readMembers_comma (spelled : Spells depth size m.text m.value) {fuel : Nat}
    (enough : size ≤ fuel) {rest : List Char} (unblank : skipBlanks rest = rest) :
    readMembers (fuel + 1) depth (m.printed.toList ++ ',' :: rest)
      = (readMembers fuel depth rest).map fun r => ((m.name, m.value) :: r.1, r.2) := by
  have value := spelled.reads fuel _ enough (.comma rest)
  have comma : skipBlanks (',' :: rest) = ',' :: rest := rfl
  rw [toList_printed, readMembers, readString_write]
  simp only [skipBlanks_colon, spelled.unblank, value, comma, unblank]

/-- Members with commas between them are read one after the other. -/
lemma readMembers_intercalate {members : List Member}
    (spelled : ∀ m' ∈ m :: members, Spells depth size m'.text m'.value) {fuel : Nat}
    (enough : size + members.length ≤ fuel) (rest : List Char) :
    readMembers (fuel + 1) depth
        ((",".intercalate ((m :: members).map printed)).toList ++ '\x7d' :: rest)
      = some ((m :: members).map fun m => (m.name, m.value), rest) := by
  induction members generalizing m fuel with
  | nil =>
    rw [List.map_singleton, String.intercalate_singleton]
    exact readMembers_last (spelled m List.mem_cons_self) enough rest
  | cons m' members ih =>
    obtain ⟨first, later⟩ := List.forall_mem_cons.mp spelled
    rw [List.length_cons] at enough
    obtain ⟨fuel, rfl⟩ : ∃ n, fuel = n + 1 := ⟨fuel - 1, by omega⟩
    have others := ih later (by omega : size + members.length ≤ fuel)
    have text : (",".intercalate ((m :: m' :: members).map printed)).toList ++ '\x7d' :: rest
        = m.printed.toList ++ ',' ::
          ((",".intercalate ((m' :: members).map printed)).toList ++ '\x7d' :: rest) := by
      rw [List.map_cons, List.map_cons, String.intercalate_cons_cons, String.toList_append,
        String.toList_append]
      simp
    obtain ⟨tail, quote⟩ := exists_quote (m := m') members ('\x7d' :: rest)
    have unblank : skipBlanks ('"' :: tail) = '"' :: tail := rfl
    rw [text, readMembers_comma first (by omega) (quote ▸ unblank), others]
    rfl

end Member

/-- An object is spelled by its members, if their values are. -/
lemma spells_object {depth size : Nat} (m : Member) (members : List Member)
    (spelled : ∀ m' ∈ m :: members, Spells depth size m'.text m'.value) :
    Spells (depth + 1) (size + members.length + 2)
      (writeMembers ((m :: members).map fun m => (m.name, m.text)))
      (.object ((m :: members).map fun m => (m.name, m.value))) := by
  have text : ∀ rest, (writeMembers ((m :: members).map fun m => (m.name, m.text))).toList ++ rest
      = '\x7b' :: ((",".intercalate ((m :: members).map Member.printed)).toList
        ++ '\x7d' :: rest) := by
    intro rest
    rw [writeMembers, List.map_map, String.toList_append, String.toList_append, List.append_assoc,
      List.append_assoc]
    rfl
  constructor
  · intro rest
    rw [text]
    rfl
  · intro fuel rest enough _
    obtain ⟨fuel, rfl⟩ : ∃ n, fuel = n + 2 := ⟨fuel - 2, by omega⟩
    have read := Member.readMembers_intercalate spelled (by omega : _ ≤ fuel) rest
    obtain ⟨tail, quote⟩ := Member.exists_quote (m := m) members ('\x7d' :: rest)
    rw [quote] at read
    have enter : readValue (fuel + 2) (depth + 1) ('\x7b' :: '"' :: tail)
        = (readMembers (fuel + 1) depth ('"' :: tail)).map fun r => (object r.1, r.2) := rfl
    rw [text, quote, enter, read]
    rfl

/-- A document is read as the value that it spells. -/
lemma parse?_of_spells {size : Nat} {text : String} {value : Json}
    (spelled : Spells depthLimit size text value) (enough : size ≤ 2 * text.length + 2) :
    parse? text = some value := by
  have start := spelled.unblank []
  have read := spelled.reads (2 * text.length + 2) [] enough .nothing
  rw [List.append_nil] at start read
  unfold parse?
  dsimp only
  rw [start, String.length_toList, read]
  rfl

end Json

end HatchSensor
