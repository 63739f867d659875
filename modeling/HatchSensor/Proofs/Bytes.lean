import HatchSensor.Bytes
import Mathlib.Data.List.TakeWhile
import Mathlib.Tactic.Lemma

/-!
# Words and text in bytes

The little-endian form of words loses nothing, so a run of words can be read back from the bytes it
was written to.

A text may contain the character zero, and then its UTF-8 form contains the byte zero, at the same
place: `Bytes.takeWhile_encodeUtf8`.  A field that is filled up with zeros therefore holds a text
only up to its first zero.
-/

namespace HatchSensor

namespace Bytes

/-! ## Words -/

/-- The four bytes of a word make up the word. -/
lemma toWord_bytes (w : UInt32) :
    toWord w.toUInt8 (w >>> 8).toUInt8 (w >>> 16).toUInt8 (w >>> 24).toUInt8 = w := by
  unfold toWord
  apply UInt32.eq_of_toBitVec_eq
  apply BitVec.eq_of_getLsbD_eq
  intro i hi
  have eight : (UInt32.toBitVec 8 % 32).toNat = 8 := rfl
  have sixteen : (UInt32.toBitVec 16 % 32).toNat = 16 := rfl
  have twentyFour : (UInt32.toBitVec 24 % 32).toNat = 24 := rfl
  simp only [UInt32.toBitVec_or, UInt32.toBitVec_shiftLeft, UInt32.toBitVec_shiftRight,
    UInt8.toBitVec_toUInt32, UInt32.toBitVec_toUInt8, BitVec.getLsbD_or, BitVec.getLsbD_setWidth,
    BitVec.shiftLeft_eq', BitVec.ushiftRight_eq', BitVec.getLsbD_shiftLeft,
    BitVec.getLsbD_ushiftRight, eight, sixteen, twentyFour]
  -- bit `i` comes from exactly one of the four bytes
  rcases Nat.lt_or_ge i 8 with first | first
  · simp [hi, first, show i < 16 by omega, show i < 24 by omega]
  · rcases Nat.lt_or_ge i 16 with second | second
    · simp [hi, show ¬ i < 8 by omega, second, show i < 24 by omega, show i - 8 < 8 by omega,
        show i - 8 < 32 by omega, show 8 + (i - 8) = i by omega]
    · rcases Nat.lt_or_ge i 24 with third | third
      · simp [hi, show ¬ i < 8 by omega, show ¬ i < 16 by omega, third,
          show ¬ i - 8 < 8 by omega, show i - 16 < 8 by omega, show i - 16 < 32 by omega,
          show 16 + (i - 16) = i by omega]
      · simp [hi, show ¬ i < 8 by omega, show ¬ i < 16 by omega, show ¬ i < 24 by omega,
          show ¬ i - 8 < 8 by omega, show ¬ i - 16 < 8 by omega, show i - 24 < 8 by omega,
          show i - 24 < 32 by omega, show 24 + (i - 24) = i by omega]

/-- A byte has no bits beyond its eight. -/
lemma getLsbD_of_eight_le (b : UInt8) {n : Nat} (h : 8 ≤ n) : b.toBitVec.getLsbD n = false :=
  BitVec.getLsbD_of_ge _ _ h

/-- The bits of the word that four bytes make up. -/
lemma getLsbD_toWord (b₀ b₁ b₂ b₃ : UInt8) {i : Nat} (hi : i < 8) :
    (toWord b₀ b₁ b₂ b₃).toBitVec.getLsbD i = b₀.toBitVec.getLsbD i ∧
      (toWord b₀ b₁ b₂ b₃).toBitVec.getLsbD (8 + i) = b₁.toBitVec.getLsbD i ∧
      (toWord b₀ b₁ b₂ b₃).toBitVec.getLsbD (16 + i) = b₂.toBitVec.getLsbD i ∧
      (toWord b₀ b₁ b₂ b₃).toBitVec.getLsbD (24 + i) = b₃.toBitVec.getLsbD i := by
  have eight : (UInt32.toBitVec 8 % 32).toNat = 8 := rfl
  have sixteen : (UInt32.toBitVec 16 % 32).toNat = 16 := rfl
  have twentyFour : (UInt32.toBitVec 24 % 32).toNat = 24 := rfl
  have small : i < 32 := by omega
  unfold toWord
  simp only [UInt32.toBitVec_or, UInt32.toBitVec_shiftLeft, UInt8.toBitVec_toUInt32,
    BitVec.getLsbD_or, BitVec.getLsbD_setWidth, BitVec.shiftLeft_eq', BitVec.getLsbD_shiftLeft,
    eight, sixteen, twentyFour]
  refine ⟨?_, ?_, ?_, ?_⟩
  · simp [hi, small, show i < 16 by omega, show i < 24 by omega]
  · simp [small, show ¬ 8 + i < 8 by omega, show 8 + i < 16 by omega, show 8 + i < 24 by omega,
      show 8 + i < 32 by omega]
  · simp [small, show ¬ 16 + i < 8 by omega, show ¬ 16 + i < 16 by omega,
      show 16 + i < 24 by omega, show 16 + i < 32 by omega,
      getLsbD_of_eight_le b₀ (show 8 ≤ 16 + i by omega),
      getLsbD_of_eight_le b₁ (show 8 ≤ 16 + i - 8 by omega)]
  · simp [small, show 24 + i < 32 by omega, show ¬ 24 + i < 24 by omega,
      getLsbD_of_eight_le b₀ (show 8 ≤ 24 + i by omega),
      getLsbD_of_eight_le b₁ (show 8 ≤ 24 + i - 8 by omega),
      getLsbD_of_eight_le b₂ (show 8 ≤ 24 + i - 16 by omega)]

/-- The bytes of the word that four bytes make up. -/
lemma ofWord_toWord (b₀ b₁ b₂ b₃ : UInt8) : ofWord (toWord b₀ b₁ b₂ b₃) = [b₀, b₁, b₂, b₃] := by
  have eight : (UInt32.toBitVec 8 % 32).toNat = 8 := rfl
  have sixteen : (UInt32.toBitVec 16 % 32).toNat = 16 := rfl
  have twentyFour : (UInt32.toBitVec 24 % 32).toNat = 24 := rfl
  simp only [ofWord, List.cons.injEq, and_true]
  refine ⟨?_, ?_, ?_, ?_⟩
  all_goals
    apply UInt8.eq_of_toBitVec_eq
    apply BitVec.eq_of_getLsbD_eq
    intro i hi
    obtain ⟨first, second, third, fourth⟩ := getLsbD_toWord b₀ b₁ b₂ b₃ hi
    simp only [UInt32.toBitVec_toUInt8, UInt32.toBitVec_shiftRight, BitVec.getLsbD_setWidth, hi,
      decide_true, Bool.true_and, BitVec.ushiftRight_eq', BitVec.getLsbD_ushiftRight, eight,
      sixteen, twentyFour, first, second, third, fourth]

/-- The words of the bytes of a word, and of what follows them. -/
@[simp]
lemma toWords_ofWord_append (w : UInt32) (rest : Bytes) :
    toWords (ofWord w ++ rest) = w :: toWords rest := by
  simp only [ofWord, List.cons_append, List.nil_append, toWords, toWord_bytes]

/-- Words are read back from the bytes they were written to, whatever follows them. -/
lemma toWords_flatMap_append (ws : List UInt32) (rest : Bytes) :
    toWords (ws.flatMap ofWord ++ rest) = ws ++ toWords rest := by
  induction ws with
  | nil => rfl
  | cons w ws ih => rw [List.flatMap_cons, List.append_assoc, toWords_ofWord_append, ih,
      List.cons_append]

/-- Words are read back from the bytes they were written to. -/
@[simp]
lemma toWords_flatMap_ofWord (ws : List UInt32) : toWords (ws.flatMap ofWord) = ws := by
  have h := toWords_flatMap_append ws []
  rwa [List.append_nil, show toWords [] = [] from rfl, List.append_nil] at h

/-- Every word takes four bytes. -/
@[simp]
lemma length_flatMap_ofWord (ws : List UInt32) : (ws.flatMap ofWord).length = 4 * ws.length := by
  induction ws with
  | nil => rfl
  | cons w ws ih =>
    rw [List.flatMap_cons, List.length_append, length_ofWord, ih, List.length_cons]
    omega

/-- Whole words are written back as they were read. -/
lemma flatMap_ofWord_toWords {bytes : Bytes} (whole : bytes.length % 4 = 0) :
    (toWords bytes).flatMap ofWord = bytes := by
  induction bytes using toWords.induct with
  | case1 b₀ b₁ b₂ b₃ rest ih =>
    have rest_whole : rest.length % 4 = 0 := by
      simp only [List.length_cons] at whole
      omega
    rw [toWords, List.flatMap_cons, ofWord_toWord, ih rest_whole]
    rfl
  | case2 bytes short =>
    match bytes, short with
    | [], _ => rfl
    | [_], _ => simp at whole
    | [_, _], _ => simp at whole
    | [_, _, _], _ => simp at whole
    | b₀ :: b₁ :: b₂ :: b₃ :: rest, short => exact absurd rfl (short b₀ b₁ b₂ b₃ rest)

/-! ## Text -/

/-- A text is read from the bytes of its encoding and from no others. -/
lemma decodeUtf8_eq_some_iff {bytes : Bytes} {text : String} :
    decodeUtf8 bytes = some text ↔ encodeUtf8 text = bytes := by
  constructor
  · exact encodeUtf8_of_decodeUtf8
  · rintro rfl
    exact decodeUtf8_encodeUtf8 text

/-- A text is encoded character by character. -/
lemma encodeUtf8_eq_flatMap (text : String) :
    encodeUtf8 text = text.toList.flatMap String.utf8EncodeChar := by
  rw [encodeUtf8, ← String.utf8Encode_toList, List.utf8Encode]
  simp

/-- The number of bytes of the encoding of a text. -/
@[simp]
lemma length_encodeUtf8 (text : String) : (encodeUtf8 text).length = textSize text := by
  simp [encodeUtf8, textSize]

/-- A character is encoded with a zero byte exactly if it is the character zero. -/
lemma zero_mem_utf8EncodeChar {c : Char} : 0 ∈ String.utf8EncodeChar c ↔ c = '\x00' := by
  have small : c.val.toNat < 0x110000 := by
    rcases c.valid with h | h
    · have below : c.val.toNat < 0xd800 := h
      omega
    · exact h.2
  have zero : c = '\x00' ↔ c.val.toNat = 0 := by
    rw [← Char.val_inj, ← UInt32.toNat_inj]
    rfl
  have byte : ∀ n, n < 256 → (0 = UInt8.ofNat n ↔ n = 0) := by
    intro n hn
    rw [eq_comm, ← UInt8.toNat_inj]
    simp [Nat.mod_eq_of_lt hn]
  rw [zero]
  unfold String.utf8EncodeChar
  generalize c.val.toNat = v at *
  simp only
  split
  · rw [List.mem_singleton, byte _ (by omega)]
  · split
    · simp only [List.mem_cons, List.not_mem_nil, or_false]
      rw [byte _ (by omega), byte _ (by omega)]
      omega
    · split
      · simp only [List.mem_cons, List.not_mem_nil, or_false]
        rw [byte _ (by omega), byte _ (by omega), byte _ (by omega)]
        omega
      · simp only [List.mem_cons, List.not_mem_nil, or_false]
        rw [byte _ (by omega), byte _ (by omega), byte _ (by omega), byte _ (by omega)]
        omega

/-- The part of a text before its first zero. -/
def beforeZero (text : String) : String :=
  String.ofList (text.toList.takeWhile (· != '\x00'))

/-- Nothing but a zero cuts a text short. -/
lemma beforeZero_eq_self_iff {text : String} : beforeZero text = text ↔ '\x00' ∉ text.toList := by
  rw [beforeZero, ← String.toList_inj, String.toList_ofList, List.takeWhile_eq_self_iff]
  constructor
  · intro h zero
    exact absurd (h _ zero) (by decide)
  · intro h c hc
    have other : c ≠ '\x00' := fun same => h (same ▸ hc)
    simpa using other

/-- There is a zero at a place or before it exactly if no more bytes than that stand before the
first zero. -/
lemma length_takeWhile_le_iff {bytes : Bytes} {n : Nat} (inside : n < bytes.length) :
    (bytes.takeWhile (· != 0)).length ≤ n ↔ ∃ k ≤ n, bytes[k]? = some 0 := by
  induction bytes generalizing n with
  | nil => exact absurd inside (Nat.not_lt_zero n)
  | cons b rest ih =>
    by_cases zero : b = 0
    · subst zero
      exact ⟨fun _ => ⟨0, Nat.zero_le n, rfl⟩, fun _ => Nat.zero_le n⟩
    · have kept : (b != 0) = true := by simpa using zero
      rw [List.takeWhile_cons, if_pos kept, List.length_cons]
      cases n with
      | zero =>
        constructor
        · exact fun none => absurd none (Nat.not_succ_le_zero _)
        · rintro ⟨k, first, here⟩
          obtain rfl := Nat.le_zero.mp first
          exact absurd (Option.some.inj here) zero
      | succ n =>
        rw [Nat.succ_le_succ_iff, ih (Nat.lt_of_succ_lt_succ inside)]
        constructor
        · rintro ⟨k, before, here⟩
          exact ⟨k + 1, Nat.succ_le_succ before, here⟩
        · rintro ⟨k, before, here⟩
          cases k with
          | zero => exact absurd (Option.some.inj here) zero
          | succ k => exact ⟨k, Nat.le_of_succ_le_succ before, here⟩

/-- The bytes before the first zero are the encoding of the text before its first zero, whatever
zeros follow. -/
lemma takeWhile_encodeUtf8 (text : String) (n : Nat) :
    (encodeUtf8 text ++ List.replicate n 0).takeWhile (· != 0) = encodeUtf8 (beforeZero text) := by
  rw [encodeUtf8_eq_flatMap, encodeUtf8_eq_flatMap, beforeZero, String.toList_ofList]
  induction text.toList with
  | nil => cases n <;> simp
  | cons c cs ih =>
    rw [List.flatMap_cons, List.append_assoc]
    by_cases hc : c = '\x00'
    · subst hc
      rfl
    · have whole : ∀ b ∈ String.utf8EncodeChar c, (b != 0) = true := by
        intro b hb
        have other : b ≠ 0 := fun same => hc (zero_mem_utf8EncodeChar.mp (same ▸ hb))
        simpa using other
      have kept : (c != '\x00') = true := by simpa using hc
      rw [List.takeWhile_append_of_pos whole, ih, List.takeWhile_cons, if_pos kept,
        List.flatMap_cons]

/-- The part of a text before its first zero is no longer than the text. -/
lemma textSize_beforeZero_le (text : String) : textSize (beforeZero text) ≤ textSize text := by
  have field := takeWhile_encodeUtf8 text 0
  rw [List.replicate_zero, List.append_nil] at field
  calc textSize (beforeZero text) = (encodeUtf8 (beforeZero text)).length :=
        (length_encodeUtf8 _).symm
    _ = ((encodeUtf8 text).takeWhile (· != 0)).length := by rw [field]
    _ ≤ (encodeUtf8 text).length := (List.takeWhile_sublist _).length_le
    _ = textSize text := length_encodeUtf8 _

end Bytes

end HatchSensor
