import HatchSensor.Proofs.Bytes
import HatchSensor.Reading.Log

/-!
# Records in the log

The log is a run of records of 20 bytes, possibly with a torn one at the end.  Whole records that
are put one behind the other are read one after the other, with every bit in its place, and a torn
record is not read at all; so adding a record to whole records adds one reading, and cutting a torn
record off changes no reading.
-/

namespace HatchSensor

/-! ## Words and readings in pieces -/

/-- Bytes that make up whole words can be split off. -/
lemma Bytes.toWords_append {a : Bytes} (b : Bytes) (h : a.length % 4 = 0) :
    toWords (a ++ b) = toWords a ++ toWords b := by
  induction a using toWords.induct with
  | case1 b₀ b₁ b₂ b₃ rest ih =>
    have whole : rest.length % 4 = 0 := by
      simp only [List.length_cons] at h
      omega
    simp only [List.cons_append, toWords, ih whole]
  | case2 a short =>
    rcases a with _ | ⟨b₀, _ | ⟨b₁, _ | ⟨b₂, _ | ⟨b₃, rest⟩⟩⟩⟩
    · rfl
    · simp at h
    · simp at h
    · simp at h
    · exact absurd rfl (short b₀ b₁ b₂ b₃ rest)

/-- Four bytes make a word. -/
lemma Bytes.length_toWords (a : Bytes) : (toWords a).length = a.length / 4 := by
  induction a using toWords.induct with
  | case1 b₀ b₁ b₂ b₃ rest ih =>
    simp only [toWords, List.length_cons, ih]
    omega
  | case2 a short =>
    rcases a with _ | ⟨b₀, _ | ⟨b₁, _ | ⟨b₂, _ | ⟨b₃, rest⟩⟩⟩⟩
    · rfl
    · simp [toWords]
    · simp [toWords]
    · simp [toWords]
    · exact absurd rfl (short b₀ b₁ b₂ b₃ rest)

namespace Reading

/-- Words that make up whole readings can be split off. -/
lemma ofWords_append {a : List UInt32} (b : List UInt32) (h : a.length % 5 = 0) :
    ofWords (a ++ b) = ofWords a ++ ofWords b := by
  induction a using ofWords.induct with
  | case1 time temperature humidity pressure gas rest ih =>
    have whole : rest.length % 5 = 0 := by
      simp only [List.length_cons] at h
      omega
    simp only [List.cons_append, ofWords, ih whole]
  | case2 a short =>
    match a, short with
    | [], _ => rfl
    | [_], _ => simp at h
    | [_, _], _ => simp at h
    | [_, _, _], _ => simp at h
    | [_, _, _, _], _ => simp at h
    | w₀ :: w₁ :: w₂ :: w₃ :: w₄ :: rest, short => exact absurd rfl (short w₀ w₁ w₂ w₃ w₄ rest)

/-- Fewer than five words make no reading. -/
lemma ofWords_eq_nil {a : List UInt32} (h : a.length < 5) : ofWords a = [] := by
  match a, h with
  | [], _ => rfl
  | [_], _ => rfl
  | [_, _], _ => rfl
  | [_, _, _], _ => rfl
  | [_, _, _, _], _ => rfl
  | _ :: _ :: _ :: _ :: _ :: rest, h =>
    simp only [List.length_cons] at h
    omega

/-- Five words make a reading. -/
lemma length_ofWords (a : List UInt32) : (ofWords a).length = a.length / 5 := by
  induction a using ofWords.induct with
  | case1 time temperature humidity pressure gas rest ih =>
    simp only [ofWords, List.length_cons, ih]
    omega
  | case2 a short =>
    match a, short with
    | [], _ => rfl
    | [_], _ => simp [ofWords]
    | [_, _], _ => simp [ofWords]
    | [_, _, _], _ => simp [ofWords]
    | [_, _, _, _], _ => simp [ofWords]
    | w₀ :: w₁ :: w₂ :: w₃ :: w₄ :: rest, short => exact absurd rfl (short w₀ w₁ w₂ w₃ w₄ rest)

/-- Every record has the same length. -/
@[simp]
lemma length_encode (r : Reading) : r.encode.length = recordSize := by
  rw [encode, Bytes.length_flatMap_ofWord]
  rfl

end Reading

/-! ## The log -/

namespace ReadingLog

/-- Whole records can be split off. -/
lemma readings_append {a : Bytes} (b : Bytes) (h : a.length % Reading.recordSize = 0) :
    readings (a ++ b) = readings a ++ readings b := by
  have records : a.length % 20 = 0 := h
  have words : (Bytes.toWords a).length % 5 = 0 := by
    rw [Bytes.length_toWords]
    omega
  rw [readings, Bytes.toWords_append b (by omega), Reading.ofWords_append _ words]
  rfl

/-- There are as many readings as whole records. -/
lemma length_readings (content : Bytes) :
    (readings content).length = content.length / Reading.recordSize := by
  rw [readings, Reading.length_ofWords, Bytes.length_toWords, Nat.div_div_eq_div_mul]
  rfl

/-- A torn record is not read. -/
lemma readings_eq_nil {a : Bytes} (h : a.length < Reading.recordSize) : readings a = [] := by
  have short : a.length < 20 := h
  refine Reading.ofWords_eq_nil ?_
  rw [Bytes.length_toWords]
  omega

/-- A record is read as the reading it was made of, bit for bit. -/
@[simp]
lemma readings_encode (r : Reading) : readings r.encode = [r] := by
  rw [readings, Reading.encode, Bytes.toWords_flatMap_ofWord]
  rfl

/-- The whole records of a blob. -/
lemma length_take_whole (content : Bytes) :
    (content.take (content.length - content.length % Reading.recordSize)).length
      % Reading.recordSize = 0 := by
  have size : Reading.recordSize = 20 := rfl
  rw [List.length_take, size]
  omega

/-- Cutting off a torn record changes no reading. -/
lemma readings_take_whole (content : Bytes) :
    readings (content.take (content.length - content.length % Reading.recordSize))
      = readings content := by
  let whole := content.take (content.length - content.length % Reading.recordSize)
  let torn := content.drop (content.length - content.length % Reading.recordSize)
  have short : torn.length < Reading.recordSize := by
    have size : Reading.recordSize = 20 := rfl
    rw [List.length_drop, size]
    omega
  calc readings whole = readings whole ++ readings torn := by
        rw [readings_eq_nil short, List.append_nil]
    _ = readings (whole ++ torn) := (readings_append _ (length_take_whole content)).symm
    _ = readings content := by rw [List.take_append_drop]

/-! ### Cutting off a torn record -/

/-- There is nothing to be cut off. -/
lemma trim_of_whole {size : Nat} (whole : size % Reading.recordSize = 0) : trim size = pure () := by
  unfold trim
  exact if_neg (not_not_intro whole)

/-- The log is written anew without the torn record. -/
lemma trim_of_torn {size : Nat} (torn : size % Reading.recordSize ≠ 0) :
    trim size = Blob.read blob >>= fun content =>
      Blob.write blob ((content.getD []).take (size - size % Reading.recordSize)) := by
  unfold trim
  exact if_pos torn

end ReadingLog

end HatchSensor
