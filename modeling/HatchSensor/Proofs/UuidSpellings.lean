import HatchSensor.Identity.Uuid
import HatchSensor.Proofs.Trimming

/-!
# Spellings of an identity

An identity can be written in four ways, with letters of either case, and `Uuid.parse` reads exactly
these texts, with blanks around them or not: `Uuid.parse_eq_ok_iff`.  However it was written, the
identity that is read is the same, and so is its canonical form, which is one of the ways to write
it: `Uuid.parse_canonical`.
-/

namespace HatchSensor

namespace Uuid

/-! ## Digits -/

/-- The hexadecimal digits, with letters of either case. -/
def alphabet : List Char := "0123456789abcdefABCDEF".toList

/-- The hexadecimal digits of the canonical form. -/
def lowerAlphabet : List Char := "0123456789abcdef".toList

/-- A property of all characters of a list is checked one by one. -/
lemma forall_mem_of_all {P : Char → Prop} [DecidablePred P] {l : List Char}
    (h : (l.all fun c => decide (P c)) = true) : ∀ c ∈ l, P c :=
  fun c there => of_decide_eq_true (List.all_eq_true.mp h c there)

lemma isHex_iff {c : Char} : isHex c = true ↔ c ∈ alphabet := by
  constructor
  · intro h
    -- the digits lie in three ranges, which are searched number by number
    have ranges : ∀ n < 128, (48 ≤ n ∧ n ≤ 57) ∨ (97 ≤ n ∧ n ≤ 102) ∨ (65 ≤ n ∧ n ≤ 70) →
        Char.ofNat n ∈ alphabet := by decide
    have within : (48 ≤ c.toNat ∧ c.toNat ≤ 57) ∨ (97 ≤ c.toNat ∧ c.toNat ≤ 102) ∨
        (65 ≤ c.toNat ∧ c.toNat ≤ 70) := by
      unfold isHex Bytes.hexValue? at h
      split at h
      · next digit => exact Or.inl digit
      · split at h
        · next lower => exact Or.inr (Or.inl lower)
        · split at h
          · next upper => exact Or.inr (Or.inr upper)
          · exact nomatch h
    have found := ranges c.toNat (by omega) within
    rwa [Char.ofNat_toNat] at found
  · have all : ∀ c ∈ alphabet, isHex c = true := forall_mem_of_all (by decide)
    exact all c

lemma lowerLetter_mem : ∀ c ∈ alphabet, Text.lowerLetter c ∈ lowerAlphabet :=
  forall_mem_of_all (by decide)

lemma lowerLetter_of_lower : ∀ c ∈ lowerAlphabet, Text.lowerLetter c = c :=
  forall_mem_of_all (by decide)

lemma mem_alphabet_of_lower : ∀ c ∈ lowerAlphabet, c ∈ alphabet :=
  forall_mem_of_all (by decide)

/-- The thirty-two digits of an identity, with letters of either case. -/
structure Digits (ds : List Char) : Prop where
  length : ds.length = 32
  hex : ∀ c ∈ ds, c ∈ alphabet

/-- The identity with these digits. -/
def ofDigits (ds : List Char) : Uuid := ⟨ds.map Text.lowerLetter⟩

lemma ofDigits?_eq_some_iff {cs : List Char} {u : Uuid} :
    ofDigits? cs = some u ↔ Digits cs ∧ u = ofDigits cs := by
  have accepted : cs.length = 32 ∧ cs.all isHex = true ↔ Digits cs := by
    simp only [List.all_eq_true, isHex_iff]
    exact ⟨fun h => ⟨h.1, h.2⟩, fun h => ⟨h.length, h.hex⟩⟩
  rw [ofDigits?]
  split
  · next digits => simp [accepted.mp digits, ofDigits, eq_comm]
  · next other => simp [mt accepted.mpr other]

/-! ## Groups -/

/-- Characters in groups of 8, 4, 4, 4 and 12. -/
structure Groups where
  first : List Char
  second : List Char
  third : List Char
  fourth : List Char
  last : List Char
  length_first : first.length = 8
  length_second : second.length = 4
  length_third : third.length = 4
  length_fourth : fourth.length = 4
  length_last : last.length = 12

namespace Groups

variable (g : Groups)

/-- The groups without anything between them. -/
def digits : List Char := g.first ++ (g.second ++ (g.third ++ (g.fourth ++ g.last)))

/-- The groups joined by hyphens. -/
def text : List Char :=
  g.first ++ '-' :: (g.second ++ '-' :: (g.third ++ '-' :: (g.fourth ++ '-' :: g.last)))

lemma length_text : g.text.length = 36 := by
  simp [text, g.length_first, g.length_second, g.length_third, g.length_fourth, g.length_last]

/-- The form in groups is read as the digits in the groups. -/
lemma ofGroups?_text : ofGroups? g.text = ofDigits? g.digits := by
  obtain ⟨a, b, c, d, e, ha, hb, hc, hd, he⟩ := g
  simp [ofGroups?, text, digits, List.drop_append, List.getElem?_append,
    List.drop_of_length_le, ha, hb, hc, hd, he]

end Groups

/-- A list is parted at one of its elements. -/
lemma eq_take_append_cons {α : Type} {l : List α} {i : Nat} {x : α} (h : l[i]? = some x) :
    l = l.take i ++ x :: l.drop (i + 1) := by
  obtain ⟨inside, rfl⟩ := List.getElem?_eq_some_iff.mp h
  rw [← List.drop_eq_getElem_cons inside, List.take_append_drop]

lemma drop_eq_take_append_cons {α : Type} {l : List α} {x : α} (i j : Nat)
    (h : l[i + j]? = some x) : l.drop i = (l.drop i).take j ++ x :: l.drop (i + (j + 1)) := by
  have parted := eq_take_append_cons (l := l.drop i) (i := j) (by rwa [List.getElem?_drop])
  rwa [List.drop_drop] at parted

/-- Thirty-two digits can be put into groups. -/
lemma exists_groups_digits {ds : List Char} (length : ds.length = 32) :
    ∃ g : Groups, g.digits = ds := by
  have second : ds.drop 12 = (ds.drop 8).drop 4 := by rw [List.drop_drop]
  have third : ds.drop 16 = (ds.drop 12).drop 4 := by rw [List.drop_drop]
  have fourth : ds.drop 20 = (ds.drop 16).drop 4 := by rw [List.drop_drop]
  refine ⟨⟨ds.take 8, (ds.drop 8).take 4, (ds.drop 12).take 4, (ds.drop 16).take 4, ds.drop 20,
    ?_, ?_, ?_, ?_, ?_⟩, ?_⟩
  case refine_6 =>
    rw [Groups.digits]
    dsimp only
    rw [fourth, List.take_append_drop, third, List.take_append_drop, second,
      List.take_append_drop, List.take_append_drop]
  all_goals simp [length]

/-- A text with hyphens at the right places has groups between them. -/
lemma exists_groups_text {cs : List Char} (length : cs.length = 36)
    (hyphens : ∀ i ∈ [8, 13, 18, 23], cs[i]? = some '-') : ∃ g : Groups, g.text = cs := by
  simp only [List.forall_mem_cons] at hyphens
  obtain ⟨at8, at13, at18, at23, -⟩ := hyphens
  have first := eq_take_append_cons at8
  have second : cs.drop 9 = (cs.drop 9).take 4 ++ '-' :: cs.drop 14 :=
    drop_eq_take_append_cons 9 4 at13
  have third : cs.drop 14 = (cs.drop 14).take 4 ++ '-' :: cs.drop 19 :=
    drop_eq_take_append_cons 14 4 at18
  have fourth : cs.drop 19 = (cs.drop 19).take 4 ++ '-' :: cs.drop 24 :=
    drop_eq_take_append_cons 19 4 at23
  refine ⟨⟨cs.take 8, (cs.drop 9).take 4, (cs.drop 14).take 4, (cs.drop 19).take 4, cs.drop 24,
    ?_, ?_, ?_, ?_, ?_⟩, ?_⟩
  case refine_6 =>
    rw [Groups.text]
    dsimp only
    rw [← fourth, ← third, ← second, ← first]
  all_goals simp [length]

lemma ofGroups?_eq_some_iff {cs : List Char} {u : Uuid} :
    ofGroups? cs = some u ↔
      ∃ g : Groups, g.text = cs ∧ Digits g.digits ∧ u = ofDigits g.digits := by
  constructor
  · intro h
    have shape := h
    rw [ofGroups?] at shape
    split at shape
    · next right =>
      obtain ⟨g, rfl⟩ := exists_groups_text right.1 (by simpa using right.2)
      rw [g.ofGroups?_text] at h
      exact ⟨g, rfl, ofDigits?_eq_some_iff.mp h⟩
    · exact nomatch shape
  · rintro ⟨g, rfl, h⟩
    rw [g.ofGroups?_text]
    exact ofDigits?_eq_some_iff.mpr h

/-! ## The four forms -/

/-- The text is one of the ways to write the digits. -/
inductive Spelling : List Char → List Char → Prop
  /-- The digits alone. -/
  | digits (ds : List Char) : Spelling ds ds
  /-- In groups joined by hyphens. -/
  | groups (g : Groups) : Spelling g.digits g.text
  /-- In groups, between braces. -/
  | braces (g : Groups) : Spelling g.digits ('\x7b' :: (g.text ++ ['\x7d']))
  /-- In groups, after `urn:uuid:` in any case of its letters. -/
  | urn (g : Groups) {front : List Char} (named : front.map Text.lowerLetter = "urn:uuid:".toList) :
      Spelling g.digits (front ++ g.text)

/-- The text can be read as the identity. -/
def Spells (cs : List Char) (u : Uuid) : Prop :=
  ∃ ds, Digits ds ∧ Spelling ds cs ∧ u = ofDigits ds

lemma unbrace?_eq_some_iff {cs inner : List Char} :
    unbrace? cs = some inner ↔ cs = '\x7b' :: (inner ++ ['\x7d']) := by
  constructor
  · intro h
    rw [unbrace?] at h
    split at h
    · next braced =>
      obtain ⟨long, opens, closes⟩ := braced
      obtain rfl := Option.some.inj h
      cases cs with
      | nil => exact nomatch opens
      | cons c rest =>
        obtain rfl : c = '\x7b' := Option.some.inj opens
        have some : rest ≠ [] := by
          rintro rfl
          exact absurd long (by decide)
        rw [List.getLast?_cons_of_ne_nil some] at closes
        obtain ⟨front, rfl⟩ := List.getLast?_eq_some_iff.mp closes
        simp
    · exact nomatch h
  · rintro rfl
    have closes : ('\x7b' :: (inner ++ ['\x7d'])).getLast? = some '\x7d' := by
      rw [List.getLast?_cons_of_ne_nil (by simp), List.getLast?_concat]
    rw [unbrace?, if_pos ⟨by simp, rfl, closes⟩]
    simp

lemma unprefixed?_eq_some_iff {cs rest : List Char} :
    unprefixed? cs = some rest ↔
      ∃ front, cs = front ++ rest ∧ front.map Text.lowerLetter = "urn:uuid:".toList := by
  constructor
  · intro h
    rw [unprefixed?] at h
    split at h
    · next named =>
      obtain rfl := Option.some.inj h
      exact ⟨cs.take 9, (List.take_append_drop 9 cs).symm, named⟩
    · exact nomatch h
  · rintro ⟨front, rfl, named⟩
    have length : front.length = 9 := by
      rw [← List.length_map (f := Text.lowerLetter), named]
      rfl
    rw [unprefixed?, List.take_left' length, List.drop_left' length, if_pos named]

/-- What is read is what is spelled: no text has two of the forms, because no two of them are
equally long. -/
lemma ofChars?_eq_some_iff {cs : List Char} {u : Uuid} : ofChars? cs = some u ↔ Spells cs u := by
  have plain : ∀ {cs : List Char}, cs.length ≠ 32 → ofDigits? cs = none := fun other =>
    if_neg fun h => other h.1
  have grouped : ∀ {cs : List Char}, cs.length ≠ 36 → ofGroups? cs = none := fun other =>
    if_neg fun h => other h.1
  constructor
  · intro h
    rw [ofChars?, Option.or_eq_some_iff] at h
    rcases h with h | ⟨-, h⟩
    · obtain ⟨digits, rfl⟩ := ofDigits?_eq_some_iff.mp h
      exact ⟨cs, digits, .digits cs, rfl⟩
    rw [Option.or_eq_some_iff] at h
    rcases h with h | ⟨-, h⟩
    · obtain ⟨g, rfl, digits, rfl⟩ := ofGroups?_eq_some_iff.mp h
      exact ⟨g.digits, digits, .groups g, rfl⟩
    rw [Option.or_eq_some_iff, Option.bind_eq_some_iff, Option.bind_eq_some_iff] at h
    rcases h with ⟨inner, braced, h⟩ | ⟨-, rest, found, h⟩
    · obtain ⟨g, rfl, digits, rfl⟩ := ofGroups?_eq_some_iff.mp h
      obtain rfl := unbrace?_eq_some_iff.mp braced
      exact ⟨g.digits, digits, .braces g, rfl⟩
    · obtain ⟨g, rfl, digits, rfl⟩ := ofGroups?_eq_some_iff.mp h
      obtain ⟨front, rfl, named⟩ := unprefixed?_eq_some_iff.mp found
      exact ⟨g.digits, digits, .urn g named, rfl⟩
  · rintro ⟨ds, digits, spelling, rfl⟩
    cases spelling with
    | digits => rw [ofChars?, ofDigits?_eq_some_iff.mpr ⟨digits, rfl⟩, Option.some_or]
    | groups g =>
      have length := g.length_text
      rw [ofChars?, plain (by omega), Option.none_or,
        ofGroups?_eq_some_iff.mpr ⟨g, rfl, digits, rfl⟩, Option.some_or]
    | braces g =>
      have length : ('\x7b' :: (g.text ++ ['\x7d'])).length = 38 := by simp [g.length_text]
      have inner := unbrace?_eq_some_iff.mpr (Eq.refl ('\x7b' :: (g.text ++ ['\x7d'])))
      rw [ofChars?, plain (by omega), Option.none_or, grouped (by omega), Option.none_or, inner,
        Option.bind_some, ofGroups?_eq_some_iff.mpr ⟨g, rfl, digits, rfl⟩, Option.some_or]
    | urn g named =>
      rename_i front
      have nine : front.length = 9 := by
        rw [← List.length_map (f := Text.lowerLetter), named]
        rfl
      have length : (front ++ g.text).length = 45 := by simp [nine, g.length_text]
      have braced : (unbrace? (front ++ g.text)).bind ofGroups? = none := by
        rw [Option.bind_eq_none_iff]
        intro inner h
        have shape := congrArg List.length (unbrace?_eq_some_iff.mp h)
        rw [length, List.length_cons, List.length_append, List.length_singleton] at shape
        exact grouped (by omega)
      rw [ofChars?, plain (by omega), Option.none_or, grouped (by omega), Option.none_or, braced,
        Option.none_or, unprefixed?_eq_some_iff.mpr ⟨front, rfl, named⟩, Option.bind_some]
      exact ofGroups?_eq_some_iff.mpr ⟨g, rfl, digits, rfl⟩

/-- A text is accepted if it spells an identity, blanks around it apart. -/
lemma parse_eq_ok_iff {text : String} {u : Uuid} :
    parse text = .ok u ↔ Spells (Text.trim text).toList u := by
  rw [← ofChars?_eq_some_iff, parse]
  cases ofChars? (Text.trim text).toList <;> simp

/-! ## The canonical form -/

/-- The text is in groups joined by hyphens, with letters in lower case. -/
def IsCanonical (text : String) : Prop :=
  ∃ g : Groups, text.toList = g.text ∧ ∀ c ∈ g.digits, c ∈ lowerAlphabet

/-- The identity has the digits that identities have. -/
structure Proper (u : Uuid) : Prop where
  length : u.digits.length = 32
  lower : ∀ c ∈ u.digits, c ∈ lowerAlphabet

lemma proper_ofDigits {ds : List Char} (digits : Digits ds) : Proper (ofDigits ds) where
  length := (List.length_map _).trans digits.length
  lower := by
    intro c there
    obtain ⟨c', there', rfl⟩ := List.mem_map.mp there
    exact lowerLetter_mem c' (digits.hex c' there')

lemma proper_of_parse {text : String} {u : Uuid} (h : parse text = .ok u) : Proper u := by
  obtain ⟨ds, digits, -, rfl⟩ := parse_eq_ok_iff.mp h
  exact proper_ofDigits digits

section Canonical

variable {u : Uuid} {text : String}

/-- The canonical form joins the groups of the digits. -/
lemma exists_groups_canonical (length : u.digits.length = 32) :
    ∃ g : Groups, g.digits = u.digits ∧ u.canonical.toList = g.text := by
  obtain ⟨g, same⟩ := exists_groups_digits length
  refine ⟨g, same, ?_⟩
  obtain ⟨a, b, c, d, e, ha, hb, hc, hd, he⟩ := g
  rw [canonical, String.toList_ofList, ← same]
  simp [Groups.digits, Groups.text, List.drop_append, List.drop_of_length_le, ha, hb, hc, hd]

lemma Proper.isCanonical (proper : Proper u) : IsCanonical u.canonical := by
  obtain ⟨g, same, text⟩ := exists_groups_canonical proper.length
  exact ⟨g, text, same ▸ proper.lower⟩

/-- Such a text is 36 characters long. -/
lemma IsCanonical.length (h : IsCanonical text) : text.toList.length = 36 := by
  obtain ⟨g, shape, -⟩ := h
  rw [shape, g.length_text]

/-- All of its characters are digits and hyphens. -/
lemma IsCanonical.mem (h : IsCanonical text) {c : Char} (there : c ∈ text.toList) :
    c ∈ '-' :: lowerAlphabet := by
  obtain ⟨g, shape, lower⟩ := h
  rw [shape] at there
  by_cases hyphen : c = '-'
  · exact hyphen ▸ List.mem_cons_self
  · refine List.mem_cons_of_mem _ (lower c ?_)
    simpa [Groups.text, Groups.digits, hyphen] using there

/-- It has no blanks around it. -/
lemma IsCanonical.trim_eq (h : IsCanonical text) : Text.trim text = text := by
  have marks : ∀ c ∈ '-' :: lowerAlphabet, Text.isBlank c = false := forall_mem_of_all (by decide)
  have unblank : ∀ c ∈ text.toList, Text.isBlank c = false := fun c there => marks c (h.mem there)
  have some : text.toList ≠ [] := by
    intro empty
    have := h.length
    rw [empty] at this
    exact absurd this (by decide)
  rw [← String.toList_inj]
  refine (Text.toList_trim_eq_iff some).mpr ⟨⟨[], [], by simp, by simp, by simp⟩, ?_, ?_⟩
  · exact fun c head => unblank c (List.mem_of_mem_head? head)
  · exact fun c last => unblank c (List.mem_of_getLast? last)

/-- The canonical form is read as the identity it is the form of. -/
lemma parse_canonical (proper : Proper u) : parse u.canonical = .ok u := by
  obtain ⟨g, same, text⟩ := exists_groups_canonical proper.length
  have lower : u.digits.map Text.lowerLetter = u.digits := by
    conv_rhs => rw [← List.map_id u.digits]
    exact List.map_congr_left fun c there => lowerLetter_of_lower c (proper.lower c there)
  have hex : ∀ c ∈ u.digits, c ∈ alphabet := fun c there =>
    mem_alphabet_of_lower c (proper.lower c there)
  rw [parse_eq_ok_iff, proper.isCanonical.trim_eq, text]
  refine ⟨g.digits, same ▸ ⟨proper.length, hex⟩, .groups g, ?_⟩
  rw [ofDigits, same, lower]

end Canonical

end Uuid

end HatchSensor
