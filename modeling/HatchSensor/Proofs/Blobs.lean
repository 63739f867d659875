import HatchSensor.Proofs.Dialogue
import HatchSensor.Blob.Map

/-!
# Blob stores that keep their promises

A blob store is followed as a `BlobMap`.  It may refuse requests, and a refused request leaves every
blob as it is; what is not refused gets the answer of the map.  Which requests may be refused is a
parameter, so that one statement covers a store that never fails, one whose writes fail at will and
one that cannot even be read.
-/

namespace HatchSensor

/-! ## Maps of blobs -/

namespace BlobMap

/-- A blob that was placed is found. -/
lemma find_place_self (name : String) (content : Bytes) (entries : List (String × Bytes)) :
    find name (place name content entries) = some content := by
  induction entries with
  | nil => simp [place, find]
  | cons e rest ih =>
    obtain ⟨n, old⟩ := e
    by_cases same : n = name
    · simp [place, find, same]
    · by_cases less : name < n
      · simp [place, find, same, less]
      · simp [place, find, same, less, ih]

/-- Placing a blob leaves the others where they are. -/
lemma find_place_of_ne {name other : String} (h : other ≠ name) (content : Bytes)
    (entries : List (String × Bytes)) :
    find other (place name content entries) = find other entries := by
  have h' : ¬ name = other := fun same => h same.symm
  induction entries with
  | nil => simp [place, find, h']
  | cons e rest ih =>
    obtain ⟨n, old⟩ := e
    by_cases same : n = name
    · simp [place, find, same, h']
    · by_cases less : name < n
      · simp [place, find, same, less, h']
      · simp [place, find, same, less, ih]

/-- Of two blobs that are placed under one name the second counts. -/
lemma place_place (name : String) (first second : Bytes) (entries : List (String × Bytes)) :
    place name second (place name first entries) = place name second entries := by
  induction entries with
  | nil => simp [place]
  | cons e rest ih =>
    obtain ⟨n, old⟩ := e
    by_cases same : n = name
    · simp [place, same]
    · by_cases less : name < n
      · simp [place, same, less]
      · simp [place, same, less, ih]

/-- A blob that was filtered out is not found. -/
lemma find_filter_self (name : String) (entries : List (String × Bytes)) :
    find name (entries.filter fun e => e.1 != name) = none := by
  induction entries with
  | nil => rfl
  | cons e rest ih =>
    by_cases same : e.1 = name
    · simpa [List.filter_cons, same] using ih
    · simpa [List.filter_cons, find, same] using ih

/-- Filtering a blob out leaves the others where they are. -/
lemma find_filter_of_ne {name other : String} (h : other ≠ name)
    (entries : List (String × Bytes)) :
    find other (entries.filter fun e => e.1 != name) = find other entries := by
  induction entries with
  | nil => rfl
  | cons e rest ih =>
    by_cases same : e.1 = name
    · have skipped : ¬ name = other := fun h' => h h'.symm
      simpa [List.filter_cons, find, same, skipped] using ih
    · simp [find, same, ih]

@[simp]
lemma get?_put_self (m : BlobMap) (name : String) (content : Bytes) :
    (m.put name content).get? name = some content :=
  find_place_self name content m.entries

@[simp]
lemma get?_put_of_ne (m : BlobMap) {name other : String} (h : other ≠ name) (content : Bytes) :
    (m.put name content).get? other = m.get? other :=
  find_place_of_ne h content m.entries

@[simp]
lemma put_put (m : BlobMap) (name : String) (first second : Bytes) :
    (m.put name first).put name second = m.put name second :=
  congrArg BlobMap.mk (place_place name first second m.entries)

@[simp]
lemma get?_erase_self (m : BlobMap) (name : String) : (m.erase name).get? name = none :=
  find_filter_self name m.entries

@[simp]
lemma get?_erase_of_ne (m : BlobMap) {name other : String} (h : other ≠ name) :
    (m.erase name).get? other = m.get? other :=
  find_filter_of_ne h m.entries

end BlobMap

/-! ## Requests to a store -/

/-- The blob that a request can change. -/
def BlobRequest.changes : BlobRequest → Option String
  | .read _ => none
  | .write name _ => some name
  | .append name _ => some name
  | .size _ => none
  | .remove name => some name

namespace BlobMap

variable {refuses : BlobRequest → Prop}

/-- The store answers as the map does, or it refuses, which changes nothing. -/
def Answers (refuses : BlobRequest → Prop) : Behaviour Blobs BlobMap := fun r m x m' =>
  (x = (m.answer r).2 ∧ m' = (m.answer r).1) ∨ (refuses r ∧ (∃ e, x = r.failed e) ∧ m' = m)

/-- Reading a blob gives its content, or fails. -/
lemma answers_read {name : String} {m m' : BlobMap} {x : Stored (Option Bytes)} :
    Answers refuses (.read name) m x m' ↔
      m' = m ∧ (x = .ok (m.get? name) ∨ refuses (.read name) ∧ ∃ e, x = .error e) := by
  constructor
  · rintro (⟨rfl, rfl⟩ | ⟨no, ⟨e, rfl⟩, rfl⟩)
    · exact ⟨rfl, Or.inl rfl⟩
    · exact ⟨rfl, Or.inr ⟨no, e, rfl⟩⟩
  · rintro ⟨rfl, rfl | ⟨no, e, rfl⟩⟩
    · exact Or.inl ⟨rfl, rfl⟩
    · exact Or.inr ⟨no, ⟨e, rfl⟩, rfl⟩

/-- Asking for the size of a blob gives its length, or fails. -/
lemma answers_size {name : String} {m m' : BlobMap} {x : Stored Nat} :
    Answers refuses (.size name) m x m' ↔
      m' = m ∧ (x = .ok ((m.get? name).getD []).length ∨
        refuses (.size name) ∧ ∃ e, x = .error e) := by
  constructor
  · rintro (⟨rfl, rfl⟩ | ⟨no, ⟨e, rfl⟩, rfl⟩)
    · exact ⟨rfl, Or.inl rfl⟩
    · exact ⟨rfl, Or.inr ⟨no, e, rfl⟩⟩
  · rintro ⟨rfl, rfl | ⟨no, e, rfl⟩⟩
    · exact Or.inl ⟨rfl, rfl⟩
    · exact Or.inr ⟨no, ⟨e, rfl⟩, rfl⟩

/-- Writing a blob replaces it, or fails. -/
lemma answers_write {name : String} {content : Bytes} {m m' : BlobMap} {x : Stored Unit} :
    Answers refuses (.write name content) m x m' ↔
      (x = .ok () ∧ m' = m.put name content) ∨
        (refuses (.write name content) ∧ (∃ e, x = .error e) ∧ m' = m) := Iff.rfl

/-- Adding to a blob puts the new content behind the old, or fails. -/
lemma answers_append {name : String} {content : Bytes} {m m' : BlobMap} {x : Stored Unit} :
    Answers refuses (.append name content) m x m' ↔
      (x = .ok () ∧ m' = m.put name ((m.get? name).getD [] ++ content)) ∨
        (refuses (.append name content) ∧ (∃ e, x = .error e) ∧ m' = m) := Iff.rfl

/-- Removing a blob deletes it, or fails. -/
lemma answers_remove {name : String} {m m' : BlobMap} {x : Stored Unit} :
    Answers refuses (.remove name) m x m' ↔
      (x = .ok () ∧ m' = m.erase name) ∨
        (refuses (.remove name) ∧ (∃ e, x = .error e) ∧ m' = m) := Iff.rfl

/-- Only requests that change nothing may be refused. -/
def Writable (refuses : BlobRequest → Prop) : Prop :=
  ∀ request : BlobRequest, request.changes ≠ none → ¬ refuses request

/-- A write that is not refused replaces the blob. -/
lemma Writable.answers_write (writable : Writable refuses) {name : String} {content : Bytes}
    {m m' : BlobMap} {x : Stored Unit} (h : Answers refuses (.write name content) m x m') :
    x = .ok () ∧ m' = m.put name content := by
  rcases BlobMap.answers_write.mp h with done | ⟨no, -⟩
  · exact done
  · exact absurd no (writable _ (Option.some_ne_none name))

/-- A request changes no blob but the one it names. -/
lemma Answers.get?_eq {r : BlobRequest} {m m' : BlobMap} {x : r.Answer} {name : String}
    (h : Answers refuses r m x m') (other : r.changes ≠ some name) :
    m'.get? name = m.get? name := by
  rcases h with ⟨-, rfl⟩ | ⟨-, -, rfl⟩
  · cases r with
    | read n => rfl
    | size n => rfl
    | write n c => exact get?_put_of_ne m (fun same => other (congrArg some same.symm)) c
    | append n c => exact get?_put_of_ne m (fun same => other (congrArg some same.symm)) _
    | remove n => exact get?_erase_of_ne m fun same => other (congrArg some same.symm)
  · rfl

/-- A store always has an answer. -/
lemma answers_total (r : BlobRequest) (m : BlobMap) : ∃ x m', Answers refuses r m x m' :=
  ⟨_, _, Or.inl ⟨rfl, rfl⟩⟩

end BlobMap

/-- A store in memory refuses changes, if it refuses anything. -/
lemma MemoryBlobs.answer_eq (store : MemoryBlobs) (r : BlobRequest) :
    store.answer r = if store.failWrites = true ∧ r.changes ≠ none
      then (store, r.failed (writeFailure r.name)) else store.perform r := by
  cases fails : store.failWrites <;>
    cases r <;> simp [MemoryBlobs.answer, BlobRequest.changes, BlobRequest.failed,
      BlobRequest.name, fails]

/-! ## The blobs a program can change -/

/-- Whatever it is answered, the program changes none but the named blobs. -/
def Program.ChangesOnly {α : Type} (names : List String) (p : Program Blobs α) : Prop :=
  p.Only fun r => ∀ name, BlobRequest.changes r = some name → name ∈ names

/-- A store program changes none but the named blobs. -/
lemma Program.Reaches.get?_eq {α : Type} {refuses : BlobRequest → Prop} {names : List String}
    {p q : Program Blobs α} {m m' : BlobMap} {d : Dialogue Blobs}
    (h : Program.Reaches (BlobMap.Answers refuses) p m d q m') (hp : p.ChangesOnly names)
    {name : String} (other : name ∉ names) : m'.get? name = m.get? name := by
  refine h.keeps (I := fun now => now.get? name = m.get? name) ?_ hp rfl
  intro r now x later allowed answered same
  rw [answered.get?_eq fun hit => other (allowed name hit), same]

/-- A request changes no other blob than the one it is about. -/
lemma BlobRequest.name_of_changes {r : BlobRequest} {name : String} (h : r.changes = some name) :
    r.name = name := by
  cases r <;> first | exact Option.some.inj h | exact nomatch h

/-- A program that is about the named blobs changes none but these. -/
lemma Program.changesOnly_of_name {α : Type} {names : List String} {p : Program Blobs α}
    (about : p.Only fun r => BlobRequest.name r ∈ names) : p.ChangesOnly names :=
  about.mono fun _ known _ hit => BlobRequest.name_of_changes hit ▸ known

/-- Whatever it is answered, all that the program does is to read some of the named blobs. -/
def Program.ReadsOnly {α : Type} (names : List String) (p : Program Blobs α) : Prop :=
  p.Only fun r => ∃ name ∈ names, r = BlobRequest.read name

/-- A program that only reads changes nothing. -/
lemma Program.ReadsOnly.changesOnly {α : Type} {names changed : List String} {p : Program Blobs α}
    (h : p.ReadsOnly names) : p.ChangesOnly changed := by
  refine h.mono ?_
  rintro _ ⟨_, -, rfl⟩ _ hit
  exact nomatch hit

namespace Blob

variable {names : List String} {name : String}

lemma readsOnly_read (h : name ∈ names) : Program.ReadsOnly names (Blob.read name).run :=
  Program.only_request ⟨name, h, rfl⟩

lemma changesOnly_read : Program.ChangesOnly names (Blob.read name).run :=
  Program.only_request fun _ h => absurd h (by simp [BlobRequest.changes])

lemma changesOnly_write {content : Bytes} (h : name ∈ names) :
    Program.ChangesOnly names (Blob.write name content).run :=
  Program.only_request fun _ same => Option.some.inj same ▸ h

lemma changesOnly_remove (h : name ∈ names) :
    Program.ChangesOnly names (Blob.remove name).run :=
  Program.only_request fun _ same => Option.some.inj same ▸ h

end Blob

end HatchSensor
