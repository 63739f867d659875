import HatchSensor.Board.FlashStore
import HatchSensor.Proofs.Blobs
import Mathlib.Logic.Function.Basic

/-!
# Blobs in flash and blobs in memory

Whoever uses a blob store cannot tell the one in flash from the one in memory.  The flash is taken as
it is documented: an area is a map from names to bytes, a call looks at one entry or changes it, and
a call that fails changes nothing.  It cannot add to an entry, so the store in flash reads the entry,
with a call for its length before, and writes it anew.

Each request is followed through its calls once, in `FlashArea.Ends`: either all of them succeed and
the request does what the map in memory does, or one of them fails, and then the request gives an
error and the area is as it was.  `stores_agree` follows a sequence of requests to both stores.
-/

namespace HatchSensor

open Program

/-! ## The flash -/

/-- The entries of an area: what lies under each name. -/
abbrev FlashArea := String → Option Bytes

namespace FlashArea

/-- An area without entries. -/
def empty : FlashArea := fun _ => none

/-- Put an entry into the area, replacing the one of that name. -/
def put (f : FlashArea) (name : String) (content : Bytes) : FlashArea :=
  Function.update f name (some content)

/-- Delete an entry. -/
def erase (f : FlashArea) (name : String) : FlashArea :=
  Function.update f name none

/-- What a call does to the area, and the answers it may get; `fails` says which calls may fail.
An entry is only copied into a buffer that is long enough.  All other requests have nothing to do
with the area. -/
def Reply (fails : ChipCall → Prop) :
    (r : PlatformRequest) → FlashArea → r.Answer → FlashArea → Prop
  | .chip (.blobLength name), f, x, f' =>
    f' = f ∧ (x = .ok ((f name).map List.length) ∨
      fails (.blobLength name) ∧ ∃ reason, x = .error reason)
  | .chip (.blobContent name size), f, x, f' =>
    f' = f ∧ ((∀ content ∈ f name, content.length ≤ size) ∧ x = .ok (f name) ∨
      (fails (.blobContent name size) ∨ ∃ content ∈ f name, size < content.length) ∧
        ∃ reason, x = .error reason)
  | .chip (.setBlob name content), f, x, f' =>
    x = .ok () ∧ f' = f.put name content ∨
      fails (.setBlob name content) ∧ (∃ reason, x = .error reason) ∧ f' = f
  | .chip (.removeBlob name), f, x, f' =>
    x = .ok (f name).isSome ∧ f' = f.erase name ∨
      fails (.removeBlob name) ∧ (∃ reason, x = .error reason) ∧ f' = f
  | _, f, _, f' => f' = f

/-- The chip, as far as the area is concerned. -/
def Answers (fails : ChipCall → Prop) : Behaviour Platform FlashArea := Reply fails

/-- No call fails of itself. -/
def never : ChipCall → Prop := fun _ => False

/-- A call about an entry has failed. -/
def Broken : Exchange Platform → Prop
  | ⟨.chip (.blobLength _), .error _⟩ => True
  | ⟨.chip (.blobContent _ _), .error _⟩ => True
  | ⟨.chip (.setBlob _ _), .error _⟩ => True
  | ⟨.chip (.removeBlob _), .error _⟩ => True
  | _ => False

variable {fails : ChipCall → Prop} {f f' g : FlashArea} {name : String} {d : Dialogue Platform}
  {α : Type} {a : α} {x : Stored α}

/-! ## One request -/

/-- How a request to the store in flash ends that is to give `a` and to lead to the area `g`: it does,
and none of its calls has failed; or one has, then it gives an error and has changed nothing. -/
def Ends (fails : ChipCall → Prop) (f : FlashArea) (d : Dialogue Platform) (x : Stored α)
    (f' : FlashArea) (a : α) (g : FlashArea) : Prop :=
  (x = .ok a ∧ f' = g ∧ ∀ e ∈ d, ¬ Broken e) ∨
    ((∃ call, fails call) ∧ (∃ e ∈ d, Broken e) ∧ (∃ reason, x = .error reason) ∧ f' = f)

/-- Reading gives the entry and changes nothing. -/
lemma ends_read {x : Stored (Option Bytes)}
    (h : Returns (Answers fails) (FlashStore.read name) f d x f') : Ends fails f d x f' (f name) f := by
  rw [FlashStore.read] at h
  obtain ⟨length, u, d₁, rfl, ⟨same, sized⟩, later⟩ := returns_request_bind.mp h
  subst same
  rcases sized with rfl | ⟨failed, reason, rfl⟩
  · cases entry : u name with
    | none =>
      rw [entry] at later
      obtain ⟨rfl, rfl, rfl⟩ := returns_done.mp later
      exact Or.inl ⟨rfl, rfl, by simp [Broken]⟩
    | some content =>
      rw [entry] at later
      obtain ⟨copied, v, d₂, rfl, ⟨same, copy⟩, last⟩ := returns_request_bind.mp later
      subst same
      obtain ⟨rfl, rfl, rfl⟩ := returns_done.mp last
      rcases copy with ⟨-, rfl⟩ | ⟨failed | ⟨other, there, long⟩, reason, rfl⟩
      · exact Or.inl ⟨congrArg Except.ok entry, rfl, by simp [Broken]⟩
      · exact Or.inr ⟨⟨_, failed⟩, by simp [Broken], ⟨_, rfl⟩, rfl⟩
      · -- the buffer is exactly as long as the entry
        obtain rfl : content = other := Option.some.inj (entry.symm.trans there)
        exact absurd long (Nat.lt_irrefl _)
  · obtain ⟨rfl, rfl, rfl⟩ := returns_done.mp later
    exact Or.inr ⟨⟨_, failed⟩, by simp [Broken], ⟨_, rfl⟩, rfl⟩

/-- Writing replaces the entry. -/
lemma ends_write {action : String} {content : Bytes} {x : Stored Unit}
    (h : Returns (Answers fails) (FlashStore.write action name content) f d x f') :
    Ends fails f d x f' () (f.put name content) := by
  rw [FlashStore.write] at h
  obtain ⟨written, u, d₁, rfl, reply, later⟩ := returns_request_bind.mp h
  obtain ⟨rfl, rfl, rfl⟩ := returns_done.mp later
  rcases reply with ⟨rfl, rfl⟩ | ⟨failed, ⟨reason, rfl⟩, rfl⟩
  · exact Or.inl ⟨rfl, rfl, by simp [Broken]⟩
  · exact Or.inr ⟨⟨_, failed⟩, by simp [Broken], ⟨_, rfl⟩, rfl⟩

/-- Adding puts the new bytes behind those of the entry, of which there may be none. -/
lemma ends_append {content : Bytes} {x : Stored Unit}
    (h : Returns (Answers fails) (FlashStore.append name content) f d x f') :
    Ends fails f d x f' () (f.put name ((f name).getD [] ++ content)) := by
  rw [FlashStore.append] at h
  obtain ⟨d₁, old, u, d₂, rfl, first, second⟩ := returns_bind.mp h
  rcases ends_read first with ⟨rfl, rfl, sound⟩ | ⟨failed, ⟨e, among, broken⟩, ⟨reason, rfl⟩, rfl⟩
  · rcases ends_write second with ⟨rfl, rfl, sound'⟩ | ⟨failed, ⟨e, among, broken⟩, error, rfl⟩
    · exact Or.inl ⟨rfl, rfl, List.forall_mem_append.mpr ⟨sound, sound'⟩⟩
    · exact Or.inr ⟨failed, ⟨e, List.mem_append_right _ among, broken⟩, error, rfl⟩
  · obtain ⟨rfl, rfl, rfl⟩ := returns_done.mp second
    exact Or.inr ⟨failed, ⟨e, List.mem_append_left _ among, broken⟩, ⟨_, rfl⟩, rfl⟩

/-- Asking for the size gives the length of the entry, zero if there is none. -/
lemma ends_size {x : Stored Nat} (h : Returns (Answers fails) (FlashStore.size name) f d x f') :
    Ends fails f d x f' ((f name).getD []).length f := by
  rw [FlashStore.size] at h
  obtain ⟨length, u, d₁, rfl, ⟨same, sized⟩, later⟩ := returns_request_bind.mp h
  subst same
  rcases sized with rfl | ⟨failed, reason, rfl⟩
  · obtain ⟨rfl, rfl, rfl⟩ := returns_done.mp later
    refine Or.inl ⟨?_, rfl, by simp [Broken]⟩
    cases f' name <;> rfl
  · obtain ⟨rfl, rfl, rfl⟩ := returns_done.mp later
    exact Or.inr ⟨⟨_, failed⟩, by simp [Broken], ⟨_, rfl⟩, rfl⟩

/-- Deleting an entry succeeds whether there is one or not. -/
lemma ends_remove {x : Stored Unit}
    (h : Returns (Answers fails) (FlashStore.remove name) f d x f') :
    Ends fails f d x f' () (f.erase name) := by
  rw [FlashStore.remove] at h
  obtain ⟨existed, u, d₁, rfl, reply, later⟩ := returns_request_bind.mp h
  rcases reply with ⟨rfl, rfl⟩ | ⟨failed, ⟨reason, rfl⟩, rfl⟩
  · obtain ⟨rfl, rfl, rfl⟩ := returns_done.mp later
    exact Or.inl ⟨rfl, rfl, by simp [Broken]⟩
  · obtain ⟨rfl, rfl, rfl⟩ := returns_done.mp later
    exact Or.inr ⟨⟨_, failed⟩, by simp [Broken], ⟨_, rfl⟩, rfl⟩

/-- Answer a request that does not fail. -/
def answer (f : FlashArea) : (request : BlobRequest) → FlashArea × request.Answer
  | .read name => (f, .ok (f name))
  | .write name content => (f.put name content, .ok ())
  | .append name content => (f.put name ((f name).getD [] ++ content), .ok ())
  | .size name => (f, .ok ((f name).getD []).length)
  | .remove name => (f.erase name, .ok ())

/-- A request that does not fail does not give an error. -/
lemma answer_ne_failed (f : FlashArea) (request : BlobRequest) (reason : StoreError) :
    (f.answer request).2 ≠ request.failed reason := by
  cases request <;> exact nofun

/-- Whatever the request, it is answered and nothing has failed; or one of its calls has failed, then
it gives an error and has changed nothing. -/
lemma ends_answer {request : BlobRequest} {x : request.Answer}
    (h : Returns (Answers fails) (FlashStore.answer request) f d x f') :
    (x = (f.answer request).2 ∧ f' = (f.answer request).1 ∧ ∀ e ∈ d, ¬ Broken e) ∨
      ((∃ call, fails call) ∧ (∃ e ∈ d, Broken e) ∧ (∃ reason, x = request.failed reason) ∧
        f' = f) := by
  cases request with
  | read name => exact ends_read h
  | write name content => exact ends_write h
  | append name content => exact ends_append h
  | size name => exact ends_size h
  | remove name => exact ends_remove h

/-! ## Two stores -/

/-- The map in memory has the blobs of the area. -/
def Matches (f : FlashArea) (m : BlobMap) : Prop := ∀ name, m.get? name = f name

namespace Matches

variable {m : BlobMap}

lemma put (h : f.Matches m) (name : String) (content : Bytes) :
    (f.put name content).Matches (m.put name content) := by
  intro other
  rw [FlashArea.put, Function.update_apply]
  by_cases same : other = name
  · rw [if_pos same, same, BlobMap.get?_put_self]
  · rw [if_neg same, BlobMap.get?_put_of_ne m same, h other]

lemma erase (h : f.Matches m) (name : String) : (f.erase name).Matches (m.erase name) := by
  intro other
  rw [FlashArea.erase, Function.update_apply]
  by_cases same : other = name
  · rw [if_pos same, same, BlobMap.get?_erase_self]
  · rw [if_neg same, BlobMap.get?_erase_of_ne m same, h other]

/-- Both answer the same, and match again. -/
lemma answer (h : f.Matches m) (request : BlobRequest) :
    (f.answer request).2 = (m.answer request).2 ∧
      (f.answer request).1.Matches (m.answer request).1 := by
  cases request with
  | read name => exact ⟨congrArg Except.ok (h name).symm, h⟩
  | write name content => exact ⟨rfl, h.put name content⟩
  | append name content =>
    refine ⟨rfl, ?_⟩
    show (f.put name ((f name).getD [] ++ content)).Matches
      (m.put name ((m.get? name).getD [] ++ content))
    rw [h name]
    exact h.put name _
  | size name =>
    refine ⟨?_, h⟩
    show Except.ok ((f name).getD []).length = Except.ok ((m.get? name).getD []).length
    rw [h name]
  | remove name => exact ⟨rfl, h.erase name⟩

end Matches

end FlashArea

/-- Make some requests of the store in flash, one after the other, and keep the results. -/
def FlashStore.answerAll : List BlobRequest → Program Platform (Dialogue Blobs)
  | [] => return []
  | request :: later => do
    let x ← answer request
    return ⟨request, x⟩ :: (← answerAll later)

/-- Make some requests of a store in memory, one after the other, and keep the results. -/
def MemoryBlobs.answerAll (store : MemoryBlobs) : List BlobRequest → Dialogue Blobs × MemoryBlobs
  | [] => ([], store)
  | request :: later =>
    let (store, x) := store.answer request
    let (results, store) := store.answerAll later
    (⟨request, x⟩ :: results, store)

namespace FlashArea

/-- While no call fails, stores that match give the same results and match again. -/
lemma matches_answerAll {requests : List BlobRequest} {results : Dialogue Blobs}
    {store : MemoryBlobs}
    (h : Returns (Answers never) (FlashStore.answerAll requests) f d results f')
    (content : f.Matches store.blobs) (takes : store.failWrites = false) :
    results = (store.answerAll requests).1 ∧ f'.Matches (store.answerAll requests).2.blobs := by
  induction requests generalizing f d results store with
  | nil =>
    obtain ⟨-, rfl, rfl⟩ := returns_done.mp h
    exact ⟨rfl, content⟩
  | cons request later ih =>
    rw [FlashStore.answerAll] at h
    obtain ⟨d₁, x, g, d₂, -, first, h⟩ := returns_bind.mp h
    obtain ⟨d₃, rest, g', d₄, -, second, h⟩ := returns_bind.mp h
    obtain ⟨-, rfl, rfl⟩ := returns_done.mp h
    have writable : ¬ (store.failWrites = true ∧ request.changes ≠ none) := by simp [takes]
    have performed : store.answer request = store.perform request := by
      rw [MemoryBlobs.answer_eq, if_neg writable]
    obtain ⟨same, next⟩ := content.answer request
    rcases ends_answer first with ⟨rfl, rfl, -⟩ | ⟨⟨call, no⟩, -⟩
    · have there : (f.answer request).1.Matches (store.answer request).1.blobs := by
        rw [performed]
        exact next
      have still : (store.answer request).1.failWrites = false := by
        rw [performed]
        exact takes
      obtain ⟨rfl, last⟩ := ih second there still
      refine ⟨?_, last⟩
      have result : (store.answer request).2 = (f.answer request).2 := by
        rw [performed]
        exact same.symm
      rw [MemoryBlobs.answerAll, ← result]
    · exact absurd no not_false

/-- Every request has a possible answer. -/
lemma nonempty_answer (r : PlatformRequest) : Nonempty r.Answer := by
  cases r with
  | chip call =>
    cases call with
    | receive timeout => exact ⟨Arrival.timeout⟩
    | _ => exact ⟨default⟩
  | _ => exact ⟨()⟩

/-- Every call has an answer, also one with a buffer that is too short. -/
lemma answers_total (fails : ChipCall → Prop) (r : PlatformRequest) (f : FlashArea) :
    ∃ x f', Answers fails r f x f' := by
  obtain ⟨any⟩ := nonempty_answer r
  cases r with
  | chip call =>
    cases call with
    | blobLength name => exact ⟨_, f, rfl, Or.inl rfl⟩
    | blobContent name size =>
      by_cases fits : ∀ content ∈ f name, content.length ≤ size
      · exact ⟨_, f, rfl, Or.inl ⟨fits, rfl⟩⟩
      · have short : ∃ content ∈ f name, size < content.length := by
          simp only [not_forall, Nat.not_le] at fits
          obtain ⟨content, there, long⟩ := fits
          exact ⟨content, there, long⟩
        exact ⟨.error default, f, rfl, Or.inr ⟨Or.inr short, _, rfl⟩⟩
    | setBlob name content => exact ⟨_, _, Or.inl ⟨rfl, rfl⟩⟩
    | removeBlob name => exact ⟨_, _, Or.inl ⟨rfl, rfl⟩⟩
    | _ => exact ⟨any, f, rfl⟩
  | _ => exact ⟨any, f, rfl⟩

/-- Of the stores in flash and in memory, both empty at first, no sequence of requests shows which
is which, as long as no call fails: the results are the same and so are the blobs at the end, those
without content included.  A single request gives an error if and only if one of its calls has
failed, and then, whichever call that is, the area is as it was. -/
theorem stores_agree :
    (∀ requests : List BlobRequest,
      (∃ d results f,
        Returns (Answers never) (FlashStore.answerAll requests) empty d results f) ∧
      ∀ d results f, Returns (Answers never) (FlashStore.answerAll requests) empty d results f →
        results = (MemoryBlobs.answerAll ⟨.empty, false⟩ requests).1 ∧
          f.Matches (MemoryBlobs.answerAll ⟨.empty, false⟩ requests).2.blobs) ∧
    ∀ (fails : ChipCall → Prop) (request : BlobRequest) (f f' : FlashArea)
      (d : Dialogue Platform) (x : request.Answer),
      Returns (Answers fails) (FlashStore.answer request) f d x f' →
        ((∃ reason, x = request.failed reason) ↔ ∃ e ∈ d, Broken e) ∧
          ((∃ reason, x = request.failed reason) → f' = f) := by
  constructor
  · intro requests
    refine ⟨exists_returns (answers_total never) _ _, fun d results f returned => ?_⟩
    have start : empty.Matches (⟨.empty, false⟩ : MemoryBlobs).blobs := fun _ => rfl
    exact matches_answerAll returned start rfl
  · intro fails request f f' d x returned
    rcases ends_answer returned with ⟨rfl, -, sound⟩ | ⟨-, broken, failed, same⟩
    · have answered : ¬ ∃ reason, (f.answer request).2 = request.failed reason := by
        rintro ⟨reason, failed⟩
        exact answer_ne_failed f request reason failed
      refine ⟨⟨fun failed => absurd failed answered, ?_⟩, fun failed => absurd failed answered⟩
      rintro ⟨e, among, broken⟩
      exact absurd broken (sound e among)
    · exact ⟨⟨fun _ => broken, fun _ => failed⟩, fun _ => same⟩

/-- Two blobs come and go: one is created by adding nothing to it, is told from one that is missing,
and is missing itself once it has been deleted, twice. -/
def tour : List BlobRequest :=
  [.append "a" [], .size "a", .read "a", .read "b", .append "a" [1], .append "a" [2], .write "b" [],
    .read "a", .remove "a", .remove "a", .size "a", .read "a", .read "b"]

/-- The results of the tour are those of the store in memory; and when the flash cannot take the
longer entry, adding to a blob fails and the blob is what it was. -/
theorem tour_agrees :
    (∃ d f, Returns (Answers never) (FlashStore.answerAll tour) empty d
      [⟨.append "a" [], .ok ()⟩, ⟨.size "a", .ok 0⟩, ⟨.read "a", .ok (some [])⟩,
        ⟨.read "b", .ok none⟩, ⟨.append "a" [1], .ok ()⟩, ⟨.append "a" [2], .ok ()⟩,
        ⟨.write "b" [], .ok ()⟩, ⟨.read "a", .ok (some [1, 2])⟩, ⟨.remove "a", .ok ()⟩,
        ⟨.remove "a", .ok ()⟩, ⟨.size "a", .ok 0⟩, ⟨.read "a", .ok none⟩,
        ⟨.read "b", .ok (some [])⟩] f ∧ f "a" = none ∧ f "b" = some []) ∧
    ∃ d x f', Returns (Answers (· = .setBlob "a" [1, 2])) (FlashStore.append "a" [2])
      (empty.put "a" [1]) d x f' ∧ (∃ e ∈ d, Broken e) ∧ (∃ reason, x = .error reason) ∧
        f' = empty.put "a" [1] := by
  constructor
  · obtain ⟨⟨d, results, f, returned⟩, agree⟩ := stores_agree.1 tour
    obtain ⟨same, blobs⟩ := agree d results f returned
    subst same
    exact ⟨d, f, returned, (blobs "a").symm, (blobs "b").symm⟩
  · have there : empty.put "a" [1] "a" = some [1] := Function.update_self _ _ _
    have full : Returns (Answers (· = .setBlob "a" [1, 2])) (FlashStore.append "a" [2])
        (empty.put "a" [1])
        [⟨.chip (.blobLength "a"), .ok (some 1)⟩, ⟨.chip (.blobContent "a" 1), .ok (some [1])⟩,
          ⟨.chip (.setBlob "a" [1, 2]), .error ⟨4357⟩⟩]
        (.error (FlashStore.failure "append to" "a" ⟨4357⟩)) (empty.put "a" [1]) := by
      refine .ask ⟨rfl, Or.inl ?_⟩ (.ask ⟨rfl, Or.inl ⟨?_, ?_⟩⟩
        (.ask (Or.inr ⟨rfl, ⟨_, rfl⟩, rfl⟩) (.rest _ _)))
      · rw [there]
        rfl
      · rw [there]
        rintro content ⟨rfl⟩
        exact Nat.le_refl _
      · rw [there]
    obtain ⟨failed, unchanged⟩ := stores_agree.2 _ (.append "a" [2]) _ _ _ _ full
    exact ⟨_, _, _, full, failed.mp ⟨_, rfl⟩, ⟨_, rfl⟩, unchanged ⟨_, rfl⟩⟩

end FlashArea

end HatchSensor
