import HatchSensor.Proofs.Dialogue
import HatchSensor.Proofs.ReadingRecords

/-!
# The course of an append

Adding a reading takes up to four requests: the log is measured, a torn record at its end is cut off
by reading the log and writing it anew, and only then the new record goes behind the others.  Each
request may fail, and there may be nothing after it.

The readings are the same at each of these stages but the last, and when the record is about to be
added the log is a run of whole records; this is `course_of_append`.  It asks nothing of the
surroundings but that they keep the bytes of the log, so it holds of a store on its own and of one
that other programs use at the same time.
-/

namespace HatchSensor

open Program

namespace ReadingLog

variable {σ : Type} {B : Behaviour Blobs σ} {log : σ → Bytes} {s t : σ} {d : Dialogue Blobs}

/-- The surroundings keep the log, whose bytes are a function of their state: what is asked about the
log is true, and what is asked of it is done or fails. -/
structure Keeping (B : Behaviour Blobs σ) (log : σ → Bytes) : Prop where
  read {s t : σ} {x : Stored (Option Bytes)} (answered : B (.read blob) s x t) :
    log t = log s ∧ ∀ content, x = .ok content → content.getD [] = log s
  size {s t : σ} {x : Stored Nat} (answered : B (.size blob) s x t) :
    log t = log s ∧ ∀ size, x = .ok size → size = (log s).length
  write {s t : σ} {content : Bytes} {x : Stored Unit} (answered : B (.write blob content) s x t) :
    (x = .ok () ∧ log t = content) ∨ ((∃ e, x = .error e) ∧ log t = log s)
  append {s t : σ} {content : Bytes} {x : Stored Unit} (answered : B (.append blob content) s x t) :
    (x = .ok () ∧ log t = log s ++ content) ∨ ((∃ e, x = .error e) ∧ log t = log s)

/-- The request neither adds to a blob nor removes one. -/
def Quiet (request : BlobRequest) : Prop :=
  (∀ name content, request ≠ .append name content) ∧ ∀ name, request ≠ .remove name

/-- The exchange neither adds to a blob nor removes one, be it that the request is a different one
or that it has failed. -/
def Silent : Exchange Blobs → Prop
  | ⟨.append _ _, .ok _⟩ => False
  | ⟨.remove _, .ok _⟩ => False
  | _ => True

lemma silent_of_quiet {e : Exchange Blobs} (quiet : Quiet e.request) : Silent e := by
  obtain ⟨request, x⟩ := e
  cases request with
  | append name content => exact absurd rfl (quiet.1 name content)
  | remove name => exact absurd rfl (quiet.2 name)
  | _ => trivial

/-- How far adding `r` may have come: the dialogue so far is `d`, the log was `old` and is `new`, and
`q` is still to be done. -/
inductive Course (r : Reading) (old new : Bytes) (d : Dialogue Blobs) :
    Program Blobs (Stored Unit) → Prop
  /-- There is a request to be made; if it is the one that adds the record, then to whole records. -/
  | pending {request : BlobRequest} {k : request.Answer → Program Blobs (Stored Unit)}
      (same : readings new = readings old) (silent : ∀ e ∈ d, Silent e)
      (aligned : ∀ name content, request = .append name content →
        name = blob ∧ content = r.encode ∧ new.length % Reading.recordSize = 0) :
      Course r old new d (.ask request k)
  /-- A request has failed. -/
  | failed {e : StoreError} (same : readings new = readings old) (silent : ∀ e ∈ d, Silent e) :
      Course r old new d (.done (.error e))
  /-- The reading is the last one of the log. -/
  | added {d' : Dialogue Blobs} (more : readings new = readings old ++ [r])
      (whole : new.length % Reading.recordSize = 0)
      (said : d = d' ++ [⟨.append blob r.encode, .ok ()⟩]) (silent : ∀ e ∈ d', Silent e) :
      Course r old new d (.done (.ok ()))

/-! ## Before the record is added -/

/-- Cutting off a torn record changes no reading, wherever it stops; once it has succeeded, the log
is a run of whole records. -/
lemma readings_of_trim (keeping : Keeping B log) {q : Program Blobs (Stored Unit)}
    (h : Reaches B (trim (log s).length).run s d q t) :
    readings (log t) = readings (log s) ∧
      (q = .done (.ok ()) → (log t).length % Reading.recordSize = 0) := by
  by_cases whole : (log s).length % Reading.recordSize = 0
  · rw [trim_of_whole whole] at h
    obtain ⟨-, -, rfl⟩ := reaches_done.mp h
    exact ⟨rfl, fun _ => whole⟩
  · rw [trim_of_torn whole, ExceptT.run_bind] at h
    rcases reaches_bind.mp h with ⟨_, _, first, rfl⟩ | ⟨d₁, y, u, d₂, -, first, second⟩
    · obtain ⟨-, rfl⟩ := reaches_request_ask first
      exact ⟨rfl, nofun⟩
    · obtain ⟨-, answered⟩ := returns_request.mp first
      obtain ⟨kept, found⟩ := keeping.read answered
      cases y with
      | error e =>
        obtain ⟨-, rfl, rfl⟩ := reaches_done.mp second
        exact ⟨congrArg readings kept, nofun⟩
      | ok content =>
        simp only [found content rfl] at second
        rcases reaches_request.mp second with ⟨-, rfl, rfl⟩ | ⟨x, -, rfl, written⟩
        · exact ⟨congrArg readings kept, nofun⟩
        · rcases keeping.write written with ⟨rfl, cut⟩ | ⟨⟨e, rfl⟩, kept'⟩
          · rw [cut]
            exact ⟨readings_take_whole (log s), fun _ => length_take_whole (log s)⟩
          · exact ⟨congrArg readings (kept'.trans kept), nofun⟩

/-- The same of measuring the log first. -/
lemma readings_of_align (keeping : Keeping B log) {q : Program Blobs (Stored Unit)}
    (h : Reaches B (Blob.size blob >>= trim).run s d q t) :
    readings (log t) = readings (log s) ∧
      (q = .done (.ok ()) → (log t).length % Reading.recordSize = 0) := by
  rw [ExceptT.run_bind] at h
  rcases reaches_bind.mp h with ⟨_, _, first, rfl⟩ | ⟨d₁, y, u, d₂, -, first, second⟩
  · obtain ⟨-, rfl⟩ := reaches_request_ask first
    exact ⟨rfl, nofun⟩
  · obtain ⟨-, answered⟩ := returns_request.mp first
    obtain ⟨kept, found⟩ := keeping.size answered
    cases y with
    | error e =>
      obtain ⟨-, rfl, rfl⟩ := reaches_done.mp second
      exact ⟨congrArg readings kept, nofun⟩
    | ok size =>
      obtain rfl : size = (log u).length := by rw [kept, found size rfl]
      obtain ⟨same, whole⟩ := readings_of_trim keeping second
      exact ⟨same.trans (congrArg readings kept), whole⟩

/-- Cutting off a torn record reads the log and writes it, and no more. -/
lemma only_trim {P : BlobRequest → Prop} (read : P (.read blob))
    (write : ∀ content, P (.write blob content)) (size : Nat) : (trim size).run.Only P := by
  by_cases whole : size % Reading.recordSize = 0
  · rw [trim_of_whole whole]
    exact .done _
  · rw [trim_of_torn whole]
    exact only_run_bind (only_request read) fun _ => only_request (write _)

/-- Until the record is added, nothing is added or removed. -/
lemma quiet_align : (Blob.size blob >>= trim).run.Only Quiet :=
  only_run_bind (only_request ⟨nofun, nofun⟩) fun size =>
    only_trim ⟨nofun, nofun⟩ (fun _ => ⟨nofun, nofun⟩) size

/-! ## The whole course -/

/-- Wherever it stops, and whatever has failed, adding a reading has come so far. -/
lemma course_of_append (keeping : Keeping B log) {r : Reading}
    {q : Program Blobs (Stored Unit)} (h : Reaches B (append r).run s d q t) :
    Course r (log s) (log t) d q := by
  have parts : append r = (Blob.size blob >>= trim) >>= fun _ => Blob.append blob r.encode :=
    (bind_assoc _ _ _).symm
  rw [parts, ExceptT.run_bind] at h
  rcases reaches_bind.mp h with ⟨request, k, first, rfl⟩ | ⟨d₁, y, u, d₂, rfl, first, second⟩
  · obtain ⟨said, next⟩ := first.only quiet_align
    have quiet : Quiet request := by
      cases next with
      | ask quiet _ => exact quiet
    exact .pending (readings_of_align keeping first).1 (fun e he => silent_of_quiet (said e he))
      fun name content append => absurd append (quiet.1 name content)
  · obtain ⟨same, whole⟩ := readings_of_align keeping first
    have silent : ∀ e ∈ d₁, Silent e := fun e he => silent_of_quiet ((first.only quiet_align).1 e he)
    cases y with
    | error e =>
      obtain ⟨rfl, rfl, rfl⟩ := reaches_done.mp second
      rw [List.append_nil]
      exact .failed same silent
    | ok _ =>
      rcases reaches_request.mp second with ⟨rfl, rfl, rfl⟩ | ⟨x, rfl, rfl, answered⟩
      · rw [List.append_nil]
        refine .pending same silent fun name content append => ?_
        cases append
        exact ⟨rfl, rfl, whole rfl⟩
      · rcases keeping.append answered with ⟨rfl, grown⟩ | ⟨⟨e, rfl⟩, kept⟩
        · refine .added ?_ ?_ rfl silent
          · rw [grown, readings_append _ (whole rfl), same, readings_encode]
          · rw [grown, List.length_append, Reading.length_encode, Nat.add_mod_right]
            exact whole rfl
        · refine .failed ((congrArg readings kept).trans same) ?_
          exact List.forall_mem_append.mpr ⟨silent, by simp [Silent]⟩

end ReadingLog

end HatchSensor
