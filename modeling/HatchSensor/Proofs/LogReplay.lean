import HatchSensor.Proofs.AppendCourse
import HatchSensor.Proofs.Footprints

/-!
# The log, replayed from the dialogue

The readings in the log can be told from the dialogue alone: every append that succeeded has added
its readings at the end, and every removal that succeeded has taken all of them away.  That the
store agrees is not obvious, because an append first cuts off a torn record, which takes three more
requests, each of which may be refused, and between which a client may write other blobs.
-/

namespace HatchSensor

open Program

/-! ## Replaying a dialogue -/

/-- What an exchange makes of the readings in the log. -/
def Exchange.logged (l : List Reading) : Exchange Surroundings → List Reading
  | ⟨.blob (.append name content), .ok _⟩ =>
    if name = ReadingLog.blob then l ++ ReadingLog.readings content else l
  | ⟨.blob (.remove name), .ok _⟩ => if name = ReadingLog.blob then [] else l
  | _ => l

/-- What a dialogue makes of the readings in the log. -/
def replay (d : Dialogue Surroundings) (l : List Reading) : List Reading :=
  d.foldl Exchange.logged l

lemma replay_append (d e : Dialogue Surroundings) (l : List Reading) :
    replay (d ++ e) l = replay e (replay d l) :=
  List.foldl_append

/-- A request that changes another blob, or none, leaves the readings alone. -/
lemma logged_of_quiet {e : Exchange Surroundings}
    (quiet : DeviceRequest.changes e.request ≠ some ReadingLog.blob) (l : List Reading) :
    e.logged l = l := by
  unfold Exchange.logged
  split
  · next content _ name =>
    exact if_neg fun same => quiet (congrArg some same)
  · exact if_neg fun same => quiet (congrArg some same)
  · rfl

/-- A dialogue of such requests leaves the readings alone. -/
lemma replay_of_quiet {d : Dialogue Surroundings}
    (quiet : ∀ e ∈ d, DeviceRequest.changes e.request ≠ some ReadingLog.blob) (l : List Reading) :
    replay d l = l := by
  induction d with
  | nil => rfl
  | cons e d ih =>
    show replay d (e.logged l) = l
    rw [logged_of_quiet (quiet e List.mem_cons_self),
      ih fun f hf => quiet f (List.mem_cons_of_mem e hf)]

/-- The exchange is a removal of the log, whether it succeeds or not. -/
def Exchange.removesLog (e : Exchange Surroundings) : Prop :=
  e.request = DeviceRequest.blob (.remove ReadingLog.blob)

/-- Unless it is removed, readings are only added at the end of the log. -/
lemma prefix_replay {d : Dialogue Surroundings}
    (kept : ⟨DeviceRequest.blob (.remove ReadingLog.blob), .ok ()⟩ ∉ d) (l : List Reading) :
    l <+: replay d l := by
  induction d generalizing l with
  | nil => exact List.prefix_rfl
  | cons e d ih =>
    have rest := ih (fun later => kept (List.mem_cons_of_mem e later)) (e.logged l)
    have here : e ≠ ⟨DeviceRequest.blob (.remove ReadingLog.blob), .ok ()⟩ :=
      fun same => kept (same ▸ List.mem_cons_self)
    refine List.IsPrefix.trans ?_ rest
    unfold Exchange.logged
    split
    · split
      · exact List.prefix_append _ _
      · exact List.prefix_rfl
    · next name _ =>
      by_cases same : name = ReadingLog.blob
      · exact absurd (by rw [same]) here
      · have still : (if name = ReadingLog.blob then [] else l) = l := if_neg same
        exact still.symm ▸ List.prefix_rfl
    · exact List.prefix_rfl

/-! ## The log in the store -/

namespace World

variable {L : Licence} {w w' : World} {d : Dialogue Surroundings}

/-- The content of the log. -/
def log (w : World) : Bytes := (w.blobs.get? ReadingLog.blob).getD []

/-- The readings in the log. -/
def logged (w : World) : List Reading := ReadingLog.readings w.log

/-- A program that keeps to other blobs leaves the log alone. -/
lemma log_of_stays {α : Type} {f : Footprint} {p q : Program Surroundings α}
    (h : Reaches (answers L) p w d q w') (stays : p.Stays f)
    (other : ReadingLog.blob ∉ f.names) : w'.log = w.log := by
  rw [log, get?_of_stays h stays other Session.log_notMem_blobs, log]

/-- After a request to the store, the log is what the request has made of it. -/
lemma log_of_answered {request : BlobRequest} {x : request.Answer}
    (h : answers L (.blob request) w x w') :
    ∃ blobs, BlobMap.Answers L.refuses request w.blobs x blobs ∧
      w'.log = (blobs.get? ReadingLog.blob).getD [] := by
  obtain ⟨u, ⟨blobs, answered, rfl⟩, others⟩ := h
  refine ⟨blobs, answered, ?_⟩
  rw [log, others.acts.get?_eq Session.log_notMem_blobs]

/-- Reading the log gives its content, or fails. -/
lemma log_of_read {x : Stored (Option Bytes)}
    (h : answers L (.blob (.read ReadingLog.blob)) w x w') :
    w'.log = w.log ∧ ∀ content, x = .ok content → content.getD [] = w.log := by
  obtain ⟨blobs, answered, log⟩ := log_of_answered h
  obtain ⟨rfl, found | ⟨-, e, failed⟩⟩ := BlobMap.answers_read.mp answered
  · refine ⟨log, fun content same => ?_⟩
    obtain rfl := Except.ok.inj (same.symm.trans found)
    rfl
  · exact ⟨log, fun content same => absurd (same.symm.trans failed) (by simp)⟩

/-- Asking for the size of the log gives its length, or fails. -/
lemma log_of_size {x : Stored Nat} (h : answers L (.blob (.size ReadingLog.blob)) w x w') :
    w'.log = w.log ∧ ∀ size, x = .ok size → size = w.log.length := by
  obtain ⟨blobs, answered, log⟩ := log_of_answered h
  obtain ⟨rfl, found | ⟨-, e, failed⟩⟩ := BlobMap.answers_size.mp answered
  · exact ⟨log, fun size same => Except.ok.inj (same.symm.trans found)⟩
  · exact ⟨log, fun content same => absurd (same.symm.trans failed) (by simp)⟩

/-- Writing the log replaces it, or fails. -/
lemma log_of_write {content : Bytes} {x : Stored Unit}
    (h : answers L (.blob (.write ReadingLog.blob content)) w x w') :
    (x = .ok () ∧ w'.log = content) ∨ ((∃ e, x = .error e) ∧ w'.log = w.log) := by
  obtain ⟨blobs, answered, log⟩ := log_of_answered h
  rcases BlobMap.answers_write.mp answered with ⟨rfl, rfl⟩ | ⟨-, failed, rfl⟩
  · exact Or.inl ⟨rfl, by rw [log, BlobMap.get?_put_self, Option.getD_some]⟩
  · exact Or.inr ⟨failed, log⟩

/-- Adding to the log puts the new bytes at its end, or fails. -/
lemma log_of_append {content : Bytes} {x : Stored Unit}
    (h : answers L (.blob (.append ReadingLog.blob content)) w x w') :
    (x = .ok () ∧ w'.log = w.log ++ content) ∨ ((∃ e, x = .error e) ∧ w'.log = w.log) := by
  obtain ⟨blobs, answered, log⟩ := log_of_answered h
  rcases BlobMap.answers_append.mp answered with ⟨rfl, rfl⟩ | ⟨-, failed, rfl⟩
  · refine Or.inl ⟨rfl, ?_⟩
    rw [log, BlobMap.get?_put_self, Option.getD_some, World.log]
  · exact Or.inr ⟨failed, log⟩

/-- Removing the log leaves nothing of it, or fails. -/
lemma log_of_remove {x : Stored Unit} (h : answers L (.blob (.remove ReadingLog.blob)) w x w') :
    (x = .ok () ∧ w'.log = []) ∨ ((∃ e, x = .error e) ∧ w'.log = w.log) := by
  obtain ⟨blobs, answered, log⟩ := log_of_answered h
  rcases BlobMap.answers_remove.mp answered with ⟨rfl, rfl⟩ | ⟨-, failed, rfl⟩
  · refine Or.inl ⟨rfl, ?_⟩
    rw [log, BlobMap.get?_erase_self, Option.getD_none]
  · exact Or.inr ⟨failed, log⟩

end World

/-! ## Adding a reading -/

namespace ReadingLog

open World

variable {L : Licence} {w w' : World} {d : Dialogue Surroundings}

/-- Adding a reading is about the log, and does not remove it. -/
lemma only_append (r : Reading) :
    (append r).run.Only fun q : BlobRequest => q.name = blob ∧ q ≠ .remove blob := by
  refine only_run_bind (only_request ⟨rfl, nofun⟩) fun size => ?_
  have cut := only_trim (P := fun q => q.name = blob ∧ q ≠ .remove blob) ⟨rfl, nofun⟩
    (fun _ => ⟨rfl, nofun⟩) size
  exact only_run_bind cut fun _ => only_request ⟨rfl, nofun⟩

/-- The world keeps the log. -/
lemma keeping_log : Keeping (fun request => answers L (.blob request)) World.log :=
  ⟨log_of_read, log_of_size, log_of_write, log_of_append⟩

/-- A dialogue that adds nothing and removes nothing leaves the readings alone. -/
lemma replay_of_silent {d : Dialogue Blobs} (silent : ∀ e ∈ d, Silent e) (l : List Reading) :
    replay (d.map Exchange.ofBlobs) l = l := by
  induction d with
  | nil => rfl
  | cons e d ih =>
    obtain ⟨here, later⟩ := List.forall_mem_cons.mp silent
    have same : (Exchange.ofBlobs e).logged l = l := by
      obtain ⟨request, x⟩ := e
      cases request with
      | append name content =>
        cases x with
        | ok _ => exact here.elim
        | error e => rfl
      | remove name =>
        cases x with
        | ok _ => exact here.elim
        | error e => rfl
      | _ => rfl
    show replay (d.map Exchange.ofBlobs) ((Exchange.ofBlobs e).logged l) = l
    rw [same, ih later]

/-- Adding a reading does what the dialogue says, wherever it stops.  Once it is over, either the
reading has been added at the end or the append has failed and the readings are what they were. -/
lemma logged_of_append {r : Reading} {q : Program Surroundings (Stored Unit)}
    (h : Reaches (answers L) (onBlobs (append r).run) w d q w') :
    w'.logged = replay d w.logged ∧
      ∀ y, q = .done y →
        (y = .ok () ∧ w'.logged = w.logged ++ [r]) ∨
          ((∃ e, y = .error e) ∧ w'.logged = w.logged) := by
  obtain ⟨d, q, alone, rfl, rfl⟩ := reaches_onBlobs h
  cases course_of_append keeping_log alone with
  | pending same silent _ =>
    exact ⟨same.trans (replay_of_silent silent _).symm, fun y halted => nomatch halted⟩
  | failed same silent =>
    refine ⟨same.trans (replay_of_silent silent _).symm, fun y halted => Or.inr ⟨?_, same⟩⟩
    exact ⟨_, (Program.done.inj halted).symm⟩
  | added more whole said silent =>
    refine ⟨?_, fun y halted => Or.inl ⟨(Program.done.inj halted).symm, more⟩⟩
    have record : (Exchange.ofBlobs ⟨.append blob r.encode, .ok ()⟩).logged w.logged
        = w.logged ++ [r] := by
      rw [← readings_encode r]
      rfl
    rw [said, List.map_append, replay_append, replay_of_silent silent]
    exact Eq.trans more record.symm

end ReadingLog

end HatchSensor
