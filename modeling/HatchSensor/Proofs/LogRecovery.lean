import HatchSensor.Proofs.AppendCourse
import HatchSensor.Proofs.Undisturbed

/-!
# The log after a power failure

Whatever bytes the log is made of, and wherever an append comes to its end, the readings that are
read afterwards are the old ones, with the new one behind them exactly if the append has reported
success.  `Attempt` lists the ends: the append returns, it is cut off between two requests, or the
power fails while the record is being added and leaves a part of it.  A restart needs no mending,
because the next append cuts a torn record off before it adds its own.

`log_recovers` says this of one append to any blobs, and of every history of appends to a log that
was empty at first.
-/

namespace HatchSensor

open Program

/-! ## What is read from a store -/

namespace BlobMap

variable {α β : Type} {refuses : BlobRequest → Prop} {m : BlobMap} {p : BlobProgram α} {a : α}

/-- The program reads `a` from the blobs: it can give `a`, it gives nothing else unless a request is
refused, and it changes no blob. -/
structure Yields (refuses : BlobRequest → Prop) (m : BlobMap) (p : BlobProgram α) (a : α) : Prop where
  possible : ∃ d, Returns (Answers refuses) p.run m d (.ok a) m
  only {d : Dialogue Blobs} {y : Stored α} {m' : BlobMap}
    (returned : Returns (Answers refuses) p.run m d y m') :
    m' = m ∧ (y = .ok a ∨ (∃ request, refuses request) ∧ ∃ e, y = .error e)

lemma yields_read (name : String) : Yields refuses m (Blob.read name) (m.get? name) := by
  constructor
  · exact returns_of_perform rfl
  · intro d y m' returned
    obtain ⟨-, answered⟩ := returns_request.mp returned
    obtain ⟨rfl, rfl | ⟨no, failed⟩⟩ := answers_read.mp answered
    · exact ⟨rfl, Or.inl rfl⟩
    · exact ⟨rfl, Or.inr ⟨⟨_, no⟩, failed⟩⟩

lemma yields_size (name : String) :
    Yields refuses m (Blob.size name) ((m.get? name).getD []).length := by
  constructor
  · exact returns_of_perform rfl
  · intro d y m' returned
    obtain ⟨-, answered⟩ := returns_request.mp returned
    obtain ⟨rfl, rfl | ⟨no, failed⟩⟩ := answers_size.mp answered
    · exact ⟨rfl, Or.inl rfl⟩
    · exact ⟨rfl, Or.inr ⟨⟨_, no⟩, failed⟩⟩

/-- What is made of a value that was read. -/
lemma Yields.map (h : Yields refuses m p a) (f : α → β) :
    Yields refuses m (p >>= fun x => pure (f x)) (f a) := by
  constructor
  · obtain ⟨d, returned⟩ := h.possible
    refine ⟨d ++ [], ?_⟩
    rw [ExceptT.run_bind]
    exact returns_bind.mpr ⟨d, .ok a, m, [], rfl, returned, .rest _ _⟩
  · intro d y m' returned
    rw [ExceptT.run_bind] at returned
    obtain ⟨d₁, x, u, d₂, -, first, last⟩ := returns_bind.mp returned
    obtain ⟨rfl, rfl | ⟨no, e, rfl⟩⟩ := h.only first
    · obtain ⟨-, rfl, rfl⟩ := returns_done.mp last
      exact ⟨rfl, Or.inl rfl⟩
    · obtain ⟨-, rfl, rfl⟩ := returns_done.mp last
      exact ⟨rfl, Or.inr ⟨no, e, rfl⟩⟩

end BlobMap

namespace ReadingLog

variable {refuses : BlobRequest → Prop} {r : Reading} {m m' : BlobMap} {l : List Reading}
  {outcome : Option (Stored Unit)}

/-- The bytes of the log; a log that is missing is empty. -/
def content (m : BlobMap) : Bytes := (m.get? blob).getD []

/-- All readings are read, but no torn record. -/
lemma yields_readAll (refuses : BlobRequest → Prop) (m : BlobMap) :
    m.Yields refuses readAll (readings (content m)) :=
  (BlobMap.yields_read blob).map fun content => readings (content.getD [])

/-- They are counted without being read. -/
lemma yields_total (refuses : BlobRequest → Prop) (m : BlobMap) :
    m.Yields refuses total (readings (content m)).length := by
  rw [length_readings]
  exact (BlobMap.yields_size blob).map fun size => size / Reading.recordSize

/-! ## One append -/

/-- A store keeps the log. -/
lemma keeping_content : Keeping (BlobMap.Answers refuses) content where
  read answered := by
    obtain ⟨rfl, rfl | ⟨-, e, rfl⟩⟩ := BlobMap.answers_read.mp answered
    · exact ⟨rfl, fun content same => congrArg (·.getD []) (Except.ok.inj same).symm⟩
    · exact ⟨rfl, nofun⟩
  size answered := by
    obtain ⟨rfl, rfl | ⟨-, e, rfl⟩⟩ := BlobMap.answers_size.mp answered
    · exact ⟨rfl, fun size same => (Except.ok.inj same).symm⟩
    · exact ⟨rfl, nofun⟩
  write answered := by
    rcases BlobMap.answers_write.mp answered with ⟨rfl, rfl⟩ | ⟨-, failed, rfl⟩
    · refine Or.inl ⟨rfl, ?_⟩
      rw [content, BlobMap.get?_put_self, Option.getD_some]
    · exact Or.inr ⟨failed, rfl⟩
  append answered := by
    rcases BlobMap.answers_append.mp answered with ⟨rfl, rfl⟩ | ⟨-, failed, rfl⟩
    · refine Or.inl ⟨rfl, ?_⟩
      rw [content, BlobMap.get?_put_self, Option.getD_some, content]
    · exact Or.inr ⟨failed, rfl⟩

/-- How adding `r` to the log in `m` may end, and the blobs it leaves.  The outcome is what the append
has returned, or nothing if the power has failed. -/
inductive Attempt (refuses : BlobRequest → Prop) (r : Reading) (m : BlobMap) :
    Option (Stored Unit) → BlobMap → Prop
  /-- The append is over. -/
  | returned {d : Dialogue Blobs} {y : Stored Unit} {m' : BlobMap}
      (h : Returns (BlobMap.Answers refuses) (append r).run m d y m') :
      Attempt refuses r m (some y) m'
  /-- The power fails before a request. -/
  | cut {d : Dialogue Blobs} {request : BlobRequest} {m' : BlobMap}
      (h : Asks (BlobMap.Answers refuses) (append r).run m d request m') :
      Attempt refuses r m none m'
  /-- The power fails while bytes are being added to a blob, and not all of them have been. -/
  | torn {d : Dialogue Blobs} {name : String} {bytes : Bytes} {m' : BlobMap}
      (h : Asks (BlobMap.Answers refuses) (append r).run m d (.append name bytes) m') {n : Nat}
      (fewer : n < bytes.length) :
      Attempt refuses r m none (m'.put name ((m'.get? name).getD [] ++ bytes.take n))

/-- A part of a record is not read. -/
lemma readings_torn {old piece : Bytes} (whole : old.length % Reading.recordSize = 0)
    (torn : piece.length < Reading.recordSize) : readings (old ++ piece) = readings old := by
  rw [readings_append _ whole, readings_eq_nil torn, List.append_nil]

/-- An append that has reported success has added its reading and left whole records. -/
lemma Attempt.added (h : Attempt refuses r m (some (.ok ())) m') :
    readings (content m') = readings (content m) ++ [r] ∧
      (content m').length % Reading.recordSize = 0 := by
  cases h with
  | returned h =>
    cases course_of_append keeping_content h with
    | added more whole _ _ => exact ⟨more, whole⟩

/-- Every other append has left the readings as they were. -/
lemma Attempt.missed (h : Attempt refuses r m outcome m') (unsaid : outcome ≠ some (.ok ())) :
    readings (content m') = readings (content m) := by
  cases h with
  | returned h =>
    cases course_of_append keeping_content h with
    | failed same _ => exact same
    | added => exact absurd rfl unsaid
  | cut h =>
    obtain ⟨k, reached⟩ := h
    cases course_of_append keeping_content reached with
    | pending same _ _ => exact same
  | @torn d name bytes u h n fewer =>
    obtain ⟨k, reached⟩ := h
    cases course_of_append keeping_content reached with
    | pending same _ aligned =>
      obtain ⟨rfl, rfl, whole⟩ := aligned _ _ rfl
      have short : (r.encode.take n).length < Reading.recordSize := by
        rw [Reading.length_encode] at fewer
        exact Nat.lt_of_le_of_lt (List.length_take_le _ _) fewer
      rw [content, BlobMap.get?_put_self, Option.getD_some]
      exact (readings_torn whole short).trans same

/-- Whatever is in the log, an append may succeed. -/
lemma exists_added (refuses : BlobRequest → Prop) (r : Reading) (m : BlobMap) :
    ∃ m', Attempt refuses r m (some (.ok ())) m' := by
  have succeeds : (BlobMap.perform (append r).run m).1 = .ok () := by
    have measured : BlobMap.perform (append r).run m = BlobMap.perform
        (trim (content m).length >>= fun _ => Blob.append blob r.encode).run m := rfl
    rw [measured]
    by_cases whole : (content m).length % Reading.recordSize = 0
    · rw [trim_of_whole whole]
      rfl
    · rw [trim_of_torn whole]
      rfl
  obtain ⟨d, returned⟩ := BlobMap.returns_of_perform (Prod.ext succeeds rfl)
  exact ⟨_, .returned returned⟩

/-! ## Any number of appends -/

/-- The blobs that appends lead to from an empty log, and the readings whose append has reported
success, oldest first. -/
inductive History (refuses : BlobRequest → Prop) : BlobMap → List Reading → Prop
  | empty {m : BlobMap} (nothing : content m = []) : History refuses m []
  /-- An append has reported success. -/
  | added {m m' : BlobMap} {l : List Reading} {r : Reading} (past : History refuses m l)
      (attempt : Attempt refuses r m (some (.ok ())) m') : History refuses m' (l ++ [r])
  /-- An append has reported an error, or nothing. -/
  | missed {m m' : BlobMap} {l : List Reading} {r : Reading} {outcome : Option (Stored Unit)}
      (past : History refuses m l) (attempt : Attempt refuses r m outcome m')
      (unsaid : outcome ≠ some (.ok ())) : History refuses m' l
  /-- The device has restarted, or other blobs have been changed. -/
  | passed {m m' : BlobMap} {l : List Reading} (past : History refuses m l)
      (untouched : m'.get? blob = m.get? blob) : History refuses m' l

/-- The log is the history. -/
lemma History.readings_eq (h : History refuses m l) : readings (content m) = l := by
  induction h with
  | empty nothing =>
    rw [nothing]
    rfl
  | added _ attempt ih => rw [attempt.added.1, ih]
  | missed _ attempt unsaid ih => rw [attempt.missed unsaid, ih]
  | passed _ untouched ih => rw [content, untouched, ← content, ih]

/-- The log may be any bytes.  Its readings are counted as they are read; an append that reports
success, as every append may, has added its reading behind the others, with every bit in its place,
and leaves whole records; and an append that reports an error, or that a power failure has cut off or
torn, has changed no reading.  So the readings of a log that was empty at first are those whose
append has reported success, in that order. -/
theorem log_recovers (refuses : BlobRequest → Prop) :
    (∀ m : BlobMap, ∃ l : List Reading,
      m.Yields refuses readAll l ∧ m.Yields refuses total l.length ∧
      ∀ r : Reading,
        (∃ m', Attempt refuses r m (some (.ok ())) m') ∧
        (∀ m', Attempt refuses r m (some (.ok ())) m' →
          m'.Yields refuses readAll (l ++ [r]) ∧ (content m').length % 20 = 0) ∧
        ∀ m' outcome, Attempt refuses r m outcome m' → outcome ≠ some (.ok ()) →
          m'.Yields refuses readAll l) ∧
    ∀ (m : BlobMap) (l : List Reading), History refuses m l → m.Yields refuses readAll l := by
  constructor
  · intro m
    refine ⟨_, yields_readAll refuses m, yields_total refuses m, fun r => ⟨?_, ?_, ?_⟩⟩
    · exact exists_added refuses r m
    · intro m' attempt
      obtain ⟨more, whole⟩ := attempt.added
      rw [← more]
      exact ⟨yields_readAll refuses m', whole⟩
    · intro m' outcome attempt unsaid
      rw [← attempt.missed unsaid]
      exact yields_readAll refuses m'
  · intro m l past
    rw [← past.readings_eq]
    exact yields_readAll refuses m

/-- A reading whose temperature is not a number. -/
def oddReading : Reading := ⟨1, ⟨0x7fc01234⟩, ⟨0x42480000⟩, ⟨0x47c5e680⟩, ⟨0x47435000⟩⟩

/-- The log with that reading and seven bytes of the next one. -/
def tornLog : BlobMap :=
  (BlobMap.empty.put blob oddReading.encode).put blob
    (oddReading.encode ++ { oddReading with time := 2 }.encode.take 7)

/-- The power fails while a second reading is being added; the third is found behind the first. -/
theorem torn_log_recovers :
    (content tornLog).length = 27 ∧ History (fun _ => False) tornLog [oddReading] ∧
      tornLog.Yields (fun _ => False) readAll [oddReading] ∧
      ∃ m, Attempt (fun _ => False) { oddReading with time := 3 } tornLog (some (.ok ())) m ∧
        m.Yields (fun _ => False) readAll [oddReading, { oddReading with time := 3 }] := by
  let whole := BlobMap.empty.put blob oddReading.encode
  have first : Attempt (fun _ => False) oddReading .empty (some (.ok ())) whole := by
    obtain ⟨d, returned⟩ := BlobMap.returns_of_perform
      (show BlobMap.perform (append oddReading).run .empty = (.ok (), whole) from rfl)
    exact .returned returned
  have second : Attempt (fun _ => False) { oddReading with time := 2 } whole none tornLog := by
    have asks : Asks (BlobMap.Answers fun _ => False) (append { oddReading with time := 2 }).run
        whole [⟨.size blob, .ok 20⟩] (.append blob { oddReading with time := 2 }.encode) whole :=
      ⟨_, .ask (Or.inl ⟨rfl, rfl⟩) (.rest _ _)⟩
    have seven : 7 < { oddReading with time := 2 }.encode.length := by
      rw [Reading.length_encode]
      decide
    exact .torn asks seven
  have past : History (fun _ => False) tornLog [oddReading] :=
    .missed (.added (.empty rfl) first) second nofun
  have read := (log_recovers fun _ => False).2 tornLog _ past
  obtain ⟨l, -, -, each⟩ := (log_recovers fun _ => False).1 tornLog
  obtain ⟨⟨m, third⟩, -⟩ := each { oddReading with time := 3 }
  have later : History (fun _ => False) m [oddReading, { oddReading with time := 3 }] :=
    .added past third
  exact ⟨rfl, past, read, m, third, (log_recovers fun _ => False).2 m _ later⟩

end ReadingLog

end HatchSensor
