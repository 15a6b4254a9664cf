import DetachedTasks.Proofs.StreamRuns

/-!
# Offsets that may be any word

The offset of a handle is read from a file that anybody may have written, so it may be any
word.  Both stores bring it into range before they take a step that is not defined for every
number: in memory it is brought back to the end of the content before a slice is taken, and in
a tree it is compared with the size before a place is gone to and room is made.

A copy leaves the offset as it is, or it adds the length of what it has handed on.  It reads
nothing past the end of the log, so the sum stands at the end of a log that is short enough to
be counted.  So no sum wraps around, and the offset of a handle never goes back.
-/

namespace DetachedTasks

open Sandbox

/-! ## Reading from an offset on -/

/-- In a file that is not too long to be counted, a place is refused exactly if the system
does not count it. -/
theorem Posix.Reader.seek_file
    {content : Bytes}
    (short : content.length < 2 ^ 63)
    (place : UInt64) :
    (Posix.Reader.file content).seek place =
      if place.toNat ≤ Posix.furthestPlace then .ok place.toNat
      else .error .invalidArgument := by
  have counted : content.length ≤ Posix.furthestPlace := Nat.le_pred_of_lt short
  rw [seek, size, Nat.max_eq_right counted]

/-- What a store owes to whoever reads a content from an offset on. -/
structure ReadsExactly
    (content : Bytes)
    (offset : UInt64) : Prop where
  /-- In memory no slice begins past the end. -/
  inMemory : Memory.restFrom content offset = .ok (content.drop offset.toNat)
  /-- In a tree no difference lies below zero, and no place is refused. -/
  inTree : ∀ path,
    (Posix.Reader.file content).restFrom path offset = .ok (.ok (content.drop offset.toNat))
  /-- Only a place that the system does not count is refused at all. -/
  seeks : ∀ place, (Posix.Reader.file content).seek place =
    if place.toNat ≤ Posix.furthestPlace then .ok place.toNat else .error .invalidArgument
  /-- The system counts every offset inside the content. -/
  counted : offset.toNat < content.length → offset.toNat ≤ Posix.furthestPlace
  /-- The answer is the content without what lies before the offset, and nothing changes. -/
  answered : ∀ (storage : Storage) (path : Path),
    storage.look path = some (.file content) →
      storage.answer (.readFrom path offset) = (.ok (content.drop offset.toNat), storage)
  /-- At or past the end nothing is left to read. -/
  past : content.length ≤ offset.toNat → ∀ (storage : Storage) (path : Path),
    storage.look path = some (.file content) →
      (storage.answer (.readFrom path offset)).1 = .ok []

theorem Posix.Reader.restFrom_file
    (content : Bytes)
    (path : Path)
    (offset : UInt64) :
    (Posix.Reader.file content).restFrom path offset =
      .ok (.ok (content.drop offset.toNat)) := by
  rcases Nat.lt_or_ge offset.toNat (file content).size with inside | past
  · rw [restFrom_of_lt inside]
    rfl
  · rw [restFrom_of_le past]
    exact congrArg (Except.ok ∘ Except.ok) (List.drop_eq_nil_of_le past).symm

theorem readsExactly
    {content : Bytes}
    (short : content.length < 2 ^ 63)
    (offset : UInt64) :
    ReadsExactly content offset where
  inMemory := Memory.restFrom_eq content offset
  inTree := fun path => Posix.Reader.restFrom_file content path offset
  seeks := Posix.Reader.seek_file short
  counted := fun inside => Nat.le_trans (Nat.le_of_lt inside) (Nat.le_pred_of_lt short)
  answered := by
    intro storage path isFile
    exact Prod.ext (Storage.answer_readFrom_file isFile offset)
      (storage.answer_readFrom_snd path offset)
  past := by
    intro past storage path isFile
    rw [Storage.answer_readFrom_file isFile, List.drop_eq_nil_of_le past]

/-! ## Offsets of attempts -/

namespace Attempt

variable {origin last : Nat} {attempt : Attempt} {attempts : List Attempt}

/-- What a sink is handed is as long as the offset moves. -/
theorem Faithful.next_eq
    (faithful : attempt.Faithful) :
    attempt.next =
      attempt.offset + (if attempt.succeeded then attempt.received else []).length := by
  rw [next]
  by_cases succeeded : attempt.succeeded = true
  · have beforeEnd := succeeded
    simp only [Attempt.succeeded, Bool.and_eq_true, decide_eq_true_eq] at beforeEnd
    rw [if_pos succeeded, if_pos succeeded, faithful.whole succeeded, List.length_drop,
      Nat.add_sub_cancel' (Nat.le_of_lt beforeEnd.1)]
  · rw [if_neg succeeded, if_neg succeeded]
    rfl

/-- A chain ends as far from its origin as there was handed on. -/
theorem Chained.eq_add_delivered
    (chained : Chained origin attempts last)
    (faithful : ∀ attempt ∈ attempts, attempt.Faithful) :
    last = origin + (Attempt.delivered attempts).length := by
  induction chained with
  | start => rfl
  | attempt before inductionHypothesis =>
      rename_i attempt earlier
      have sofar := inductionHypothesis
        fun other member => faithful other (List.mem_cons_of_mem _ member)
      rw [(faithful attempt List.mem_cons_self).next_eq, Attempt.delivered,
        List.length_append, ← Nat.add_assoc, ← sofar]

/-- The offsets of a chain lie between its ends. -/
theorem Chained.offset_mem
    (chained : Chained origin attempts last)
    (member : attempt ∈ attempts) :
    origin ≤ attempt.offset ∧ attempt.offset ≤ last := by
  induction chained with
  | start => exact absurd member List.not_mem_nil
  | attempt before inductionHypothesis =>
      rcases List.mem_cons.mp member with rfl | isEarlier
      · exact ⟨before.le, offset_le_next _⟩
      · obtain ⟨above, below⟩ := inductionHypothesis isEarlier
        exact ⟨above, Nat.le_trans below (offset_le_next _)⟩

theorem not_succeeded_of_past
    (past : attempt.log.length ≤ attempt.offset) :
    attempt.succeeded = false := by
  rw [Attempt.succeeded, decide_eq_false (Nat.not_lt.mpr past), Bool.false_and]

end Attempt

/-! ## Offsets of calls -/

/-- What a call that streams the log does to the offset. -/
structure Call.Advances (call : Call) : Prop where
  /-- The sum of an offset and the length of what was read from there is a word. -/
  sums : ∀ attempt ∈ call.attempts,
    attempt.offset + (attempt.log.drop attempt.offset).length ≤ 2 ^ 64 - 1
  /-- The offset has moved by what was handed on, and by nothing else. -/
  moves : call.after = call.before + (Attempt.delivered call.attempts).length
  /-- It never goes back. -/
  grows : call.before ≤ call.after
  /-- At or past the end of the log nothing is copied, and the offset stays. -/
  stays : call.logAfter.length ≤ call.before →
    call.after = call.before ∧ call.progressed = false ∧
      ∀ attempt ∈ call.attempts, attempt.received = []

theorem Call.Faithful.advances
    {call : Call}
    (faithful : call.Faithful)
    (isWord : call.after < 2 ^ 64)
    (short : call.logAfter.length < 2 ^ 63) :
    call.Advances where
  sums := by
    intro attempt member
    have offsetIsWord := (faithful.chained.offset_mem member).2
    have inLog := (faithful.inLog attempt member).length_le
    rw [List.length_drop]
    omega
  moves := faithful.chained.eq_add_delivered faithful.attempts
  grows := faithful.chained.le
  stays := by
    intro past
    have allPast : ∀ attempt ∈ call.attempts, attempt.log.length ≤ attempt.offset := by
      intro attempt member
      exact Nat.le_trans (faithful.inLog attempt member).length_le
        (Nat.le_trans past (faithful.chained.offset_mem member).1)
    have nothing : call.progressed = false := by
      rw [Bool.eq_false_iff]
      intro progressed
      obtain ⟨attempt, member, succeeded⟩ := faithful.tells.mp progressed
      rw [Attempt.not_succeeded_of_past (allPast attempt member)] at succeeded
      cases succeeded
    exact ⟨faithful.still nothing, nothing,
      fun attempt member => (faithful.attempts attempt member).received_of_past
        (allPast attempt member)⟩

/-! ## Offsets of runs -/

namespace Stream

variable {workspace : Workspace} {first : Handle} {stream next : Stream}

/-- A controller that goes on with any handle, on any files. -/
def attach
    (handle : Handle)
    (storage : Storage) : Stream :=
  { storage
    handle
    origin := handle.logOffset.toNat
    attempts := []
    calls := []
    saved := [] }

/-- What holds of the offset at every moment of a run, wherever it began. -/
structure Counts
    (first : Handle)
    (stream : Stream) : Prop where
  owned : Owned first stream
  chained : Attempt.Chained stream.origin stream.attempts stream.handle.logOffset.toNat
  attempts : ∀ attempt ∈ stream.attempts, attempt.Faithful
  calls : ∀ call ∈ stream.calls, call.Advances

theorem counts_attach
    (handle : Handle)
    (storage : Storage) :
    Counts handle (attach handle storage) where
  owned := ⟨⟨rfl, rfl⟩, fun _ member => absurd member List.not_mem_nil⟩
  chained := .start
  attempts := fun _ member => absurd member List.not_mem_nil
  calls := fun _ member => absurd member List.not_mem_nil

theorem Called.counts
    (called : Called workspace stream next)
    (counts : Counts first stream)
    (short : (next.log workspace first).length < 2 ^ 63) :
    Counts first next := by
  have sameLog : stream.handle.logFile workspace = first.logFile workspace :=
    counts.owned.handle.logFile
  rw [log, ← sameLog] at short
  obtain ⟨call, calls, attempts, origin, _, before, after, logAfter, faithful⟩ :=
    called.exists_faithful (Nat.lt_trans short (by decide))
  have advances : call.Advances := by
    refine faithful.advances ?_ (logAfter ▸ short)
    rw [after]
    exact next.handle.logOffset.toNat_lt
  have chained := faithful.chained
  rw [before, after] at chained
  refine ⟨called.owned counts.owned, ?_, ?_, ?_⟩
  · rw [origin, attempts]
    exact counts.chained.append chained
  · intro attempt member
    rw [attempts] at member
    rcases List.mem_append.mp member with new | old
    · exact faithful.attempts attempt new
    · exact counts.attempts attempt old
  · intro other member
    rw [calls] at member
    rcases List.mem_cons.mp member with rfl | old
    · exact advances
    · exact counts.calls other old

/-- One move keeps all of it. -/
theorem Counts.step
    (counts : Counts first stream)
    (move : Move)
    (short : ((stream.step workspace move).log workspace first).length < 2 ^ 63) :
    Counts first (stream.step workspace move) := by
  have owned : Owned first (stream.step workspace move) := counts.owned.step move
  cases move with
  | act deed => exact ⟨owned, counts.chained, counts.attempts, counts.calls⟩
  | copy turns moods => exact (called_copy workspace stream turns moods).counts counts short
  | poll turns moods => exact (called_poll workspace stream turns moods).counts counts short
  | write => exact ⟨owned, counts.chained, counts.attempts, counts.calls⟩
  | restart index =>
      rcases counts.owned.restart_cases index with same | ⟨handle, twin, resumed⟩
      · rw [same]
        exact counts
      · rw [resumed]
        exact ⟨⟨twin, counts.owned.saved⟩, .start,
          fun _ member => absurd member List.not_mem_nil, counts.calls⟩

/-- So does a whole run. -/
theorem Counts.run
    (counts : Counts first stream)
    (moves : List Move)
    (short : ((stream.run workspace moves).log workspace first).length < 2 ^ 63) :
    Counts first (stream.run workspace moves) := by
  induction moves generalizing stream with
  | nil => exact counts
  | cons move moves inductionHypothesis =>
      have later :
          (stream.step workspace move).log workspace first <+:
            (stream.run workspace (move :: moves)).log workspace first :=
        (counts.owned.step move).log_prefix_run moves
      have shortNow := Nat.lt_of_le_of_lt later.length_le short
      exact inductionHypothesis (counts.step move shortNow) short

/-- Whatever word an offset is, both stores read exactly what lies behind it, and no run of
copies, polls and restarts lets an offset wrap around or go back. -/
theorem run_keeps_offset_exact :
    (∀ (content : Bytes) (offset : UInt64),
      content.length < 2 ^ 63 → ReadsExactly content offset) ∧
      ∀ (workspace : Workspace) (handle : Handle) (storage : Storage) (moves : List Move),
        let stream := (attach handle storage).run workspace moves
        (stream.log workspace handle).length < 2 ^ 63 →
          stream.handle.logOffset.toNat =
              stream.origin + (Attempt.delivered stream.attempts).length ∧
            ∀ call ∈ stream.calls, call.Advances := by
  refine ⟨fun content offset short => readsExactly short offset, ?_⟩
  intro workspace handle storage moves stream short
  have counts := (counts_attach handle storage).run moves short
  exact ⟨counts.chained.eq_add_delivered counts.attempts, counts.calls⟩

/-- The greatest word. -/
def farthest : UInt64 := 18446744073709551615

/-- A tree in which a file holds three bytes. -/
def sampleTree : Storage :=
  (Storage.tree (Posix.new (Path.ofText "/w".toList))).act
    (.addFile (Path.ofText "/w/log".toList) [0x61, 0x62, 0x63])

/-- A handle that was written by hand, with a log of two bytes in memory. -/
def strayStart : Stream :=
  let handle : Handle :=
    { id := "durable-00000001".toList, capturing := false, logOffset := farthest }
  attach handle (.inMemory
    (Memory.new.addFile (handle.logFile ⟨Path.ofText "/w".toList⟩) [0x61, 0x62]))

/-- The log grows between two requests of a copy, and once more before a poll cycle. -/
def strayMoves : List Move :=
  [.copy [[], [.log [0x63]]] [], .act (.log [0x64]), .poll [] []]

theorem run_keeps_offset_exact_sample :
    sampleTree.look (Path.ofText "/w/log".toList) = some (.file [0x61, 0x62, 0x63]) ∧
      (Posix.Reader.file [0x61, 0x62, 0x63]).seek farthest = .error .invalidArgument ∧
      ReadsExactly [0x61, 0x62, 0x63] farthest ∧
      (sampleTree.answer (.readFrom (Path.ofText "/w/log".toList) farthest)).1 = .ok [] ∧
      ((strayStart.run ⟨Path.ofText "/w".toList⟩ strayMoves).calls.map fun call =>
          (call.after, call.logAfter.length, call.progressed)) =
        [(2 ^ 64 - 1, 4, false), (2 ^ 64 - 1, 3, false)] ∧
      (strayStart.run ⟨Path.ofText "/w".toList⟩ strayMoves).handle.logOffset.toNat =
        (strayStart.run ⟨Path.ofText "/w".toList⟩ strayMoves).origin +
          (Attempt.delivered
            (strayStart.run ⟨Path.ofText "/w".toList⟩ strayMoves).attempts).length ∧
      ∀ call ∈ (strayStart.run ⟨Path.ofText "/w".toList⟩ strayMoves).calls,
        call.Advances := by
  have stands :
      sampleTree.look (Path.ofText "/w/log".toList) = some (.file [0x61, 0x62, 0x63]) := by
    decide +kernel
  have exactly : ReadsExactly [0x61, 0x62, 0x63] farthest :=
    run_keeps_offset_exact.1 _ _ (by decide)
  have short :
      ((strayStart.run ⟨Path.ofText "/w".toList⟩ strayMoves).log
        ⟨Path.ofText "/w".toList⟩ strayStart.handle).length < 2 ^ 63 := by decide +kernel
  exact ⟨stands, by decide +kernel, exactly, exactly.past (by decide) _ _ stands,
    by decide +kernel,
    run_keeps_offset_exact.2 _ strayStart.handle strayStart.storage strayMoves short⟩

end Stream

end DetachedTasks
