import Multimaster.Node.Defs

/-!
# What survives a crash

`Safe` collects what holds of the storage of a node between any two statements:
the counters on disk are ordered, everything ever shown to other nodes is
covered by the state file, promises given with a vote are kept, and the WAL
carries `ParallelSafe` before the prepares of its generation.  Memory does not
occur in it, so statements that only touch memory keep it for free.
-/

namespace Multimaster
namespace Node

open Generation

/-! ## The counters of a node -/

/-- The three generation numbers of a node. -/
inductive Counter
  | currentGenNum
  | lastOnlineIn
  | lastVoteNum
  deriving DecidableEq

/-- The value of a counter in a state. -/
def Counter.read (state : MtmStateOnDisk n) : Counter → ℕ
  | .currentGenNum => state.currentGen.num
  | .lastOnlineIn => state.lastOnlineIn
  | .lastVoteNum => state.lastVote.num

@[simp] theorem Counter.read_currentGenNum (state : MtmStateOnDisk n) :
    Counter.currentGenNum.read state = state.currentGen.num := rfl

@[simp] theorem Counter.read_lastOnlineIn (state : MtmStateOnDisk n) :
    Counter.lastOnlineIn.read state = state.lastOnlineIn := rfl

@[simp] theorem Counter.read_lastVoteNum (state : MtmStateOnDisk n) :
    Counter.lastVoteNum.read state = state.lastVote.num := rfl

/-- Every counter of the first state is at most that of the second. -/
def Below (first second : MtmStateOnDisk n) : Prop :=
  ∀ counter : Counter, counter.read first ≤ counter.read second

/-- The value of a counter that an event shows to other nodes.  A granted vote
shows that the last vote is the requested one; fields of a response that are
zero were not set. -/
def Event.shows : Event n → Counter → Option ℕ
  | .heartbeat currentGen _ _, .currentGenNum => some currentGen.num
  | .heartbeat _ _ lastOnlineIn, .lastOnlineIn => some lastOnlineIn
  | .heartbeat _ _ _, .lastVoteNum => none
  | .voteResponse _ response, .currentGenNum =>
      if response.currGen.num = 0 then none else some response.currGen.num
  | .voteResponse _ response, .lastOnlineIn =>
      if response.voteOk then some response.lastOnlineIn else none
  | .voteResponse request response, .lastVoteNum =>
      if response.voteOk then some request.num
      else if response.lastVoteNum = 0 then none
      else some response.lastVoteNum
  | .parallelSafeLogged gen, .currentGenNum => some gen.num
  | .parallelSafeLogged gen, .lastOnlineIn => some gen.num
  | .parallelSafeLogged _, .lastVoteNum => none
  | .lastOnlineInSet _, _ => none

/-- The values of a counter shown so far, oldest first. -/
def shownValues (counter : Counter) (trace : List (Event n)) : List ℕ :=
  trace.filterMap fun event => event.shows counter

/-- After a granted vote for `request` with `last_online_in` reported as `l`,
no assignment of a number strictly between `l` and the requested one. -/
def KeepsPromise : Event n → Event n → Prop
  | .voteResponse request response, .lastOnlineInSet num =>
      response.voteOk = true →
        ¬ (response.lastOnlineIn < num ∧ num < request.num)
  | _, _ => True

/-! ## The order of the WAL -/

/-- The generation of a `ParallelSafe` record without replication origin. -/
def Record.ownParallelSafe : Record n → Option ℕ
  | .parallelSafe gen _ none => some gen.num
  | _ => none

/-- The generation of a `PREPARE` made by a backend or applied in normal
mode. -/
def Record.normalPrepare : Record n → Option ℕ
  | .prepare genNum .backend => some genNum
  | .prepare genNum .applyNormal => some genNum
  | _ => none

/-- Normal prepares come after `ParallelSafe` of their generation, and not
after that of a later one. -/
structure ParallelSafeOrdered (wal : List (Record n)) : Prop where
  preceded : ∀ before record after num,
    wal = before ++ record :: after →
    record.normalPrepare = some num →
    ∃ earlier ∈ before, earlier.ownParallelSafe = some num
  unfollowed : wal.Pairwise fun earlier later =>
    ∀ safeNum num, earlier.ownParallelSafe = some safeNum →
      later.normalPrepare = some num → safeNum ≤ num

namespace ParallelSafeOrdered

theorem nil : ParallelSafeOrdered ([] : List (Record n)) := by
  refine ⟨?_, List.Pairwise.nil⟩
  intro before record after num split
  simp at split

/-- Appending a record that respects the order. -/
theorem append
    {wal : List (Record n)}
    (ordered : ParallelSafeOrdered wal)
    (record : Record n)
    (respects : ∀ num, record.normalPrepare = some num →
      (∃ earlier ∈ wal, earlier.ownParallelSafe = some num) ∧
      ∀ earlier ∈ wal, ∀ safeNum,
        earlier.ownParallelSafe = some safeNum → safeNum ≤ num) :
    ParallelSafeOrdered (wal ++ [record]) := by
  constructor
  · intro before found after num split isNormal
    rcases List.append_eq_append_iff.mp split with
      ⟨extra, beforeEq, lastEq⟩ | ⟨extra, walEq, tailEq⟩
    · cases extra with
      | nil =>
          simp only [List.append_nil] at beforeEq
          simp only [List.nil_append, List.cons.injEq] at lastEq
          rw [beforeEq]
          exact (respects num (lastEq.1 ▸ isNormal)).1
      | cons head tail => simp at lastEq
    · cases extra with
      | nil =>
          simp only [List.append_nil] at walEq
          simp only [List.nil_append, List.cons.injEq] at tailEq
          rw [← walEq]
          exact (respects num (tailEq.1.symm ▸ isNormal)).1
      | cons head tail =>
          simp only [List.cons_append, List.cons.injEq] at tailEq
          rw [← tailEq.1] at walEq
          exact ordered.preceded before found tail num walEq isNormal
  · rw [List.pairwise_append]
    refine ⟨ordered.unfollowed, List.pairwise_singleton _ _, ?_⟩
    intro earlier member later isLast safeNum num isSafe isNormal
    rw [List.mem_singleton] at isLast
    subst isLast
    exact (respects num isNormal).2 earlier member safeNum isSafe

/-- Every prefix of an ordered WAL is ordered. -/
theorem take
    {wal : List (Record n)}
    (ordered : ParallelSafeOrdered wal)
    (length : ℕ) :
    ParallelSafeOrdered (wal.take length) := by
  constructor
  · intro before record after num split isNormal
    apply ordered.preceded before record (after ++ wal.drop length) num
      ?_ isNormal
    rw [← List.cons_append, ← List.append_assoc, ← split,
      List.take_append_drop]
  · exact ordered.unfollowed.sublist (List.take_sublist _ _)

end ParallelSafeOrdered

/-- `ParallelSafe` of the generation is in the durable part of the WAL. -/
def Storage.Durable (s : Storage n) (num : ℕ) : Prop :=
  ∃ record ∈ s.wal.take s.flushed, record.ownParallelSafe = some num

/-- A state may be on disk: if it says that `ParallelSafe` of the generation it
is online in was logged, then it was. -/
def Storage.MayBeSaved (s : Storage n) (state : MtmStateOnDisk n) : Prop :=
  state.psLogged = true → state.lastOnlineIn = state.currentGen.num →
    s.Durable state.currentGen.num

/-! ## The invariant -/

/-- What holds of the storage between any two statements. -/
structure Safe (s : Storage n) : Prop where
  fileOrdered : Ordered s.file
  filePositive : 0 < s.file.currentGen.num
  renamedAbove : ∀ state, s.renamed = some state →
    Ordered state ∧ Below s.file state ∧ s.MayBeSaved state
  shown : ∀ event ∈ s.trace, ∀ counter value,
    event.shows counter = some value → value ≤ counter.read s.file
  monotone : ∀ counter, (shownValues counter s.trace).Pairwise (· ≤ ·)
  promises : s.trace.Pairwise KeepsPromise
  walBelow : ∀ record ∈ s.wal, ∀ num,
    record.ownParallelSafe = some num → num ≤ s.file.currentGen.num
  walOrdered : ParallelSafeOrdered s.wal
  flushedLength : s.flushed ≤ s.wal.length
  logged : s.MayBeSaved s.file

theorem Storage.Durable.mem
    {s : Storage n} {num : ℕ}
    (durable : s.Durable num) :
    ∃ record ∈ s.wal, record.ownParallelSafe = some num := by
  obtain ⟨record, member, isSafe⟩ := durable
  exact ⟨record, List.mem_of_mem_take member, isSafe⟩

/-- Durability survives an extension of the WAL and of its flushed part. -/
theorem Storage.Durable.extend
    {s t : Storage n} {num : ℕ}
    (durable : s.Durable num)
    (extended : s.wal <+: t.wal)
    (flushed : s.flushed ≤ t.flushed) :
    t.Durable num := by
  obtain ⟨record, member, isSafe⟩ := durable
  refine ⟨record, ?_, isSafe⟩
  have prefixTake : s.wal.take s.flushed <+: t.wal.take t.flushed :=
    (extended.take s.flushed).trans (List.take_prefix_take_left flushed)
  exact prefixTake.subset member

namespace Safe

variable {s : Storage n}

/-- Memory, the temporary file and the session are not part of the invariant. -/
theorem of_same
    {t : Storage n}
    (safe : Safe s)
    (file : t.file = s.file)
    (renamed : t.renamed = s.renamed)
    (wal : t.wal = s.wal)
    (flushed : t.flushed = s.flushed)
    (trace : t.trace = s.trace) :
    Safe t := by
  have durable : ∀ num, s.Durable num → t.Durable num := by
    intro num known
    exact known.extend (by rw [wal]) (by rw [flushed])
  exact {
    fileOrdered := file ▸ safe.fileOrdered
    filePositive := file ▸ safe.filePositive
    renamedAbove := by
      intro state isRenamed
      rw [renamed] at isRenamed
      obtain ⟨ordered, below, saved⟩ := safe.renamedAbove state isRenamed
      exact ⟨ordered, file ▸ below,
        fun isLogged online => durable _ (saved isLogged online)⟩
    shown := by rw [file, trace]; exact safe.shown
    monotone := by rw [trace]; exact safe.monotone
    promises := by rw [trace]; exact safe.promises
    walBelow := by rw [file, wal]; exact safe.walBelow
    walOrdered := by rw [wal]; exact safe.walOrdered
    flushedLength := by rw [wal, flushed]; exact safe.flushedLength
    logged := by
      rw [file]
      exact fun isLogged online => durable _ (safe.logged isLogged online) }

/-- Showing current values, or assigning `last_online_in` within the promises
given. -/
theorem emit
    (safe : Safe s)
    (event : Event n)
    (current : ∀ counter value, event.shows counter = some value →
      value = counter.read s.file)
    (keeps : ∀ earlier ∈ s.trace, KeepsPromise earlier event) :
    Safe { s with trace := s.trace ++ [event] } where
  fileOrdered := safe.fileOrdered
  filePositive := safe.filePositive
  renamedAbove := safe.renamedAbove
  shown := by
    intro shownEvent member counter value shows
    rcases List.mem_append.mp member with old | new
    · exact safe.shown shownEvent old counter value shows
    · rw [List.mem_singleton] at new
      subst new
      exact le_of_eq (current counter value shows)
  monotone := by
    intro counter
    unfold shownValues
    rw [List.filterMap_append, List.pairwise_append]
    refine ⟨safe.monotone counter, ?_, ?_⟩
    · cases shows : event.shows counter <;> simp [shows]
    · intro earlier earlierMember later laterMember
      obtain ⟨earlierEvent, inTrace, earlierShows⟩ :=
        List.mem_filterMap.mp earlierMember
      obtain ⟨laterEvent, isLast, laterShows⟩ :=
        List.mem_filterMap.mp laterMember
      rw [List.mem_singleton] at isLast
      subst isLast
      rw [current counter later laterShows]
      exact safe.shown earlierEvent inTrace counter earlier earlierShows
  promises := by
    rw [List.pairwise_append]
    refine ⟨safe.promises, List.pairwise_singleton _ _, ?_⟩
    intro earlier member later isLast
    rw [List.mem_singleton] at isLast
    subst isLast
    exact keeps earlier member
  walBelow := safe.walBelow
  walOrdered := safe.walOrdered
  flushedLength := safe.flushedLength
  logged := safe.logged

/-- Appending a record to the WAL, and flushing any part of it. -/
theorem appendRecord
    (safe : Safe s)
    (record : Record n)
    (flushed : ℕ)
    (grows : s.flushed ≤ flushed)
    (bounded : flushed ≤ s.wal.length + 1)
    (below : ∀ num, record.ownParallelSafe = some num →
      num ≤ s.file.currentGen.num)
    (respects : ∀ num, record.normalPrepare = some num →
      num = s.file.currentGen.num ∧
      ∃ earlier ∈ s.wal, earlier.ownParallelSafe = some num) :
    Safe { s with wal := s.wal ++ [record], flushed := flushed } := by
  have durable : ∀ num, s.Durable num →
      Storage.Durable
        { s with wal := s.wal ++ [record], flushed := flushed } num := by
    intro num known
    exact known.extend (List.prefix_append _ _) grows
  exact {
    fileOrdered := safe.fileOrdered
    filePositive := safe.filePositive
    renamedAbove := by
      intro state isRenamed
      obtain ⟨ordered, above, saved⟩ := safe.renamedAbove state isRenamed
      exact ⟨ordered, above,
        fun isLogged online => durable _ (saved isLogged online)⟩
    shown := safe.shown
    monotone := safe.monotone
    promises := safe.promises
    walBelow := by
      intro found member num isSafe
      rcases List.mem_append.mp member with old | new
      · exact safe.walBelow found old num isSafe
      · rw [List.mem_singleton] at new
        subst new
        exact below num isSafe
    walOrdered := by
      apply safe.walOrdered.append
      intro num isNormal
      obtain ⟨isCurrent, present⟩ := respects num isNormal
      refine ⟨present, ?_⟩
      intro earlier member safeNum isSafe
      rw [isCurrent]
      exact safe.walBelow earlier member safeNum isSafe
    flushedLength := by simpa using bounded
    logged := fun isLogged online => durable _ (safe.logged isLogged online) }

/-- Flushing the whole WAL. -/
theorem flush (safe : Safe s) : Safe { s with flushed := s.wal.length } := by
  have durable : ∀ num, s.Durable num →
      Storage.Durable { s with flushed := s.wal.length } num := by
    intro num known
    exact known.extend (List.prefix_refl _) safe.flushedLength
  exact {
    fileOrdered := safe.fileOrdered
    filePositive := safe.filePositive
    renamedAbove := by
      intro state isRenamed
      obtain ⟨ordered, above, saved⟩ := safe.renamedAbove state isRenamed
      exact ⟨ordered, above,
        fun isLogged online => durable _ (saved isLogged online)⟩
    shown := safe.shown
    monotone := safe.monotone
    promises := safe.promises
    walBelow := safe.walBelow
    walOrdered := safe.walOrdered
    flushedLength := le_refl _
    logged := fun isLogged online => durable _ (safe.logged isLogged online) }

/-- Renaming a state that may be saved over the state file. -/
theorem rename
    (safe : Safe s)
    (state : MtmStateOnDisk n)
    (ordered : Ordered state)
    (above : Below s.file state)
    (saved : s.MayBeSaved state) :
    Safe { s with renamed := some state, tmp := none } where
  fileOrdered := safe.fileOrdered
  filePositive := safe.filePositive
  renamedAbove := by
    intro other isRenamed
    cases isRenamed
    exact ⟨ordered, above, saved⟩
  shown := safe.shown
  monotone := safe.monotone
  promises := safe.promises
  walBelow := safe.walBelow
  walOrdered := safe.walOrdered
  flushedLength := safe.flushedLength
  logged := safe.logged

/-- Moving the durable state file up to a state with larger counters. -/
theorem replaceFile
    (safe : Safe s)
    (state : MtmStateOnDisk n)
    (ordered : Ordered state)
    (above : Below s.file state)
    (saved : s.MayBeSaved state) :
    Safe { s with file := state, renamed := none } where
  fileOrdered := ordered
  filePositive := lt_of_lt_of_le safe.filePositive (above .currentGenNum)
  renamedAbove := by
    intro other isRenamed
    cases isRenamed
  shown := by
    intro event member counter value shows
    exact le_trans (safe.shown event member counter value shows)
      (above counter)
  monotone := safe.monotone
  promises := safe.promises
  walBelow := by
    intro record member num isSafe
    exact le_trans (safe.walBelow record member num isSafe)
      (above .currentGenNum)
  walOrdered := safe.walOrdered
  flushedLength := safe.flushedLength
  logged := saved

/-- Syncing the directory. -/
theorem sync (safe : Safe s) :
    Safe { s with file := s.renamed.getD s.file, renamed := none } := by
  cases isRenamed : s.renamed with
  | none =>
      exact safe.replaceFile s.file safe.fileOrdered (fun _ => le_refl _)
        safe.logged
  | some state =>
      obtain ⟨ordered, above, saved⟩ := safe.renamedAbove state isRenamed
      exact safe.replaceFile state ordered above saved

/-- A crash. -/
theorem crash
    (safe : Safe s)
    (keepRenamed : Bool) (keep : ℕ) :
    Safe (crashStorage keepRenamed keep s) := by
  have fileSafe : Safe
      { s with
        file := if keepRenamed then s.renamed.getD s.file else s.file
        renamed := none } := by
    cases keepRenamed with
    | true => exact safe.sync
    | false =>
        exact safe.replaceFile s.file safe.fileOrdered (fun _ => le_refl _)
          safe.logged
  have durable : ∀ num, s.Durable num →
      (crashStorage keepRenamed keep s).Durable num := by
    intro num known
    obtain ⟨record, member, isSafe⟩ := known
    refine ⟨record, ?_, isSafe⟩
    simp only [crashStorage, List.take_length]
    exact (List.take_prefix_take_left (Nat.le_add_right _ _)).subset member
  exact {
    fileOrdered := fileSafe.fileOrdered
    filePositive := fileSafe.filePositive
    renamedAbove := by
      intro state isRenamed
      cases isRenamed
    shown := fileSafe.shown
    monotone := fileSafe.monotone
    promises := fileSafe.promises
    walBelow := by
      intro record member num isSafe
      exact fileSafe.walBelow record (List.mem_of_mem_take member) num isSafe
    walOrdered := safe.walOrdered.take _
    flushedLength := le_refl _
    logged := by
      intro isLogged online
      exact durable _ (fileSafe.logged isLogged online) }

end Safe

theorem safe_initialNode (n : ℕ) : Safe (initialNode n).storage where
  fileOrdered := ordered_mtmStateCreate n
  filePositive := Nat.one_pos
  renamedAbove := by
    intro state isRenamed
    cases isRenamed
  shown := by
    intro event member
    cases member
  monotone := fun _ => List.Pairwise.nil
  promises := List.Pairwise.nil
  walBelow := by
    intro record member
    cases member
  walOrdered := ParallelSafeOrdered.nil
  flushedLength := le_refl 0
  logged := by
    intro isLogged
    cases isLogged

end Node
end Multimaster
