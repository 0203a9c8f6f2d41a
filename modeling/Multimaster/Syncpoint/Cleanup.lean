import Multimaster.Syncpoint.Replica

/-!
# The cleanup keeps what anyone needs

A node deletes only rows before one that is not beyond the progress of any
receiver, as far as it knows; the receivers are at least that far.  So a copy
that follows the deletions still has what its own node translates to.
-/

namespace Multimaster
namespace Syncpoint

variable {Node : Type*} [DecidableEq Node]

/-- A row is not beyond the latest own syncpoint of any receiver. -/
def State.Passed
    (state : State Node) (nodes : List Node) (row : Row Node) : Prop :=
  ∀ receiver ∈ nodes, receiver ≠ row.origin →
    ∀ latest ∈ (state.table receiver).latestSyncpoint nodes receiver
      row.origin,
      row.originLsn ≤ latest

/-- Nothing a node has registered is beyond its latest own row. -/
def State.Reached (state : State Node) : Prop :=
  ∀ node, ∀ row ∈ state.registered node,
    ∃ kept ∈ state.table node, kept.receiver = node ∧
      kept.origin = row.origin ∧ row.originLsn ≤ kept.originLsn

/-- The invariant of the copies. -/
structure Invariant (nodes : List Node) (state : State Node) : Prop where
  /-- A copy has the rows of a node after some of its transactions. -/
  copied : ∀ copy node row, row.receiver = node →
    (row ∈ state.table copy ↔
      row ∈ replay ((state.log node).take (state.applied copy node)))
  bounded : ∀ copy node, state.applied copy node ≤ (state.log node).length
  upToDate : ∀ node, state.applied node node = (state.log node).length
  own : ∀ node, ∀ transaction ∈ state.log node, transaction.Of node
  cluster : ∀ node, ∀ row ∈ state.registered node,
    node ∈ nodes ∧ row.origin ∈ nodes ∧ row.origin ≠ node
  ordered : ∀ node, ∀ row ∈ state.registered node,
    ∀ later ∈ state.registered node, row.origin = later.origin →
    row.originLsn ≤ later.originLsn → row.receiverLsn ≤ later.receiverLsn
  reached : state.Reached
  /-- A deleted row is before one that is left and that everyone has passed. -/
  spared : ∀ node index transaction,
    (state.log node)[index]? = some transaction →
    ∀ row ∈ transaction.deleted,
      ∃ kept ∈ replay ((state.log node).take (index + 1)),
        kept.receiver = node ∧ kept.origin = row.origin ∧
          row.originLsn ≤ kept.originLsn ∧ state.Passed nodes kept

variable {nodes : List Node} {state : State Node}

/-- Every row of a copy was registered by its receiver. -/
theorem Invariant.registered
    (invariant : Invariant nodes state) {copy : Node} {row : Row Node}
    (isRow : row ∈ state.table copy) :
    row ∈ state.registered row.receiver := by
  have replayed := (invariant.copied copy row.receiver row rfl).mp isRow
  have inserted := mem_inserted_of_mem_replay replayed
  obtain ⟨transaction, isTransaction, isInserted⟩ :=
    List.mem_filterMap.mp inserted
  exact List.mem_filterMap.mpr
    ⟨transaction, List.mem_of_mem_take isTransaction, isInserted⟩

/-- A view of the progress of a receiver is not beyond its progress. -/
theorem State.Reached.latest_le
    (reached : state.Reached) {table : Table Node}
    (known : ∀ row ∈ table, row ∈ state.registered row.receiver)
    {receiver origin : Node} {seen latest : ℕ}
    (isSeen : table.latestSyncpoint nodes receiver origin = some seen)
    (isLatest : (state.table receiver).latestSyncpoint nodes receiver origin =
      some latest) :
    seen ≤ latest := by
  rcases latestSyncpoint_eq_zero_or isSeen with isZero | found
  · omega
  · obtain ⟨row, isRow, isReceiver, isOrigin, rfl⟩ := found
    have isRegistered := known row isRow
    rw [isReceiver] at isRegistered
    obtain ⟨kept, isKept, keptReceiver, keptOrigin, bounded⟩ :=
      reached receiver row isRegistered
    exact bounded.trans (le_latestSyncpoint isLatest isKept keptReceiver
      (keptOrigin.trans isOrigin))

/-- A translation stays, or moves ahead, when its row or a newer one that is not
beyond the progress of the node is in the new table. -/
theorem Invariant.translated_of_mem
    (invariant : Invariant nodes state)
    {node origin emitter : Node} {latest : ℕ}
    (isLatest : (state.table node).latestSyncpoint nodes node origin =
      some latest)
    {row kept : Row Node}
    (isRegistered : row ∈ state.registered emitter)
    (isOrigin : row.origin = origin)
    (isKept : kept ∈ state.table node)
    (keptEmitter : kept.receiver = emitter) (keptOrigin : kept.origin = origin)
    (newer : row.originLsn ≤ kept.originLsn)
    (bounded : kept.originLsn ≤ latest) :
    ∃ found, state.translated nodes node origin emitter = some found ∧
      row.receiverLsn ≤ found.receiverLsn := by
  obtain ⟨found, isFound, atLeast⟩ :=
    exists_translateSyncpoint isKept keptEmitter keptOrigin bounded
  obtain ⟨inTable, foundEmitter, foundOrigin, _, _⟩ :=
    translateSyncpoint_spec isFound
  have foundRegistered := invariant.registered inTable
  rw [foundEmitter] at foundRegistered
  refine ⟨found, ?_, ?_⟩
  · rw [State.translated, isLatest]
    exact isFound
  · exact invariant.ordered emitter row isRegistered found foundRegistered
      (isOrigin.trans foundOrigin.symm) (newer.trans atLeast)

/-! ## Commits -/

/-- What a node may insert: the next syncpoint of an origin, if anything. -/
def State.Next
    (state : State Node) (nodes : List Node) (node : Node)
    (inserted : Option (Row Node)) : Prop :=
  ∀ row ∈ inserted,
    row.receiver = node ∧ node ∈ nodes ∧ row.origin ∈ nodes ∧
      row.origin ≠ node ∧
      ∀ old ∈ state.registered node, old.origin = row.origin →
        old.originLsn < row.originLsn ∧ old.receiverLsn ≤ row.receiverLsn

section Commit

variable {node : Node} {transaction : Transaction Node}

@[simp] theorem table_commit_self :
    (state.commit node transaction).table node =
      (state.table node).apply transaction := by
  simp [State.commit]

theorem table_commit_of_ne {other : Node} (different : other ≠ node) :
    (state.commit node transaction).table other = state.table other := by
  simp [State.commit, different]

@[simp] theorem log_commit_self :
    (state.commit node transaction).log node =
      state.log node ++ [transaction] := by
  simp [State.commit]

theorem log_commit_of_ne {other : Node} (different : other ≠ node) :
    (state.commit node transaction).log other = state.log other := by
  simp [State.commit, different]

@[simp] theorem applied_commit_self :
    (state.commit node transaction).applied node node =
      state.applied node node + 1 := by
  simp [State.commit]

theorem applied_commit_of_ne {copy other : Node}
    (different : copy ≠ node ∨ other ≠ node) :
    (state.commit node transaction).applied copy other =
      state.applied copy other := by
  by_cases isNode : copy = node
  · subst isNode
    have otherNode : other ≠ copy := different.resolve_left (by simp)
    simp [State.commit, otherNode]
  · simp [State.commit, isNode]

theorem mem_registered_commit {other : Node} {row : Row Node} :
    row ∈ (state.commit node transaction).registered other ↔
      row ∈ state.registered other ∨
        (other = node ∧ transaction.inserted = some row) := by
  by_cases isNode : other = node
  · subst isNode
    simp [State.registered]
  · simp [State.registered, log_commit_of_ne isNode, isNode]

/-- The rows of a node in a copy, after a commit. -/
theorem Invariant.copied_commit
    (invariant : Invariant nodes state) (isOf : transaction.Of node)
    {copy other : Node} {row : Row Node} (isRow : row.receiver = other) :
    row ∈ (state.commit node transaction).table copy ↔
      row ∈ replay (((state.commit node transaction).log other).take
        ((state.commit node transaction).applied copy other)) := by
  by_cases isNode : other = node
  · subst isNode
    by_cases isCopy : copy = other
    · subst isCopy
      have copied := invariant.copied copy copy
      rw [invariant.upToDate, List.take_length] at copied
      rw [table_commit_self, log_commit_self, applied_commit_self,
        invariant.upToDate, List.take_of_length_le (by simp), replay_concat]
      exact mem_apply_congr copied isRow
    · rw [table_commit_of_ne isCopy, log_commit_self,
        applied_commit_of_ne (Or.inl isCopy),
        List.take_append_of_le_length (invariant.bounded copy other)]
      exact invariant.copied copy other row isRow
  · rw [log_commit_of_ne isNode, applied_commit_of_ne (Or.inr isNode),
      ← invariant.copied copy other row isRow]
    by_cases isCopy : copy = node
    · subst isCopy
      rw [table_commit_self]
      exact mem_apply_of_ne isOf (fun same => isNode (isRow.symm.trans same))
    · rw [table_commit_of_ne isCopy]

/-- Nothing a node has registered is beyond its latest own row, after it
commits. -/
theorem Invariant.reached_commit
    (invariant : Invariant nodes state)
    {inserted : Option (Row Node)} (locked : Table Node)
    (next : state.Next nodes node inserted) :
    (state.commit node
      ((state.table node).transaction nodes node inserted locked)).Reached := by
  intro other row isRegistered
  by_cases isNode : other = node
  · subst isNode
    rw [table_commit_self]
    have inTable : ∃ found ∈ (state.table other).insertOf ⟨inserted, []⟩,
        found.receiver = other ∧ found.origin = row.origin ∧
          row.originLsn ≤ found.originLsn := by
      rcases mem_registered_commit.mp isRegistered with isOld | ⟨_, isNew⟩
      · obtain ⟨kept, isKept, same⟩ := invariant.reached other row isOld
        exact ⟨kept, mem_insertOf.mpr (Or.inl isKept), same⟩
      · obtain ⟨found, isFound, foundReceiver, foundOrigin, foundLsn⟩ :=
          exists_mem_insertOf
            (show (⟨inserted, []⟩ : Transaction Node).inserted = some row
              from isNew)
        exact ⟨found, isFound, foundReceiver.trans (next row isNew).1,
          foundOrigin, foundLsn.ge⟩
    obtain ⟨found, isFound, foundReceiver, foundOrigin, newer⟩ := inTable
    obtain ⟨kept, isKept, keptReceiver, keptOrigin, bounded⟩ :=
      exists_mem_apply_of_own isFound foundReceiver
    exact ⟨kept, isKept, keptReceiver, keptOrigin.trans foundOrigin,
      newer.trans bounded⟩
  · rw [table_commit_of_ne isNode]
    have isOld := (mem_registered_commit.mp isRegistered).resolve_right
      (fun isNew => isNode isNew.1)
    exact invariant.reached other row isOld

/-- Progress is kept when a state knows all that an earlier one knew. -/
theorem State.Passed.mono
    {later : State Node} {row : Row Node}
    (passed : state.Passed nodes row) (reached : later.Reached)
    (known : ∀ copy, ∀ other ∈ state.table copy,
      other ∈ later.registered other.receiver) :
    later.Passed nodes row := by
  intro receiver isReceiver different latest isLatest
  obtain ⟨seen, isSeen⟩ :=
    exists_latestSyncpoint_of_latest (state.table receiver) isLatest
  exact (passed receiver isReceiver different seen isSeen).trans
    (reached.latest_le (known receiver) isSeen isLatest)

/-- Rows deleted by a commit are before one that is left and that everyone has
passed. -/
theorem Invariant.spared_commit_last
    (invariant : Invariant nodes state)
    {inserted : Option (Row Node)} {locked : Table Node}
    (next : state.Next nodes node inserted)
    {row : Row Node}
    (isDeleted : row ∈ ((state.table node).transaction nodes node inserted
      locked).deleted) :
    ∃ kept ∈ (state.table node).apply
        ((state.table node).transaction nodes node inserted locked),
      kept.receiver = node ∧ kept.origin = row.origin ∧
        row.originLsn ≤ kept.originLsn ∧
        (state.commit node ((state.table node).transaction nodes node inserted
          locked)).Passed nodes kept := by
  have reached := invariant.reached_commit locked next
  obtain ⟨_, ⟨oldest, kept, isOldest, isKept, below⟩, _⟩ :=
    outdated_spec (mem_outdated_of_mem_deleted isDeleted)
  obtain ⟨inTable, keptOwn, keptOrigin, bounded, _⟩ :=
    translateSyncpoint_spec isKept
  have notDeleted : kept ∉ ((state.table node).transaction nodes node inserted
      locked).deleted := by
    intro keptDeleted
    obtain ⟨_, ⟨sameOldest, same, isSameOldest, isSame, keptBelow⟩, _⟩ :=
      outdated_spec (mem_outdated_of_mem_deleted keptDeleted)
    rw [keptOrigin, isOldest] at isSameOldest
    cases isSameOldest
    rw [keptOrigin, isKept] at isSame
    cases isSame
    exact absurd keptBelow (Nat.lt_irrefl _)
  refine ⟨kept, mem_apply.mpr ⟨inTable, notDeleted⟩, keptOwn, keptOrigin,
    Nat.le_of_lt below, ?_⟩
  intro receiver isReceiver different latest isLatest
  rw [keptOrigin] at isLatest
  obtain ⟨seen, isSeen⟩ := exists_latestSyncpoint_of_latest
    ((state.table node).insertOf ⟨inserted, []⟩) isLatest
  have known : ∀ other ∈ (state.table node).insertOf ⟨inserted, []⟩,
      other ∈ (state.commit node ((state.table node).transaction nodes node
        inserted locked)).registered other.receiver := by
    intro other isOther
    rw [mem_registered_commit]
    rcases mem_insertOf.mp isOther with isOld | ⟨isNew, _⟩
    · exact Or.inl (invariant.registered isOld)
    · exact Or.inr ⟨(next other isNew).1, isNew⟩
  exact bounded.trans ((oldestSyncpoint_le isOldest isReceiver isSeen).trans
    (reached.latest_le known isSeen isLatest))

/-- A commit keeps what every state before it knew. -/
theorem Invariant.known_commit
    (invariant : Invariant nodes state) (transaction : Transaction Node)
    {copy : Node} {row : Row Node} (isRow : row ∈ state.table copy) :
    row ∈ (state.commit node transaction).registered row.receiver :=
  mem_registered_commit.mpr (Or.inl (invariant.registered isRow))

/-- Deleted rows of all transactions are before ones that are left and that
everyone has passed, after a commit. -/
theorem Invariant.spared_commit
    (invariant : Invariant nodes state)
    {inserted : Option (Row Node)} {locked : Table Node}
    (next : state.Next nodes node inserted)
    {other : Node} {index : ℕ} {transaction : Transaction Node}
    (atIndex : ((state.commit node ((state.table node).transaction nodes node
      inserted locked)).log other)[index]? = some transaction)
    {row : Row Node} (isDeleted : row ∈ transaction.deleted) :
    ∃ kept ∈ replay (((state.commit node ((state.table node).transaction nodes
        node inserted locked)).log other).take (index + 1)),
      kept.receiver = other ∧ kept.origin = row.origin ∧
        row.originLsn ≤ kept.originLsn ∧
        (state.commit node ((state.table node).transaction nodes node inserted
          locked)).Passed nodes kept := by
  have reached := invariant.reached_commit locked next
  -- an earlier transaction: the others have only got further since
  have earlier : (state.log other)[index]? = some transaction →
      ∃ kept ∈ replay ((state.log other).take (index + 1)),
        kept.receiver = other ∧ kept.origin = row.origin ∧
          row.originLsn ≤ kept.originLsn ∧
          (state.commit node ((state.table node).transaction nodes node
            inserted locked)).Passed nodes kept := by
    intro atOld
    obtain ⟨kept, isKept, keptOwn, keptOrigin, newer, passed⟩ :=
      invariant.spared other index transaction atOld row isDeleted
    exact ⟨kept, isKept, keptOwn, keptOrigin, newer,
      passed.mono reached fun _ _ isRow => invariant.known_commit _ isRow⟩
  by_cases isNode : other = node
  · subst isNode
    rw [log_commit_self] at atIndex ⊢
    rcases Nat.lt_or_ge index (state.log other).length with isOld | isLast
    · rw [List.getElem?_append_left isOld] at atIndex
      rw [List.take_append_of_le_length isOld]
      exact earlier atIndex
    · rw [List.getElem?_append_right isLast,
        List.getElem?_singleton] at atIndex
      split at atIndex
      · cases atIndex
        obtain ⟨kept, isKept, keptOwn, rest⟩ :=
          invariant.spared_commit_last next isDeleted
        have copied := invariant.copied other other
        rw [invariant.upToDate, List.take_length] at copied
        rw [List.take_of_length_le (by simp; omega), replay_concat]
        exact ⟨kept, (mem_apply_congr copied keptOwn).mp isKept, keptOwn, rest⟩
      · cases atIndex
  · rw [log_commit_of_ne isNode] at atIndex ⊢
    exact earlier atIndex

/-- The invariant after a commit. -/
theorem Invariant.commit
    (invariant : Invariant nodes state)
    {inserted : Option (Row Node)} (locked : Table Node)
    (next : state.Next nodes node inserted) :
    Invariant nodes (state.commit node
      ((state.table node).transaction nodes node inserted locked)) := by
  have isOf : ((state.table node).transaction nodes node inserted locked).Of
      node :=
    transaction_of fun row isNew => (next row isNew).1
  have reached := invariant.reached_commit locked next
  constructor
  · intro copy other row isRow
    exact invariant.copied_commit isOf isRow
  · intro copy other
    have bounded := invariant.bounded copy other
    by_cases isNode : other = node
    · subst isNode
      by_cases isCopy : copy = other
      · subst isCopy
        simpa using bounded
      · rw [applied_commit_of_ne (Or.inl isCopy), log_commit_self,
          List.length_append]
        omega
    · rw [applied_commit_of_ne (Or.inr isNode), log_commit_of_ne isNode]
      exact bounded
  · intro other
    have upToDate := invariant.upToDate other
    by_cases isNode : other = node
    · subst isNode
      simpa using upToDate
    · rw [applied_commit_of_ne (Or.inr isNode), log_commit_of_ne isNode]
      exact upToDate
  · intro other transaction isTransaction
    by_cases isNode : other = node
    · subst isNode
      rw [log_commit_self, List.mem_append, List.mem_singleton] at isTransaction
      rcases isTransaction with isOld | rfl
      · exact invariant.own other transaction isOld
      · exact isOf
    · rw [log_commit_of_ne isNode] at isTransaction
      exact invariant.own other transaction isTransaction
  · intro other row isRegistered
    rcases mem_registered_commit.mp isRegistered with isOld | ⟨rfl, isNew⟩
    · exact invariant.cluster other row isOld
    · obtain ⟨_, isMember, originMember, different, _⟩ := next row isNew
      exact ⟨isMember, originMember, different⟩
  · intro other row isRegistered later laterRegistered sameOrigin le
    rcases mem_registered_commit.mp isRegistered with isOld | ⟨rfl, isNew⟩
    · rcases mem_registered_commit.mp laterRegistered with
        laterOld | ⟨rfl, laterNew⟩
      · exact invariant.ordered other row isOld later laterOld sameOrigin le
      · exact ((next later laterNew).2.2.2.2 row isOld sameOrigin).2
    · rcases mem_registered_commit.mp laterRegistered with
        laterOld | ⟨_, laterNew⟩
      · obtain ⟨newer, -⟩ :=
          (next row isNew).2.2.2.2 later laterOld sameOrigin.symm
        omega
      · have same : row = later := Option.some.inj (isNew.symm.trans laterNew)
        rw [same]
  · exact reached
  · intro other index transaction atIndex row isDeleted
    exact invariant.spared_commit next atIndex isDeleted

end Commit

/-! ## Replication -/

section Replicate

variable {receiver sender : Node} {transaction : Transaction Node}

/-- The state after the next transaction of the sender is applied. -/
theorem replicate_eq
    (atNext : (state.log sender)[state.applied receiver sender]? =
      some transaction) :
    state.replicate receiver sender =
      { state with
        table := Function.update state.table receiver
          ((state.table receiver).apply transaction)
        applied := Function.update state.applied receiver
          (Function.update (state.applied receiver) sender
            (state.applied receiver sender + 1)) } := by
  simp only [State.replicate, atNext]

/-- The rows of a node in a copy, after it is brought up to date by one
transaction. -/
theorem Invariant.copied_replicate
    (invariant : Invariant nodes state)
    (atNext : (state.log sender)[state.applied receiver sender]? =
      some transaction)
    {copy node : Node} {row : Row Node} (isRow : row.receiver = node) :
    row ∈ (state.replicate receiver sender).table copy ↔
      row ∈ replay (((state.replicate receiver sender).log node).take
        ((state.replicate receiver sender).applied copy node)) := by
  have isOf := invariant.own sender transaction (List.mem_of_getElem? atNext)
  rw [replicate_eq atNext]
  by_cases isCopy : copy = receiver
  · subst isCopy
    by_cases isSender : node = sender
    · subst isSender
      simp only [Function.update_self]
      rw [List.take_add_one, atNext, Option.toList_some, replay_concat]
      exact mem_apply_congr (invariant.copied copy node) isRow
    · simp only [Function.update_self, Function.update_of_ne isSender]
      rw [mem_apply_of_ne isOf (fun same => isSender (isRow.symm.trans same))]
      exact invariant.copied copy node row isRow
  · simp only [Function.update_of_ne isCopy]
    exact invariant.copied copy node row isRow

theorem mem_table_replicate_of_ne
    (invariant : Invariant nodes state)
    (atNext : (state.log sender)[state.applied receiver sender]? =
      some transaction)
    {copy : Node} {row : Row Node} (different : row.receiver ≠ sender) :
    row ∈ (state.replicate receiver sender).table copy ↔
      row ∈ state.table copy := by
  have isOf := invariant.own sender transaction (List.mem_of_getElem? atNext)
  rw [replicate_eq atNext]
  by_cases isCopy : copy = receiver
  · subst isCopy
    simp only [Function.update_self]
    exact mem_apply_of_ne isOf different
  · simp only [Function.update_of_ne isCopy]

/-- The invariant after replication. -/
theorem Invariant.replicate
    (invariant : Invariant nodes state)
    (different : receiver ≠ sender)
    (atNext : (state.log sender)[state.applied receiver sender]? =
      some transaction) :
    Invariant nodes (state.replicate receiver sender) := by
  have sameLog : (state.replicate receiver sender).log = state.log := by
    rw [replicate_eq atNext]
  have sameRegistered :
      (state.replicate receiver sender).registered = state.registered := by
    funext node
    rw [State.registered, sameLog, State.registered]
  have reached : (state.replicate receiver sender).Reached := by
    intro node row isRegistered
    rw [sameRegistered] at isRegistered
    obtain ⟨kept, isKept, keptOwn, rest⟩ :=
      invariant.reached node row isRegistered
    refine ⟨kept, ?_, keptOwn, rest⟩
    by_cases isSender : node = sender
    · subst isSender
      rw [replicate_eq atNext]
      simpa only [Function.update_of_ne different.symm] using isKept
    · exact (mem_table_replicate_of_ne invariant atNext
        (fun same => isSender (keptOwn.symm.trans same))).mpr isKept
  constructor
  · intro copy node row isRow
    exact invariant.copied_replicate atNext isRow
  · intro copy node
    have isNext := (List.getElem?_eq_some_iff.mp atNext).1
    have bounded := invariant.bounded copy node
    rw [sameLog, replicate_eq atNext]
    by_cases isCopy : copy = receiver
    · subst isCopy
      by_cases isSender : node = sender
      · subst isSender
        simp only [Function.update_self]
        exact isNext
      · simpa only [Function.update_self, Function.update_of_ne isSender]
          using bounded
    · simpa only [Function.update_of_ne isCopy] using bounded
  · intro node
    have upToDate := invariant.upToDate node
    rw [sameLog, replicate_eq atNext]
    by_cases isCopy : node = receiver
    · subst isCopy
      simpa only [Function.update_self, Function.update_of_ne different]
        using upToDate
    · simpa only [Function.update_of_ne isCopy] using upToDate
  · rw [sameLog]
    exact invariant.own
  · rw [sameRegistered]
    exact invariant.cluster
  · rw [sameRegistered]
    exact invariant.ordered
  · exact reached
  · intro node index other atIndex row isDeleted
    rw [sameLog] at atIndex ⊢
    obtain ⟨kept, isKept, keptOwn, keptOrigin, newer, passed⟩ :=
      invariant.spared node index other atIndex row isDeleted
    refine ⟨kept, isKept, keptOwn, keptOrigin, newer, passed.mono reached ?_⟩
    intro copy found isFound
    rw [sameRegistered]
    exact invariant.registered isFound

end Replicate

/-! ## Translations -/

/-- A translation is a registered row that is not beyond the latest syncpoint of
the node. -/
theorem Invariant.translated_spec
    (invariant : Invariant nodes state)
    {node origin emitter : Node} {row : Row Node}
    (found : state.translated nodes node origin emitter = some row) :
    row ∈ state.table node ∧ row.receiver = emitter ∧ row.origin = origin ∧
      row ∈ state.registered emitter ∧
      ∃ seen, (state.table node).latestSyncpoint nodes node origin =
        some seen ∧ row.originLsn ≤ seen := by
  unfold State.translated at found
  cases isSeen : (state.table node).latestSyncpoint nodes node origin with
  | none =>
      rw [isSeen] at found
      cases found
  | some seen =>
      rw [isSeen] at found
      obtain ⟨inTable, isEmitter, isOrigin, bounded, _⟩ :=
        translateSyncpoint_spec found
      have isRegistered := invariant.registered inTable
      rw [isEmitter] at isRegistered
      exact ⟨inTable, isEmitter, isOrigin, isRegistered, seen, rfl, bounded⟩

/-- Every translation of the first state has one in the second that is not
behind it. -/
def Follows
    (nodes : List Node) (state later : State Node) : Prop :=
  ∀ node origin emitter row,
    state.translated nodes node origin emitter = some row →
    ∃ found, later.translated nodes node origin emitter = some found ∧
      row.receiverLsn ≤ found.receiverLsn

theorem Invariant.follows_commit
    (invariant : Invariant nodes state) {committer : Node}
    {inserted : Option (Row Node)} (locked : Table Node)
    (next : state.Next nodes committer inserted) :
    Follows nodes state (state.commit committer
      ((state.table committer).transaction nodes committer inserted
        locked)) := by
  intro node origin emitter row found
  have later := invariant.commit locked next
  by_cases isCommitter : node = committer
  · subst isCommitter
    obtain ⟨inTable, isEmitter, isOrigin, isRegistered, seen, isSeen, bounded⟩ :=
      invariant.translated_spec found
    have laterRegistered : row ∈ (state.commit node ((state.table
        node).transaction nodes node inserted locked)).registered emitter :=
      mem_registered_commit.mpr (Or.inl isRegistered)
    obtain ⟨latest, isLatest⟩ := exists_latestSyncpoint_of_latest
      ((state.commit node ((state.table node).transaction nodes node inserted
        locked)).table node) isSeen
    have progress : seen ≤ latest :=
      later.reached.latest_le (fun _ isRow => invariant.known_commit _ isRow)
        isSeen isLatest
    by_cases isOwn : emitter = node
    · -- the latest own row is never deleted
      subst isOwn
      obtain ⟨kept, isKept, keptOwn, keptOrigin, newer⟩ :=
        later.reached emitter row laterRegistered
      exact later.translated_of_mem isLatest laterRegistered isOrigin isKept
        keptOwn (keptOrigin.trans isOrigin) newer
        (le_latestSyncpoint isLatest isKept keptOwn
          (keptOrigin.trans isOrigin))
    · have stays : row ∈ (state.commit node ((state.table node).transaction
          nodes node inserted locked)).table node := by
        rw [table_commit_self]
        exact (mem_apply_of_ne (transaction_of fun new isNew =>
          (next new isNew).1)
          (fun same => isOwn (isEmitter.symm.trans same))).mpr inTable
      exact later.translated_of_mem isLatest laterRegistered isOrigin stays
        isEmitter isOrigin le_rfl (bounded.trans progress)
  · refine ⟨row, ?_, le_rfl⟩
    rw [State.translated, table_commit_of_ne isCommitter]
    exact found

theorem Invariant.follows_replicate
    (invariant : Invariant nodes state) {receiver sender : Node}
    (different : receiver ≠ sender) {transaction : Transaction Node}
    (atNext : (state.log sender)[state.applied receiver sender]? =
      some transaction) :
    Follows nodes state (state.replicate receiver sender) := by
  intro node origin emitter row found
  have later := invariant.replicate different atNext
  by_cases isReceiver : node = receiver
  · subst isReceiver
    obtain ⟨inTable, isEmitter, isOrigin, isRegistered, seen, isSeen, bounded⟩ :=
      invariant.translated_spec found
    have sameRegistered :
        (state.replicate node sender).registered = state.registered := by
      rw [replicate_eq atNext]
      rfl
    obtain ⟨latest, isLatest⟩ := exists_latestSyncpoint_of_latest
      ((state.replicate node sender).table node) isSeen
    have progress : seen ≤ latest :=
      later.reached.latest_le
        (fun _ isRow => sameRegistered ▸ invariant.registered isRow)
        isSeen isLatest
    rw [← sameRegistered] at isRegistered
    by_cases stays : row ∈ (state.replicate node sender).table node
    · exact later.translated_of_mem isLatest isRegistered isOrigin stays
        isEmitter isOrigin le_rfl (bounded.trans progress)
    · -- the row was deleted by its emitter, which kept one we have passed
      have isDeleted : row ∈ transaction.deleted := by
        by_contra notDeleted
        apply stays
        rw [replicate_eq atNext]
        simp only [Function.update_self]
        exact mem_apply.mpr
          ⟨mem_insertOf.mpr (Or.inl inTable), notDeleted⟩
      have isSender : sender = emitter := by
        have isOf := invariant.own sender transaction
          (List.mem_of_getElem? atNext)
        exact (isOf.2 row isDeleted).symm.trans isEmitter
      subst isSender
      have atSame : ((state.replicate node sender).log
          sender)[state.applied node sender]? = some transaction := by
        rw [replicate_eq atNext]
        exact atNext
      obtain ⟨kept, isReplayed, keptOwn, keptOrigin, newer, passed⟩ :=
        later.spared sender _ transaction atSame row isDeleted
      have isKept : kept ∈ (state.replicate node sender).table node := by
        rw [later.copied node sender kept keptOwn]
        have oneMore : (state.replicate node sender).applied node sender =
            state.applied node sender + 1 := by
          rw [replicate_eq atNext]
          simp only [Function.update_self]
        rw [oneMore]
        exact isReplayed
      have isOfOrigin := keptOrigin.trans isOrigin
      obtain ⟨isMember, _, notOrigin⟩ := pair_of_latestSyncpoint isLatest
      exact later.translated_of_mem isLatest isRegistered isOrigin isKept
        keptOwn isOfOrigin newer
        (passed node isMember (fun same => notOrigin (isOfOrigin.symm.trans
          same.symm)) latest (isOfOrigin ▸ isLatest))
  · refine ⟨row, ?_, le_rfl⟩
    rw [State.translated, replicate_eq atNext]
    simp only [Function.update_of_ne isReceiver]
    exact found

/-! ## Runs -/

theorem Invariant.initially (nodes : List Node) :
    Invariant nodes (machine nodes).init where
  copied _ _ _ _ := by simp [machine, replay]
  bounded _ _ := le_rfl
  upToDate _ := rfl
  own _ _ isTransaction := by cases isTransaction
  cluster _ _ isRegistered := by cases isRegistered
  ordered _ _ isRegistered := by cases isRegistered
  reached _ _ isRegistered := by cases isRegistered
  spared _ _ _ atIndex := by cases atIndex

/-- What an enabled action does: a commit of a next syncpoint, or the
application of a transaction of another node. -/
theorem effect_cases
    {action : Action Node} (enabled : Enabled nodes state action) :
    (∃ node inserted locked, state.Next nodes node inserted ∧
      state.transactionOf nodes action =
        some (node, (state.table node).transaction nodes node inserted locked) ∧
      effect nodes state action = state.commit node
        ((state.table node).transaction nodes node inserted locked)) ∨
    ∃ receiver sender transaction, receiver ≠ sender ∧
      state.transactionOf nodes action = none ∧
      (state.log sender)[state.applied receiver sender]? = some transaction ∧
      effect nodes state action = state.replicate receiver sender := by
  cases action with
  | register node origin originLsn receiverLsn locked =>
      obtain ⟨isMember, originMember, different, ordered⟩ := enabled
      refine Or.inl ⟨node, _, locked, ?_, rfl, rfl⟩
      intro row isRow
      cases isRow
      refine ⟨rfl, isMember, originMember, different, ?_⟩
      intro old isOld
      exact ordered old isOld
  | cleanup node locked =>
      refine Or.inl ⟨node, none, locked, ?_, rfl, rfl⟩
      intro row isRow
      cases isRow
  | replicate receiver sender =>
      obtain ⟨different, isNext⟩ := enabled
      exact Or.inr ⟨receiver, sender, _, different, rfl,
        List.getElem?_eq_getElem isNext, rfl⟩

theorem Invariant.preserved
    (invariant : Invariant nodes state) {action : Action Node}
    (enabled : Enabled nodes state action) :
    Invariant nodes (effect nodes state action) := by
  rcases effect_cases enabled with
    ⟨_, _, locked, next, _, isCommit⟩ | ⟨_, _, _, different, _, atNext, isApply⟩
  · rw [isCommit]
    exact invariant.commit locked next
  · rw [isApply]
    exact invariant.replicate different atNext

theorem Invariant.follows
    (invariant : Invariant nodes state) {action : Action Node}
    (enabled : Enabled nodes state action) :
    Follows nodes state (effect nodes state action) := by
  rcases effect_cases enabled with
    ⟨_, _, locked, next, _, isCommit⟩ | ⟨_, _, _, different, _, atNext, isApply⟩
  · rw [isCommit]
    exact invariant.follows_commit locked next
  · rw [isApply]
    exact invariant.follows_replicate different atNext

/-- The latest own row for an origin that a transaction finds, after its insert,
is there after its deletions. -/
def KeepsLatest (nodes : List Node) (state : State Node) : Prop :=
  ∀ action node transaction, Enabled nodes state action →
    state.transactionOf nodes action = some (node, transaction) →
    ∀ origin row,
      newest (((state.table node).insertOf transaction).between node
        origin) = some row →
      row ∈ (effect nodes state action).table node

theorem keepsLatest (nodes : List Node) (state : State Node) :
    KeepsLatest nodes state := by
  intro action node transaction enabled isTransaction origin row isNewest
  rcases effect_cases enabled with
    ⟨committer, inserted, locked, _, same, isCommit⟩ | ⟨_, _, _, _, same, _⟩
  · rw [isTransaction] at same
    cases same
    rw [isCommit, table_commit_self]
    refine mem_apply.mpr ⟨(mem_between.mp (newest_mem isNewest)).1, ?_⟩
    intro isDeleted
    exact newest_not_outdated isNewest (mem_outdated_of_mem_deleted isDeleted)
  · rw [isTransaction] at same
    cases same

/-- Whatever is registered, replicated and cleaned up in between, a translation
of the latest syncpoint of a node in its own copy stays and does not go back,
and no node deletes its latest row for an origin. -/
theorem cleanup_keeps_needed
    {nodes : List Node} {state later : State Node}
    (reachable : (machine nodes).Reachable Machine.Always state)
    (run : (machine nodes).Run Machine.Always state later) :
    Follows nodes state later ∧ KeepsLatest nodes later := by
  refine ⟨?_, keepsLatest nodes later⟩
  have invariant : Invariant nodes state :=
    Machine.Reachable.invariant (Invariant.initially nodes)
      (fun _ _ invariant enabled _ => invariant.preserved enabled) reachable
  refine Machine.Run.relation ?_ ?_
    (fun _ _ invariant enabled _ => invariant.preserved enabled)
    (fun _ _ invariant enabled _ => invariant.follows enabled) run invariant
  · intro current node origin emitter row found
    exact ⟨row, found, le_rfl⟩
  · intro first middle last toMiddle toLast node origin emitter row found
    obtain ⟨between, isBetween, notBehind⟩ :=
      toMiddle node origin emitter row found
    obtain ⟨final, isFinal, notBehindLast⟩ :=
      toLast node origin emitter between isBetween
    exact ⟨final, isFinal, notBehind.trans notBehindLast⟩

instance (nodes : List Node) (state : State Node) (action : Action Node) :
    Decidable ((machine nodes).Enabled state action) :=
  match action with
  | .register _ _ _ _ _ => inferInstanceAs (Decidable (_ ∧ _ ∧ _ ∧ _))
  | .cleanup _ _ => inferInstanceAs (Decidable (_ ∈ _))
  | .replicate _ _ => inferInstanceAs (Decidable (_ ∧ _))

/-- Node 0 learns the syncpoints of node 1, which has registered that of node 0
behind that of node 2 although it logged it before. -/
def firstSyncpoints : List (Action (Fin 3)) :=
  [.register 1 2 10 100 [], .register 1 0 5 90 [], .register 0 2 10 50 [],
    .replicate 0 1, .replicate 0 1]

/-- Both go on, and node 1 deletes its old syncpoint. -/
def laterSyncpoints : List (Action (Fin 3)) :=
  [.register 1 2 20 200 [], .replicate 1 0, .register 0 2 20 60 [],
    .replicate 1 0, .cleanup 1 [], .replicate 0 1, .replicate 0 1]

theorem firstSyncpoints_completes :
    ((machine [0, 1, 2]).execute Machine.Always (machine [0, 1, 2]).init
      firstSyncpoints).isSome = true := by
  decide +kernel

theorem laterSyncpoints_completes :
    ((machine [0, 1, 2]).execute Machine.Always
      (((machine [0, 1, 2]).execute Machine.Always (machine [0, 1, 2]).init
        firstSyncpoints).get firstSyncpoints_completes)
      laterSyncpoints).isSome = true := by
  decide +kernel

theorem cleanup_keeps_needed_laterSyncpoints :
    let state := ((machine [0, 1, 2]).execute Machine.Always
      (machine [0, 1, 2]).init firstSyncpoints).get firstSyncpoints_completes
    let later := ((machine [0, 1, 2]).execute Machine.Always state
      laterSyncpoints).get laterSyncpoints_completes
    state.translated [0, 1, 2] 0 2 1 = some ⟨1, 2, 10, 100⟩ ∧
      later.table 1 =
        [⟨1, 0, 5, 90⟩, ⟨1, 2, 20, 200⟩, ⟨0, 2, 10, 50⟩, ⟨0, 2, 20, 60⟩] ∧
      ∃ found, later.translated [0, 1, 2] 0 2 1 = some found ∧
        100 ≤ found.receiverLsn := by
  intro state later
  obtain ⟨follows, _⟩ := cleanup_keeps_needed
    (Machine.reachable_of_execute firstSyncpoints firstSyncpoints_completes)
    (Machine.run_of_execute laterSyncpoints
      (Option.some_get laterSyncpoints_completes).symm)
  have before : state.translated [0, 1, 2] 0 2 1 =
      some ⟨1, 2, 10, 100⟩ := by
    decide +kernel
  exact ⟨before, by decide +kernel, follows 0 2 1 _ before⟩

end Syncpoint
end Multimaster
