import Multimaster.Lib.Machine
import Multimaster.Syncpoint.Table

/-!
# Copies of the table of syncpoints

Every node writes only its own rows, and its transactions reach the other nodes
in their order, after any delay.  A transaction is a registered syncpoint with
the cleanup that follows, or a cleanup alone.
-/

namespace Multimaster
namespace Syncpoint

variable {Node : Type*}

/-- What a transaction of a node does to its rows. -/
structure Transaction (Node : Type*) where
  inserted : Option (Row Node)
  deleted : Table Node

/-- The copies of the table.  `log` are the transactions of each node, and
`applied` is how many of those of another node a node has applied. -/
structure State (Node : Type*) where
  table : Node → Table Node
  log : Node → List (Transaction Node)
  applied : Node → Node → ℕ

/-- What can happen; `locked` are rows skipped by `FOR UPDATE SKIP LOCKED`. -/
inductive Action (Node : Type*)
  /-- `SyncpointRegister`. -/
  | register (node origin : Node) (originLsn receiverLsn : ℕ)
      (locked : Table Node)
  /-- `mtm.cleanup_old_syncpoints`. -/
  | cleanup (node : Node) (locked : Table Node)
  /-- The next transaction of `sender` is applied on `receiver`. -/
  | replicate (receiver sender : Node)

/-- The rows a node has registered. -/
def State.registered (state : State Node) (node : Node) : Table Node :=
  (state.log node).filterMap Transaction.inserted

variable [DecidableEq Node]

/-- `INSERT ... ON CONFLICT DO NOTHING`, by the unique index. -/
def Table.insertRow (table : Table Node) (row : Row Node) : Table Node :=
  if ∃ other ∈ table, other.receiver = row.receiver ∧
      other.origin = row.origin ∧ other.originLsn = row.originLsn then table
  else table ++ [row]

/-- The table after the insert of a transaction. -/
def Table.insertOf
    (table : Table Node) (transaction : Transaction Node) : Table Node :=
  match transaction.inserted with
  | none => table
  | some row => table.insertRow row

/-- The table after a transaction. -/
def Table.apply
    (table : Table Node) (transaction : Transaction Node) : Table Node :=
  (table.insertOf transaction).filter fun row => row ∉ transaction.deleted

/-- The rows after some transactions of a node. -/
def replay (transactions : List (Transaction Node)) : Table Node :=
  transactions.foldl Table.apply []

/-- The transaction with this insert: the cleanup looks at the table after the
insert. -/
def Table.transaction
    (table : Table Node) (nodes : List Node) (node : Node)
    (inserted : Option (Row Node)) (locked : Table Node) :
    Transaction Node where
  inserted := inserted
  deleted :=
    ((table.insertOf ⟨inserted, []⟩).outdated nodes node).filter fun row =>
      row ∉ locked

/-- A transaction commits on its node. -/
def State.commit
    (state : State Node) (node : Node) (transaction : Transaction Node) :
    State Node where
  table := Function.update state.table node
    ((state.table node).apply transaction)
  log := Function.update state.log node (state.log node ++ [transaction])
  applied := Function.update state.applied node
    (Function.update (state.applied node) node (state.applied node node + 1))

/-- The syncpoints of an origin are registered in increasing order, at positions
of the local WAL that do not decrease: one receiver does it for all of them. -/
def Enabled (nodes : List Node) (state : State Node) : Action Node → Prop
  | .register node origin originLsn receiverLsn _ =>
      node ∈ nodes ∧ origin ∈ nodes ∧ origin ≠ node ∧
        ∀ row ∈ state.registered node, row.origin = origin →
          row.originLsn < originLsn ∧ row.receiverLsn ≤ receiverLsn
  | .cleanup node _ => node ∈ nodes
  | .replicate receiver sender =>
      receiver ≠ sender ∧
        state.applied receiver sender < (state.log sender).length

/-- The transaction of an action at its node. -/
def State.transactionOf
    (state : State Node) (nodes : List Node) :
    Action Node → Option (Node × Transaction Node)
  | .register node origin originLsn receiverLsn locked =>
      some (node, (state.table node).transaction nodes node
        (some ⟨node, origin, originLsn, receiverLsn⟩) locked)
  | .cleanup node locked =>
      some (node, (state.table node).transaction nodes node none locked)
  | .replicate _ _ => none

/-- The next transaction of the sender is applied. -/
def State.replicate
    (state : State Node) (receiver sender : Node) : State Node :=
  match (state.log sender)[state.applied receiver sender]? with
  | none => state
  | some transaction =>
      { state with
        table := Function.update state.table receiver
          ((state.table receiver).apply transaction)
        applied := Function.update state.applied receiver
          (Function.update (state.applied receiver) sender
            (state.applied receiver sender + 1)) }

/-- The state after an action. -/
def effect
    (nodes : List Node) (state : State Node) (action : Action Node) :
    State Node :=
  match action with
  | .replicate receiver sender => state.replicate receiver sender
  | _ =>
      match state.transactionOf nodes action with
      | none => state
      | some (node, transaction) => state.commit node transaction

/-- The copies of a cluster with these nodes, all empty at first. -/
def machine (nodes : List Node) : Machine (State Node) (Action Node) where
  init :=
    { table := fun _ => []
      log := fun _ => []
      applied := fun _ _ => 0 }
  Enabled := Enabled nodes
  effect := effect nodes

/-- `mtm.translate_syncpoint` of the latest syncpoint of a node, in its own copy
of the table. -/
def State.translated
    (state : State Node) (nodes : List Node) (node origin emitter : Node) :
    Option (Row Node) :=
  (state.table node).translateSyncpoint origin
    ((state.table node).latestSyncpoint nodes node origin) emitter

/-! ## Tables and transactions -/

/-- A transaction that concerns only rows of a node. -/
def Transaction.Of (transaction : Transaction Node) (node : Node) : Prop :=
  (∀ row ∈ transaction.inserted, row.receiver = node) ∧
    ∀ row ∈ transaction.deleted, row.receiver = node

section Tables

variable {table : Table Node}

/-- A row of the same pair and position is in the table. -/
def Table.Conflict (table : Table Node) (row : Row Node) : Prop :=
  ∃ other ∈ table, other.receiver = row.receiver ∧
    other.origin = row.origin ∧ other.originLsn = row.originLsn

theorem mem_insertRow {row other : Row Node} :
    other ∈ table.insertRow row ↔
      other ∈ table ∨ (other = row ∧ ¬ table.Conflict row) := by
  unfold Table.insertRow
  split
  · next conflict =>
      constructor
      · exact Or.inl
      · rintro (isOld | ⟨_, noConflict⟩)
        · exact isOld
        · exact absurd conflict noConflict
  · next noConflict =>
      rw [List.mem_append, List.mem_singleton]
      constructor
      · exact Or.imp_right fun isNew => ⟨isNew, noConflict⟩
      · exact Or.imp_right And.left

theorem mem_insertOf
    {transaction : Transaction Node} {row : Row Node} :
    row ∈ table.insertOf transaction ↔
      row ∈ table ∨
        (transaction.inserted = some row ∧ ¬ table.Conflict row) := by
  unfold Table.insertOf
  cases inserted : transaction.inserted with
  | none => simp
  | some new =>
      dsimp only
      rw [mem_insertRow, Option.some.injEq]
      constructor
      · rintro (isOld | ⟨rfl, noConflict⟩)
        · exact Or.inl isOld
        · exact Or.inr ⟨rfl, noConflict⟩
      · rintro (isOld | ⟨rfl, noConflict⟩)
        · exact Or.inl isOld
        · exact Or.inr ⟨rfl, noConflict⟩

theorem mem_apply
    {transaction : Transaction Node} {row : Row Node} :
    row ∈ table.apply transaction ↔
      row ∈ table.insertOf transaction ∧ row ∉ transaction.deleted := by
  simp [Table.apply]

/-- The position of the inserted row is in the table, even if there was a
conflict. -/
theorem exists_mem_insertOf
    {transaction : Transaction Node} {row : Row Node}
    (inserted : transaction.inserted = some row) :
    (table.insertOf transaction).Conflict row := by
  by_cases conflict : table.Conflict row
  · obtain ⟨other, isOld, same⟩ := conflict
    exact ⟨other, mem_insertOf.mpr (Or.inl isOld), same⟩
  · exact ⟨row, mem_insertOf.mpr (Or.inr ⟨inserted, conflict⟩), rfl, rfl, rfl⟩

/-- A transaction does the same to copies with the same rows of its node. -/
theorem mem_apply_congr
    {other : Table Node} {transaction : Transaction Node} {node : Node}
    (same : ∀ row : Row Node, row.receiver = node →
      (row ∈ table ↔ row ∈ other))
    {row : Row Node} (isOf : row.receiver = node) :
    row ∈ table.apply transaction ↔ row ∈ other.apply transaction := by
  have conflicts : table.Conflict row ↔ other.Conflict row := by
    constructor
    · rintro ⟨found, isFound, isReceiver, isKey⟩
      exact ⟨found, (same found (isReceiver.trans isOf)).mp isFound,
        isReceiver, isKey⟩
    · rintro ⟨found, isFound, isReceiver, isKey⟩
      exact ⟨found, (same found (isReceiver.trans isOf)).mpr isFound,
        isReceiver, isKey⟩
  rw [mem_apply, mem_apply, mem_insertOf, mem_insertOf, same row isOf,
    conflicts]

/-- A transaction of a node leaves the rows of the others alone. -/
theorem mem_apply_of_ne
    {transaction : Transaction Node} {node : Node}
    (isOf : transaction.Of node) {row : Row Node}
    (different : row.receiver ≠ node) :
    row ∈ table.apply transaction ↔ row ∈ table := by
  rw [mem_apply, mem_insertOf]
  constructor
  · rintro ⟨isOld | ⟨isNew, _⟩, _⟩
    · exact isOld
    · exact absurd (isOf.1 row isNew) different
  · intro isOld
    exact ⟨Or.inl isOld, fun isDeleted => different (isOf.2 row isDeleted)⟩

theorem replay_concat
    (transactions : List (Transaction Node)) (last : Transaction Node) :
    replay (transactions ++ [last]) = (replay transactions).apply last := by
  simp [replay]

/-- What is in the table after some transactions was inserted by one of them. -/
theorem mem_inserted_of_mem_replay
    {transactions : List (Transaction Node)} {row : Row Node}
    (isRow : row ∈ replay transactions) :
    row ∈ transactions.filterMap Transaction.inserted := by
  induction transactions using List.reverseRecOn with
  | nil => cases isRow
  | append_singleton transactions last inductionHypothesis =>
      rw [replay_concat, mem_apply, mem_insertOf] at isRow
      rw [List.filterMap_append]
      rcases isRow.1 with isOld | ⟨isNew, _⟩
      · exact List.mem_append_left _ (inductionHypothesis isOld)
      · exact List.mem_append_right _
          (List.mem_filterMap.mpr ⟨last, List.mem_singleton.mpr rfl, isNew⟩)

end Tables

/-! ## The cleanup -/

section Cleanup

variable {table : Table Node} {nodes : List Node} {node : Node}

theorem mem_outdated_of_mem_deleted
    {inserted : Option (Row Node)} {locked : Table Node} {row : Row Node}
    (isDeleted :
      row ∈ (table.transaction nodes node inserted locked).deleted) :
    row ∈ (table.insertOf ⟨inserted, []⟩).outdated nodes node :=
  (List.mem_filter.mp isDeleted).1

/-- A row that is deleted is before a row of the node that is not beyond the
latest syncpoint of any receiver, and before the latest one of the node. -/
theorem outdated_spec
    {row : Row Node} (isOutdated : row ∈ table.outdated nodes node) :
    row.receiver = node ∧
      (∃ oldest kept, table.oldestSyncpoint nodes row.origin = some oldest ∧
        table.translateSyncpoint row.origin (some oldest) node = some kept ∧
        row.originLsn < kept.originLsn) ∧
      ∃ latest, table.latestSyncpoint nodes node row.origin = some latest ∧
        row.originLsn < latest := by
  have selected := (List.mem_filter.mp isOutdated).2
  simp only [decide_eq_true_eq] at selected
  obtain ⟨isOwn, _, _, ⟨ep, isEp, belowEp⟩, ap, isAp, belowAp⟩ := selected
  refine ⟨isOwn, ?_, ap, isAp, belowAp⟩
  rw [Table.keptEp, Option.mem_def, Option.map_eq_some_iff] at isEp
  obtain ⟨kept, isKept, rfl⟩ := isEp
  cases isOldest : table.oldestSyncpoint nodes row.origin with
  | none =>
      rw [isOldest] at isKept
      cases isKept
  | some oldest =>
      rw [isOldest] at isKept
      exact ⟨oldest, kept, rfl, isKept, belowEp⟩

/-- A node does not delete its latest row for an origin. -/
theorem newest_not_outdated
    {origin : Node} {row : Row Node}
    (isNewest : newest (table.between node origin) = some row) :
    row ∉ table.outdated nodes node := by
  intro isOutdated
  obtain ⟨_, _, latest, isLatest, below⟩ := outdated_spec isOutdated
  obtain ⟨_, _, isOrigin⟩ := mem_between.mp (newest_mem isNewest)
  unfold Table.latestSyncpoint at isLatest
  split at isLatest
  · rw [isOrigin, isNewest] at isLatest
    cases isLatest
    exact absurd below (Nat.lt_irrefl _)
  · cases isLatest

/-- Every own row has one at least as new that survives the transaction. -/
theorem exists_mem_apply_of_own
    {inserted : Option (Row Node)} {locked : Table Node} {row : Row Node}
    (isRow : row ∈ table.insertOf ⟨inserted, []⟩)
    (isOwn : row.receiver = node) :
    ∃ kept ∈ table.apply (table.transaction nodes node inserted locked),
      kept.receiver = node ∧ kept.origin = row.origin ∧
        row.originLsn ≤ kept.originLsn := by
  have inPair : row ∈ (table.insertOf ⟨inserted, []⟩).between node
      row.origin :=
    mem_between.mpr ⟨isRow, isOwn, rfl⟩
  obtain ⟨kept, isNewest⟩ := exists_newest inPair
  obtain ⟨isKept, keptOwn, keptOrigin⟩ := mem_between.mp (newest_mem isNewest)
  refine ⟨kept, mem_apply.mpr ⟨isKept, fun isDeleted => ?_⟩, keptOwn,
    keptOrigin, le_newest isNewest inPair⟩
  exact newest_not_outdated isNewest (mem_outdated_of_mem_deleted isDeleted)

theorem transaction_of
    {inserted : Option (Row Node)} {locked : Table Node}
    (insertsOwn : ∀ row ∈ inserted, row.receiver = node) :
    (table.transaction nodes node inserted locked).Of node :=
  ⟨insertsOwn, fun _ isDeleted =>
    (outdated_spec (mem_outdated_of_mem_deleted isDeleted)).1⟩

end Cleanup

end Syncpoint
end Multimaster
