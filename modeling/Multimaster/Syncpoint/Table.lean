import Mathlib.Data.List.MinMax

/-!
# The table of syncpoints

`mtm.syncpoints` with the queries over it.  A missing row or a `NULL` is `none`;
a comparison with `NULL` selects nothing.
-/

namespace Multimaster
namespace Syncpoint

variable {Node : Type*}

/-- A row of `mtm.syncpoints`. -/
structure Row (Node : Type*) where
  receiver : Node
  origin : Node
  originLsn : ℕ
  receiverLsn : ℕ
  deriving DecidableEq

/-- The rows of a copy of the table. -/
abbrev Table (Node : Type*) := List (Row Node)

variable [DecidableEq Node]

/-- The row with the greatest `origin_lsn`: `ORDER BY origin_lsn DESC LIMIT 1`. -/
def newest (rows : Table Node) : Option (Row Node) :=
  rows.argmax Row.originLsn

/-- The rows of a receiver for an origin. -/
def Table.between
    (table : Table Node) (receiver origin : Node) : Table Node :=
  table.filter fun row => row.receiver = receiver ∧ row.origin = origin

/-- `mtm.translate_syncpoint`. -/
def Table.translateSyncpoint
    (table : Table Node) (origin : Node) (originLsn : Option ℕ)
    (emitter : Node) : Option (Row Node) :=
  match originLsn with
  | none => none
  | some lsn =>
      newest ((table.between emitter origin).filter fun row =>
        row.originLsn ≤ lsn)

/-- `origin_lsn` of `mtm.latest_syncpoints` for a pair of nodes; the view has no
row for a pair that is not of two different nodes of the cluster. -/
def Table.latestSyncpoint
    (table : Table Node) (nodes : List Node) (receiver origin : Node) :
    Option ℕ :=
  if receiver ∈ nodes ∧ origin ∈ nodes ∧ origin ≠ receiver then
    some (((newest (table.between receiver origin)).map Row.originLsn).getD 0)
  else none

/-- What an origin contributes to the horizon of a sender. -/
def Table.horizonOf
    (table : Table Node) (nodes : List Node) (me sender origin : Node) :
    Option ℕ :=
  (table.latestSyncpoint nodes me origin).map fun originLsn =>
    if origin = sender then originLsn
    else
      ((table.translateSyncpoint origin (some originLsn) sender).map
        Row.receiverLsn).getD 0

/-- `mtm.get_recovery_horizon`. -/
def Table.getRecoveryHorizon
    (table : Table Node) (nodes : List Node) (me sender : Node) : Option ℕ :=
  (nodes.filterMap fun origin => table.horizonOf nodes me sender origin).min?

/-- `mtm.oldest_syncpoint`. -/
def Table.oldestSyncpoint
    (table : Table Node) (nodes : List Node) (origin : Node) : Option ℕ :=
  (nodes.filterMap fun receiver =>
    table.latestSyncpoint nodes receiver origin).min?

/-- `kept_ep` in `mtm.cleanup_old_syncpoints`. -/
def Table.keptEp
    (table : Table Node) (nodes : List Node) (me origin : Node) : Option ℕ :=
  (table.translateSyncpoint origin (table.oldestSyncpoint nodes origin)
    me).map Row.originLsn

/-- `kept_ap` in `mtm.cleanup_old_syncpoints`. -/
def Table.keptAp
    (table : Table Node) (nodes : List Node) (me origin : Node) : Option ℕ :=
  table.latestSyncpoint nodes me origin

/-- Less than a value that may be `NULL`. -/
def Below (lsn : ℕ) (bound : Option ℕ) : Prop :=
  ∃ value ∈ bound, lsn < value

instance (lsn : ℕ) (bound : Option ℕ) : Decidable (Below lsn bound) :=
  inferInstanceAs (Decidable (∃ value ∈ bound, lsn < value))

/-- The rows `mtm.cleanup_old_syncpoints` selects for deletion. -/
def Table.outdated
    (table : Table Node) (nodes : List Node) (me : Node) : Table Node :=
  table.filter fun row =>
    row.receiver = me ∧ row.origin ∈ nodes ∧ row.origin ≠ me ∧
      Below row.originLsn (table.keptEp nodes me row.origin) ∧
      Below row.originLsn (table.keptAp nodes me row.origin)

/-! ## What the queries return -/

section Queries

variable {table : Table Node} {nodes : List Node}

omit [DecidableEq Node] in
theorem newest_mem {rows : Table Node} {row : Row Node}
    (isNewest : newest rows = some row) : row ∈ rows :=
  List.argmax_mem isNewest

omit [DecidableEq Node] in
theorem le_newest {rows : Table Node} {row other : Row Node}
    (isNewest : newest rows = some row) (isRow : other ∈ rows) :
    other.originLsn ≤ row.originLsn :=
  List.le_of_mem_argmax isRow isNewest

omit [DecidableEq Node] in
/-- A table with a row has a newest one. -/
theorem exists_newest {rows : Table Node} {row : Row Node}
    (isRow : row ∈ rows) : ∃ found, newest rows = some found := by
  cases isNewest : newest rows with
  | none =>
      rw [newest, List.argmax_eq_none] at isNewest
      subst isNewest
      cases isRow
  | some found => exact ⟨found, rfl⟩

theorem mem_between {receiver origin : Node} {row : Row Node} :
    row ∈ table.between receiver origin ↔
      row ∈ table ∧ row.receiver = receiver ∧ row.origin = origin := by
  simp [Table.between]

/-- A translation is a row of the emitter for the origin, not beyond the given
position, and no such row is newer. -/
theorem translateSyncpoint_spec
    {origin emitter : Node} {lsn : ℕ} {row : Row Node}
    (found : table.translateSyncpoint origin (some lsn) emitter = some row) :
    row ∈ table ∧ row.receiver = emitter ∧ row.origin = origin ∧
      row.originLsn ≤ lsn ∧
      ∀ other ∈ table, other.receiver = emitter → other.origin = origin →
        other.originLsn ≤ lsn → other.originLsn ≤ row.originLsn := by
  have isRow := newest_mem found
  rw [List.mem_filter, mem_between] at isRow
  obtain ⟨⟨inTable, isEmitter, isOrigin⟩, bounded⟩ := isRow
  refine ⟨inTable, isEmitter, isOrigin, of_decide_eq_true bounded, ?_⟩
  intro other otherIn otherEmitter otherOrigin otherBounded
  apply le_newest found
  rw [List.mem_filter, mem_between]
  exact ⟨⟨otherIn, otherEmitter, otherOrigin⟩, decide_eq_true otherBounded⟩

/-- A suitable row gives a translation that is at least as new. -/
theorem exists_translateSyncpoint
    {origin emitter : Node} {lsn : ℕ} {row : Row Node}
    (inTable : row ∈ table) (isEmitter : row.receiver = emitter)
    (isOrigin : row.origin = origin) (bounded : row.originLsn ≤ lsn) :
    ∃ found, table.translateSyncpoint origin (some lsn) emitter =
        some found ∧ row.originLsn ≤ found.originLsn := by
  have isRow : row ∈ (table.between emitter origin).filter fun other =>
      other.originLsn ≤ lsn := by
    rw [List.mem_filter, mem_between]
    exact ⟨⟨inTable, isEmitter, isOrigin⟩, decide_eq_true bounded⟩
  obtain ⟨found, isNewest⟩ := exists_newest isRow
  exact ⟨found, isNewest, le_newest isNewest isRow⟩

/-- The view has a row for two different nodes. -/
theorem exists_latestSyncpoint
    (table : Table Node) {receiver origin : Node}
    (isReceiver : receiver ∈ nodes) (isOrigin : origin ∈ nodes)
    (different : origin ≠ receiver) :
    ∃ latest, table.latestSyncpoint nodes receiver origin = some latest :=
  ⟨_, if_pos ⟨isReceiver, isOrigin, different⟩⟩

theorem pair_of_latestSyncpoint
    {receiver origin : Node} {latest : ℕ}
    (isLatest : table.latestSyncpoint nodes receiver origin = some latest) :
    receiver ∈ nodes ∧ origin ∈ nodes ∧ origin ≠ receiver := by
  unfold Table.latestSyncpoint at isLatest
  split at isLatest
  · next isPair => exact isPair
  · cases isLatest

/-- Every table has a latest syncpoint for the same pairs. -/
theorem exists_latestSyncpoint_of_latest
    (other : Table Node) {receiver origin : Node} {latest : ℕ}
    (isLatest : table.latestSyncpoint nodes receiver origin = some latest) :
    ∃ seen, other.latestSyncpoint nodes receiver origin = some seen := by
  obtain ⟨isReceiver, isOrigin, different⟩ := pair_of_latestSyncpoint isLatest
  exact exists_latestSyncpoint other isReceiver isOrigin different

/-- The latest syncpoint is not before any row of the pair. -/
theorem le_latestSyncpoint
    {receiver origin : Node} {latest : ℕ} {row : Row Node}
    (isLatest : table.latestSyncpoint nodes receiver origin = some latest)
    (inTable : row ∈ table) (isReceiver : row.receiver = receiver)
    (isOrigin : row.origin = origin) :
    row.originLsn ≤ latest := by
  have isRow : row ∈ table.between receiver origin :=
    mem_between.mpr ⟨inTable, isReceiver, isOrigin⟩
  obtain ⟨found, isNewest⟩ := exists_newest isRow
  unfold Table.latestSyncpoint at isLatest
  split at isLatest
  · rw [isNewest] at isLatest
    cases isLatest
    exact le_newest isNewest isRow
  · cases isLatest

/-- The latest syncpoint is that of a row, or nothing. -/
theorem latestSyncpoint_eq_zero_or
    {receiver origin : Node} {latest : ℕ}
    (isLatest : table.latestSyncpoint nodes receiver origin = some latest) :
    latest = 0 ∨ ∃ row ∈ table, row.receiver = receiver ∧
      row.origin = origin ∧ row.originLsn = latest := by
  unfold Table.latestSyncpoint at isLatest
  split at isLatest
  · cases found : newest (table.between receiver origin) with
    | none =>
        rw [found] at isLatest
        cases isLatest
        exact Or.inl rfl
    | some row =>
        rw [found] at isLatest
        cases isLatest
        obtain ⟨inTable, isReceiver, isOrigin⟩ :=
          mem_between.mp (newest_mem found)
        exact Or.inr ⟨row, inTable, isReceiver, isOrigin, rfl⟩
  · cases isLatest

theorem horizonOf_sender
    {me sender : Node} {latest : ℕ}
    (isLatest : table.latestSyncpoint nodes me sender = some latest) :
    table.horizonOf nodes me sender sender = some latest := by
  simp [Table.horizonOf, isLatest]

theorem horizonOf_of_ne
    {me sender origin : Node} {latest : ℕ}
    (isLatest : table.latestSyncpoint nodes me origin = some latest)
    (different : origin ≠ sender) :
    table.horizonOf nodes me sender origin =
      some (((table.translateSyncpoint origin (some latest) sender).map
        Row.receiverLsn).getD 0) := by
  simp [Table.horizonOf, isLatest, different]

/-- The horizon is not beyond what any origin contributes. -/
theorem getRecoveryHorizon_le
    {me sender origin : Node} {part : ℕ}
    (isOrigin : origin ∈ nodes)
    (contributes : table.horizonOf nodes me sender origin = some part) :
    ∃ horizon, table.getRecoveryHorizon nodes me sender = some horizon ∧
      horizon ≤ part := by
  have isPart : part ∈ nodes.filterMap fun other =>
      table.horizonOf nodes me sender other :=
    List.mem_filterMap.mpr ⟨origin, isOrigin, contributes⟩
  cases least : table.getRecoveryHorizon nodes me sender with
  | none =>
      rw [Table.getRecoveryHorizon, List.min?_eq_none_iff] at least
      rw [least] at isPart
      cases isPart
  | some horizon =>
      exact ⟨horizon, rfl, (List.min?_eq_some_iff.mp least).2 part isPart⟩

/-- The oldest syncpoint of an origin is not beyond the latest one of any
receiver. -/
theorem oldestSyncpoint_le
    {receiver origin : Node} {oldest latest : ℕ}
    (isOldest : table.oldestSyncpoint nodes origin = some oldest)
    (isReceiver : receiver ∈ nodes)
    (isLatest : table.latestSyncpoint nodes receiver origin = some latest) :
    oldest ≤ latest :=
  (List.min?_eq_some_iff.mp isOldest).2 latest
    (List.mem_filterMap.mpr ⟨receiver, isReceiver, isLatest⟩)

end Queries

end Syncpoint
end Multimaster
