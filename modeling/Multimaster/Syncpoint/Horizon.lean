import Multimaster.Lib.Machine
import Multimaster.Syncpoint.Table

/-!
# The confirmed horizon

What a node confirms to a sender is the minimum, over all origins, of its own
progress translated into positions of the sender.  Nothing that the node still
needs from the sender lies before it.
-/

namespace Multimaster
namespace Syncpoint

variable {Node : Type*}

/-- A change, by its place in the WAL of its origin. -/
structure Change (Node : Type*) where
  origin : Node
  start : ℕ
  endLsn : ℕ
  deriving DecidableEq

/-- A record, with the change it carries if any. -/
structure WalRecord (Node : Type*) where
  start : ℕ
  endPtr : ℕ
  change : Option (Change Node)
  deriving DecidableEq

/-- The WALs of all nodes: a change of the node itself is where it says, and a
forwarded one is in the WAL of its origin. -/
structure Wals (Node : Type*) where
  records : Node → List (WalRecord Node)
  own : ∀ node, ∀ record ∈ records node, ∀ change ∈ record.change,
    change.origin = node →
    change.start = record.start ∧ change.endLsn = record.endPtr
  known : ∀ node, ∀ record ∈ records node, ∀ change ∈ record.change,
    ∃ first ∈ records change.origin, first.change = some change

/-- What the comment of `mtm.syncpoints` says a row means.  The position in the
WAL of the origin is the end of a syncpoint record, so it lies in no record. -/
structure Row.Meaning (row : Row Node) (wals : Wals Node) : Prop where
  applied : ∀ first ∈ wals.records row.origin, ∀ change ∈ first.change,
    change.origin = row.origin → change.endLsn ≤ row.originLsn →
    ∃ record ∈ wals.records row.receiver,
      record.change = some change ∧ record.endPtr ≤ row.receiverLsn
  landed : ∀ record ∈ wals.records row.receiver, ∀ change ∈ record.change,
    change.origin = row.origin → row.originLsn ≤ change.start →
    row.receiverLsn ≤ record.start
  boundary : ∀ first ∈ wals.records row.origin,
    first.endPtr ≤ row.originLsn ∨ row.originLsn ≤ first.start

/-- A change that ends beyond a row starts beyond it. -/
theorem Row.Meaning.start_of_end
    {row : Row Node} {wals : Wals Node} (meaning : row.Meaning wals)
    {node : Node} {record : WalRecord Node}
    (isRecord : record ∈ wals.records node)
    {change : Change Node} (carries : record.change = some change)
    (isOrigin : change.origin = row.origin)
    (beyond : row.originLsn < change.endLsn) :
    row.originLsn ≤ change.start := by
  obtain ⟨first, isFirst, firstCarries⟩ :=
    wals.known node record isRecord change carries
  obtain ⟨start, end_⟩ :=
    wals.own change.origin first isFirst change firstCarries rfl
  rw [isOrigin] at isFirst
  rcases meaning.boundary first isFirst with covered | later
  · omega
  · omega

variable [DecidableEq Node]

/-- A change of the sender that is not covered is at or after what the sender
itself contributes. -/
theorem sender_part_le
    {table : Table Node} {wals : Wals Node} {nodes : List Node}
    (meanings : ∀ row ∈ table, row.Meaning wals)
    {me sender : Node} {latest : ℕ}
    (isLatest : table.latestSyncpoint nodes me sender = some latest)
    {record : WalRecord Node} (isRecord : record ∈ wals.records sender)
    {change : Change Node} (carries : record.change = some change)
    (isOrigin : change.origin = sender)
    (uncovered : latest < change.endLsn) :
    latest ≤ record.start := by
  obtain ⟨start, _⟩ := wals.own sender record isRecord change carries isOrigin
  rw [← start]
  rcases latestSyncpoint_eq_zero_or isLatest with isZero | found
  · omega
  · obtain ⟨row, inTable, _, rowOrigin, rowLsn⟩ := found
    subst rowLsn
    exact (meanings row inTable).start_of_end isRecord carries
      (isOrigin.trans rowOrigin.symm) uncovered

/-- A forwarded change that is not covered is at or after what its origin
contributes. -/
theorem forwarded_part_le
    {table : Table Node} {wals : Wals Node}
    (meanings : ∀ row ∈ table, row.Meaning wals)
    {sender : Node} {latest : ℕ}
    {record : WalRecord Node} (isRecord : record ∈ wals.records sender)
    {change : Change Node} (carries : record.change = some change)
    (uncovered : latest < change.endLsn) :
    ((table.translateSyncpoint change.origin (some latest) sender).map
      Row.receiverLsn).getD 0 ≤ record.start := by
  cases found : table.translateSyncpoint change.origin (some latest) sender with
  | none => exact Nat.zero_le _
  | some row =>
      obtain ⟨inTable, isEmitter, isOrigin, bounded, _⟩ :=
        translateSyncpoint_spec found
      have meaning := meanings row inTable
      have starts := meaning.start_of_end isRecord carries isOrigin.symm
        (Nat.lt_of_le_of_lt bounded uncovered)
      rw [← isEmitter] at isRecord
      exact meaning.landed record isRecord change carries isOrigin.symm starts

/-- There is no syncpoint from which the changes of an origin can be requested
from the sender: none of mine for the sender itself, or none of the sender that
is not beyond mine. -/
def Table.Unusable
    (table : Table Node) (nodes : List Node) (me sender origin : Node) : Prop :=
  if origin = sender then ∀ row ∈ table,
    ¬ (row.receiver = me ∧ row.origin = origin)
  else
    table.translateSyncpoint origin (table.latestSyncpoint nodes me origin)
      sender = none

/-- Every change of another origin in the WAL of the sender that is not covered
by my latest syncpoint is at or after the horizon, and the horizon is zero when
some origin has no usable syncpoint. -/
theorem horizon_safe
    {nodes : List Node} {me sender : Node}
    (isMember : me ∈ nodes) (isSender : sender ∈ nodes)
    (notMe : sender ≠ me)
    (table : Table Node) (wals : Wals Node)
    (meanings : ∀ row ∈ table, row.Meaning wals) :
    ∃ horizon, table.getRecoveryHorizon nodes me sender = some horizon ∧
      (∀ record ∈ wals.records sender, ∀ change ∈ record.change,
        change.origin ∈ nodes → change.origin ≠ me →
        (∀ latest ∈ table.latestSyncpoint nodes me change.origin,
          latest < change.endLsn) →
        horizon ≤ record.start) ∧
      ∀ origin ∈ nodes, origin ≠ me →
        table.Unusable nodes me sender origin → horizon = 0 := by
  obtain ⟨senderLatest, isSenderLatest⟩ :=
    exists_latestSyncpoint table isMember isSender notMe
  obtain ⟨horizon, isHorizon, _⟩ :=
    getRecoveryHorizon_le isSender (horizonOf_sender isSenderLatest)
  have least : ∀ origin ∈ nodes, ∀ part,
      table.horizonOf nodes me sender origin = some part →
      horizon ≤ part := by
    intro origin isOrigin part contributes
    obtain ⟨same, isSame, bounded⟩ := getRecoveryHorizon_le isOrigin contributes
    rw [isHorizon] at isSame
    cases isSame
    exact bounded
  refine ⟨horizon, isHorizon, ?_, ?_⟩
  · intro record isRecord change carries isOrigin different uncovered
    obtain ⟨latest, isLatest⟩ :=
      exists_latestSyncpoint table isMember isOrigin different
    have beyond := uncovered latest isLatest
    by_cases isSelf : change.origin = sender
    · rw [isSelf] at isLatest
      exact (least sender isSender latest (horizonOf_sender isLatest)).trans
        (sender_part_le meanings isLatest isRecord carries isSelf beyond)
    · exact (least _ isOrigin _ (horizonOf_of_ne isLatest isSelf)).trans
        (forwarded_part_le meanings isRecord carries beyond)
  · intro origin isOrigin different unusable
    obtain ⟨latest, isLatest⟩ :=
      exists_latestSyncpoint table isMember isOrigin different
    apply Nat.eq_zero_of_le_zero
    unfold Table.Unusable at unusable
    split at unusable
    · next isSelf =>
        subst isSelf
        have isZero : latest = 0 := by
          rcases latestSyncpoint_eq_zero_or isLatest with isZero | found
          · exact isZero
          · obtain ⟨row, inTable, isMine, isOrigin, _⟩ := found
            exact absurd ⟨isMine, isOrigin⟩ (unusable row inTable)
        exact isZero ▸ least _ isSender latest (horizonOf_sender isLatest)
    · next notSelf =>
        have part := least origin isOrigin _ (horizonOf_of_ne isLatest notSelf)
        rw [← isLatest, unusable] at part
        exact part

/-- Node 1 has two changes of its own and one of node 2; node 0 has applied the
first of them. -/
def threeWals : Wals (Fin 3) where
  records
    | 0 => [⟨280, 290, some ⟨1, 100, 150⟩⟩]
    | 1 =>
        [⟨100, 150, some ⟨1, 100, 150⟩⟩, ⟨150, 160, none⟩,
          ⟨200, 250, some ⟨1, 200, 250⟩⟩, ⟨260, 270, some ⟨2, 30, 40⟩⟩]
    | 2 => [⟨20, 25, none⟩, ⟨30, 40, some ⟨2, 30, 40⟩⟩]
  own := by decide
  known := by decide

/-- Syncpoints of node 0 for both others, and of node 1 for node 2. -/
def threeRows : Table (Fin 3) :=
  [⟨0, 1, 160, 300⟩, ⟨0, 2, 25, 310⟩, ⟨1, 2, 25, 180⟩]

theorem threeRows_meanings :
    ∀ row ∈ threeRows, row.Meaning threeWals := by
  intro row isRow
  simp only [threeRows, List.mem_cons, List.not_mem_nil, or_false] at isRow
  rcases isRow with rfl | rfl | rfl
  all_goals exact ⟨by decide, by decide, by decide⟩

theorem horizon_safe_threeRows :
    threeRows.getRecoveryHorizon [0, 1, 2] 0 1 = some 160 ∧
      ∀ record ∈ threeWals.records 1, ∀ change ∈ record.change,
        change.origin = 2 → 160 ≤ record.start := by
  obtain ⟨horizon, isHorizon, safe, _⟩ :=
    horizon_safe (by decide : (0 : Fin 3) ∈ [0, 1, 2])
      (by decide : (1 : Fin 3) ∈ [0, 1, 2]) (by decide)
      threeRows threeWals threeRows_meanings
  have value : threeRows.getRecoveryHorizon [0, 1, 2] 0 1 = some 160 := by
    decide
  rw [value] at isHorizon
  cases isHorizon
  refine ⟨value, ?_⟩
  intro record isRecord change carries isOrigin
  apply safe record isRecord change carries
  · rw [isOrigin]
    decide
  · rw [isOrigin]
    decide
  · revert isOrigin carries change isRecord record
    decide

end Syncpoint
end Multimaster
