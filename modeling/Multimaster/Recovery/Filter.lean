import Mathlib.Data.List.TakeWhile
import Multimaster.Lib.Machine
import Multimaster.Wal.Scan

/-!
# The filter of replayed changes

After a reconnect a receiver gets changes it has applied already.
`RecoveryFilterLoad` collects from the local WAL what was applied beyond the
syncpoints, and `MtmFilterTransaction` decides by the syncpoints and the
collected map whether a streamed record is to be skipped.
-/

namespace Multimaster
namespace Recovery

open Wal (Geometry)

/-- The operations of `RM_XACT_ID` that are collected. -/
inductive XactOp
  | commit
  | prepare
  | commitPrepared
  | abortPrepared
  deriving DecidableEq

/-- A record of the local WAL.  `origin` is `none` for `InvalidRepOriginId`, and
`op` for every other kind of record. -/
structure LocalRecord (OriginId : Type*) where
  start : ℕ
  endPtr : ℕ
  origin : Option OriginId
  op : Option XactOp
  originLsn : ℕ
  deriving DecidableEq

/-- The local WAL up to the flush pointer. -/
structure LocalWal (OriginId : Type*) where
  geometry : Geometry
  records : List (LocalRecord OriginId)
  /-- `current_last_lsn`. -/
  flush : ℕ
  ordered : records.Pairwise fun first second => first.endPtr ≤ second.start
  nonempty : ∀ record ∈ records, record.start < record.endPtr
  /-- No record starts in a page header. -/
  headers : ∀ record ∈ records, ∀ lsn ≤ record.start,
    geometry.lsnBump lsn ≤ record.start
  flushed : ∀ record ∈ records, record.endPtr ≤ flush

/-- `Syncpoint`; zero is `InvalidXLogRecPtr`. -/
structure Point where
  originLsn : ℕ
  localLsn : ℕ
  deriving DecidableEq

variable {OriginId : Type*} {n : ℕ}

/-- `origin_id_to_node_id` for the nodes of the configuration. -/
def originIdToNodeId [DecidableEq OriginId]
    (nodes : List (Fin n × OriginId)) (origin : OriginId) : Option (Fin n) :=
  (nodes.find? fun node => node.2 = origin).map Prod.fst

/-- The earlier of the start found so far and a position, if it is valid. -/
def earlier (start : Option ℕ) (lsn : ℕ) : Option ℕ :=
  if lsn = 0 then start
  else
    match start with
    | none => some lsn
    | some found => if lsn < found then some lsn else some found

/-- Where `RecoveryFilterLoad` starts to read; `none` is `PG_UINT64_MAX`. -/
def filterStart (spvector : Fin n → Point) : Option ℕ :=
  (List.finRange n).foldl
    (fun start node => earlier start (spvector node).localLsn) none

/-- The records read until one ends at or after the last position. -/
def readUntil (last : ℕ) :
    List (LocalRecord OriginId) → List (LocalRecord OriginId)
  | [] => []
  | record :: rest =>
      if record.endPtr < last then record :: readUntil last rest else [record]

/-- The records `RecoveryFilterLoad` reads. -/
def LocalWal.scanned
    (wal : LocalWal OriginId) (start : ℕ) : List (LocalRecord OriginId) :=
  readUntil wal.flush
    (wal.records.dropWhile fun record =>
      record.start < wal.geometry.lsnBump start)

/-- What a record adds to the map. -/
def filterEntry [DecidableEq OriginId]
    (nodes : List (Fin n × OriginId)) (filterNode : Option (Fin n))
    (spvector : Fin n → Point) (record : LocalRecord OriginId) :
    Option (Fin n × ℕ) :=
  match record.origin, record.op with
  | some origin, some _ =>
      match originIdToNodeId nodes origin with
      | none => none
      | some node =>
          if (∀ only ∈ filterNode, only = node) ∧
              ¬ record.originLsn ≤ (spvector node).originLsn then
            some (node, record.originLsn)
          else none
  | _, _ => none

/-- `RecoveryFilterLoad`; the map as the list of its entries. -/
def recoveryFilterLoad [DecidableEq OriginId]
    (wal : LocalWal OriginId) (nodes : List (Fin n × OriginId))
    (filterNode : Option (Fin n)) (spvector : Fin n → Point) :
    List (Fin n × ℕ) :=
  match filterStart spvector with
  | none => []
  | some start =>
      (wal.scanned start).filterMap (filterEntry nodes filterNode spvector)

/-- What is streamed and filtered.  `origin` is `none` for `MtmInvalidNodeId`. -/
inductive Streamed (n : ℕ)
  /-- `C`: the end of a transaction of one of the four kinds. -/
  | transaction (op : XactOp) (endLsn : ℕ) (origin : Option (Fin n))
      (originLsn : ℕ)
  /-- `MS`: a syncpoint, with its origin if it is forwarded. -/
  | syncpoint (endLsn : ℕ) (forwarded : Option (Fin n × ℕ))

/-- The node where a streamed record was first written. -/
def Streamed.origin (sender : Fin n) : Streamed n → Option (Fin n)
  | .transaction _ _ origin _ => origin
  | .syncpoint _ (some (origin, _)) => some origin
  | .syncpoint _ none => some sender

/-- `tx_lsn`: the position of the record at its origin. -/
def Streamed.txLsn (sender : Fin n) : Streamed n → ℕ
  | .transaction _ endLsn origin originLsn =>
      if origin = some sender then endLsn else originLsn
  | .syncpoint endLsn (some (origin, originLsn)) =>
      if origin = sender then endLsn else originLsn
  | .syncpoint endLsn none => endLsn

/-- `MtmFilterTransaction`: skip the record? -/
def mtmFilterTransaction
    (me sender : Fin n) (spvector : Fin n → Point)
    (filterMap : List (Fin n × ℕ)) (record : Streamed n) : Bool :=
  match record.origin sender with
  | none => true
  | some origin =>
      if (spvector origin).localLsn = 0 then true
      else if origin = me then true
      else if record.txLsn sender ≤ (spvector origin).originLsn then true
      else decide ((origin, record.txLsn sender) ∈ filterMap)

/-- How a receiver starts. -/
inductive Mode
  /-- Only the changes of the sender are streamed and filtered. -/
  | normal
  /-- Changes of all origins are. -/
  | recovery
  deriving DecidableEq

/-- `filter_node_id` for a mode. -/
def Mode.filterNode (sender : Fin n) : Mode → Option (Fin n)
  | .normal => some sender
  | .recovery => none

/-- The syncpoint vector for a mode: in normal mode only that of the sender is
loaded. -/
def Mode.spvector (sender : Fin n) (latest : Fin n → Point) :
    Mode → Fin n → Point
  | .normal => fun node => if node = sender then latest sender else ⟨0, 0⟩
  | .recovery => latest

/-! ## What is read -/

theorem earlier_le (start : Option ℕ) {lsn : ℕ} (valid : lsn ≠ 0) :
    ∃ found, earlier start lsn = some found ∧ found ≤ lsn := by
  unfold earlier
  rw [if_neg valid]
  cases start with
  | none => exact ⟨lsn, rfl, le_rfl⟩
  | some found =>
      dsimp only
      split
      · exact ⟨lsn, rfl, le_rfl⟩
      · exact ⟨found, rfl, by omega⟩

theorem earlier_of_some (found lsn : ℕ) :
    ∃ next, earlier (some found) lsn = some next ∧ next ≤ found := by
  unfold earlier
  split
  · exact ⟨found, rfl, le_rfl⟩
  · dsimp only
    split
    · exact ⟨lsn, rfl, by omega⟩
    · exact ⟨found, rfl, le_rfl⟩

/-- The start found so far only moves back. -/
theorem foldl_earlier_of_some
    (spvector : Fin n → Point) (nodes : List (Fin n)) (found : ℕ) :
    ∃ start, nodes.foldl
        (fun start node => earlier start (spvector node).localLsn)
        (some found) = some start ∧ start ≤ found := by
  induction nodes generalizing found with
  | nil => exact ⟨found, rfl, le_rfl⟩
  | cons node rest inductionHypothesis =>
      obtain ⟨next, isNext, nextLe⟩ :=
        earlier_of_some found (spvector node).localLsn
      obtain ⟨start, isStart, startLe⟩ := inductionHypothesis next
      rw [List.foldl_cons, isNext]
      exact ⟨start, isStart, startLe.trans nextLe⟩

/-- The scan starts no later than any valid position of the vector. -/
theorem filterStart_le
    {spvector : Fin n → Point} {node : Fin n}
    (valid : (spvector node).localLsn ≠ 0) :
    ∃ start, filterStart spvector = some start ∧
      start ≤ (spvector node).localLsn := by
  obtain ⟨before, behind, split⟩ :=
    List.append_of_mem (List.mem_finRange node)
  rw [filterStart, split, List.foldl_append, List.foldl_cons]
  obtain ⟨found, isFound, foundLe⟩ := earlier_le (before.foldl
    (fun start node => earlier start (spvector node).localLsn) none) valid
  obtain ⟨start, isStart, startLe⟩ :=
    foldl_earlier_of_some spvector behind found
  rw [isFound]
  exact ⟨start, isStart, startLe.trans foundLe⟩

theorem mem_of_mem_readUntil
    {last : ℕ} {records : List (LocalRecord OriginId)}
    {record : LocalRecord OriginId}
    (isRead : record ∈ readUntil last records) : record ∈ records := by
  induction records with
  | nil => cases isRead
  | cons first rest inductionHypothesis =>
      unfold readUntil at isRead
      split at isRead
      · rcases List.mem_cons.mp isRead with isFirst | isLater
        · exact isFirst ▸ List.mem_cons_self
        · exact List.mem_cons_of_mem _ (inductionHypothesis isLater)
      · rw [List.mem_singleton.mp isRead]
        exact List.mem_cons_self

/-- Everything up to the last position is read. -/
theorem mem_readUntil
    {last : ℕ} {records : List (LocalRecord OriginId)}
    (ordered : records.Pairwise fun first second =>
      first.endPtr ≤ second.start)
    {record : LocalRecord OriginId} (isRecord : record ∈ records)
    (nonempty : record.start < record.endPtr)
    (flushed : record.endPtr ≤ last) :
    record ∈ readUntil last records := by
  induction records with
  | nil => cases isRecord
  | cons first rest inductionHypothesis =>
      obtain ⟨firstBefore, restOrdered⟩ := List.pairwise_cons.mp ordered
      rcases List.mem_cons.mp isRecord with isFirst | isLater
      · unfold readUntil
        split <;> simp [isFirst]
      · have goesOn : first.endPtr < last := by
          have before := firstBefore record isLater
          omega
        rw [readUntil, if_pos goesOn]
        exact List.mem_cons_of_mem _ (inductionHypothesis restOrdered isLater)

theorem mem_dropWhile_of_not
    {records : List (LocalRecord OriginId)} {record : LocalRecord OriginId}
    {skip : LocalRecord OriginId → Bool}
    (isRecord : record ∈ records) (notSkipped : skip record = false) :
    record ∈ records.dropWhile skip := by
  rw [← List.takeWhile_append_dropWhile (p := skip) (l := records),
    List.mem_append] at isRecord
  rcases isRecord with isTaken | isLeft
  · rw [List.mem_takeWhile_imp isTaken] at notSkipped
    cases notSkipped
  · exact isLeft

/-- Every record at or after the start is read. -/
theorem LocalWal.mem_scanned
    (wal : LocalWal OriginId) {start : ℕ} {record : LocalRecord OriginId}
    (isRecord : record ∈ wal.records) (later : start ≤ record.start) :
    record ∈ wal.scanned start := by
  apply mem_readUntil
  · exact wal.ordered.sublist (List.dropWhile_sublist _)
  · apply mem_dropWhile_of_not isRecord
    have behind := wal.headers record isRecord start later
    simpa using behind
  · exact wal.nonempty record isRecord
  · exact wal.flushed record isRecord

theorem LocalWal.mem_of_mem_scanned
    (wal : LocalWal OriginId) {start : ℕ} {record : LocalRecord OriginId}
    (isRead : record ∈ wal.scanned start) : record ∈ wal.records :=
  (List.dropWhile_sublist _).subset (mem_of_mem_readUntil isRead)

/-! ## The filter is exact -/

section Exact

variable [DecidableEq OriginId]

/-- A record is the local trace of a change. -/
def LocalRecord.Traces
    (record : LocalRecord OriginId) (nodes : List (Fin n × OriginId))
    (node : Fin n) (lsn : ℕ) : Prop :=
  record.op ≠ none ∧ record.originLsn = lsn ∧
    ∃ origin, record.origin = some origin ∧
      originIdToNodeId nodes origin = some node

/-- What the syncpoints promise about the changes that have been applied, for
every origin that has a local position. -/
structure Promised
    (wal : LocalWal OriginId) (nodes : List (Fin n × OriginId))
    (spvector : Fin n → Point) (Applied : Fin n → ℕ → Prop) : Prop where
  /-- Everything up to the syncpoint is applied. -/
  covered : ∀ node, (spvector node).localLsn ≠ 0 →
    ∀ lsn ≤ (spvector node).originLsn, Applied node lsn
  /-- What is applied beyond it has its record behind the local position. -/
  recorded : ∀ node lsn, (spvector node).localLsn ≠ 0 →
    (spvector node).originLsn < lsn → Applied node lsn →
    ∃ record ∈ wal.records, record.Traces nodes node lsn ∧
      (spvector node).localLsn ≤ record.start
  /-- A record of a change is there only if the change is applied. -/
  traced : ∀ node lsn, ∀ record ∈ wal.records,
    record.Traces nodes node lsn → Applied node lsn

/-- The entry of a record is the change it traces, if it is asked for and beyond
the syncpoint. -/
theorem filterEntry_eq_some
    {nodes : List (Fin n × OriginId)} {filterNode : Option (Fin n)}
    {spvector : Fin n → Point} {record : LocalRecord OriginId}
    {node : Fin n} {lsn : ℕ} :
    filterEntry nodes filterNode spvector record = some (node, lsn) ↔
      record.Traces nodes node lsn ∧ (∀ only ∈ filterNode, only = node) ∧
        (spvector node).originLsn < lsn := by
  unfold filterEntry LocalRecord.Traces
  cases isOrigin : record.origin with
  | none => simp
  | some origin =>
      cases isOp : record.op with
      | none => simp
      | some op =>
          dsimp only
          cases isNode : originIdToNodeId nodes origin with
          | none => simp [isNode]
          | some found =>
              dsimp only
              split
              · next asked =>
                  simp only [Option.some.injEq, Prod.mk.injEq]
                  constructor
                  · rintro ⟨rfl, rfl⟩
                    exact ⟨⟨by simp, rfl, origin, rfl, isNode⟩, asked.1,
                      Nat.lt_of_not_le asked.2⟩
                  · rintro ⟨⟨_, isLsn, same, rfl, isSame⟩, _, _⟩
                    rw [isNode] at isSame
                    exact ⟨Option.some.inj isSame, isLsn⟩
              · next notAsked =>
                  constructor
                  · intro impossible
                    cases impossible
                  · rintro ⟨⟨_, rfl, same, isSame, isFound⟩, asked, beyond⟩
                    cases isSame
                    rw [isNode] at isFound
                    cases isFound
                    exact absurd ⟨asked, Nat.not_le.mpr beyond⟩ notAsked

/-- Beyond the syncpoint the map has exactly what is applied. -/
theorem mem_recoveryFilterLoad
    {wal : LocalWal OriginId} {nodes : List (Fin n × OriginId)}
    {spvector : Fin n → Point} {Applied : Fin n → ℕ → Prop}
    (promised : Promised wal nodes spvector Applied)
    {filterNode : Option (Fin n)} {node : Fin n}
    (asked : ∀ only ∈ filterNode, only = node)
    (valid : (spvector node).localLsn ≠ 0) {lsn : ℕ}
    (beyond : (spvector node).originLsn < lsn) :
    (node, lsn) ∈ recoveryFilterLoad wal nodes filterNode spvector ↔
      Applied node lsn := by
  obtain ⟨start, isStart, startLe⟩ := filterStart_le valid
  rw [recoveryFilterLoad, isStart]
  dsimp only
  rw [List.mem_filterMap]
  constructor
  · rintro ⟨record, isRead, isEntry⟩
    exact promised.traced node lsn record (wal.mem_of_mem_scanned isRead)
      (filterEntry_eq_some.mp isEntry).1
  · intro applied
    obtain ⟨record, isRecord, traces, behind⟩ :=
      promised.recorded node lsn valid beyond applied
    exact ⟨record, wal.mem_scanned isRecord (startLe.trans behind),
      filterEntry_eq_some.mpr ⟨traces, asked, beyond⟩⟩

/-- The origin is not known: it is none of our nodes, or the receiver has no
position for it. -/
def Streamed.Unknown
    (record : Streamed n) (sender : Fin n) (spvector : Fin n → Point) : Prop :=
  ∀ origin ∈ record.origin sender, (spvector origin).localLsn = 0

/-- With the map that is loaded when the receiver starts, a streamed record is
skipped exactly when its origin is unknown or this node, or its change is
applied already. -/
theorem filter_exact
    (wal : LocalWal OriginId) (nodes : List (Fin n × OriginId))
    (me sender : Fin n) (mode : Mode) (latest : Fin n → Point)
    (Applied : Fin n → ℕ → Prop)
    (promised : Promised wal nodes (mode.spvector sender latest) Applied)
    (record : Streamed n) :
    mtmFilterTransaction me sender (mode.spvector sender latest)
        (recoveryFilterLoad wal nodes (mode.filterNode sender)
          (mode.spvector sender latest)) record = true ↔
      record.Unknown sender (mode.spvector sender latest) ∨
        record.origin sender = some me ∨
        ∃ origin ∈ record.origin sender,
          Applied origin (record.txLsn sender) := by
  unfold mtmFilterTransaction Streamed.Unknown
  cases isOrigin : record.origin sender with
  | none => simp
  | some origin =>
      simp only [Option.mem_some_iff, forall_eq', exists_eq_left',
        Option.some.injEq]
      by_cases valid : (mode.spvector sender latest origin).localLsn = 0
      · simp [valid]
      · by_cases isMe : origin = me
        · simp [isMe]
        · have asked : ∀ only ∈ mode.filterNode sender, only = origin := by
            intro only isOnly
            cases mode with
            | normal =>
                cases isOnly
                by_contra different
                apply valid
                have other : origin ≠ sender := fun same => different same.symm
                simp [Mode.spvector, other]
            | recovery => cases isOnly
          rw [if_neg valid, if_neg isMe]
          simp only [valid, isMe, false_or]
          split
          · next covered =>
              exact iff_of_true rfl (promised.covered origin valid _ covered)
          · next beyond =>
              rw [decide_eq_true_eq]
              exact mem_recoveryFilterLoad promised asked valid
                (Nat.lt_of_not_le beyond)

end Exact

/-- Node 0 has applied a `PREPARE` of node 1 behind its syncpoint, and has
written a record of its own. -/
def preparedWal : LocalWal ℕ where
  geometry := .standard
  records :=
    [⟨100, 140, some 11, some .prepare, 90⟩, ⟨140, 180, none, none, 0⟩,
      ⟨180, 220, some 11, some .prepare, 150⟩]
  flush := 220
  ordered := by decide
  nonempty := by decide
  headers := by decide +kernel
  flushed := by decide

/-- The latest syncpoints of node 0. -/
def preparedPoints : Fin 3 → Point
  | 0 => ⟨0, 0⟩
  | 1 => ⟨100, 140⟩
  | 2 => ⟨50, 100⟩

/-- What node 0 has applied. -/
def PreparedApplied (node : Fin 3) (lsn : ℕ) : Prop :=
  (node = 1 ∧ (lsn ≤ 100 ∨ lsn = 150)) ∨ (node = 2 ∧ lsn ≤ 50)

theorem preparedWal_promised :
    Promised preparedWal [(1, 11), (2, 12)] preparedPoints
      PreparedApplied where
  covered
    | 0, valid, _, _ => absurd rfl valid
    | 1, _, _, le => Or.inl ⟨rfl, Or.inl le⟩
    | 2, _, _, le => Or.inr ⟨rfl, le⟩
  recorded := by
    rintro node lsn _ beyond (⟨rfl, covered | rfl⟩ | ⟨rfl, covered⟩)
    · exact absurd covered (Nat.not_le.mpr beyond)
    · exact ⟨⟨180, 220, some 11, some .prepare, 150⟩, by decide,
        ⟨by decide, rfl, 11, rfl, rfl⟩, by decide⟩
    · exact absurd covered (Nat.not_le.mpr beyond)
  traced := by
    rintro node lsn record isRecord ⟨isOp, rfl, origin, isOrigin, isNode⟩
    simp only [preparedWal, List.mem_cons, List.not_mem_nil,
      or_false] at isRecord
    rcases isRecord with rfl | rfl | rfl
    · cases isOrigin
      cases isNode
      exact Or.inl ⟨rfl, Or.inl (by decide)⟩
    · cases isOrigin
    · cases isOrigin
      cases isNode
      exact Or.inl ⟨rfl, Or.inr rfl⟩

/-- The `PREPARE` is skipped when it comes again, and the next one is not. -/
theorem filter_exact_preparedWal :
    let skips := mtmFilterTransaction 0 1 preparedPoints
      (recoveryFilterLoad preparedWal [(1, 11), (2, 12)] none preparedPoints)
    skips (.transaction .prepare 150 (some 1) 0) = true ∧
      skips (.transaction .prepare 190 (some 1) 0) = false := by
  intro skips
  have exact_ : ∀ record, skips record = true ↔ _ :=
    filter_exact preparedWal [(1, 11), (2, 12)] 0 1 .recovery preparedPoints
      PreparedApplied preparedWal_promised
  constructor
  · rw [exact_]
    exact Or.inr (Or.inr ⟨1, rfl, Or.inl ⟨rfl, Or.inr rfl⟩⟩)
  · rw [← Bool.not_eq_true, exact_]
    rintro (isUnknown | isMine | ⟨origin, isOrigin, applied⟩)
    · exact absurd (isUnknown 1 rfl) (by decide)
    · cases isMine
    · cases isOrigin
      simp [PreparedApplied, Streamed.txLsn] at applied

end Recovery
end Multimaster
