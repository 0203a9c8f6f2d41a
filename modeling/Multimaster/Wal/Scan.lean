import Multimaster.Gtx.Basic
import Mathlib.Data.Finset.Card
import Mathlib.Logic.Function.Basic

/-!
# The scan of the WAL

`GetLoggedPreparedXactState`: the WAL is read segment by segment from the newest
one backwards, and forwards inside each segment, until as many outcomes are
found as there are transactions in the set.

Positions are byte positions.  `XLogFindNextRecord` gives the first record that
starts at or after a position, `XLogReadRecord` the records in order.
-/

namespace Multimaster
namespace Wal

open Gtx

/-- `XLOG_BLCKSZ`, `wal_segment_size` and the sizes of page headers. -/
structure Geometry where
  blckSize : ℕ
  segSize : ℕ
  shortHeader : ℕ
  longHeader : ℕ

/-- `wal_segment_size * 2`: an `int`, which is compared as a position. -/
def Geometry.twoSegments (geometry : Geometry) : ℕ :=
  ((BitVec.ofNat 32 geometry.segSize * 2#32).signExtend 64).toNat

/-- The usual sizes. -/
def Geometry.standard : Geometry where
  blckSize := 8192
  segSize := 16777216
  shortHeader := 24
  longHeader := 40

/-- With segments of 1 GB the product overflows. -/
example : { Geometry.standard with segSize := 1073741824 }.twoSegments =
    2 ^ 64 - 2 ^ 31 := by
  decide

/-- `lsn_bump`: skip the page header. -/
def Geometry.lsnBump (geometry : Geometry) (lsn : ℕ) : ℕ :=
  if lsn ≠ 0 ∧ lsn % geometry.blckSize = 0 then
    if lsn % geometry.segSize = 0 then lsn + geometry.longHeader
    else lsn + geometry.shortHeader
  else lsn

/-- What a record means for prepared transactions. -/
inductive Content (Gid : Type*)
  | other
  | prepare (gid : Gid)
  /-- `COMMIT PREPARED` or `ABORT PREPARED`. -/
  | finish (gid : Gid) (commit : Bool)
  deriving DecidableEq

/-- A record from `start` up to `endPtr`. -/
structure LogRecord (Gid : Type*) where
  start : ℕ
  endPtr : ℕ
  content : Content Gid
  deriving DecidableEq

/-- The WAL of a node. -/
structure Log (Gid : Type*) where
  geometry : Geometry
  records : List (LogRecord Gid)
  /-- `GetFlushRecPtr` at the time of the call. -/
  flush : ℕ
  /-- `GetOldestRestartPoint`. -/
  redo : ℕ
  /-- `XLogGetLastRemovedSegno`. -/
  removed : ℕ

variable {Gid : Type*} [DecidableEq Gid]

/-- `XLogFindNextRecord`; `none` is `InvalidXLogRecPtr`. -/
def Log.findNextRecord (log : Log Gid) (lsn : ℕ) : Option ℕ :=
  (log.records.find? fun record => lsn ≤ record.start).map LogRecord.start

/-- The records `XLogReadRecord` returns after `XLogBeginRead`. -/
def Log.beginRead (log : Log Gid) (lsn : ℕ) : List (LogRecord Gid) :=
  log.records.dropWhile fun record => record.start < lsn

/-- `XLogSegNoOffsetToRecPtr` with offset zero, and `lsn_bump`. -/
def Log.segmentStart (log : Log Gid) (segno : ℕ) : ℕ :=
  log.geometry.lsnBump (segno * log.geometry.segSize)

/-- The state of the scan: the answers of the set and `n_trans`. -/
structure Progress (Gid : Type*) where
  status : Gid → GlobalTxStatus
  prepareSeen : Gid → Bool
  nTrans : ℕ

/-- The status for an outcome. -/
def outcomeStatus (commit : Bool) : GlobalTxStatus :=
  if commit then .committed else .aborted

/-- A record is read. -/
def Progress.read
    (progress : Progress Gid) (txset : Finset Gid) (record : LogRecord Gid) :
    Progress Gid :=
  match record.content with
  | .other => progress
  | .prepare gid =>
      if gid ∈ txset then
        { progress with
          prepareSeen := Function.update progress.prepareSeen gid true }
      else progress
  | .finish gid commit =>
      if gid ∈ txset then
        { progress with
          status := Function.update progress.status gid (outcomeStatus commit)
          nTrans := progress.nTrans - 1 }
      else progress

/-- The loop over records in a segment. -/
def readSegment (txset : Finset Gid) (endLsn : ℕ) :
    Progress Gid → List (LogRecord Gid) → Progress Gid
  | progress, [] => progress
  | progress, record :: rest =>
      let read := progress.read txset record
      if 0 < read.nTrans ∧ record.endPtr < endLsn then
        readSegment txset endLsn read rest
      else read

/-- Where the scan goes on after the part that started at `start`: to the
beginning of the segment, or to the segment before. -/
def Log.previous (log : Log Gid) (start : ℕ) : Option ℕ :=
  let first := log.findNextRecord
    (log.segmentStart (start / log.geometry.segSize))
  if first = some start then
    if start ≤ log.geometry.twoSegments then none
    else if start / log.geometry.segSize - 1 ≤ log.removed then none
    else log.findNextRecord
      (log.segmentStart (start / log.geometry.segSize - 1))
  else first

/-- The loop over segments; `none` when the fuel does not suffice. -/
def scanSegments (log : Log Gid) (txset : Finset Gid) :
    ℕ → Progress Gid → Option ℕ → ℕ → Option (Progress Gid)
  | 0, _, _, _ => none
  | _ + 1, progress, none, _ => some progress
  | fuel + 1, progress, some startLsn, endLsn =>
      let start := log.geometry.lsnBump startLsn
      let read := readSegment txset endLsn progress (log.beginRead start)
      if read.nTrans = 0 then some read
      else scanSegments log txset fuel read (log.previous start) start

/-- Where the scan starts: in the last segment, or at the restart point if that
is later. -/
def Log.scanStart (log : Log Gid) : Option ℕ :=
  if log.redo = 0 then none
  else
    match log.findNextRecord
        (log.segmentStart (log.flush / log.geometry.segSize)) with
    | some lsn => if log.redo < lsn then some lsn else some log.redo
    | none => some log.redo

/-- `GetLoggedPreparedXactState` for a set with these answers. -/
def getLoggedPreparedXactState
    (log : Log Gid) (txset : Finset Gid) (status : Gid → GlobalTxStatus)
    (fuel : ℕ) : Option (Progress Gid) :=
  scanSegments log txset fuel
    { status := status
      prepareSeen := fun _ => false
      nTrans := txset.card }
    log.scanStart log.flush

/-! ## The order of the scan -/

/-- The records the loop over a segment reads when nothing stops it earlier. -/
def readUntil (endLsn : ℕ) : List (LogRecord Gid) → List (LogRecord Gid)
  | [] => []
  | record :: rest =>
      if record.endPtr < endLsn then record :: readUntil endLsn rest
      else [record]

/-- The records in the order of the scan, from the newest segment backwards.  A
record that starts a part is read again with the part before it, when the record
in front of it ends on a page boundary. -/
def Log.walk (log : Log Gid) : ℕ → Option ℕ → ℕ → List (LogRecord Gid)
  | 0, _, _ => []
  | _ + 1, none, _ => []
  | fuel + 1, some startLsn, endLsn =>
      let start := log.geometry.lsnBump startLsn
      readUntil endLsn (log.beginRead start) ++
        log.walk fuel (log.previous start) start

/-- The outcomes of transactions of the set in a list of records. -/
def finishes
    (txset : Finset Gid) (records : List (LogRecord Gid)) :
    List (Gid × Bool) :=
  records.filterMap fun record =>
    match record.content with
    | .finish gid commit => if gid ∈ txset then some (gid, commit) else none
    | _ => none

/-- The last outcome of a transaction in a list. -/
def lastOutcome (gid : Gid) (outcomes : List (Gid × Bool)) : Option Bool :=
  (outcomes.reverse.find? fun outcome => outcome.1 = gid).map Prod.snd

/-- The outcomes of the set from the oldest retained segment up to the flush
pointer. -/
def Log.outcomes (log : Log Gid) (txset : Finset Gid) : List (Gid × Bool) :=
  finishes txset
    (log.records.filter fun record =>
      log.removed < record.start / log.geometry.segSize ∧
        record.endPtr ≤ log.flush)

end Wal
end Multimaster
