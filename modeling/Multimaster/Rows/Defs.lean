import Multimaster.Tuple.Defs
import Multimaster.Spill.Defs
import Multimaster.Stream.Defs
import Multimaster.Events.Defs

/-!
# Row changes

How the rows of a table are written (`pglogical_proto.c`), and how the executor
reads them and changes its own table (`pglogical_apply.c`).  A row is found by
the index of the replica identity, or else by the primary key, or else by
comparing all columns.

The model has the rows of one table.  It has no triggers, no constraints but the
identity, and no further indexes.
-/

namespace Multimaster
namespace Rows

open Multimaster.Tuple (Attribute Datum DeformedTuple ReadColumn TupleDesc
  readTupleParts writeTuple)
open Wire

variable {Value Class : Type}

/-! ## The sender -/

/-- The changes of `pg_decode_change`. -/
inductive RowChange (Value : Type)
  | insert (newtuple : DeformedTuple Value)
  | update (oldtuple : Option (DeformedTuple Value))
      (newtuple : DeformedTuple Value)
  | delete (oldtuple : Option (DeformedTuple Value))

/-- `pglogical_write_insert`. -/
def pglogicalWriteInsert
    (ddlInProgress wantBinary : Bool) (newtuple : DeformedTuple Value) :
    Option (List UInt8) :=
  if ddlInProgress then some []
  else (writeTuple ddlInProgress wantBinary newtuple).map (73 :: ·)

/-- The part of `pglogical_write_update` about the old tuple. -/
def writeOldKey (ddlInProgress wantBinary : Bool) :
    Option (DeformedTuple Value) → Option (List UInt8)
  | none => some []
  | some oldtuple => (writeTuple ddlInProgress wantBinary oldtuple).map (75 :: ·)

/-- `pglogical_write_update`. -/
def pglogicalWriteUpdate
    (ddlInProgress wantBinary : Bool) (oldtuple : Option (DeformedTuple Value))
    (newtuple : DeformedTuple Value) : Option (List UInt8) :=
  if ddlInProgress then some []
  else do
    let old ← writeOldKey ddlInProgress wantBinary oldtuple
    let new ← writeTuple ddlInProgress wantBinary newtuple
    pure (85 :: (old ++ 78 :: new))

/-- `pglogical_write_delete`. -/
def pglogicalWriteDelete
    (ddlInProgress wantBinary : Bool) (oldtuple : DeformedTuple Value) :
    Option (List UInt8) :=
  if ddlInProgress then some []
  else (writeTuple ddlInProgress wantBinary oldtuple).map (68 :: ·)

/-- What `pg_decode_change` writes for the row itself.  A `DELETE` without old
tuple is not sent. -/
def RowChange.write (ddlInProgress wantBinary : Bool) :
    RowChange Value → Option (List UInt8)
  | .insert newtuple => pglogicalWriteInsert ddlInProgress wantBinary newtuple
  | .update oldtuple newtuple =>
      pglogicalWriteUpdate ddlInProgress wantBinary oldtuple newtuple
  | .delete (some oldtuple) =>
      pglogicalWriteDelete ddlInProgress wantBinary oldtuple
  | .delete none => some []

/-! ## The receiver reads -/

/-- What the handlers of the executor take from a transaction. -/
inductive Content
  | begin (senderNodeId : ℕ) (originXid : UInt64)
  | relation (remoteRelid : ℕ) (nspname relname : List UInt8)
  | insert (newTuple : List ReadColumn)
  | update (oldTuple : Option (List ReadColumn)) (newTuple : List ReadColumn)
  | delete (oldTuple : List ReadColumn)
  | truncate
  | nextval (next : UInt64)
  | message (label : UInt8) (recordLsn : UInt64) (body : List UInt8)
  | commit (remoteCommit : Events.RemoteCommit)

/-- `process_remote_begin`. -/
def readBegin : Reader Content := do
  let senderNodeId ← getInt 4
  let originXid ← Message.getInt64
  -- the snapshot and the mask of participants
  let _ ← Message.getInt64
  let _ ← Message.getInt64
  pure (.begin senderNodeId originXid)

/-- `read_rel`. -/
def readRelation : Reader Content := do
  let remoteRelid ← getInt 4
  let nspnamelen ← getByte
  let nspname ← getBytes nspnamelen.toNat
  let relnamelen ← getByte
  let relname ← getBytes relnamelen.toNat
  pure (.relation remoteRelid nspname relname)

/-- The tuples of `process_remote_update`. -/
def readUpdate (desc : TupleDesc Value) : Reader Content := do
  let action ← getByte
  if action = 75 then do
    let oldTuple ← readTupleParts desc
    let action ← getByte
    if action = 78 then do
      let newTuple ← readTupleParts desc
      pure (.update (some oldTuple) newTuple)
    else failure
  else if action = 78 then do
    let newTuple ← readTupleParts desc
    pure (.update none newTuple)
  else failure

/-- `process_remote_message`, up to the message itself. -/
def readMessage : Reader Content := do
  let (label, recordLsn, body) ← Events.readMessage
  pure (.message label recordLsn body)

/-- The handlers of `MtmExecutor` while a table is open. -/
def tableHandlers
    (rule : Text.EofRule) (senderNodeId : ℕ) (desc : TupleDesc Value)
    (tLen : List ReadColumn → ℕ) : Spill.Handlers Content where
  read
    | 48 => pure .truncate
    | 66 => readBegin
    | 67 => do
        let remoteCommit ← Events.processRemoteCommit rule senderNodeId
        pure (.commit remoteCommit)
    | 68 => do
        let oldTuple ← readTupleParts desc
        pure (.delete oldTuple)
    | 73 => do
        let newTuple ← readTupleParts desc
        pure (.insert newTuple)
    | 77 => readMessage
    | 78 => do
        let next ← Message.getInt64
        pure (.nextval next)
    | 82 => readRelation
    | 85 => readUpdate desc
    | _ => failure
  tLen
    | .insert newTuple => tLen newTuple
    | _ => 0
  standalone
    | .message label _ _ =>
        label = 67 || label = 86 || label = 76 || label = 80 || label = 83
    | _ => false

/-! ## The receiver changes its table -/

/-- A row of the receiver, with a datum or null for every attribute. -/
abbrev LocalRow := List (Option (List UInt8))

/-- An open table of the receiver.  An index is given by the attributes in it. -/
structure Relation (Value Class : Type) where
  desc : TupleDesc Value
  /-- `RelationGetReplicaIndex`. -/
  replicaIndex : Option (List Bool)
  /-- `RelationGetPrimaryKeyIndex`. -/
  primaryKeyIndex : Option (List Bool)
  /-- The class of a value under the equality operator of its type. -/
  classOf : Value → Class

/-- How an action fails. -/
inductive Failure
  /-- `Record with specified key can not be located at this node`. -/
  | noDataFound
  /-- The index has the key already. -/
  | uniqueViolation
  /-- `Assert(rel)` -/
  | assertRel
  /-- No relation of that name. -/
  | undefinedTable
  /-- The mapped relation is gone. -/
  | couldNotOpen
  /-- `Assert(false)` on the label of a message. -/
  | unknownMessage
  /-- A statement raises an error. -/
  | statement
  /-- A row of a table that is not in the model. -/
  | otherTable
  deriving DecidableEq

/-- `heap_form_tuple` of a tuple that was read. -/
def heapFormTuple (columns : List ReadColumn) : LocalRow :=
  columns.map fun column => if column.isnull then none else column.value

/-- `heap_modify_tuple`: unchanged columns keep their datum. -/
def heapModifyTuple (row : LocalRow) (columns : List ReadColumn) : LocalRow :=
  List.zipWith
    (fun datum column =>
      if column.changed then
        if column.isnull then none else column.value
      else datum)
    row columns

/-- The first row with a property, with those before and behind it. -/
def locate (found : LocalRow → Bool) :
    List LocalRow → Option (List LocalRow × LocalRow × List LocalRow)
  | [] => none
  | row :: rest =>
      if found row then some ([], row, rest)
      else
        (locate found rest).map fun (before, located, behind) =>
          (row :: before, located, behind)

namespace Relation

variable [DecidableEq Class]

/-- `idxoid`. -/
def idxoid (relation : Relation Value Class) : Option (List Bool) :=
  relation.replicaIndex.or relation.primaryKeyIndex

/-- Two datums are equal for an index or a comparison. -/
def sameDatum
    (relation : Relation Value Class) (att : Attribute Value)
    (first second : List UInt8) : Bool :=
  decide (relation.classOf (att.type.meaning first) =
    relation.classOf (att.type.meaning second))

/-- The attributes of an index are equal; null is equal to nothing. -/
def sameKey
    (relation : Relation Value Class) (index : List Bool)
    (first second : LocalRow) : Bool :=
  ((relation.desc.attrs.zip index).zip (first.zip second)).all
    fun ((att, isKey), datums) =>
      !isKey ||
        match datums with
        | (some first, some second) => relation.sameDatum att first second
        | _ => false

/-- All attributes are equal, or both are null. -/
def sameTuple
    (relation : Relation Value Class) (first second : LocalRow) : Bool :=
  (relation.desc.attrs.zip (first.zip second)).all fun (att, datums) =>
    att.attisdropped ||
      match datums with
      | (some first, some second) => relation.sameDatum att first second
      | (none, none) => true
      | _ => false

/-- `RelationFindReplTupleByIndex` or `RelationFindReplTupleSeq`. -/
def findReplTuple
    (relation : Relation Value Class) (search : LocalRow)
    (table : List LocalRow) :
    Option (List LocalRow × LocalRow × List LocalRow) :=
  match relation.idxoid with
  | some index => locate (fun row => relation.sameKey index row search) table
  | none => locate (fun row => relation.sameTuple row search) table

/-- A row with the key of a new row is refused. -/
def checkUnique
    (relation : Relation Value Class) (row : LocalRow) (others : List LocalRow) :
    Except Failure Unit :=
  match relation.idxoid with
  | some index =>
      if others.any fun other => relation.sameKey index other row then
        .error .uniqueViolation
      else .ok ()
  | none => .ok ()

/-- `process_remote_insert`, for one of its tuples. -/
def processRemoteInsert
    (relation : Relation Value Class) (newTuple : List ReadColumn)
    (table : List LocalRow) : Except Failure (List LocalRow) := do
  let row := heapFormTuple newTuple
  relation.checkUnique row table
  pure (table ++ [row])

/-- `process_remote_update`. -/
def processRemoteUpdate
    (relation : Relation Value Class) (oldTuple : Option (List ReadColumn))
    (newTuple : List ReadColumn) (table : List LocalRow) :
    Except Failure (List LocalRow) :=
  match relation.findReplTuple (heapFormTuple (oldTuple.getD newTuple))
      table with
  | none => .error .noDataFound
  | some (before, row, behind) => do
      let modified := heapModifyTuple row newTuple
      relation.checkUnique modified (before ++ behind)
      pure (before ++ modified :: behind)

/-- `process_remote_delete`. -/
def processRemoteDelete
    (relation : Relation Value Class) (oldTuple : List ReadColumn)
    (table : List LocalRow) : Except Failure (List LocalRow) :=
  match relation.findReplTuple (heapFormTuple oldTuple) table with
  | none => .error .noDataFound
  | some (before, _, behind) => .ok (before ++ behind)

end Relation

/-! ## The executor -/

/-- The receiving node, around one of its tables. -/
structure Replica (Value Class : Type) where
  relation : Relation Value Class
  /-- The OID of the table. -/
  relid : Stream.Oid
  /-- `RangeVarGetRelidExtended`. -/
  rangeVarGetRelid : List UInt8 → List UInt8 → Option Stream.Oid
  /-- `table_open` finds the relation. -/
  opens : Stream.Oid → Bool
  /-- What a statement does to the rows of the table, if it raises no error. -/
  execute : List UInt8 → List LocalRow → Option (List LocalRow)

/-- The state of `MtmExecutor` with the map of its process and the rows. -/
structure Applier where
  /-- The open relation. -/
  rel : Option Stream.Oid
  /-- `relid_map`, with `InvalidOid` for a missing entry. -/
  relidMap : Stream.Oid → Stream.Oid
  table : List LocalRow
  /-- What `AdjustSequence` was called with. -/
  positions : List (Stream.Oid × UInt64)

/-- The string that begins here. -/
def cString (bytes : List UInt8) : List UInt8 :=
  bytes.takeWhile fun byte => byte != 0

/-- `UPDATE` and the like: an action on the open relation. -/
def Replica.onTable
    (replica : Replica Value Class)
    (change : List LocalRow → Except Failure (List LocalRow))
    (applier : Applier) : Except Failure Applier :=
  match applier.rel with
  | none => .error .assertRel
  | some oid =>
      if oid = replica.relid then
        (change applier.table).map fun table => { applier with table := table }
      else .error .otherTable

/-- `read_rel`, once its fields are read. -/
def Replica.readRel
    (replica : Replica Value Class) (remoteRelid : Stream.Oid)
    (nspname relname : List UInt8) (applier : Applier) :
    Except Failure Applier :=
  if applier.relidMap remoteRelid = Stream.invalidOid then
    match replica.rangeVarGetRelid (cString nspname) (cString relname) with
    | none => .error .undefinedTable
    | some oid =>
        .ok { applier with
          rel := some oid
          relidMap := Function.update applier.relidMap remoteRelid oid }
  else if replica.opens (applier.relidMap remoteRelid) then
    .ok { applier with rel := some (applier.relidMap remoteRelid) }
  else .error .couldNotOpen

/-- `process_remote_message`, as far as the table goes. -/
def Replica.processRemoteMessage
    (replica : Replica Value Class) (label : UInt8) (body : List UInt8)
    (applier : Applier) : Except Failure Applier :=
  -- `C`, `D` and `V` carry statements
  if label = 67 ∨ label = 68 ∨ label = 86 then
    match replica.execute body applier.table with
    | none => .error .statement
    | some table => .ok { applier with table := table }
  -- `B`, `L`, `P` and `S` do not
  else if label = 66 ∨ label = 76 ∨ label = 80 ∨ label = 83 then .ok applier
  else .error .unknownMessage

/-- The action `N`. -/
def Applier.adjustSequence (next : UInt64) (applier : Applier) :
    Except Failure Applier :=
  match applier.rel with
  | none => .error .assertRel
  | some oid =>
      .ok { applier with
        rel := none
        positions := applier.positions ++ [(oid, next)] }

/-- The action `0`. -/
def Replica.truncate (replica : Replica Value Class) (applier : Applier) :
    Except Failure Applier :=
  match applier.rel with
  | none => .error .assertRel
  | some oid =>
      if oid = replica.relid then .ok { applier with table := [] }
      else .ok applier

variable [DecidableEq Class]

/-- One round of the loop of `MtmExecutor`. -/
def Replica.process
    (replica : Replica Value Class) :
    Content → Applier → Except Failure Applier
  | .begin _ _, applier => .ok applier
  | .commit _, applier => .ok { applier with rel := none }
  | .insert newTuple, applier =>
      replica.onTable (replica.relation.processRemoteInsert newTuple) applier
  | .update oldTuple newTuple, applier =>
      replica.onTable (replica.relation.processRemoteUpdate oldTuple newTuple)
        applier
  | .delete oldTuple, applier =>
      replica.onTable (replica.relation.processRemoteDelete oldTuple) applier
  | .relation remoteRelid nspname relname, applier =>
      replica.readRel remoteRelid nspname relname applier
  | .nextval next, applier => applier.adjustSequence next
  | .truncate, applier => replica.truncate applier
  | .message label _ body, applier =>
      replica.processRemoteMessage label body { applier with rel := none }

/-- The actions one after the other. -/
def Replica.processAll
    (replica : Replica Value Class) :
    List Content → Applier → Except Failure Applier
  | [], applier => .ok applier
  | content :: rest, applier => do
      let applier ← replica.process content applier
      replica.processAll rest applier

end Rows
end Multimaster
