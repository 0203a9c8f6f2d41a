import Multimaster.Lib.Machine
import Mathlib.Logic.Function.Basic

/-!
# The row stream

The output plugin of a WAL sender (`pglogical_output.c`, `pglogical_proto.c`)
writes the changes of a transaction; `MtmExecutor` (`pglogical_apply.c`) in some
apply process reads them.  Row actions do not name their relation: the sender
writes a relation header when it thinks that the receiver does not have that
relation open, and leaves the names out of the header when it has sent them in
the same transaction.  Every apply process keeps a map from the relation OIDs
of the sender to its own.

Each record of the stream is one token; the tuples of the rows are left out.
-/

namespace Multimaster
namespace Stream

/-! ## Catalogs -/

/-- A 32-bit OID. -/
abbrev Oid := ℕ

/-- `InvalidOid`. -/
def invalidOid : Oid := 0

/-- Namespace and name of a relation. -/
structure RelName where
  nspname : String
  relname : String
  deriving DecidableEq

/-- Row changes come from tables only, `nextval` positions from sequences. -/
inductive RelKind
  | table
  | sequence
  deriving DecidableEq

/-- What `pg_class` says of a relation. -/
structure Entry where
  name : RelName
  kind : RelKind
  deriving DecidableEq

/-- The relations of a node. -/
abbrev Catalog := List (Oid × Entry)

/-- The entry of a relation OID. -/
def Catalog.entry (catalog : Catalog) (oid : Oid) : Option Entry :=
  (catalog.find? fun row => decide (row.1 = oid)).map Prod.snd

/-- `RangeVarGetRelidExtended`. -/
def Catalog.rangeVarGetRelid (catalog : Catalog) (name : RelName) :
    Option Oid :=
  (catalog.find? fun row => decide (row.2.name = name)).map Prod.fst

/-- A schema change, as far as the catalogs of sender and receiver show it.  A
created relation gets an OID of its own on either side. -/
inductive Ddl
  | create (oids : Oid × Oid) (entry : Entry)
  | rename (old new : RelName)
  | drop (name : RelName)
  | other
  deriving DecidableEq

/-- Execute a schema change; `side` picks the OID of the node. -/
def Ddl.run (side : Oid × Oid → Oid) : Ddl → Catalog → Catalog
  | .create oids entry, catalog => (side oids, entry) :: catalog
  | .rename old new, catalog =>
      catalog.map fun row =>
        (row.1, if row.2.name = old then { row.2 with name := new } else row.2)
  | .drop name, catalog =>
      catalog.filter fun row => decide (row.2.name ≠ name)
  | .other, catalog => catalog

/-! ## The stream -/

/-- The actions performed on an open relation. -/
inductive RowAction
  | insert
  | update
  | delete
  /-- The action `0`. -/
  | truncate
  /-- The action `N`. -/
  | nextval
  deriving DecidableEq

/-- A record of the stream: its action byte with what follows it.  The header
of a relation has empty names when both lengths in it are zero. -/
inductive Record
  | begin
  | commit
  | row (action : RowAction)
  | relation (relid : Oid) (names : Option RelName)
  | message (label : Char) (ddl : Ddl)
  | caughtup
  | unknown (action : Char)
  deriving DecidableEq

/-! ## The sender -/

/-- The static variables of the output plugin. -/
structure Sender where
  mtmSenderTid : Oid
  mtmLastRelId : Oid
  ddlInProgress : Bool
  /-- `relid_map`, with `InvalidOid` for a missing entry. -/
  relidMap : Oid → Oid

/-- The relation handed to the output plugin. -/
structure Relation where
  relid : Oid
  name : RelName
  deriving DecidableEq

/-- `pglogical_write_rel`. -/
def pglogicalWriteRel (rel : Relation) (sender : Sender) :
    Sender × List Record :=
  if sender.ddlInProgress then (sender, [])
  else if rel.relid = sender.mtmLastRelId then (sender, [])
  else if sender.relidMap rel.relid = sender.mtmSenderTid then
    ({ sender with mtmLastRelId := rel.relid }, [.relation rel.relid none])
  else
    ({ sender with
        mtmLastRelId := rel.relid
        relidMap :=
          Function.update sender.relidMap rel.relid sender.mtmSenderTid },
      [.relation rel.relid (some rel.name)])

/-- `pglogical_write_begin`. -/
def pglogicalWriteBegin (sender : Sender) : Sender × List Record :=
  let tid := (sender.mtmSenderTid + 1) % 2 ^ 32
  let next : Sender :=
    if tid = invalidOid then
      { sender with mtmSenderTid := tid + 1, relidMap := fun _ => invalidOid }
    else { sender with mtmSenderTid := tid }
  ({ next with mtmLastRelId := invalidOid, ddlInProgress := false }, [.begin])

/-- The changes of `pg_decode_change`; a `DELETE` may lack its old tuple. -/
inductive Change
  | insert
  | update
  | delete (oldtuple : Bool)
  deriving DecidableEq

/-- The row record of a change. -/
def Change.record : Change → List Record
  | .insert => [.row .insert]
  | .update => [.row .update]
  | .delete true => [.row .delete]
  | .delete false => []

/-- `pg_decode_change`, after the row filter. -/
def pgDecodeChange (change : Change) (rel : Relation) (sender : Sender) :
    Sender × List Record :=
  let header := pglogicalWriteRel rel sender
  (header.1,
    header.2 ++ if header.1.ddlInProgress then [] else change.record)

/-- Logical messages.  The relation of `T` and `N` is opened by its OID. -/
inductive Message
  /-- `D` -/
  | ddl (ddl : Ddl)
  /-- `E` -/
  | ddlEnd
  /-- `T`, with whether the receiver is among its targets and the rows of the
  table. -/
  | copyTable (relid : Oid) (targeted : Bool) (rows : ℕ)
  /-- `N` -/
  | nextval (relid : Oid)
  /-- `L`, with `is_recovery` of the receiver. -/
  | deadlock (isRecovery : Bool)
  /-- Any other label, such as `B`. -/
  | other (label : Char)
  deriving DecidableEq

/-- The relation a message is about. -/
def Message.relid : Message → Option Oid
  | .copyTable relid _ _ => some relid
  | .nextval relid => some relid
  | _ => none

/-- `pglogical_broadcast_table`. -/
def pglogicalBroadcastTable
    (targeted : Bool) (rows : ℕ) (rel : Relation) (sender : Sender) :
    Sender × List Record :=
  if targeted then
    let header := pglogicalWriteRel rel sender
    (header.1,
      header.2 ++ .row .truncate :: List.replicate rows (.row .insert))
  else (sender, [])

/-- `pglogical_seq_nextval`. -/
def pglogicalSeqNextval (rel : Relation) (sender : Sender) :
    Sender × List Record :=
  let header := pglogicalWriteRel rel sender
  (header.1, header.2 ++ [.row .nextval])

/-- `pglogical_write_message`; `rel` is the relation of the message, if it has
one. -/
def pglogicalWriteMessage
    (message : Message) (rel : Relation) (before : Sender) :
    Sender × List Record :=
  let sender := { before with mtmLastRelId := invalidOid }
  match message with
  | .ddl ddl => ({ sender with ddlInProgress := true }, [.message 'D' ddl])
  | .ddlEnd => ({ sender with ddlInProgress := false }, [])
  | .copyTable _ targeted rows =>
      pglogicalBroadcastTable targeted rows rel sender
  | .nextval _ =>
      if sender.ddlInProgress then (sender, [])
      else pglogicalSeqNextval rel sender
  | .deadlock isRecovery =>
      (sender, if isRecovery then [] else [.message 'L' .other])
  | .other label => (sender, [.message label .other])

/-! ## The receiver -/

/-- How an apply process can fail on a record. -/
inductive Failure
  /-- `Assert(rel)` -/
  | assertRel
  /-- `unknown action of type ...` -/
  | unknownAction
  /-- No relation of that name. -/
  | undefinedTable
  /-- The mapped relation is gone. -/
  | couldNotOpen
  /-- `Assert(false)` on the label of a message. -/
  | unknownMessage
  /-- The data ended inside a transaction. -/
  | noDataLeft
  deriving DecidableEq

/-- The state of `MtmExecutor` with the process it runs in and the node around
it. -/
structure Applier where
  /-- The open relation. -/
  rel : Option Oid
  /-- `relid_map`, with `InvalidOid` for a missing entry. -/
  relidMap : Oid → Oid
  bdrLike : Bool
  /-- The relations of the node. -/
  catalog : Catalog
  /-- The row actions executed so far, with the name their relation had. -/
  executed : List (RowAction × RelName)

/-- `read_rel`. -/
def readRel (relid : Oid) (names : Option RelName) (applier : Applier) :
    Except Failure Applier :=
  if applier.relidMap relid = invalidOid then
    match names.bind applier.catalog.rangeVarGetRelid with
    | none => .error .undefinedTable
    | some oid =>
        .ok { applier with
          rel := some oid
          relidMap := Function.update applier.relidMap relid oid }
  else if (applier.catalog.entry (applier.relidMap relid)).isSome then
    .ok { applier with rel := some (applier.relidMap relid) }
  else .error .couldNotOpen

/-- Perform an action on the open relation; `N` closes it. -/
def onRel (action : RowAction) (applier : Applier) :
    Except Failure Applier :=
  match applier.rel with
  | none => .error .assertRel
  | some oid =>
      match applier.catalog.entry oid with
      | none => .error .couldNotOpen
      | some entry =>
          .ok { applier with
            rel := if action = .nextval then none else some oid
            executed := applier.executed ++ [(action, entry.name)] }

/-- `process_remote_message`: whether the message stands alone. -/
def processRemoteMessage (label : Char) (ddl : Ddl) (applier : Applier) :
    Except Failure (Applier × Bool) :=
  match label with
  | 'C' => .ok (applier, true)
  | 'V' => .ok (applier, true)
  | 'D' =>
      .ok ({ applier with catalog := ddl.run Prod.snd applier.catalog }, false)
  | 'L' => .ok (applier, true)
  | 'P' => .ok (applier, true)
  | 'S' => .ok (applier, true)
  | 'B' => .ok ({ applier with bdrLike := true }, false)
  | _ => .error .unknownMessage

/-- One round of the loop of `MtmExecutor`, with the new value of
`inside_transaction`. -/
def applyRecord (record : Record) (applier : Applier) :
    Except Failure (Applier × Bool) :=
  match record with
  | .begin => .ok (applier, true)
  | .commit => .ok ({ applier with rel := none }, false)
  | .row action => (onRel action applier).map fun next => (next, true)
  | .relation relid names =>
      (readRel relid names applier).map fun next => (next, true)
  | .message label ddl =>
      (processRemoteMessage label ddl { applier with rel := none }).map
        fun result => (result.1, !result.2)
  | .caughtup => .ok (applier, false)
  | .unknown _ => .error .unknownAction

/-- The loop of `MtmExecutor`. -/
def mtmExecutor : List Record → Applier → Except Failure Applier
  | [], _ => .error .noDataLeft
  | record :: rest, applier =>
      match applyRecord record applier with
      | .error failure => .error failure
      | .ok (next, true) => mtmExecutor rest next
      | .ok (next, false) => .ok next

/-! ## Sender and receiver together -/

/-- A sender, a receiving node with its apply processes, and the record of what
was written and executed. -/
structure World where
  sender : Sender
  /-- The relations of the sender, as the transaction being decoded sees
  them. -/
  catalog : Catalog
  /-- All OIDs ever given to relations, on both sides. -/
  oids : List (Oid × Oid)
  /-- The records of the transaction being decoded. -/
  buffer : Option (List Record)
  /-- The transactions sent. -/
  sent : List (List Record)
  /-- The row actions written, with the name of the relation each of them was
  written for. -/
  written : List (RowAction × RelName)
  /-- The relations of the receiver. -/
  localCatalog : Catalog
  /-- The map of every apply process. -/
  maps : ℕ → Oid → Oid
  executed : List (RowAction × RelName)
  failure : Option Failure

/-- The callbacks of the output plugin inside and around a transaction. -/
inductive Callback
  | begin
  /-- A row change, with the verdict of the row filter. -/
  | change (passes : Bool) (change : Change) (relid : Oid)
  | message (message : Message)
  /-- `COMMIT` or `PREPARE`, and the process the transaction goes to. -/
  | finish (process : ℕ)
  deriving DecidableEq

/-- The row actions among some records, all written for one relation. -/
def rowsFor (name : RelName) (records : List Record) :
    List (RowAction × RelName) :=
  records.filterMap fun record =>
    match record with
    | .row action => some (action, name)
    | _ => none

/-- A schema change that can succeed: OIDs and names of created relations are
new, and OIDs are never used again. -/
def ValidDdl (world : World) : Ddl → Prop
  | .create oids entry =>
      oids.1 ≠ invalidOid ∧ oids.2 ≠ invalidOid ∧
        (∀ pair ∈ world.oids, pair.1 ≠ oids.1 ∧ pair.2 ≠ oids.2) ∧
        ∀ row ∈ world.catalog, row.2.name ≠ entry.name
  | .rename _ new => ∀ row ∈ world.catalog, row.2.name ≠ new
  | .drop _ => True
  | .other => True

instance (world : World) (ddl : Ddl) : Decidable (ValidDdl world ddl) :=
  match ddl with
  | .create _ _ => inferInstanceAs (Decidable (_ ∧ _ ∧ _ ∧ _))
  | .rename _ _ => inferInstanceAs (Decidable (∀ _ ∈ _, _))
  | .drop _ => inferInstanceAs (Decidable True)
  | .other => inferInstanceAs (Decidable True)

/-- The transactional messages of a transaction: `D`, `E`, `T`, `N` and `B`. -/
def ValidMessage (world : World) : Message → Prop
  | .ddl ddl => ValidDdl world ddl
  | .ddlEnd => True
  | .copyTable relid _ _ =>
      (world.catalog.entry relid).map Entry.kind = some .table
  | .nextval relid =>
      (world.catalog.entry relid).map Entry.kind = some .sequence
  | .deadlock _ => False
  | .other label => label = 'B'

instance (world : World) (message : Message) :
    Decidable (ValidMessage world message) :=
  match message with
  | .ddl ddl => inferInstanceAs (Decidable (ValidDdl world ddl))
  | .ddlEnd => inferInstanceAs (Decidable True)
  | .copyTable _ _ _ => inferInstanceAs (Decidable (_ = _))
  | .nextval _ => inferInstanceAs (Decidable (_ = _))
  | .deadlock _ => inferInstanceAs (Decidable False)
  | .other _ => inferInstanceAs (Decidable (_ = _))

/-- Whether logical decoding can call a callback. -/
def Enabled (world : World) : Callback → Prop
  | .begin => world.buffer = none
  | .change _ _ relid =>
      world.buffer.isSome = true ∧
        (world.catalog.entry relid).map Entry.kind = some .table
  | .message message =>
      world.buffer.isSome = true ∧ ValidMessage world message
  | .finish _ => world.buffer.isSome = true

instance (world : World) (callback : Callback) :
    Decidable (Enabled world callback) :=
  match callback with
  | .begin => inferInstanceAs (Decidable (_ = _))
  | .change _ _ _ => inferInstanceAs (Decidable (_ ∧ _))
  | .message _ => inferInstanceAs (Decidable (_ ∧ _))
  | .finish _ => inferInstanceAs (Decidable (_ = _))

/-- The relation of an OID on the sender. -/
def World.relation (world : World) (relid : Oid) : Relation where
  relid := relid
  name := ((world.catalog.entry relid).map Entry.name).getD ⟨"", ""⟩

/-- Add what a callback wrote for a relation. -/
def World.write
    (world : World) (name : RelName) (output : Sender × List Record) : World :=
  { world with
    sender := output.1
    buffer := world.buffer.map (· ++ output.2)
    written := world.written ++ rowsFor name output.2 }

/-- The sender executes the schema change it announces. -/
def World.execute (world : World) : Message → World
  | .ddl ddl =>
      { world with
        catalog := ddl.run Prod.fst world.catalog
        oids :=
          match ddl with
          | .create oids _ => oids :: world.oids
          | _ => world.oids }
  | _ => world

/-- Hand the transaction over to an apply process. -/
def World.deliver (world : World) (process : ℕ) (records : List Record) :
    World :=
  let result := mtmExecutor records
    { rel := none
      relidMap := world.maps process
      bdrLike := false
      catalog := world.localCatalog
      executed := world.executed }
  match result with
  | .ok applier =>
      { world with
        buffer := none
        sent := records :: world.sent
        localCatalog := applier.catalog
        maps := Function.update world.maps process applier.relidMap
        executed := applier.executed }
  | .error failure =>
      { world with
        buffer := none
        sent := records :: world.sent
        failure := some failure }

/-- The state after a callback. -/
def effect (world : World) : Callback → World
  | .begin =>
      let output := pglogicalWriteBegin world.sender
      { world with sender := output.1, buffer := some output.2 }
  | .change passes change relid =>
      if passes then
        let rel := world.relation relid
        world.write rel.name (pgDecodeChange change rel world.sender)
      else world
  | .message message =>
      let rel := world.relation (message.relid.getD invalidOid)
      (world.write rel.name
        (pglogicalWriteMessage message rel world.sender)).execute message
  | .finish process =>
      world.deliver process (world.buffer.getD [] ++ [.commit])

/-- A sender that has just started, and processes without maps. -/
def initialWorld : World where
  sender :=
    { mtmSenderTid := invalidOid
      mtmLastRelId := invalidOid
      ddlInProgress := false
      relidMap := fun _ => invalidOid }
  catalog := []
  oids := []
  buffer := none
  sent := []
  written := []
  localCatalog := []
  maps := fun _ _ => invalidOid
  executed := []
  failure := none

/-- The machine of the row stream. -/
def machine : Machine World Callback where
  init := initialWorld
  Enabled := Enabled
  effect := effect

instance (world : World) (callback : Callback) :
    Decidable (machine.Enabled world callback) :=
  inferInstanceAs (Decidable (Enabled world callback))

/-- No table is broadcast to the receiver between `D` and `E`. -/
def CopiesOutsideDdl (world : World) : Callback → Prop
  | .message (.copyTable _ targeted _) =>
      targeted = true → world.sender.ddlInProgress = false
  | _ => True

instance (world : World) (callback : Callback) :
    Decidable (CopiesOutsideDdl world callback) :=
  match callback with
  | .message (.copyTable _ _ _) => inferInstanceAs (Decidable (_ → _))
  | .message (.ddl _) => inferInstanceAs (Decidable True)
  | .message .ddlEnd => inferInstanceAs (Decidable True)
  | .message (.nextval _) => inferInstanceAs (Decidable True)
  | .message (.deadlock _) => inferInstanceAs (Decidable True)
  | .message (.other _) => inferInstanceAs (Decidable True)
  | .begin => inferInstanceAs (Decidable True)
  | .change _ _ _ => inferInstanceAs (Decidable True)
  | .finish _ => inferInstanceAs (Decidable True)

end Stream
end Multimaster
