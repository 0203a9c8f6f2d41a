import Multimaster.Barrier.Defs
import Multimaster.Gtx.Table
import Multimaster.Pool.Txlist

/-!
# The executor and its error handler

`MtmExecutor` for a transaction that ends with `PREPARE`.  Of what an action
does, only what the error handler has to undo is followed here: the prepare
barrier, the gtx, the replication session, the entry in the list of
transactions and the replies.  Everything else an action does is a step that
changes none of these and may raise an error as well.

Other processes come in through the state the executor starts from; the wait in
`GlobalTxAcquire` is over when the transaction gets there.
-/

namespace Multimaster
namespace Apply

open Gtx

/-- `MtmReplicationMode` of a receiver. -/
inductive ReplMode
  | recovery
  | normal
  deriving DecidableEq

/-- `MtmDDLInProgress`. -/
inductive DdlInProgress
  | nothing
  | tx
  | nontx
  deriving DecidableEq

/-- `ErrorData`, as far as it is reported. -/
structure ErrorData where
  sqlerrcode : ℕ
  message : String
  deriving DecidableEq

/-- `MtmPrepareResponse` and where it is sent. -/
structure PrepareReply where
  dest : ℕ
  nodeId : ℕ
  prepared : Bool
  errcode : ℕ
  errmsg : String
  xid : ℕ
  deriving DecidableEq

/-- What is fixed for a process: itself, its node, the sender it applies for and
the slot `HASH_ENTER` would take. -/
structure Identity (Process : Type*) where
  me : Process
  myNodeId : ℕ
  senderNodeId : ℕ
  mode : ReplMode
  freeSlot : ℕ

/-- A process that applies, with what it shares with others. -/
structure Applier (Gid Process : Type*) where
  /-- `origin_xid`; `none` is `InvalidTransactionId`. -/
  originXid : Option ℕ
  bdrLike : Bool
  ddlApplyInProgress : DdlInProgress
  /-- `pb_acquired_in_mode` and the counters of the barrier. -/
  barrier : Option Barrier.Mode
  counters : Barrier.Counters
  /-- `rwctx->gtx`, as a slot of the table. -/
  gtx : Option ℕ
  table : Gtx.Table Gid Process
  /-- `replorigin_session_origin`. -/
  sessionOrigin : Option ℕ
  /-- `session_replication_state` is set. -/
  sessionIsSetUp : Bool
  txlistPos : ℤ
  txlist : Pool.Txlist
  replies : List PrepareReply

variable {Gid Process : Type*}

/-! ## Steps -/

/-- The steps an action is made of. -/
inductive Op (Gid : Type*)
  /-- Something that leaves the state followed here alone. -/
  | work
  /-- `origin_xid` is read from `BEGIN`. -/
  | setXid (xid : ℕ)
  /-- `MtmBeginSession`. -/
  | beginSession (origin : ℕ)
  /-- `MtmEndSession`. -/
  | endSession
  /-- `MtmApplyDDLMessage` sets and clears `DDLApplyInProgress`. -/
  | setDdl (progress : DdlInProgress)
  /-- `AcquirePBByPreparer(false)`. -/
  | acquirePB
  | releasePB
  /-- `GlobalTxAcquire` with `create`. -/
  | acquireGtx (gid : Gid)
  /-- `xinfo` of the gtx is set. -/
  | describeGtx (coordinator : ℕ)
  /-- The `PREPARE` record is written. -/
  | writePrepare (gid : Gid)
  /-- `prepared` of the gtx is set. -/
  | markPrepared
  /-- `GlobalTxRelease`, and `rwctx->gtx` is cleared. -/
  | releaseGtx
  /-- The reply about the prepared transaction. -/
  | replyPrepared
  | clearXid
  deriving DecidableEq

variable [DecidableEq Gid] [DecidableEq Process]

/-- `ReleasePB`. -/
def Applier.releasePB (applier : Applier Gid Process) : Applier Gid Process :=
  { applier with
    barrier := none
    counters := applier.counters.release applier.barrier }

/-- `GlobalTxRelease` of the gtx, if there is one. -/
def Applier.releaseGtx
    (identity : Identity Process) (applier : Applier Gid Process) :
    Applier Gid Process :=
  match applier.gtx with
  | some slot =>
      { applier with
        table := globalTxRelease applier.table identity.me slot
        gtx := none }
  | none => applier

/-- `mtm_send_prepare_reply`. -/
def prepareReply
    (identity : Identity Process) (xid : ℕ) (prepared : Bool)
    (edata : Option ErrorData) : PrepareReply where
  dest := identity.senderNodeId
  nodeId := identity.myNodeId
  prepared := prepared
  errcode := (edata.map ErrorData.sqlerrcode).getD 0
  errmsg := (edata.map ErrorData.message).getD ""
  xid := xid

/-- A reply about the current transaction, in normal mode. -/
def Applier.reply
    (identity : Identity Process) (applier : Applier Gid Process)
    (prepared : Bool) (edata : Option ErrorData) : Applier Gid Process :=
  match identity.mode, applier.originXid with
  | .normal, some xid =>
      { applier with
        replies := applier.replies ++
          [prepareReply identity xid prepared edata] }
  | _, _ => applier

/-- The effect of a step. -/
def perform
    (identity : Identity Process) (applier : Applier Gid Process) :
    Op Gid → Applier Gid Process
  | .work => applier
  | .setXid xid => { applier with originXid := some xid }
  | .beginSession origin =>
      { applier with
        sessionOrigin := some origin
        sessionIsSetUp := true }
  | .endSession =>
      match applier.sessionOrigin with
      | some _ =>
          { applier with
            sessionOrigin := none
            sessionIsSetUp := false }
      | none => applier
  | .setDdl progress => { applier with ddlApplyInProgress := progress }
  | .acquirePB =>
      { applier with
        barrier := some (Barrier.preparerMode false)
        counters := applier.counters.add 1 (Barrier.preparerMode false) }
  | .releasePB => applier.releasePB
  | .acquireGtx gid =>
      match globalTxAcquire applier.table identity.me gid true false false
          identity.freeSlot with
      | .acquired table =>
          { applier with
            table := table
            gtx := table.hash gid }
      | _ => applier
  | .describeGtx coordinator =>
      { applier with
        table := applier.table.write identity.me fun entry =>
          { entry with coordinator := coordinator } }
  | .writePrepare _ =>
      { applier with
        table := tableEffect applier.table (.logPrepare identity.me) }
  | .markPrepared =>
      { applier with
        table := tableEffect applier.table (.markPrepared identity.me) }
  | .releaseGtx => applier.releaseGtx identity
  | .replyPrepared => applier.reply identity true none
  | .clearXid => { applier with originXid := none }

/-- What a step leaves when it raises an error.  `MtmBeginSession` sets the
origin first; the error is then raised by `replorigin_session_setup`. -/
def interrupted
    (applier : Applier Gid Process) : Op Gid → Applier Gid Process
  | .beginSession origin => { applier with sessionOrigin := some origin }
  | _ => applier

/-! ## Transactions -/

/-- The actions between `BEGIN` and `PREPARE`. -/
inductive Change
  | relation
  | insert
  | update
  | delete
  | openSpillFile
  | readChunk
  | endChunk
  | sequence
  | truncate
  /-- A message with transactional DDL. -/
  | ddl
  deriving DecidableEq

/-- The steps of an action; `process_remote_message` runs in a session of the
sender. -/
def Change.ops (sender : ℕ) : Change → List (Op Gid)
  | .ddl =>
      [.work, .beginSession sender, .setDdl .tx, .work, .setDdl .nothing,
        .endSession]
  | _ => [.work]

/-- A transaction in the stream. -/
structure Transaction (Gid : Type*) where
  xid : ℕ
  changes : List Change
  originNode : ℕ
  gid : Gid
  coordinator : ℕ

/-- `process_remote_begin`. -/
def Transaction.beginOps (transaction : Transaction Gid) : List (Op Gid) :=
  [.work, .setXid transaction.xid, .work]

/-- `process_remote_commit` up to the gtx: the fields are read and the session
is set up. -/
def Transaction.sessionOps (transaction : Transaction Gid) : List (Op Gid) :=
  [.work, .beginSession transaction.originNode]

/-- Then, with the barrier, the checks of the generation, the transaction block,
and the gtx. -/
def Transaction.lockOps (transaction : Transaction Gid) : List (Op Gid) :=
  [.acquirePB, .work, .work, .acquireGtx transaction.gid,
    .describeGtx transaction.coordinator, .work]

/-- `PREPARE` itself and what comes after. -/
def Transaction.prepareOps (transaction : Transaction Gid) : List (Op Gid) :=
  [.writePrepare transaction.gid, .releasePB, .markPrepared, .releaseGtx,
    .replyPrepared, .clearXid, .endSession]

/-- The steps before the barrier is acquired. -/
def Transaction.openOps
    (transaction : Transaction Gid) (sender : ℕ) : List (Op Gid) :=
  transaction.beginOps ++ transaction.changes.flatMap (Change.ops sender) ++
    transaction.sessionOps

/-- All steps of a transaction. -/
def Transaction.ops
    (transaction : Transaction Gid) (sender : ℕ) : List (Op Gid) :=
  transaction.openOps sender ++ transaction.lockOps ++ transaction.prepareOps

/-! ## The executor -/

/-- How a call ends. -/
inductive Outcome (Gid Process : Type*)
  | returned (applier : Applier Gid Process)
  /-- The process exits. -/
  | exited

/-- Where and with what an error is raised: at a step, before it has had any
effect or, with `inside`, in the middle of it. -/
structure Failure where
  position : ℕ
  inside : Bool
  edata : ErrorData

/-- The state when the error is raised. -/
def Applier.raise
    (applier : Applier Gid Process) (op : Op Gid) (inside : Bool) :
    Applier Gid Process :=
  if inside then interrupted applier op else applier

/-- An error in such a transaction must not be skipped over. -/
def Applier.MustDie
    (identity : Identity Process) (applier : Applier Gid Process) : Prop :=
  (identity.mode = .recovery ∨ applier.originXid = none ∨
      applier.bdrLike = true) ∧
    applier.ddlApplyInProgress ≠ .nontx

instance (identity : Identity Process) (applier : Applier Gid Process) :
    Decidable (applier.MustDie identity) :=
  inferInstanceAs (Decidable (_ ∧ _))

/-- `txl_remove` of the own entry, and `txlist_pos` is cleared. -/
def Applier.removeEntry (applier : Applier Gid Process) :
    Applier Gid Process :=
  { applier with
    txlist := (Pool.txlRemove applier.txlist applier.txlistPos).1
    txlistPos := -1 }

/-- The rest of the error handler after the session. -/
def Applier.finishCleanup
    (identity : Identity Process) (applier : Applier Gid Process)
    (edata : ErrorData) : Applier Gid Process :=
  ({ applier with ddlApplyInProgress := .nothing }.removeEntry).reply identity
    false (some edata)

/-- The error handler.  `replorigin_session_reset` raises an error of its own
when no session is set up; nobody catches it. -/
def catchError
    (identity : Identity Process) (applier : Applier Gid Process)
    (edata : ErrorData) : Outcome Gid Process :=
  if applier.MustDie identity then .exited
  else
    let released := applier.releasePB.releaseGtx identity
    if released.sessionOrigin ≠ none ∧ released.sessionIsSetUp = false then
      .exited
    else
      .returned
        ((perform identity released .endSession).finishCleanup identity edata)

/-- What is done after the loop and after the error handler. -/
def Outcome.finish : Outcome Gid Process → Outcome Gid Process
  | .returned applier => .returned applier.removeEntry
  | .exited => .exited

/-- What is reset at the beginning. -/
def Applier.called (applier : Applier Gid Process) : Applier Gid Process :=
  { applier with
    originXid := none
    bdrLike := false
    sessionOrigin := none }

/-- The steps one after another. -/
def performAll
    (identity : Identity Process) (applier : Applier Gid Process)
    (ops : List (Op Gid)) : Applier Gid Process :=
  ops.foldl (perform identity) applier

/-- `MtmExecutor` on a transaction, with or without an error. -/
def mtmExecutor
    (identity : Identity Process) (applier : Applier Gid Process)
    (transaction : Transaction Gid) : Option Failure → Outcome Gid Process
  | none =>
      (Outcome.returned (performAll identity applier.called
        (transaction.ops identity.senderNodeId))).finish
  | some failure =>
      let ops := transaction.ops identity.senderNodeId
      let reached :=
        performAll identity applier.called (ops.take failure.position)
      (catchError identity
        (match ops[failure.position]? with
        | some op => reached.raise op failure.inside
        | none => reached) failure.edata).finish

end Apply
end Multimaster
