import Multimaster.Gtx.Xstate
import Multimaster.Message.Defs
import Multimaster.Recovery.Filter

/-!
# The ends of transactions on the wire

The output plugin ends every transaction with a record of one of six kinds.  It
is read twice: by `MtmFilterTransaction`, which decides whether the transaction
has been applied already, and by `process_remote_commit`, which applies it and
says with which origin and at which position of that origin.  A syncpoint
message is read twice as well; the receiver it was sent to logs it again in
another form, with its origin.
-/

namespace Multimaster
namespace Events

open Gtx (XactInfo deserializeXstate xstateFormat)
open Message (CString State Term getInt64 sendInt64)
open Text (Directive EofRule scan intAt unsignedAt printInt numeral)
open Wire

/-! ## Texts -/

/-- The bytes of a text. -/
def encode (text : List Char) : List UInt8 :=
  text.map fun char => UInt8.ofNat char.toNat

/-- The text with some bytes. -/
def decode (bytes : List UInt8) : List Char :=
  bytes.map fun byte => Char.ofNat byte.toNat

/-! ## The sender -/

/-- `MTM_MAX_NODES`. -/
def mtmMaxNodes : ℕ := 16

/-- `MtmInvalidNodeId`. -/
def mtmInvalidNodeId : ℕ := 0

/-- `GIDSIZE`. -/
def gidSize : ℕ := 200

/-- What `MtmConfig` says of another node. -/
structure Node where
  nodeId : ℕ
  originId : UInt16

/-- The configuration of a WAL sender. -/
structure Config where
  myNodeId : ℕ
  nodes : List Node
  my_pos : 0 < myNodeId
  my_le : myNodeId ≤ mtmMaxNodes
  nodes_pos : ∀ node ∈ nodes, 0 < node.nodeId
  nodes_le : ∀ node ∈ nodes, node.nodeId ≤ mtmMaxNodes

/-- `ReorderBufferTXN`.  `InvalidRepOriginId` is zero. -/
structure Txn where
  xid : UInt64
  originId : UInt16
  originLsn : UInt64
  endLsn : UInt64
  commitTime : UInt64
  gid : CString
  /-- The server refuses longer identifiers at `PREPARE`. -/
  gid_short : gid.bytes.length < gidSize
  state3Pc : CString
  state3PcChange : Bool

/-- `PGLOGICAL_EVENT`. -/
inductive Event
  | commit
  | abort
  | prepare
  | commitPrepared
  | abortPrepared
  | preparePhase2A
  deriving DecidableEq

/-- The event as a byte. -/
def Event.code : Event → UInt8
  | .commit => 0
  | .abort => 1
  | .prepare => 2
  | .commitPrepared => 3
  | .abortPrepared => 4
  | .preparePhase2A => 5

/-- `send_node_id`: the node where the transaction was first made. -/
def sendNodeId (config : Config) (txn : Txn) : ℕ :=
  if txn.originId = 0 then config.myNodeId
  else
    match config.nodes.find? fun node =>
        decide (node.nodeId ≠ config.myNodeId ∧
          node.originId = txn.originId) with
    | some node => node.nodeId
    | none => mtmInvalidNodeId

/-- The fields that all records have. -/
def fixedFields
    (config : Config) (txn : Txn) (event : Event) (lsn : UInt64) :
    List (List UInt8) :=
  [[event.code], [UInt8.ofNat config.myNodeId], sendInt64 lsn,
    sendInt64 txn.endLsn, sendInt64 txn.commitTime,
    [UInt8.ofNat (sendNodeId config txn)], sendInt64 txn.originLsn]

/-- `pq_sendstring`. -/
def sendString (string : CString) : List UInt8 :=
  string.bytes ++ [0]

/-- The byte `C` with the fields of a record. -/
def record (fields : List (List UInt8)) : List UInt8 :=
  67 :: fields.flatten

/-- `pglogical_write_commit`. -/
def pglogicalWriteCommit
    (config : Config) (txn : Txn) (lsn : UInt64) : List UInt8 :=
  record (fixedFields config txn .commit lsn)

/-- `pglogical_write_abort`. -/
def pglogicalWriteAbort
    (config : Config) (txn : Txn) (lsn : UInt64) : List UInt8 :=
  record (fixedFields config txn .abort lsn)

/-- `pglogical_write_commit_prepared`; 42 stands for a CSN. -/
def pglogicalWriteCommitPrepared
    (config : Config) (txn : Txn) (lsn : UInt64) : List UInt8 :=
  record (fixedFields config txn .commitPrepared lsn ++
    [sendInt64 42, sendString txn.gid, sendInt64 txn.xid])

/-- `pglogical_write_abort_prepared`. -/
def pglogicalWriteAbortPrepared
    (config : Config) (txn : Txn) (lsn : UInt64) : List UInt8 :=
  record (fixedFields config txn .abortPrepared lsn ++
    [sendString txn.gid, sendInt64 txn.xid])

/-- Before `sscanf` assigns to it. -/
def emptyInfo : XactInfo where
  coordinator := 0
  xid := 0
  genNum := 0
  configured := 0

/-- Before `sscanf` assigns to it. -/
def emptyState : State where
  proposal := { ballot := 0, nodeId := 0 }
  accepted := { ballot := 0, nodeId := 0 }
  status := .invalid

/-- `deserialize_xstate` at level `ERROR`. -/
def deserializeOrError
    (rule : EofRule) (text : CString) : Option (XactInfo × State) :=
  if (scan xstateFormat (decode text.bytes)).result rule ≠ 9 then none
  else
    let parsed := deserializeXstate rule (decode text.bytes) emptyInfo emptyState
    some (parsed.xinfo, parsed.state)

/-- `InitialGTxTerm`. -/
def initialGTxTerm : Term where
  ballot := 1
  nodeId := 0

/-- The 2a of the coordinator itself; `term_cmp` is zero for equal terms
only. -/
def CoordinatorPrecommit (state : State) : Prop :=
  state.status = .preCommitted ∧ state.proposal = initialGTxTerm ∧
    state.accepted = initialGTxTerm

instance (state : State) : Decidable (CoordinatorPrecommit state) :=
  inferInstanceAs (Decidable (_ ∧ _ ∧ _))

/-- The record behind `pglogical_write_prepare` when it is sent. -/
def prepareRecord
    (config : Config) (txn : Txn) (event : Event) (lsn : UInt64) :
    List UInt8 :=
  record (fixedFields config txn event lsn ++
    [sendString txn.gid, sendString txn.state3Pc])

/-- `pglogical_write_prepare`; `none` is an `ERROR`.  Of the changes of a
persistent state only the 2a of the coordinator is sent. -/
def pglogicalWritePrepare
    (rule : EofRule) (config : Config) (txn : Txn) (lsn : UInt64) :
    Option (List UInt8) :=
  if txn.state3PcChange then
    match deserializeOrError rule txn.state3Pc with
    | none => none
    | some (_, state) =>
        if CoordinatorPrecommit state then
          some (prepareRecord config txn .preparePhase2A lsn)
        else some []
  else some (prepareRecord config txn .prepare lsn)

/-! ## The receiver -/

/-- The event with a code.  An unknown one is an assertion failure. -/
def getEvent : Reader Event := do
  let code ← getByte
  match code with
  | 0 => pure .commit
  | 1 => pure .abort
  | 2 => pure .prepare
  | 3 => pure .commitPrepared
  | 4 => pure .abortPrepared
  | 5 => pure .preparePhase2A
  | _ => failure

/-- `pq_getmsgstring`, copied to an array of `GIDSIZE` bytes. -/
def getGid : Reader (List UInt8) := do
  let gid ← getString
  pure (gid.take gidSize)

/-- `pq_getmsgstring`, parsed by `deserialize_xstate`. -/
def getXstate (rule : EofRule) : Reader (XactInfo × State) := do
  let text ← Message.getRawString
  match deserializeOrError rule text with
  | none => failure
  | some parsed => pure parsed

/-- What a record of each kind says of its transaction. -/
inductive Finish
  | commit
  | prepare (gid : List UInt8) (xinfo : XactInfo) (state : State)
  | preparePhase2A (gid : List UInt8) (xinfo : XactInfo) (state : State)
  | commitPrepared (gid : List UInt8) (xid : UInt64)
  | abortPrepared (gid : List UInt8) (xid : UInt64)
  /-- No branch of the `switch`: an assertion failure, if it came to that. -/
  | abort
  deriving DecidableEq

/-- What `process_remote_commit` reads. -/
structure RemoteCommit where
  /-- `replorigin_session_origin_timestamp`. -/
  timestamp : UInt64
  originNode : ℕ
  /-- `replorigin_session_origin_lsn`. -/
  originLsn : UInt64
  finish : Finish
  deriving DecidableEq

/-- The fields behind the fixed ones. -/
def readFinish (rule : EofRule) : Event → Reader Finish
  | .commit => pure .commit
  -- the receiver drops aborted transactions
  | .abort => pure .abort
  | .prepare => do
      let gid ← getGid
      let (xinfo, state) ← getXstate rule
      pure (.prepare gid xinfo state)
  | .preparePhase2A => do
      let gid ← getGid
      let (xinfo, state) ← getXstate rule
      pure (.preparePhase2A gid xinfo state)
  | .commitPrepared => do
      let _ ← getInt64
      let gid ← getGid
      let xid ← getInt64
      pure (.commitPrepared gid xid)
  | .abortPrepared => do
      let gid ← getGid
      let xid ← getInt64
      pure (.abortPrepared gid xid)

/-- `process_remote_commit` for a transaction of a sender, as a reader. -/
def processRemoteCommit
    (rule : EofRule) (senderNodeId : ℕ) : Reader RemoteCommit := do
  let event ← getEvent
  let _ ← getByte
  let _ ← getInt64
  let endLsn ← getInt64
  let timestamp ← getInt64
  let originNode ← getByte
  let originLsn ← getInt64
  let finish ← readFinish rule event
  pure
    { timestamp := timestamp
      originNode := originNode.toNat
      originLsn :=
        if originNode.toNat = senderNodeId then endLsn else originLsn
      finish := finish }

/-- The variables of `MtmFilterTransaction`. -/
structure FilterFields where
  event : Event
  originNode : ℕ
  endLsn : UInt64
  originLsn : UInt64
  /-- `gid`, which is only logged. -/
  gid : List UInt8
  deriving DecidableEq

/-- The text `null`. -/
def nullGid : List UInt8 := [110, 117, 108, 108]

/-- The identifier, with what stands between it and the fixed fields. -/
def filterGid : Event → Reader (List UInt8)
  | .commit => pure nullGid
  | .abort => failure
  | .prepare => getString
  | .abortPrepared => getString
  | .preparePhase2A => do
      let gid ← getString
      let _ ← getString
      pure gid
  | .commitPrepared => do
      let _ ← getInt64
      getString

/-- What `MtmFilterTransaction` reads behind the byte `C`. -/
def filterTransaction : Reader FilterFields := do
  let event ← getEvent
  let _ ← getByte
  let _ ← getInt64
  let endLsn ← getInt64
  let _ ← getInt64
  let originNode ← getByte
  let originLsn ← getInt64
  let gid ← filterGid event
  pure
    { event := event
      originNode := originNode.toNat
      endLsn := endLsn
      originLsn := originLsn
      gid := gid }

/-! ## Syncpoints -/

/-- `pglogical_write_message` of a message that is sent as it is. -/
def pglogicalWriteMessage
    (label : UInt8) (endLsn : UInt64) (message : List UInt8) : List UInt8 :=
  77 :: label :: List.flatten
    [sendInt64 endLsn, sendInt 4 message.length, message]

/-- The syncpoint message of `MaybeLogSyncpoint`: an empty text. -/
def directSyncpoint : List UInt8 := [0]

/-- The syncpoint message that `process_syncpoint` logs again:
`F_%d_%X` with the origin and its position. -/
def forwardedSyncpoint (originNode : Int32) (originLsn : UInt64) :
    List UInt8 :=
  encode ('F' :: '_' :: (printInt originNode.toInt ++
    '_' :: numeral 16 originLsn.toNat)) ++ [0]

/-- The format both readers give to `sscanf`. -/
def syncpointFormat : List Directive :=
  [.literal 'F', .literal '_', .int, .literal '_', .unsigned 16]

/-- The label, the position and the body of a message. -/
def readMessage : Reader (UInt8 × UInt64 × List UInt8) := do
  let label ← getByte
  let endLsn ← getInt64
  let size ← getInt 4
  let body ← getBytes size
  pure (label, endLsn, body)

/-- The C string at the beginning of the body, for `sscanf`. -/
def bodyText (body : List UInt8) : List Char :=
  decode (body.takeWhile fun byte => byte != 0)

/-- The origin of a forwarded syncpoint; `none` when `sscanf` does not assign
both values. -/
def scanSyncpoint
    (rule : EofRule) (body : List UInt8) : Option (Int32 × UInt64) :=
  let parsed := scan syncpointFormat (bodyText body)
  if parsed.result rule ≠ 2 then none
  else some (intAt parsed.values 0 0, unsignedAt parsed.values 1 0)

/-- What `process_syncpoint` does with a message. -/
inductive Processed
  /-- Our own syncpoint has come back. -/
  | skipped
  /-- `SyncpointRegister`, after this message was logged. -/
  | registered (originNode : Int32) (originLsn : UInt64)
      (relogged : Option (List UInt8))
  deriving DecidableEq

/-- `process_syncpoint`; `none` is a `PANIC`. -/
def processSyncpoint
    (rule : EofRule) (myNodeId senderNodeId : Int32) (recordLsn : UInt64)
    (body : List UInt8) : Option Processed :=
  if body.head? = some 70 then
    match scanSyncpoint rule body with
    | none => none
    | some (originNode, originLsn) =>
        if originNode = myNodeId then some .skipped
        else some (.registered originNode originLsn none)
  else
    some (.registered senderNodeId recordLsn
      (some (forwardedSyncpoint senderNodeId recordLsn)))

/-- `MtmFilterTransaction` of a syncpoint: its origin, and `tx_lsn`. -/
def filterSyncpoint
    (rule : EofRule) (senderNodeId : Int32) (endLsn : UInt64)
    (body : List UInt8) : Option (Int32 × UInt64) :=
  if body.head? = some 70 then
    (scanSyncpoint rule body).map fun (originNode, originLsn) =>
      (originNode, if originNode = senderNodeId then endLsn else originLsn)
  else some (senderNodeId, endLsn)

end Events
end Multimaster
