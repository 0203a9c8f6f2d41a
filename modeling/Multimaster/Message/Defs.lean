import Multimaster.Lib.Wire
import Multimaster.Gtx.Basic

/-!
# Network messages

`MtmMessagePack` and `MtmMessageUnpack`: seven kinds of messages, each with a
tag and its fields in order.  Strings are packed with `pq_send_ascii_string`,
which puts a question mark for every byte that is not ASCII, and unpacked with
`pq_getmsgrawstring`.
-/

namespace Multimaster
namespace Message

open Gtx (GlobalTxStatus)
open Wire

/-- A C string: bytes that are not zero. -/
structure CString where
  bytes : List UInt8
  noZero : 0 ∉ bytes
  deriving DecidableEq

theorem noZero_nil : (0 : UInt8) ∉ [] := List.not_mem_nil

/-! ## Fields -/

/-- `pq_sendint32` of an `int`. -/
def sendInt32 (value : Int32) : List UInt8 :=
  sendInt 4 value.toUInt32.toNat

/-- `pq_getmsgint` of four bytes, assigned to an `int`. -/
def getInt32 : Reader Int32 := do
  let value ← getInt 4
  pure (UInt32.ofNat value).toInt32

/-- `pq_sendint64`. -/
def sendInt64 (value : UInt64) : List UInt8 :=
  sendInt 8 value.toNat

/-- `pq_getmsgint64`. -/
def getInt64 : Reader UInt64 := do
  let value ← getInt 8
  pure (UInt64.ofNat value)

/-- `pq_sendbyte` of a `bool`. -/
def sendBool (value : Bool) : List UInt8 :=
  [if value then 1 else 0]

/-- `pq_getmsgbyte`, assigned to a `bool`. -/
def getBool : Reader Bool := do
  let byte ← getByte
  pure (byte != 0)

/-- A byte with the highest bit set becomes a question mark. -/
def asciiByte (byte : UInt8) : UInt8 :=
  if 128 ≤ byte then 63 else byte

/-- `pq_send_ascii_string`. -/
def sendAsciiString (string : CString) : List UInt8 :=
  string.bytes.map asciiByte ++ [0]

/-- Bytes without a zero as a string. -/
def cString (bytes : List UInt8) : Reader CString :=
  if noZero : 0 ∉ bytes then pure ⟨bytes, noZero⟩ else failure

/-- `pq_getmsgrawstring`. -/
def getRawString : Reader CString := do
  let bytes ← getString
  cString bytes

/-- `GlobalTxStatus` as a number. -/
def statusByte : GlobalTxStatus → UInt8
  | .invalid => 0
  | .preCommitted => 1
  | .preAborted => 2
  | .committed => 3
  | .aborted => 4

/-- The status with a number.  The source takes any byte; a packed message has
none but these. -/
def getStatus : Reader GlobalTxStatus := do
  let byte ← getByte
  match byte with
  | 0 => pure .invalid
  | 1 => pure .preCommitted
  | 2 => pure .preAborted
  | 3 => pure .committed
  | 4 => pure .aborted
  | _ => failure

/-- `MtmTxRequestValue`. -/
inductive TxRequestValue
  | abort
  | commit
  /-- 2a with value commit. -/
  | precommit
  /-- 2a with value abort. -/
  | preabort
  /-- 1a. -/
  | status
  deriving DecidableEq

/-- `MtmTxRequestValue` as a number. -/
def TxRequestValue.byte : TxRequestValue → UInt8
  | .abort => 0
  | .commit => 1
  | .precommit => 2
  | .preabort => 3
  | .status => 4

/-- The request with a number. -/
def getTxRequestValue : Reader TxRequestValue := do
  let byte ← getByte
  match byte with
  | 0 => pure .abort
  | 1 => pure .commit
  | 2 => pure .precommit
  | 3 => pure .preabort
  | 4 => pure .status
  | _ => failure

/-! ## Messages -/

/-- `GlobalTxTerm`. -/
structure Term where
  ballot : Int32
  nodeId : Int32
  deriving DecidableEq

/-- `GTxState`. -/
structure State where
  proposal : Term
  accepted : Term
  status : GlobalTxStatus
  deriving DecidableEq

/-- `MtmGeneration`. -/
structure Generation where
  num : UInt64
  members : UInt64
  configured : UInt64
  deriving DecidableEq

/-- `MtmPrepareResponse`. -/
structure PrepareResponse where
  nodeId : Int32
  prepared : Bool
  errcode : Int32
  errmsg : CString
  xid : UInt64
  deriving DecidableEq

/-- `Mtm2AResponse`. -/
structure Response2A where
  nodeId : Int32
  status : GlobalTxStatus
  acceptedTerm : Term
  errcode : Int32
  errmsg : CString
  gid : CString
  deriving DecidableEq

/-- `MtmTxRequest`. -/
structure TxRequest where
  type : TxRequestValue
  term : Term
  gid : CString
  coordinator : Int32
  genNum : UInt64
  coordinatorEndLsn : UInt64
  deriving DecidableEq

/-- `MtmTxStatusResponse`. -/
structure TxStatusResponse where
  nodeId : Int32
  state : State
  gid : CString
  deriving DecidableEq

/-- `MtmHeartbeat`. -/
structure Heartbeat where
  currentGen : Generation
  donors : UInt64
  lastOnlineIn : UInt64
  connectedMask : UInt64
  deriving DecidableEq

/-- `MtmGenVoteRequest`. -/
structure GenVoteRequest where
  gen : Generation
  deriving DecidableEq

/-- `MtmGenVoteResponse`. -/
structure GenVoteResponse where
  genNum : UInt64
  voteOk : UInt8
  lastOnlineIn : UInt64
  lastVoteNum : UInt64
  currGen : Generation
  currGenDonors : UInt64
  deriving DecidableEq

/-- `MtmMessage`. -/
inductive MtmMessage
  | prepareResponse (message : PrepareResponse)
  | response2A (message : Response2A)
  | txRequest (message : TxRequest)
  | txStatusResponse (message : TxStatusResponse)
  | heartbeat (message : Heartbeat)
  | genVoteRequest (message : GenVoteRequest)
  | genVoteResponse (message : GenVoteResponse)
  deriving DecidableEq

/-- `MtmMessagePack`. -/
def MtmMessage.pack : MtmMessage → List UInt8
  | .prepareResponse message => List.flatten
      [[0], sendInt32 message.nodeId, sendBool message.prepared,
        sendInt32 message.errcode, sendAsciiString message.errmsg,
        sendInt64 message.xid]
  | .response2A message => List.flatten
      [[1], sendInt32 message.nodeId, [statusByte message.status],
        sendInt32 message.acceptedTerm.ballot,
        sendInt32 message.acceptedTerm.nodeId, sendInt32 message.errcode,
        sendAsciiString message.errmsg, sendAsciiString message.gid]
  | .txRequest message => List.flatten
      [[2], [message.type.byte], sendInt32 message.term.ballot,
        sendInt32 message.term.nodeId, sendAsciiString message.gid,
        sendInt32 message.coordinator, sendInt64 message.genNum,
        sendInt64 message.coordinatorEndLsn]
  | .txStatusResponse message => List.flatten
      [[3], sendInt32 message.nodeId, [statusByte message.state.status],
        sendInt32 message.state.proposal.ballot,
        sendInt32 message.state.proposal.nodeId,
        sendInt32 message.state.accepted.ballot,
        sendInt32 message.state.accepted.nodeId, sendAsciiString message.gid]
  | .heartbeat message => List.flatten
      [[4], sendInt64 message.currentGen.num,
        sendInt64 message.currentGen.members,
        sendInt64 message.currentGen.configured, sendInt64 message.donors,
        sendInt64 message.lastOnlineIn, sendInt64 message.connectedMask]
  | .genVoteRequest message => List.flatten
      [[5], sendInt64 message.gen.num, sendInt64 message.gen.members,
        sendInt64 message.gen.configured]
  | .genVoteResponse message => List.flatten
      [[6], sendInt64 message.genNum, [message.voteOk],
        sendInt64 message.lastOnlineIn, sendInt64 message.lastVoteNum,
        sendInt64 message.currGen.num, sendInt64 message.currGen.members,
        sendInt64 message.currGen.configured, sendInt64 message.currGenDonors]

/-- The fields of `MtmPrepareResponse`. -/
def unpackPrepareResponse : Reader MtmMessage := do
  let nodeId ← getInt32
  let prepared ← getBool
  let errcode ← getInt32
  let errmsg ← getRawString
  let xid ← getInt64
  pure (.prepareResponse
    { nodeId := nodeId, prepared := prepared, errcode := errcode,
      errmsg := errmsg, xid := xid })

/-- The fields of `Mtm2AResponse`. -/
def unpackResponse2A : Reader MtmMessage := do
  let nodeId ← getInt32
  let status ← getStatus
  let ballot ← getInt32
  let termNodeId ← getInt32
  let errcode ← getInt32
  let errmsg ← getRawString
  let gid ← getRawString
  pure (.response2A
    { nodeId := nodeId, status := status, acceptedTerm := ⟨ballot, termNodeId⟩,
      errcode := errcode, errmsg := errmsg, gid := gid })

/-- The fields of `MtmTxRequest`. -/
def unpackTxRequest : Reader MtmMessage := do
  let type ← getTxRequestValue
  let ballot ← getInt32
  let termNodeId ← getInt32
  let gid ← getRawString
  let coordinator ← getInt32
  let genNum ← getInt64
  let coordinatorEndLsn ← getInt64
  pure (.txRequest
    { type := type, term := ⟨ballot, termNodeId⟩, gid := gid,
      coordinator := coordinator, genNum := genNum,
      coordinatorEndLsn := coordinatorEndLsn })

/-- The fields of `MtmTxStatusResponse`. -/
def unpackTxStatusResponse : Reader MtmMessage := do
  let nodeId ← getInt32
  let status ← getStatus
  let proposalBallot ← getInt32
  let proposalNodeId ← getInt32
  let acceptedBallot ← getInt32
  let acceptedNodeId ← getInt32
  let gid ← getRawString
  pure (.txStatusResponse
    { nodeId := nodeId
      state :=
        { proposal := ⟨proposalBallot, proposalNodeId⟩
          accepted := ⟨acceptedBallot, acceptedNodeId⟩
          status := status }
      gid := gid })

/-- The fields of `MtmHeartbeat`. -/
def unpackHeartbeat : Reader MtmMessage := do
  let num ← getInt64
  let members ← getInt64
  let configured ← getInt64
  let donors ← getInt64
  let lastOnlineIn ← getInt64
  let connectedMask ← getInt64
  pure (.heartbeat
    { currentGen := ⟨num, members, configured⟩, donors := donors,
      lastOnlineIn := lastOnlineIn, connectedMask := connectedMask })

/-- The fields of `MtmGenVoteRequest`. -/
def unpackGenVoteRequest : Reader MtmMessage := do
  let num ← getInt64
  let members ← getInt64
  let configured ← getInt64
  pure (.genVoteRequest { gen := ⟨num, members, configured⟩ })

/-- The fields of `MtmGenVoteResponse`. -/
def unpackGenVoteResponse : Reader MtmMessage := do
  let genNum ← getInt64
  let voteOk ← getByte
  let lastOnlineIn ← getInt64
  let lastVoteNum ← getInt64
  let num ← getInt64
  let members ← getInt64
  let configured ← getInt64
  let currGenDonors ← getInt64
  pure (.genVoteResponse
    { genNum := genNum, voteOk := voteOk, lastOnlineIn := lastOnlineIn,
      lastVoteNum := lastVoteNum, currGen := ⟨num, members, configured⟩,
      currGenDonors := currGenDonors })

/-- `MtmMessageUnpack`. -/
def unpack : Reader MtmMessage := do
  let tag ← getByte
  match tag with
  | 0 => unpackPrepareResponse
  | 1 => unpackResponse2A
  | 2 => unpackTxRequest
  | 3 => unpackTxStatusResponse
  | 4 => unpackHeartbeat
  | 5 => unpackGenVoteRequest
  | 6 => unpackGenVoteResponse
  | _ => failure

end Message
end Multimaster
