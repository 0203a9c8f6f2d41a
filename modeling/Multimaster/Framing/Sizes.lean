import Multimaster.Framing.Buffer
import Multimaster.Lib.Numerals
import Multimaster.Message.Defs

/-!
# The sizes of messages

A message is pushed with the name of a stream; the frame that carries it must be
shorter than the buffer of the receiver.  Identifiers of transactions are
bounded.  The text of an error is not: it goes into the reply to a `PREPARE` as
it is.
-/

namespace Multimaster
namespace Framing

open Gtx (GlobalTxStatus)
open Message

/-- `GIDSIZE`, with the zero at the end. -/
def gidSize : ℕ := 200

/-- The identifier of a prepared transaction. -/
structure Gid where
  string : CString
  short : string.bytes.length < gidSize

/-- What the senders use of `ErrorData`. -/
structure ErrorData where
  sqlerrcode : Int32
  message : CString

/-- The arguments of `dmq_push_buffer`. -/
structure Pushed where
  streamName : List Char
  message : MtmMessage

/-- The empty string. -/
def emptyString : CString where
  bytes := []
  noZero := noZero_nil

/-- `ERRCODE_SUCCESSFUL_COMPLETION`. -/
def successfulCompletion : Int32 := 0

/-- The stream of the coordinator of a transaction. -/
def xidStream (xid : UInt64) : List Char :=
  'x' :: 'i' :: 'd' :: Text.numeral 10 xid.toNat

/-- `mtm_send_prepare_reply`. -/
def mtmSendPrepareReply
    (myNodeId : Int32) (xid : UInt64) (prepared : Bool)
    (edata : Option ErrorData) : Pushed where
  streamName := xidStream xid
  message := .prepareResponse
    { nodeId := myNodeId
      prepared := prepared
      errcode := edata.elim successfulCompletion ErrorData.sqlerrcode
      errmsg := edata.elim emptyString ErrorData.message
      xid := xid }

/-- `mtm_send_2a_reply`. -/
def mtmSend2AReply
    (myNodeId : Int32) (gid : Gid) (xid : UInt64) (status : GlobalTxStatus)
    (acceptedTerm : Term) : Pushed where
  streamName := xidStream xid
  message := .response2A
    { nodeId := myNodeId
      status := status
      acceptedTerm := acceptedTerm
      errcode := successfulCompletion
      errmsg := emptyString
      gid := gid.string }

/-- The reply of `handle_1a`. -/
def handle1AReply (myNodeId : Int32) (state : State) (gid : Gid) : Pushed where
  streamName := ['t', 'x', 'r', 'e', 's', 'p']
  message := .txStatusResponse
    { nodeId := myNodeId
      state := state
      gid := gid.string }

/-- The reply of `handle_2a`. -/
def handle2AReply
    (myNodeId : Int32) (status : GlobalTxStatus) (acceptedTerm : Term)
    (gid : Gid) : Pushed where
  streamName := ['t', 'x', 'r', 'e', 's', 'p']
  message := .response2A
    { nodeId := myNodeId
      status := status
      acceptedTerm := acceptedTerm
      errcode := successfulCompletion
      errmsg := emptyString
      gid := gid.string }

/-- The reply of `HandleGenVoteRequest`. -/
def genVoteReply (response : GenVoteResponse) : Pushed where
  streamName := ['g', 'e', 'n', 'v', 'o', 't', 'e', 'r', 'e', 's', 'p']
  message := .genVoteResponse response

/-- The requests of the resolver. -/
def resolverRequest
    (type : TxRequestValue) (term : Term) (gid : Gid) (coordinator : Int32)
    (genNum coordinatorEndLsn : UInt64) : Pushed where
  streamName := ['r', 'e', 'q', 'r', 'e', 's', 'p']
  message := .txRequest
    { type := type
      term := term
      gid := gid.string
      coordinator := coordinator
      genNum := genNum
      coordinatorEndLsn := coordinatorEndLsn }

/-- The request of the campaigner. -/
def campaignerRequest (candidateGen : Generation) : Pushed where
  streamName := ['r', 'e', 'q', 'r', 'e', 's', 'p']
  message := .genVoteRequest { gen := candidateGen }

/-- The heartbeat, with what `MtmOnDmqSenderHeartbeat` puts into it. -/
def heartbeat (message : Heartbeat) : Pushed where
  streamName := ['H']
  message := .heartbeat message

/-- What is sent. -/
inductive Sent
  | prepareReply (myNodeId : Int32) (xid : UInt64) (prepared : Bool)
      (edata : Option ErrorData)
  | reply2A (myNodeId : Int32) (gid : Gid) (xid : UInt64)
      (status : GlobalTxStatus) (acceptedTerm : Term)
  | reply1A (myNodeId : Int32) (state : State) (gid : Gid)
  | resolverReply2A (myNodeId : Int32) (status : GlobalTxStatus)
      (acceptedTerm : Term) (gid : Gid)
  | genVoteReply (response : GenVoteResponse)
  | resolverRequest (type : TxRequestValue) (term : Term) (gid : Gid)
      (coordinator : Int32) (genNum coordinatorEndLsn : UInt64)
  | campaignerRequest (candidateGen : Generation)
  | heartbeat (message : Heartbeat)

/-- The call that sends it. -/
def Sent.pushed : Sent → Pushed
  | .prepareReply myNodeId xid prepared edata =>
      mtmSendPrepareReply myNodeId xid prepared edata
  | .reply2A myNodeId gid xid status acceptedTerm =>
      mtmSend2AReply myNodeId gid xid status acceptedTerm
  | .reply1A myNodeId state gid => handle1AReply myNodeId state gid
  | .resolverReply2A myNodeId status acceptedTerm gid =>
      handle2AReply myNodeId status acceptedTerm gid
  | .genVoteReply response => Framing.genVoteReply response
  | .resolverRequest type term gid coordinator genNum coordinatorEndLsn =>
      Framing.resolverRequest type term gid coordinator genNum coordinatorEndLsn
  | .campaignerRequest candidateGen => Framing.campaignerRequest candidateGen
  | .heartbeat message => Framing.heartbeat message

/-- The data of the frame: the name of the stream as a string, and the packed
message. -/
def Pushed.data (pushed : Pushed) : List UInt8 :=
  pushed.streamName.map (fun char => UInt8.ofNat char.toNat) ++
    0 :: pushed.message.pack

/-- The length that `PQputCopyData` writes in front of the data. -/
def Pushed.frameLength (pushed : Pushed) : ℕ :=
  4 + pushed.data.length

/-- The length of the text of the error, together with the digits of the xid in
the name of the stream. -/
def Sent.errorText : Sent → ℕ
  | .prepareReply _ xid _ edata =>
      (Text.numeral 10 xid.toNat).length +
        (edata.elim emptyString ErrorData.message).bytes.length
  | _ => 0

@[simp] theorem length_sendInt32 (value : Int32) :
    (sendInt32 value).length = 4 :=
  Wire.length_sendInt 4 _

@[simp] theorem length_sendInt64 (value : UInt64) :
    (sendInt64 value).length = 8 :=
  Wire.length_sendInt 8 _

@[simp] theorem length_sendAsciiString (string : CString) :
    (sendAsciiString string).length = string.bytes.length + 1 := by
  simp [sendAsciiString]

@[simp] theorem length_xidStream (xid : UInt64) :
    (xidStream xid).length = 3 + (Text.numeral 10 xid.toNat).length := by
  simp only [xidStream, List.length_cons]
  omega

theorem length_xid_le (xid : UInt64) :
    (Text.numeral 10 xid.toNat).length ≤ 20 := by
  have bound := xid.toNat_lt
  exact Text.length_numeral_le (by decide) (by decide)
    (Nat.lt_of_lt_of_le bound (by decide))

theorem Pushed.frameLength_eq (pushed : Pushed) :
    pushed.frameLength =
      4 + (pushed.streamName.length + (1 + pushed.message.pack.length)) := by
  simp [Pushed.frameLength, Pushed.data, Nat.add_comm]

/-- The text of an error is all that can make a frame too long. -/
theorem sent_fits_iff (sent : Sent) :
    sent.pushed.frameLength < dmqRecvBuffer ↔ sent.errorText ≤ 8164 := by
  rw [Pushed.frameLength_eq]
  unfold dmqRecvBuffer
  cases sent with
  | prepareReply myNodeId xid prepared edata =>
      simp only [Sent.pushed, mtmSendPrepareReply, Sent.errorText,
        MtmMessage.pack, List.flatten_cons, List.flatten_nil,
        List.length_append, length_sendInt32, length_sendInt64,
        length_sendAsciiString, length_xidStream, sendBool, List.length_cons,
        List.length_nil]
      omega
  | reply2A myNodeId gid xid status acceptedTerm =>
      have short := gid.short
      have digits := length_xid_le xid
      unfold gidSize at short
      simp only [Sent.pushed, mtmSend2AReply, Sent.errorText, MtmMessage.pack,
        List.flatten_cons, List.flatten_nil, List.length_append,
        length_sendInt32, length_sendAsciiString, length_xidStream,
        List.length_cons, List.length_nil, emptyString]
      omega
  | reply1A myNodeId state gid =>
      have short := gid.short
      unfold gidSize at short
      simp only [Sent.pushed, handle1AReply, Sent.errorText, MtmMessage.pack,
        List.flatten_cons, List.flatten_nil, List.length_append,
        length_sendInt32, length_sendAsciiString, List.length_cons,
        List.length_nil]
      omega
  | resolverReply2A myNodeId status acceptedTerm gid =>
      have short := gid.short
      unfold gidSize at short
      simp only [Sent.pushed, handle2AReply, Sent.errorText, MtmMessage.pack,
        List.flatten_cons, List.flatten_nil, List.length_append,
        length_sendInt32, length_sendAsciiString, List.length_cons,
        List.length_nil, emptyString]
      omega
  | genVoteReply response =>
      simp [Sent.pushed, Framing.genVoteReply, Sent.errorText, MtmMessage.pack]
  | resolverRequest type term gid coordinator genNum coordinatorEndLsn =>
      have short := gid.short
      unfold gidSize at short
      simp only [Sent.pushed, Framing.resolverRequest, Sent.errorText,
        MtmMessage.pack, List.flatten_cons, List.flatten_nil,
        List.length_append, length_sendInt32, length_sendInt64,
        length_sendAsciiString, List.length_cons, List.length_nil]
      omega
  | campaignerRequest candidateGen =>
      simp [Sent.pushed, Framing.campaignerRequest, Sent.errorText,
        MtmMessage.pack]
  | heartbeat message =>
      simp [Sent.pushed, Framing.heartbeat, Sent.errorText, MtmMessage.pack]

/-- A reply never fits with a text that fills the buffer by itself. -/
theorem not_fits_of_long_text
    (myNodeId : Int32) (xid : UInt64) (prepared : Bool) (edata : ErrorData)
    (long : dmqRecvBuffer ≤ edata.message.bytes.length) :
    ¬ (Sent.prepareReply myNodeId xid prepared
      (some edata)).pushed.frameLength < dmqRecvBuffer := by
  rw [Pushed.frameLength_eq]
  simp only [Sent.pushed, mtmSendPrepareReply, MtmMessage.pack,
    List.flatten_cons, List.flatten_nil, List.length_append,
    length_sendAsciiString, Option.elim_some]
  omega

/-- A long text of an error. -/
def longText : CString where
  bytes := List.replicate 8192 97
  noZero := by
    rw [List.mem_replicate]
    decide

/-- A reply with a long text does not fit. -/
theorem long_reply_does_not_fit :
    ¬ (Sent.prepareReply 1 500 false
      (some ⟨1, longText⟩)).pushed.frameLength < dmqRecvBuffer :=
  not_fits_of_long_text 1 500 false ⟨1, longText⟩ List.length_replicate.ge

end Framing
end Multimaster
