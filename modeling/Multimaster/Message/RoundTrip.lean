import Multimaster.Message.Defs

/-!
# Round trips of network messages

Unpacking a packed message gives the message with its strings in ASCII, and
consumes all bytes.  A message comes back as it was exactly when its strings
have no byte above 127.
-/

namespace Multimaster
namespace Message

open Gtx (GlobalTxStatus)
open Wire

/-! ## Fields -/

theorem reads_getInt32 (value : Int32) :
    Reads getInt32 (sendInt32 value) value := by
  have fits : value.toUInt32.toNat < 256 ^ 4 := value.toUInt32.toNat_lt
  have reads := (reads_getInt fits).map fun value =>
    (UInt32.ofNat value).toInt32
  rwa [UInt32.ofNat_toNat] at reads

theorem reads_getInt64 (value : UInt64) :
    Reads getInt64 (sendInt64 value) value := by
  have fits : value.toNat < 256 ^ 8 := value.toNat_lt
  have reads := (reads_getInt fits).map UInt64.ofNat
  rwa [UInt64.ofNat_toNat] at reads

theorem reads_getBool (value : Bool) :
    Reads getBool (sendBool value) value := by
  cases value with
  | false => exact (reads_getByte 0).map fun byte => byte != 0
  | true => exact (reads_getByte 1).map fun byte => byte != 0

theorem reads_getStatus (status : GlobalTxStatus) :
    Reads getStatus [statusByte status] status := by
  intro rest
  cases status <;> rfl

theorem reads_getTxRequestValue (value : TxRequestValue) :
    Reads getTxRequestValue [value.byte] value := by
  intro rest
  cases value <;> rfl

/-! ## Strings -/

theorem asciiByte_ne_zero {byte : UInt8} (notZero : byte ≠ 0) :
    asciiByte byte ≠ 0 := by
  unfold asciiByte
  split
  · decide
  · exact notZero

/-- A byte stays exactly when it is ASCII. -/
theorem asciiByte_eq_self_iff (byte : UInt8) :
    asciiByte byte = byte ↔ byte < 128 := by
  unfold asciiByte
  split
  · next high =>
      constructor
      · rintro rfl
        exact absurd high (by decide)
      · intro low
        exact absurd high (UInt8.not_le.mpr low)
  · next low => exact iff_of_true rfl (UInt8.not_le.mp low)

/-- The string with question marks for the bytes that are not ASCII. -/
def CString.toAscii (string : CString) : CString where
  bytes := string.bytes.map asciiByte
  noZero := by
    intro isZero
    obtain ⟨byte, isByte, zero⟩ := List.mem_map.mp isZero
    refine asciiByte_ne_zero ?_ zero
    rintro rfl
    exact string.noZero isByte

/-- Every byte is ASCII. -/
def CString.Ascii (string : CString) : Prop :=
  ∀ byte ∈ string.bytes, byte < 128

theorem CString.toAscii_eq_self_iff (string : CString) :
    string.toAscii = string ↔ string.Ascii := by
  have bytes : string.toAscii = string ↔
      string.bytes.map asciiByte = string.bytes := by
    constructor
    · intro same
      exact congrArg CString.bytes same
    · intro same
      obtain ⟨bytes, noZero⟩ := string
      simp only [CString.toAscii, CString.mk.injEq]
      exact same
  have asMap : string.bytes.map asciiByte = string.bytes ↔
      string.bytes.map asciiByte = string.bytes.map id := by
    rw [List.map_id]
  rw [bytes, asMap, List.map_inj_left]
  exact forall₂_congr fun byte _ => asciiByte_eq_self_iff byte

theorem reads_cString (string : CString) :
    Reads (cString string.bytes) [] string := by
  rw [cString, dif_pos string.noZero]
  exact Reads.pure string

/-- A string comes back in ASCII. -/
theorem reads_getRawString (string : CString) :
    Reads getRawString (sendAsciiString string) string.toAscii := by
  have reads : Reads getRawString (sendAsciiString string ++ [])
      string.toAscii :=
    (reads_getString string.toAscii.noZero).bind (reads_cString string.toAscii)
  rwa [List.append_nil] at reads

/-! ## Messages -/

/-- The message with its strings in ASCII. -/
def MtmMessage.toAscii : MtmMessage → MtmMessage
  | .prepareResponse message =>
      .prepareResponse { message with errmsg := message.errmsg.toAscii }
  | .response2A message =>
      .response2A
        { message with
          errmsg := message.errmsg.toAscii
          gid := message.gid.toAscii }
  | .txRequest message =>
      .txRequest { message with gid := message.gid.toAscii }
  | .txStatusResponse message =>
      .txStatusResponse { message with gid := message.gid.toAscii }
  | .heartbeat message => .heartbeat message
  | .genVoteRequest message => .genVoteRequest message
  | .genVoteResponse message => .genVoteResponse message

/-- The strings of the message are ASCII. -/
def MtmMessage.Ascii : MtmMessage → Prop
  | .prepareResponse message => message.errmsg.Ascii
  | .response2A message => message.errmsg.Ascii ∧ message.gid.Ascii
  | .txRequest message => message.gid.Ascii
  | .txStatusResponse message => message.gid.Ascii
  | _ => True

theorem MtmMessage.toAscii_eq_self_iff (message : MtmMessage) :
    message.toAscii = message ↔ message.Ascii := by
  cases message with
  | prepareResponse message =>
      obtain ⟨nodeId, prepared, errcode, errmsg, xid⟩ := message
      simp [MtmMessage.toAscii, MtmMessage.Ascii, errmsg.toAscii_eq_self_iff]
  | response2A message =>
      obtain ⟨nodeId, status, acceptedTerm, errcode, errmsg, gid⟩ := message
      simp [MtmMessage.toAscii, MtmMessage.Ascii, errmsg.toAscii_eq_self_iff,
        gid.toAscii_eq_self_iff]
  | txRequest message =>
      obtain ⟨type, term, gid, coordinator, genNum, endLsn⟩ := message
      simp [MtmMessage.toAscii, MtmMessage.Ascii, gid.toAscii_eq_self_iff]
  | txStatusResponse message =>
      obtain ⟨nodeId, state, gid⟩ := message
      simp [MtmMessage.toAscii, MtmMessage.Ascii, gid.toAscii_eq_self_iff]
  | heartbeat message => simp [MtmMessage.toAscii, MtmMessage.Ascii]
  | genVoteRequest message => simp [MtmMessage.toAscii, MtmMessage.Ascii]
  | genVoteResponse message => simp [MtmMessage.toAscii, MtmMessage.Ascii]

/-- Unpacking reads every field of a packed message. -/
theorem reads_unpack (message : MtmMessage) :
    Reads unpack message.pack message.toAscii := by
  cases message with
  | prepareResponse message =>
      exact (reads_getByte 0).field ((reads_getInt32 _).field
        ((reads_getBool _).field ((reads_getInt32 _).field
          ((reads_getRawString _).field ((reads_getInt64 _).field
            (Reads.pure _))))))
  | response2A message =>
      exact (reads_getByte 1).field ((reads_getInt32 _).field
        ((reads_getStatus _).field ((reads_getInt32 _).field
          ((reads_getInt32 _).field ((reads_getInt32 _).field
            ((reads_getRawString _).field ((reads_getRawString _).field
              (Reads.pure _))))))))
  | txRequest message =>
      exact (reads_getByte 2).field ((reads_getTxRequestValue _).field
        ((reads_getInt32 _).field ((reads_getInt32 _).field
          ((reads_getRawString _).field ((reads_getInt32 _).field
            ((reads_getInt64 _).field ((reads_getInt64 _).field
              (Reads.pure _))))))))
  | txStatusResponse message =>
      exact (reads_getByte 3).field ((reads_getInt32 _).field
        ((reads_getStatus _).field ((reads_getInt32 _).field
          ((reads_getInt32 _).field ((reads_getInt32 _).field
            ((reads_getInt32 _).field ((reads_getRawString _).field
              (Reads.pure _))))))))
  | heartbeat message =>
      exact (reads_getByte 4).field ((reads_getInt64 _).field
        ((reads_getInt64 _).field ((reads_getInt64 _).field
          ((reads_getInt64 _).field ((reads_getInt64 _).field
            ((reads_getInt64 _).field (Reads.pure _)))))))
  | genVoteRequest message =>
      exact (reads_getByte 5).field ((reads_getInt64 _).field
        ((reads_getInt64 _).field ((reads_getInt64 _).field
          (Reads.pure _))))
  | genVoteResponse message =>
      exact (reads_getByte 6).field ((reads_getInt64 _).field
        ((reads_getByte _).field ((reads_getInt64 _).field
          ((reads_getInt64 _).field ((reads_getInt64 _).field
            ((reads_getInt64 _).field ((reads_getInt64 _).field
              ((reads_getInt64 _).field (Reads.pure _)))))))))

/-- A packed message is unpacked to itself, and nothing is left over. -/
def MtmMessage.RoundTrips (message : MtmMessage) : Prop :=
  unpack.run message.pack = some (message, [])

/-- A message comes back as it was exactly when its strings are ASCII. -/
theorem message_round_trip_iff (message : MtmMessage) :
    message.RoundTrips ↔ message.Ascii := by
  have unpacked := reads_unpack message []
  rw [List.append_nil] at unpacked
  unfold MtmMessage.RoundTrips
  rw [unpacked, ← message.toAscii_eq_self_iff]
  simp

/-- The transaction identifier `é` in UTF-8. -/
def accentedGid : CString where
  bytes := [0xC3, 0xA9]
  noZero := by decide

/-- The answer to a precommit of that transaction. -/
def accentedResponse : MtmMessage :=
  .response2A
    { nodeId := 2
      status := .preCommitted
      acceptedTerm := ⟨1, 0⟩
      errcode := 0
      errmsg := ⟨[], noZero_nil⟩
      gid := accentedGid }

/-- The coordinator gets an answer about the transaction `??`. -/
theorem message_mangles_gid :
    (∃ response, unpack.run accentedResponse.pack =
        some (.response2A response, []) ∧
      response.gid.bytes = [63, 63] ∧ response.gid ≠ accentedGid) ∧
    ¬ accentedResponse.RoundTrips := by
  refine ⟨⟨_, rfl, rfl, by decide⟩, ?_⟩
  intro same
  have unpacked := reads_unpack accentedResponse []
  rw [List.append_nil, same, Option.some.injEq, Prod.mk.injEq] at unpacked
  exact absurd unpacked.1 (by decide)

end Message
end Multimaster
