import Multimaster.Events.Defs
import Multimaster.Message.RoundTrip

/-!
# The two readers of a record agree

For every transaction, what `MtmFilterTransaction` judges is the origin and the
position under which `process_remote_commit` applies the transaction.  A
syncpoint keeps its origin and its position when the receiver logs it again.
-/

namespace Multimaster
namespace Events

open Gtx (XactInfo serializeXstate statusAbbr matches_serializeXstate
  deserializeXstate_of_matches statusOf_statusAbbr xstateValues deserializeXstate
  xstateFormat)
open Message (CString State getInt64 sendInt64 reads_getInt64)
open Text (EofRule Directive Matches scan printInt numeral numeralDigits
  NoDigit HexPrefix digitChar)
open Wire

/-! ## Texts as bytes -/

/-- Every character is one byte, which is not zero. -/
def Latin (text : List Char) : Prop :=
  ∀ char ∈ text, 0 < char.toNat ∧ char.toNat < 256

theorem decode_encode {text : List Char} (latin : Latin text) :
    decode (encode text) = text := by
  rw [decode, encode, List.map_map]
  have same : ∀ char ∈ text,
      ((fun byte : UInt8 => Char.ofNat byte.toNat) ∘
        fun char => UInt8.ofNat char.toNat) char = id char := by
    intro char isChar
    have small := (latin char isChar).2
    have byte : (UInt8.ofNat char.toNat).toNat = char.toNat := by
      rw [UInt8.toNat_ofNat', Nat.mod_eq_of_lt small]
    simp only [Function.comp_apply, byte, Char.ofNat_toNat, id_eq]
  rw [List.map_congr_left same, List.map_id]

/-- The text is a C string. -/
theorem zero_notMem_encode {text : List Char} (latin : Latin text) :
    0 ∉ encode text := by
  intro isZero
  obtain ⟨char, isChar, same⟩ := List.mem_map.mp isZero
  obtain ⟨positive, small⟩ := latin char isChar
  have code := congrArg UInt8.toNat same
  rw [UInt8.toNat_ofNat', Nat.mod_eq_of_lt small] at code
  simp only [UInt8.toNat_zero] at code
  omega

theorem Latin.append
    {first second : List Char} (latinFirst : Latin first)
    (latinSecond : Latin second) : Latin (first ++ second) := by
  intro char isChar
  rcases List.mem_append.mp isChar with isFirst | isSecond
  · exact latinFirst char isFirst
  · exact latinSecond char isSecond

theorem Latin.cons
    {char : Char} {text : List Char}
    (small : 0 < char.toNat ∧ char.toNat < 256)
    (latin : Latin text) : Latin (char :: text) := by
  intro other isOther
  rcases List.mem_cons.mp isOther with rfl | isText
  · exact small
  · exact latin other isText

theorem digitChar_range :
    ∀ digit < 16, 0 < (digitChar digit).toNat ∧
      (digitChar digit).toNat < 256 := by
  decide

theorem latin_numeral
    {base : ℕ} (positive : 1 < base) (small : base ≤ 16) (number : ℕ) :
    Latin (numeral base number) := by
  intro char isChar
  obtain ⟨digit, isDigit, rfl⟩ := List.mem_map.mp isChar
  have below := Text.lt_of_mem_numeralDigits positive digit isDigit
  exact digitChar_range digit (by omega)

theorem latin_printInt (value : ℤ) : Latin (printInt value) := by
  unfold printInt
  split
  · exact Latin.cons (by decide) (latin_numeral (by decide) (by decide) _)
  · exact latin_numeral (by decide) (by decide) _

theorem latin_statusAbbr (status : Gtx.GlobalTxStatus) :
    Latin (statusAbbr status) := by
  cases status <;> simp [Latin, statusAbbr]

theorem latin_serializeXstate (xinfo : XactInfo) (state : State) :
    Latin (serializeXstate xinfo state) := by
  have decimal (number : ℕ) : Latin (numeral 10 number) :=
    latin_numeral (by decide) (by decide) number
  have hexadecimal (number : ℕ) : Latin (numeral 16 number) :=
    latin_numeral (by decide) (by decide) number
  refine (latin_printInt _).append (Latin.cons (by decide) ?_)
  refine (latin_printInt _).append (Latin.cons (by decide) ?_)
  refine (decimal _).append (Latin.cons (by decide) ?_)
  refine (hexadecimal _).append (Latin.cons (by decide) ?_)
  refine (hexadecimal _).append (Latin.cons (by decide) ?_)
  refine (latin_statusAbbr _).append (Latin.cons (by decide) ?_)
  refine (latin_printInt _).append (Latin.cons (by decide) ?_)
  refine (latin_printInt _).append (Latin.cons (by decide) ?_)
  exact (latin_printInt _).append (Latin.cons (by decide) (latin_printInt _))

/-- A state that was serialized is read at level `ERROR`. -/
theorem deserializeOrError_serializeXstate
    (rule : EofRule) {text : CString} {xinfo : XactInfo} {state : State}
    (isText : text.bytes = encode (serializeXstate xinfo state)) :
    deserializeOrError rule text = some (xinfo, state) := by
  have isMatch := matches_serializeXstate xinfo state
  obtain ⟨values, noFailure⟩ := isMatch.scan
  have nine : (scan xstateFormat (serializeXstate xinfo state)).result rule =
      9 := by
    simp [Text.Scan.result, Text.Scan.isEof, noFailure, values, xstateValues]
  unfold deserializeOrError
  rw [isText, decode_encode (latin_serializeXstate xinfo state), nine]
  simp only [ne_eq, not_true, if_false, deserializeXstate_of_matches isMatch,
    statusOf_statusAbbr]

/-! ## Fields -/

theorem reads_getEvent (event : Event) :
    Reads getEvent [event.code] event := by
  intro rest
  cases event <;> rfl

theorem reads_sendString (string : CString) :
    Reads getString (sendString string) string.bytes :=
  reads_getString string.noZero

/-- An identifier of a transaction fits its array. -/
theorem reads_getGid
    {gid : CString} (short : gid.bytes.length < gidSize) :
    Reads getGid (sendString gid) gid.bytes := by
  have reads := (reads_sendString gid).map fun bytes => bytes.take gidSize
  rwa [List.take_of_length_le (Nat.le_of_lt short)] at reads

theorem reads_getXstate
    (rule : EofRule) {text : CString} {xinfo : XactInfo} {state : State}
    (parses : deserializeOrError rule text = some (xinfo, state)) :
    Reads (getXstate rule) (sendString text) (xinfo, state) := by
  have readsText : Reads Message.getRawString (sendString text ++ []) text :=
    (reads_sendString text).bind (Message.reads_cString text)
  have reads : Reads (getXstate rule) ((sendString text ++ []) ++ [])
      (xinfo, state) := by
    refine readsText.bind ?_
    rw [parses]
    exact Reads.pure (xinfo, state)
  rwa [List.append_nil, List.append_nil] at reads

/-- The node of origin is one of the cluster, or it is unknown. -/
theorem sendNodeId_le (config : Config) (txn : Txn) :
    sendNodeId config txn ≤ mtmMaxNodes := by
  unfold sendNodeId
  split
  · exact config.my_le
  · split
    · next node found =>
        exact config.nodes_le node (List.mem_of_find?_eq_some found)
    · exact Nat.zero_le _

theorem toNat_sendNodeId (config : Config) (txn : Txn) :
    (UInt8.ofNat (sendNodeId config txn)).toNat = sendNodeId config txn := by
  have bound := sendNodeId_le config txn
  unfold mtmMaxNodes at bound
  rw [UInt8.toNat_ofNat', Nat.mod_eq_of_lt (by omega)]

/-- A reader of the fixed fields goes on with their values. -/
theorem reads_fixedFields
    {Result : Type} (config : Config) (txn : Txn) (event : Event)
    (lsn : UInt64) {fields : List (List UInt8)} {result : Result}
    (next : Event → UInt64 → UInt64 → UInt8 → UInt64 → Reader Result)
    (reads : Reads (next event txn.endLsn txn.commitTime
      (UInt8.ofNat (sendNodeId config txn)) txn.originLsn) fields.flatten
      result) :
    Reads (do
      let event ← getEvent
      let _ ← getByte
      let _ ← getInt64
      let endLsn ← getInt64
      let timestamp ← getInt64
      let originNode ← getByte
      let originLsn ← getInt64
      next event endLsn timestamp originNode originLsn)
      (fixedFields config txn event lsn ++ fields).flatten result :=
  (reads_getEvent event).field ((reads_getByte _).field
    ((reads_getInt64 lsn).field ((reads_getInt64 txn.endLsn).field
      ((reads_getInt64 txn.commitTime).field ((reads_getByte _).field
        ((reads_getInt64 txn.originLsn).field reads))))))

/-! ## The records -/

/-- The callbacks that end a transaction that is to be applied. -/
inductive End
  | commit
  /-- `PREPARE`, or a change of the persistent state of a prepared
  transaction. -/
  | prepare
  | commitPrepared
  | abortPrepared
  deriving DecidableEq

/-- What a callback writes; `none` is an `ERROR`. -/
def End.write
    (rule : EofRule) (config : Config) (txn : Txn) (lsn : UInt64) :
    End → Option (List UInt8)
  | .commit => some (pglogicalWriteCommit config txn lsn)
  | .prepare => pglogicalWritePrepare rule config txn lsn
  | .commitPrepared => some (pglogicalWriteCommitPrepared config txn lsn)
  | .abortPrepared => some (pglogicalWriteAbortPrepared config txn lsn)

/-- The event of the record. -/
def End.event (txn : Txn) : End → Event
  | .commit => .commit
  | .prepare => if txn.state3PcChange then .preparePhase2A else .prepare
  | .commitPrepared => .commitPrepared
  | .abortPrepared => .abortPrepared

theorem End.event_of_change
    {txn : Txn} (change : txn.state3PcChange = true) :
    End.prepare.event txn = .preparePhase2A := by
  simp [End.event, change]

theorem End.event_of_no_change
    {txn : Txn} (noChange : txn.state3PcChange = false) :
    End.prepare.event txn = .prepare := by
  simp [End.event, noChange]

/-- The fields behind the fixed ones. -/
def End.tail (txn : Txn) : End → List (List UInt8)
  | .commit => []
  | .prepare => [sendString txn.gid, sendString txn.state3Pc]
  | .commitPrepared => [sendInt64 42, sendString txn.gid, sendInt64 txn.xid]
  | .abortPrepared => [sendString txn.gid, sendInt64 txn.xid]

/-- The transaction as it is finished. -/
def End.finish (txn : Txn) (xinfo : XactInfo) (state : State) : End → Finish
  | .commit => .commit
  | .prepare =>
      if txn.state3PcChange then .preparePhase2A txn.gid.bytes xinfo state
      else .prepare txn.gid.bytes xinfo state
  | .commitPrepared => .commitPrepared txn.gid.bytes txn.xid
  | .abortPrepared => .abortPrepared txn.gid.bytes txn.xid

/-- What the filter has of the transaction. -/
def End.filterFields (config : Config) (txn : Txn) (kind : End) :
    FilterFields where
  event := kind.event txn
  originNode := sendNodeId config txn
  endLsn := txn.endLsn
  originLsn := txn.originLsn
  gid := if kind = .commit then nullGid else txn.gid.bytes

/-- `tx_lsn`. -/
def FilterFields.txLsn (senderNodeId : ℕ) (fields : FilterFields) : UInt64 :=
  if fields.originNode = senderNodeId then fields.endLsn else fields.originLsn

/-- What `process_remote_commit` has of the transaction. -/
def End.remoteCommit
    (config : Config) (txn : Txn) (xinfo : XactInfo) (state : State)
    (kind : End) : RemoteCommit where
  timestamp := txn.commitTime
  originNode := (kind.filterFields config txn).originNode
  originLsn := (kind.filterFields config txn).txLsn config.myNodeId
  finish := kind.finish txn xinfo state

section Records

variable {rule : EofRule} {config : Config} {txn : Txn} {kind : End}
variable {xinfo : XactInfo} {state : State}

theorem reads_readFinish
    (parses : kind = .prepare →
      deserializeOrError rule txn.state3Pc = some (xinfo, state)) :
    Reads (readFinish rule (kind.event txn)) (kind.tail txn).flatten
      (kind.finish txn xinfo state) := by
  have gid := reads_getGid txn.gid_short
  cases kind with
  | commit => exact Reads.pure Finish.commit
  | prepare =>
      have xstate := reads_getXstate rule (parses rfl)
      rcases Bool.eq_false_or_eq_true txn.state3PcChange with change | noChange
      · have finish : End.prepare.finish txn xinfo state =
            .preparePhase2A txn.gid.bytes xinfo state := by
          simp [End.finish, change]
        rw [End.event_of_change change, finish]
        exact gid.field (xstate.field (Reads.pure _))
      · have finish : End.prepare.finish txn xinfo state =
            .prepare txn.gid.bytes xinfo state := by
          simp [End.finish, noChange]
        rw [End.event_of_no_change noChange, finish]
        exact gid.field (xstate.field (Reads.pure _))
  | commitPrepared =>
      exact (reads_getInt64 42).field
        (gid.field ((reads_getInt64 txn.xid).field (Reads.pure _)))
  | abortPrepared =>
      exact gid.field ((reads_getInt64 txn.xid).field (Reads.pure _))

variable (config) in
theorem reads_processRemoteCommit
    (lsn : UInt64)
    (parses : kind = .prepare →
      deserializeOrError rule txn.state3Pc = some (xinfo, state)) :
    Reads (processRemoteCommit rule config.myNodeId)
      (fixedFields config txn (kind.event txn) lsn ++ kind.tail txn).flatten
      (kind.remoteCommit config txn xinfo state) := by
  have finish := (reads_readFinish parses).map fun finish =>
    ({ timestamp := txn.commitTime
       originNode := (UInt8.ofNat (sendNodeId config txn)).toNat
       originLsn :=
         if (UInt8.ofNat (sendNodeId config txn)).toNat = config.myNodeId then
           txn.endLsn
         else txn.originLsn
       finish := finish } : RemoteCommit)
  have reads := reads_fixedFields config txn (kind.event txn) lsn
    (fun event endLsn timestamp originNode originLsn => do
      let finish ← readFinish rule event
      pure (
        { timestamp := timestamp
          originNode := originNode.toNat
          originLsn :=
            if originNode.toNat = config.myNodeId then endLsn else originLsn
          finish := finish } : RemoteCommit)) finish
  rw [toNat_sendNodeId] at reads
  exact reads

/-- The filter need not read the record to its end. -/
theorem peeks_filterGid :
    Peeks (filterGid (kind.event txn)) (kind.tail txn).flatten
      (kind.filterFields config txn).gid := by
  have gid := reads_sendString txn.gid
  cases kind with
  | commit => exact (Reads.pure nullGid).peeks []
  | prepare =>
      rcases Bool.eq_false_or_eq_true txn.state3PcChange with change | noChange
      · rw [End.event_of_change change]
        have reads : Reads (filterGid .preparePhase2A)
            [sendString txn.gid, sendString txn.state3Pc].flatten
            txn.gid.bytes :=
          gid.field ((reads_sendString txn.state3Pc).field (Reads.pure _))
        have peeks := reads.peeks []
        rwa [List.append_nil] at peeks
      · rw [End.event_of_no_change noChange]
        exact gid.peeks [sendString txn.state3Pc].flatten
  | commitPrepared =>
      exact Peeks.field (reads_getInt64 42)
        (gid.peeks [sendInt64 txn.xid].flatten)
  | abortPrepared => exact gid.peeks [sendInt64 txn.xid].flatten

variable (config txn kind) in
/-- What the filter has of the record. -/
theorem peeks_filterTransaction (lsn : UInt64) :
    Peeks filterTransaction
      (fixedFields config txn (kind.event txn) lsn ++ kind.tail txn).flatten
      (kind.filterFields config txn) := by
  have gid := (@peeks_filterGid config txn kind).map fun gid =>
    ({ event := kind.event txn
       originNode := (UInt8.ofNat (sendNodeId config txn)).toNat
       endLsn := txn.endLsn
       originLsn := txn.originLsn
       gid := gid } : FilterFields)
  have same : kind.filterFields config txn =
      { event := kind.event txn
        originNode := (UInt8.ofNat (sendNodeId config txn)).toNat
        endLsn := txn.endLsn
        originLsn := txn.originLsn
        gid := (kind.filterFields config txn).gid } := by
    rw [toNat_sendNodeId]
    rfl
  rw [same]
  exact Peeks.field (reads_getEvent _) (Peeks.field (reads_getByte _)
    (Peeks.field (reads_getInt64 lsn) (Peeks.field (reads_getInt64 _)
      (Peeks.field (reads_getInt64 _) (Peeks.field (reads_getByte _)
        (Peeks.field (reads_getInt64 _) gid))))))

end Records

/-! ## The identity of a transaction -/

theorem index_of_nodeId
    {nodeId : ℕ} (valid : 0 < nodeId ∧ nodeId ≤ mtmMaxNodes) :
    nodeId - 1 < mtmMaxNodes := by
  omega

/-- The place of a node in the arrays; `none` for `MtmInvalidNodeId`. -/
def nodeIndex (nodeId : ℕ) : Option (Fin mtmMaxNodes) :=
  if valid : 0 < nodeId ∧ nodeId ≤ mtmMaxNodes then
    some ⟨nodeId - 1, index_of_nodeId valid⟩
  else none

theorem nodeIndex_inj
    {nodeId other : ℕ} {index : Fin mtmMaxNodes}
    (isIndex : nodeIndex nodeId = some index)
    (isOther : nodeIndex other = some index) : nodeId = other := by
  unfold nodeIndex at isIndex isOther
  split at isIndex
  · next valid =>
      split at isOther
      · next otherValid =>
          cases isIndex
          have same := congrArg Fin.val (Option.some.inj isOther)
          simp only at same
          omega
      · cases isOther
  · cases isIndex

/-- The operation that a record stands for. -/
def Event.op : Event → Recovery.XactOp
  | .commit => .commit
  | .abort => .commit
  | .prepare => .prepare
  | .preparePhase2A => .prepare
  | .commitPrepared => .commitPrepared
  | .abortPrepared => .abortPrepared

/-- The record as `MtmFilterTransaction` judges it. -/
def FilterFields.streamed (fields : FilterFields) :
    Recovery.Streamed mtmMaxNodes :=
  .transaction fields.event.op fields.endLsn.toNat
    (nodeIndex fields.originNode) fields.originLsn.toNat

theorem FilterFields.txLsn_streamed
    {senderNodeId : ℕ} {sender : Fin mtmMaxNodes}
    (isSender : nodeIndex senderNodeId = some sender) (fields : FilterFields) :
    fields.streamed.txLsn sender = (fields.txLsn senderNodeId).toNat := by
  unfold FilterFields.streamed FilterFields.txLsn Recovery.Streamed.txLsn
  by_cases same : fields.originNode = senderNodeId
  · simp only [same, isSender, if_true]
  · have different : nodeIndex fields.originNode ≠ some sender :=
      fun isOrigin => same (nodeIndex_inj isOrigin isSender)
    simp only [if_neg same, if_neg different]

/-- The coordinator's 2a is the only change of a persistent state that is
sent. -/
def End.Sent (txn : Txn) (state : State) (kind : End) : Prop :=
  kind = .prepare → txn.state3PcChange = true → CoordinatorPrecommit state

theorem End.write_eq
    (rule : EofRule) (config : Config) {txn : Txn} (lsn : UInt64) {kind : End}
    {xinfo : XactInfo} {state : State}
    (parses : kind = .prepare →
      deserializeOrError rule txn.state3Pc = some (xinfo, state))
    (sent : kind.Sent txn state) :
    kind.write rule config txn lsn = some
      (record (fixedFields config txn (kind.event txn) lsn ++
        kind.tail txn)) := by
  cases kind with
  | commit => simp [End.write, End.event, End.tail, pglogicalWriteCommit]
  | prepare =>
      rcases Bool.eq_false_or_eq_true txn.state3PcChange with change | noChange
      · have isPrecommit := sent rfl change
        simp [End.write, pglogicalWritePrepare, change, parses rfl, isPrecommit,
          End.event, End.tail, prepareRecord]
      · simp [End.write, pglogicalWritePrepare, noChange, End.event, End.tail,
          prepareRecord]
  | commitPrepared => rfl
  | abortPrepared => rfl

theorem End.write_of_not_sent
    (rule : EofRule) (config : Config) {txn : Txn} (lsn : UInt64) {kind : End}
    {xinfo : XactInfo} {state : State}
    (parses : kind = .prepare →
      deserializeOrError rule txn.state3Pc = some (xinfo, state))
    (notSent : ¬ kind.Sent txn state) :
    kind.write rule config txn lsn = some [] := by
  simp only [End.Sent, Classical.not_imp] at notSent
  obtain ⟨rfl, change, noPrecommit⟩ := notSent
  simp [End.write, pglogicalWritePrepare, change, parses rfl, noPrecommit]

/-- Whatever ends a transaction, either nothing is sent, which is the case for
the changes of a persistent state that are not the 2a of the coordinator only, or
the receiver applies the transaction as it was and stamps it with the very origin
and position that its filter has judged. -/
theorem record_read_alike
    (rule : EofRule) (config : Config) (txn : Txn) (lsn : UInt64) (kind : End)
    (xinfo : XactInfo) (state : State)
    (persisted : kind = .prepare →
      txn.state3Pc.bytes = encode (serializeXstate xinfo state)) :
    (¬ kind.Sent txn state ∧ kind.write rule config txn lsn = some []) ∨
      (kind.Sent txn state ∧ ∃ body applied filtered left,
        kind.write rule config txn lsn = some (67 :: body) ∧
          (processRemoteCommit rule config.myNodeId).run body =
            some (applied, []) ∧
          filterTransaction.run body = some (filtered, left) ∧
          applied.finish = kind.finish txn xinfo state ∧
          applied.timestamp = txn.commitTime ∧
          applied.originNode = sendNodeId config txn ∧
          ∀ sender, nodeIndex config.myNodeId = some sender →
            filtered.streamed.origin sender = nodeIndex applied.originNode ∧
              filtered.streamed.txLsn sender = applied.originLsn.toNat) := by
  have parses (isPrepare : kind = .prepare) :
      deserializeOrError rule txn.state3Pc = some (xinfo, state) :=
    deserializeOrError_serializeXstate rule (persisted isPrepare)
  by_cases sent : kind.Sent txn state
  · refine Or.inr ⟨sent, ?_⟩
    have applies := reads_processRemoteCommit config lsn parses []
    obtain ⟨left, filters⟩ :=
      peeks_filterTransaction config txn kind lsn []
    rw [List.append_nil] at applies filters
    refine ⟨_, _, _, left, End.write_eq rule config lsn parses sent, applies,
      filters, rfl, rfl, rfl, ?_⟩
    intro sender isSender
    exact ⟨rfl, FilterFields.txLsn_streamed isSender _⟩
  · exact Or.inl ⟨sent, End.write_of_not_sent rule config lsn parses sent⟩

/-- The persistent state as it is stored. -/
def xstateString (xinfo : XactInfo) (state : State) : CString where
  bytes := encode (serializeXstate xinfo state)
  noZero := zero_notMem_encode (latin_serializeXstate xinfo state)

/-- The coordinator of a transaction with two participants precommits it. -/
theorem record_read_alike_precommit :
    let config : Config :=
      { myNodeId := 1, nodes := [], my_pos := by decide, my_le := by decide,
        nodes_pos := by simp, nodes_le := by simp }
    let xinfo : XactInfo :=
      { coordinator := 1, xid := 700, genNum := 3, configured := 3 }
    let state : State :=
      { proposal := initialGTxTerm, accepted := initialGTxTerm,
        status := .preCommitted }
    let txn : Txn :=
      { xid := 700, originId := 0, originLsn := 0, endLsn := 80,
        commitTime := 5, gid := ⟨[103], by decide⟩, gid_short := by decide,
        state3Pc := xstateString xinfo state, state3PcChange := true }
    ∃ body applied left,
      pglogicalWritePrepare .beforeConversion config txn 72 =
          some (67 :: body) ∧
        (processRemoteCommit .beforeConversion 1).run body =
          some (applied, left) ∧
        applied.finish = .preparePhase2A [103] xinfo state ∧
        applied.originNode = 1 := by
  intro config xinfo state txn
  rcases record_read_alike .beforeConversion config txn 72 .prepare xinfo state
    (fun _ => rfl) with ⟨notSent, -⟩ | ⟨-, body, applied, -, -, written, read, -,
      finish, -, origin, -⟩
  · exact absurd (fun _ _ => ⟨rfl, rfl, rfl⟩) notSent
  · exact ⟨body, applied, [], written, read, finish, origin⟩

/-! ## Syncpoints -/

theorem reads_pglogicalWriteMessage
    (label : UInt8) (endLsn : UInt64) {message : List UInt8}
    (fits : message.length < 2 ^ 32) :
    ∃ body, pglogicalWriteMessage label endLsn message = 77 :: body ∧
      Reads readMessage body (label, endLsn, message) := by
  refine ⟨([label] :: [sendInt64 endLsn, sendInt 4 message.length,
    message]).flatten, rfl, ?_⟩
  have body := (reads_getBytes message).map fun body => (label, endLsn, body)
  have fields : Reads (do
      let body ← getBytes message.length
      pure (label, endLsn, body)) [message].flatten
      (label, endLsn, message) := by
    rwa [List.flatten_singleton]
  exact (reads_getByte label).field ((reads_getInt64 endLsn).field
    ((reads_getInt fits).field fields))

theorem latin_forwarded (originNode : Int32) (originLsn : UInt64) :
    Latin ('F' :: '_' :: (printInt originNode.toInt ++
      '_' :: numeral 16 originLsn.toNat)) := by
  refine Latin.cons (by decide) (Latin.cons (by decide) ?_)
  refine (latin_printInt _).append (Latin.cons (by decide) ?_)
  exact latin_numeral (by decide) (by decide) _

theorem bodyText_forwardedSyncpoint
    (originNode : Int32) (originLsn : UInt64) :
    bodyText (forwardedSyncpoint originNode originLsn) =
      'F' :: '_' :: (printInt originNode.toInt ++
        '_' :: numeral 16 originLsn.toNat) := by
  have latin := latin_forwarded originNode originLsn
  have all : ∀ byte ∈ encode ('F' :: '_' :: (printInt originNode.toInt ++
      '_' :: numeral 16 originLsn.toNat)), (byte != 0) = true := by
    intro byte isByte
    simp only [bne_iff_ne, ne_eq]
    rintro rfl
    exact zero_notMem_encode latin isByte
  rw [bodyText, forwardedSyncpoint, List.takeWhile_append_of_pos all]
  simp only [bne_self_eq_false, Bool.false_eq_true, not_false_eq_true,
    List.takeWhile_cons_of_neg, List.append_nil]
  exact decode_encode latin

theorem matches_forwarded (originNode : Int32) (originLsn : UInt64) :
    Matches syncpointFormat
      ('F' :: '_' :: (printInt originNode.toInt ++
        '_' :: numeral 16 originLsn.toNat))
      [.int originNode, .unsigned originLsn] [] := by
  have stops : Text.NoDigit 10 ('_' :: numeral 16 originLsn.toNat) := by
    rintro char ⟨⟩
    rfl
  have isNode := Text.reads_int_of_noDigit originNode stops
  have isLsn := Text.reads_unsigned (by decide : 1 < 16) (Nat.le_refl 16)
    originLsn Text.separated_nil
  rw [List.append_nil] at isLsn
  exact Matches.cons (Text.Reads.literal 'F' _)
    (Matches.cons (Text.Reads.literal '_' _)
      (Text.matches_field isNode (Matches.cons isLsn (Matches.nil []))))

theorem scanSyncpoint_forwardedSyncpoint
    (rule : EofRule) (originNode : Int32) (originLsn : UInt64) :
    scanSyncpoint rule (forwardedSyncpoint originNode originLsn) =
      some (originNode, originLsn) := by
  obtain ⟨values, noFailure⟩ := (matches_forwarded originNode originLsn).scan
  unfold scanSyncpoint
  rw [bodyText_forwardedSyncpoint]
  simp [Text.Scan.result, Text.Scan.isEof, noFailure, values, Text.intAt,
    Text.unsignedAt]

theorem length_forwardedSyncpoint
    (originNode : Int32) (originLsn : UInt64) :
    (forwardedSyncpoint originNode originLsn).length < 2 ^ 32 := by
  have above := originNode.toInt_lt
  have below := originNode.le_toInt
  have node : (printInt originNode.toInt).length ≤ 11 := by
    have digits : (numeral 10 originNode.toInt.natAbs).length ≤ 10 :=
      Text.length_numeral_le (by decide) (by decide) (by omega)
    unfold printInt
    split
    · rw [List.length_cons]
      omega
    · omega
  have lsn : (numeral 16 originLsn.toNat).length ≤ 16 :=
    Text.length_numeral_le (by decide) (by decide)
      (Nat.lt_of_lt_of_le originLsn.toNat_lt (by norm_num))
  simp only [forwardedSyncpoint, encode, List.length_append, List.length_map,
    List.length_cons, List.length_nil]
  omega

/-- However a syncpoint is passed on, it stays the syncpoint of the node that
first wrote it, at its position there: the receiver of the direct message logs
one that every receiver of its WAL reads as the same, and filters as the same
unless it comes from the origin itself.  They register it without logging it
again; only the node that first wrote it leaves it alone. -/
theorem syncpoint_relayed
    (rule : EofRule) (origin relay : Int32) (originLsn endLsn : UInt64)
    (notBack : origin ≠ relay) :
    ∃ message body,
      (∀ first, processSyncpoint rule first origin originLsn directSyncpoint =
          some (.registered origin originLsn (some message))) ∧
        filterSyncpoint rule origin originLsn directSyncpoint =
          some (origin, originLsn) ∧
        pglogicalWriteMessage 83 endLsn message = 77 :: body ∧
        readMessage.run body = some ((83, endLsn, message), []) ∧
        filterSyncpoint rule relay endLsn message = some (origin, originLsn) ∧
        ∀ me, processSyncpoint rule me relay endLsn message =
          if me = origin then some .skipped
          else some (.registered origin originLsn none) := by
  have scanned := scanSyncpoint_forwardedSyncpoint rule origin originLsn
  have isForwarded : (forwardedSyncpoint origin originLsn).head? = some 70 :=
    rfl
  obtain ⟨body, written, reads⟩ := reads_pglogicalWriteMessage 83 endLsn
    (length_forwardedSyncpoint origin originLsn)
  have read := reads []
  rw [List.append_nil] at read
  refine ⟨forwardedSyncpoint origin originLsn, body, fun _ => rfl, rfl, written,
    read, ?_, ?_⟩
  · rw [filterSyncpoint, if_pos isForwarded, scanned, Option.map_some]
    simp only [if_neg notBack]
  · intro me
    rw [processSyncpoint, if_pos isForwarded, scanned]
    dsimp only
    by_cases isOwn : me = origin
    · rw [if_pos isOwn, if_pos isOwn.symm]
    · rw [if_neg isOwn, if_neg (Ne.symm isOwn)]

/-- Node 3 gets from node 2 the syncpoint of node 1. -/
theorem syncpoint_relayed_once :
    ∃ message,
      processSyncpoint .beforeConversion 2 1 (UInt64.ofNat 160)
          directSyncpoint =
        some (.registered 1 (UInt64.ofNat 160) (some message)) ∧
      processSyncpoint .beforeConversion 3 2 (UInt64.ofNat 512) message =
        some (.registered 1 (UInt64.ofNat 160) none) := by
  obtain ⟨message, -, logged, -, -, -, -, processed⟩ :=
    syncpoint_relayed .beforeConversion 1 2 (UInt64.ofNat 160)
      (UInt64.ofNat 512) (by decide)
  exact ⟨message, logged 2, processed 3⟩

end Events
end Multimaster
