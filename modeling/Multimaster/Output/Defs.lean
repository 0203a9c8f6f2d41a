import Multimaster.Lib.Machine

/-!
# The output of a WAL sender

The callbacks of the output plugin (`pglogical_output.c`) write records into one
buffer, which is sent as a packet when it has grown large, and before and after
whatever is to be a packet of its own.
-/

namespace Multimaster
namespace Output

/-- The byte `w` and three 64-bit numbers, in `out` before the records. -/
def headerLength : ℕ := 25

/-- `MaxAllocSize`; `enlargeStringInfo` refuses to reach it. -/
def maxAllocSize : ℕ := 1073741823

/-- `OUTPUT_BUFFER_SIZE`. -/
def outputBufferSize : ℕ := 16 * 1024 * 1024

/-- The part of `LogicalDecodingContext` that is about output, and what was
sent. -/
structure Context where
  preparedWrite : Bool
  /-- `out`, behind its header. -/
  out : List UInt8
  /-- `startup_message_sent`. -/
  startupMessageSent : Bool
  /-- The payloads of the packets. -/
  packets : List (List UInt8)
  deriving DecidableEq

namespace Context

/-- A WAL sender starts. -/
def start : Context where
  preparedWrite := false
  out := []
  startupMessageSent := false
  packets := []

/-- `OutputPluginPrepareWrite`. -/
def prepareWrite (ctx : Context) : Context :=
  { ctx with preparedWrite := true, out := [] }

/-- `OutputPluginWrite`; `none` is an `ERROR`. -/
def write (ctx : Context) : Option Context :=
  if ctx.preparedWrite then
    some { ctx with
      preparedWrite := false
      packets := ctx.packets ++ [ctx.out] }
  else none

/-- `MtmOutputPluginWrite`. -/
def mtmOutputPluginWrite (flush : Bool) (ctx : Context) : Option Context :=
  if flush then ctx.write else some ctx

/-- `MtmOutputPluginPrepareWrite`. -/
def mtmOutputPluginPrepareWrite
    (flush : Bool) (ctx : Context) : Option Context :=
  if ctx.preparedWrite = false then some ctx.prepareWrite
  else if flush = true ∨
      outputBufferSize < headerLength + ctx.out.length then
    ctx.write.map prepareWrite
  else some ctx

/-- Bytes are written; `none` is an `ERROR` of `enlargeStringInfo`. -/
def append (bytes : List UInt8) (ctx : Context) : Option Context :=
  if headerLength + ctx.out.length + bytes.length < maxAllocSize then
    some { ctx with out := ctx.out ++ bytes }
  else none

/-- Prepare, write and send, each with the same flag. -/
def emit (flush : Bool) (bytes : List UInt8) (ctx : Context) :
    Option Context := do
  let ctx ← ctx.mtmOutputPluginPrepareWrite flush
  let ctx ← ctx.append bytes
  ctx.mtmOutputPluginWrite flush

/-! ## Callbacks -/

/-- `send_startup_message`; `write_startup_message` writes nothing. -/
def sendStartupMessage (ctx : Context) : Option Context := do
  let ctx ← ctx.emit true []
  pure { ctx with startupMessageSent := true }

/-- The startup message is sent once. -/
def startUp (ctx : Context) : Option Context :=
  if ctx.startupMessageSent then some ctx else ctx.sendStartupMessage

/-- The origin of a forwarded transaction is announced, but `write_origin` is
not set, so that nothing is written. -/
def sendOrigin (forwarded : Bool) (ctx : Context) : Option Context :=
  if forwarded then do
    let ctx ← ctx.mtmOutputPluginWrite false
    ctx.mtmOutputPluginPrepareWrite false
  else some ctx

/-- `pg_decode_begin_txn`, with what `write_begin` writes. -/
def pgDecodeBeginTxn
    (forwarded : Bool) (begin : List UInt8) (ctx : Context) :
    Option Context := do
  let ctx ← ctx.startUp
  let ctx ← ctx.mtmOutputPluginPrepareWrite true
  let ctx ← ctx.append begin
  let ctx ← ctx.sendOrigin forwarded
  ctx.mtmOutputPluginWrite false

/-- `pg_decode_change`, with what `write_rel` and the writer of the row write.
A row that the filter keeps back and a `DELETE` without old tuple are
`none`. -/
def pgDecodeChange
    (passes : Bool) (header : List UInt8) (row : Option (List UInt8))
    (ctx : Context) : Option Context :=
  if passes then do
    let ctx ← ctx.emit false header
    match row with
    | some bytes => ctx.emit false bytes
    | none => pure ctx
  else some ctx

/-- `pg_decode_message`, with what `write_message` writes. -/
def pgDecodeMessage
    (transactional : Bool) (message : List UInt8) (ctx : Context) :
    Option Context :=
  ctx.emit (!transactional) message

/-- The tuples of `pglogical_broadcast_table`. -/
def broadcastTuples : List (List UInt8) → Context → Option Context
  | [], ctx => some ctx
  | tuple :: rest, ctx => do
      let ctx ← ctx.emit false tuple
      broadcastTuples rest ctx

/-- `pg_decode_message` of a message `T`. -/
def pgDecodeCopy
    (header : List UInt8) (tuples : List (List UInt8)) (ctx : Context) :
    Option Context := do
  let ctx ← ctx.mtmOutputPluginPrepareWrite false
  let ctx ← ctx.append header
  let ctx ← broadcastTuples tuples ctx
  ctx.mtmOutputPluginWrite false

/-- What `pg_decode_commit_txn`, `pg_decode_prepare_txn`,
`pg_decode_commit_prepared_txn`, `pg_decode_abort_prepared_txn` and
`pg_decode_abort_txn` do with what their writer writes. -/
def pgDecodeEnd (commit : List UInt8) (ctx : Context) : Option Context :=
  ctx.emit true commit

/-- `pg_decode_caughtup`. -/
def pgDecodeCaughtup
    (isRecovery : Bool) (caughtup : List UInt8) (ctx : Context) :
    Option Context :=
  if isRecovery then ctx.emit true caughtup else some ctx

end Context

end Output
end Multimaster
