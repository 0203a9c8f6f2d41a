import Multimaster.Message.Defs
import Multimaster.Wal.Terminate

/-!
# The requests of resolvers

`check_status_requests` of the replier.  Requests of phase 2a and outcomes are
handled as they come; requests of phase 1a are collected in a hash keyed by the
transaction and handled together after the queue was drained.

What the other processes of the node do enters through what the calls of
`GlobalTxAcquire` return.  A call that may wait returns when the holder of the
transaction has released it.  The scan of the WAL may never return.
-/

namespace Multimaster
namespace Status

open Gtx
open Message (TxRequestValue)

/-- `MtmTxRequest`; the replier does not read `coordinator_end_lsn`. -/
structure TxRequest (Gid : Type*) where
  type : TxRequestValue
  term : GlobalTxTerm
  gid : Gid
  coordinator : ℕ
  genNum : ℕ
  deriving DecidableEq

/-- The messages in the queue of the replier. -/
inductive Incoming (Gid : Type*)
  | txRequest (request : TxRequest Gid)
  | genVoteRequest (request : Message.GenVoteRequest)

/-- `MtmTxStatusResponse`. -/
structure TxStatusResponse (Gid : Type*) where
  nodeId : ℕ
  state : GTxState
  gid : Gid
  deriving DecidableEq

/-- `Mtm2AResponse`. -/
structure Response2A (Gid : Type*) where
  nodeId : ℕ
  status : GlobalTxStatus
  acceptedTerm : GlobalTxTerm
  errcode : ℕ
  errmsg : String
  gid : Gid
  deriving DecidableEq

/-- `txset_entry`. -/
structure TxsetEntry (Gid : Type*) where
  gid : Gid
  req : TxRequest Gid
  resp : TxStatusResponse Gid
  prepareSeen : Bool
  destId : ℕ

/-- What the replier does to the node and to its peers. -/
inductive Effect (Gid : Type*)
  /-- `SetPreparedTransactionState`, and the same state in the gtx. -/
  | setState (gid : Gid) (state : GTxState)
  /-- `FinishPreparedTransaction`. -/
  | finish (gid : Gid) (commit : Bool)
  /-- `HandleGenVoteRequest`. -/
  | genVote (sender destId : ℕ) (request : Message.GenVoteRequest)
  | statusResponse (destId : ℕ) (response : TxStatusResponse Gid)
  | response2A (destId : ℕ) (response : Response2A Gid)
  deriving DecidableEq

/-- What `GlobalTxAcquire` returns with `nowait_own_live`. -/
inductive Acquired
  | gtx (state : GTxState)
  | missing
  | busy

/-- What the replier meets in one call. -/
structure Surroundings (Gid : Type*) where
  myNodeId : ℕ
  /-- `dmq_dest_id` of the peers. -/
  destId : ℕ → ℕ
  /-- `IS_EXPLICIT_2PC_GID`. -/
  isExplicit2PC : Gid → Bool
  /-- What `GlobalTxAcquire` returns, call by call. -/
  acquireNowait : ℕ → Acquired
  acquireWaiting : ℕ → Option GTxState
  /-- `last_online_in` when the WAL is scanned. -/
  lastOnlineIn : ℕ
  wal : Wal.Log Gid
  /-- The part of the WAL that cannot be read, counted from the newest one. -/
  readError : Option ℕ
  /-- The order in which `hash_seq_search` gives the entries. -/
  order : List (TxsetEntry Gid) → List (TxsetEntry Gid)
  order_perm : ∀ entries, (order entries).Perm entries

variable {Gid : Type*}

/-! ## Phase 1a -/

/-- `handle_1a_gtx`. -/
def handle1aGtx
    (request : TxRequest Gid) (state : GTxState)
    (resp : TxStatusResponse Gid) :
    List (Effect Gid) × TxStatusResponse Gid :=
  if state.proposal < request.term then
    let promised := { state with proposal := request.term }
    ([.setState request.gid promised], { resp with state := promised })
  else ([], resp)

/-- What `handle_1a` does with a gtx. -/
def handle1aFound
    (around : Surroundings Gid) (request : TxRequest Gid) (state : GTxState)
    (resp : TxStatusResponse Gid) :
    List (Effect Gid) × TxStatusResponse Gid :=
  if around.isExplicit2PC request.gid then ([], resp)
  else handle1aGtx request state resp

/-- The status of a response is replaced. -/
def TxStatusResponse.withStatus
    (resp : TxStatusResponse Gid) (status : GlobalTxStatus) :
    TxStatusResponse Gid :=
  { resp with state := { resp.state with status := status } }

/-- What the scan writes to an entry. -/
def TxsetEntry.scan
    (entry : TxsetEntry Gid) (found : Wal.Progress Gid) : TxsetEntry Gid :=
  { entry with
    resp := entry.resp.withStatus (found.status entry.gid)
    prepareSeen := entry.prepareSeen || found.prepareSeen entry.gid }

/-- The part of `handle_1a` after the scan: effects and response, with the
number of calls of `GlobalTxAcquire` that may wait. -/
def handle1aScanned
    (around : Surroundings Gid) (entry : TxsetEntry Gid) (waiting : ℕ) :
    (List (Effect Gid) × TxStatusResponse Gid) × ℕ :=
  if entry.resp.state.status = .committed ∨
      entry.resp.state.status = .aborted then
    (([], entry.resp), waiting)
  else
    match around.acquireWaiting waiting with
    | some state =>
        (handle1aFound around entry.req state entry.resp, waiting + 1)
    | none =>
        if entry.prepareSeen = false ∧
            entry.req.genNum < around.lastOnlineIn then
          (([], entry.resp.withStatus .aborted), waiting + 1)
        else (([], entry.resp), waiting + 1)

/-- The state of the replier in a call. -/
structure Handling (Gid : Type*) where
  effects : List (Effect Gid)
  /-- The calls of `GlobalTxAcquire` so far. -/
  nowait : ℕ
  waiting : ℕ
  /-- What the scan has found, once `wal_scanned` is set. -/
  scanned : Option (Wal.Progress Gid)

/-- The reply of `handle_1a`. -/
def Handling.reply1a
    (handling : Handling Gid) (entry : TxsetEntry Gid)
    (handled : List (Effect Gid) × TxStatusResponse Gid) : Handling Gid :=
  { handling with
    effects := handling.effects ++ handled.1 ++
      [.statusResponse entry.destId handled.2] }

/-- The entry with what the scan has written to it. -/
def Handling.current
    (handling : Handling Gid) (entry : TxsetEntry Gid) : TxsetEntry Gid :=
  match handling.scanned with
  | some found => entry.scan found
  | none => entry

section Batch

variable [DecidableEq Gid]

/-- `GetLoggedPreparedXactState` for the transactions of the set.  A read error
leaves what the parts before have given. -/
def scanWal
    (around : Surroundings Gid) (txset : Finset Gid) (fuel : ℕ) :
    Option (Wal.Progress Gid) :=
  match around.readError.bind (around.wal.loop txset fun _ => .invalid) with
  | some loop => some loop.progress
  | none =>
      Wal.getLoggedPreparedXactState around.wal txset (fun _ => .invalid) fuel

/-- The scan, which is made for the first request that needs it. -/
def Handling.scan
    (handling : Handling Gid) (around : Surroundings Gid) (txset : Finset Gid)
    (fuel : ℕ) : Option (Wal.Progress Gid) :=
  match handling.scanned with
  | some found => some found
  | none => scanWal around txset fuel

/-- `handle_1a`.  The scan writes to all entries of the set: an entry that comes
after it has its finding already. -/
def handle1a
    (around : Surroundings Gid) (txset : Finset Gid) (fuel : ℕ)
    (handling : Handling Gid) (entry : TxsetEntry Gid) :
    Option (Handling Gid) :=
  let current := handling.current entry
  let called := { handling with nowait := handling.nowait + 1 }
  match around.acquireNowait handling.nowait with
  | .gtx state =>
      some (called.reply1a current
        (handle1aFound around current.req state current.resp))
  | .busy => some (called.reply1a current ([], current.resp))
  | .missing => do
      let found ← handling.scan around txset fuel
      let scanned := entry.scan found
      let handled := handle1aScanned around scanned handling.waiting
      some ({ called with waiting := handled.2, scanned := some found }.reply1a
        scanned handled.1)

/-- `handle_1a_batch`. -/
def handle1aBatch
    (around : Surroundings Gid) (fuel : ℕ) (handling : Handling Gid)
    (txset : List (TxsetEntry Gid)) : Option (Handling Gid) :=
  (around.order txset).foldlM
    (handle1a around (txset.map TxsetEntry.gid).toFinset fuel)
    { handling with scanned := none }

end Batch

/-! ## Phase 2a and outcomes -/

/-- The response of `handle_2a` unless the request is accepted. -/
def Response2A.empty
    (around : Surroundings Gid) (gid : Gid) : Response2A Gid where
  nodeId := around.myNodeId
  status := .invalid
  acceptedTerm := invalidGTxTerm
  errcode := 0
  errmsg := ""
  gid := gid

/-- The status a request of phase 2a asks for. -/
def acceptedStatus (type : TxRequestValue) : GlobalTxStatus :=
  if type = .precommit then .preCommitted else .preAborted

/-- What `handle_2a` makes of what `GlobalTxAcquire` returned. -/
def respond2a
    (around : Surroundings Gid) (request : TxRequest Gid) :
    Acquired → List (Effect Gid) × Response2A Gid
  | .gtx state =>
      if state.proposal ≤ request.term then
        ([.setState request.gid
            { proposal := request.term
              accepted := request.term
              status := acceptedStatus request.type }],
          { Response2A.empty around request.gid with
            status := acceptedStatus request.type
            acceptedTerm := request.term })
      else ([], Response2A.empty around request.gid)
  | .missing => ([], Response2A.empty around request.gid)
  | .busy => ([], Response2A.empty around request.gid)

/-- `handle_2a`. -/
def handle2a
    (around : Surroundings Gid) (handling : Handling Gid)
    (request : TxRequest Gid) (destId : ℕ) : Handling Gid :=
  let responded :=
    respond2a around request (around.acquireNowait handling.nowait)
  { handling with
    effects := handling.effects ++ responded.1 ++
      [.response2A destId responded.2]
    nowait := handling.nowait + 1 }

/-- A request to commit or abort. -/
def handleOutcome
    (around : Surroundings Gid) (handling : Handling Gid)
    (request : TxRequest Gid) : Handling Gid :=
  { handling with
    effects := handling.effects ++
      match around.acquireWaiting handling.waiting with
      | some _ => [.finish request.gid (decide (request.type = .commit))]
      | none => []
    waiting := handling.waiting + 1 }

/-! ## The queue -/

/-- The entry for a request of phase 1a. -/
def TxsetEntry.ofRequest
    (around : Surroundings Gid) (sender : ℕ) (request : TxRequest Gid) :
    TxsetEntry Gid where
  gid := request.gid
  req := request
  resp :=
    { nodeId := around.myNodeId
      state := GTxState.empty
      gid := request.gid }
  prepareSeen := false
  destId := around.destId sender

/-- The state of the loop over the queue. -/
structure Draining (Gid : Type*) where
  handling : Handling Gid
  txset : List (TxsetEntry Gid)
  jobPending : Bool

/-- The state before the loop. -/
def Draining.start (jobPending : Bool) : Draining Gid where
  handling :=
    { effects := [], nowait := 0, waiting := 0, scanned := none }
  txset := []
  jobPending := jobPending

variable [DecidableEq Gid]

/-- `HASH_ENTER`, with all fields of the entry written. -/
def enterTxset (entry : TxsetEntry Gid) :
    List (TxsetEntry Gid) → List (TxsetEntry Gid)
  | [] => [entry]
  | head :: rest =>
      if head.gid = entry.gid then entry :: rest
      else head :: enterTxset entry rest

/-- One message. -/
def receiveRequest
    (around : Surroundings Gid) (draining : Draining Gid)
    (sender : ℕ) : Incoming Gid → Draining Gid
  | .txRequest request =>
      match request.type with
      | .status =>
          { draining with
            txset := enterTxset (TxsetEntry.ofRequest around sender request)
              draining.txset }
      | .precommit | .preabort =>
          { draining with
            handling := handle2a around draining.handling request
              (around.destId sender) }
      | .commit | .abort =>
          { draining with
            handling := handleOutcome around draining.handling request }
  | .genVoteRequest request =>
      { draining with
        handling :=
          { draining.handling with
            effects := draining.handling.effects ++
              [.genVote sender (around.destId sender) request] } }

/-- The loop over the queue, with the number of messages received. -/
def drain (around : Surroundings Gid) (maxBatchSize : ℕ) :
    ℕ → Draining Gid → List (ℕ × Incoming Gid) → Draining Gid
  | _, draining, [] => draining
  | received, draining, (sender, message) :: queue =>
      let next := receiveRequest around draining sender message
      if maxBatchSize ≤ received + 1 then { next with jobPending := true }
      else drain around maxBatchSize (received + 1) next queue

/-- `max_batch_size`. -/
def maxBatchSize (nNodes maxBackends : ℕ) : ℕ :=
  nNodes * maxBackends + 100

/-- `check_status_requests`: the effects in order, and `*job_pending`.
`failed` says that a counterparty failed when the queue was empty. -/
def checkStatusRequests
    (around : Surroundings Gid) (nNodes maxBackends : ℕ)
    (queue : List (ℕ × Incoming Gid)) (failed jobPending : Bool) (fuel : ℕ) :
    Option (List (Effect Gid) × Bool) := do
  let drained := drain around (maxBatchSize nNodes maxBackends) 0
    (Draining.start jobPending) queue
  let handled ← handle1aBatch around fuel drained.handling drained.txset
  some (handled.effects, drained.jobPending || failed)

end Status
end Multimaster
