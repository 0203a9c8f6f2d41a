import Multimaster.Commit.Voting
import Multimaster.Status.Replier

/-!
# The commit protocol of one transaction

`MtmTwoPhaseCommit` on the coordinator, the application of its records by the
peers, the resolvers and the repliers, for one transaction of the replicating
cluster.  The other transactions of the cluster are finished in any way.

A section of the source that holds the transaction locked is one action, except
for the backend of the coordinator, which holds it throughout its commit
sequence.
-/

namespace Multimaster
namespace Commit

open Generation Replication Gtx Status

/-- The cluster with the voting about the transaction. -/
structure Cluster (n : ℕ) extends Replication.Cluster n where
  voting : Voting n
  retention : Retention n
  replier : Fin n → Replier n
  /-- The backend of the coordinator is in its commit sequence. -/
  backend : Bool
  /-- `finish_ready` has collected the transaction on the coordinator. -/
  ready : Bool
  /-- The coordinator has logged its precommit. -/
  precommitted : Bool
  /-- Positive 2a replies of appliers to the coordinator. -/
  precommits : List (Fin n)
  /-- `MTReq_Commit` and `MTReq_Abort` sent. -/
  finishRequests : List Bool

/-- The actions of the cluster. -/
inductive Action (n : ℕ)
  /-- A step of replication. -/
  | replicate (action : Replication.Action n)
  | confirm (sender receiver : Fin n) (position : ℕ)
  | recycle (me : Fin n) (position : ℕ)
  /-- The backend has all prepare replies and precommits. -/
  | precommit
  /-- The backend has enough 2a replies and commits. -/
  | commit
  /-- `mtm_commit_cleanup`. -/
  | cleanup
  /-- `PGLOGICAL_PREPARE_PHASE2A` applied by a peer. -/
  | applyPhase2a (me : Fin n)
  /-- `COMMIT PREPARED` or `ABORT PREPARED` of another node applied in normal
  mode. -/
  | applyFinish (me sender : Fin n) (commit : Bool)
  /-- `GlobalTxMarkOrphaned`. -/
  | markOrphaned (me : Fin n)
  /-- `finish_ready` collects the transaction. -/
  | collectReady
  /-- `finish_ready` aborts the collected transaction. -/
  | finishReady
  /-- `scatter_status_requests` with a new ballot. -/
  | scatter (me : Fin n) (ballot : ℕ)
  /-- A step of the replier in `handle_1a_batch`. -/
  | reply (me : Fin n) (action : ReplierAction n)
  /-- `handle_2a`. -/
  | handle2a (me : Fin n) (request : AcceptRequest n)
  /-- `MTReq_Commit` or `MTReq_Abort` in the replier. -/
  | handleFinish (me : Fin n) (commit : Bool)
  /-- `handle_response` to a status response. -/
  | handleStatus (me : Fin n) (response : StatusResponse n)
  /-- `handle_response` to a 2a response. -/
  | handleAccept (me : Fin n) (response : AcceptResponse n)

variable (xact : Xact n)

/-- The transaction is prepared on the node and not locked by the backend. -/
def Cluster.Free (cluster : Cluster n) (me : Fin n) : Prop :=
  Pending (cluster.wal me) xact ∧
    ¬ (me = xact.coordinator ∧ cluster.backend = true)

instance (cluster : Cluster n) (me : Fin n) :
    Decidable (cluster.Free xact me) :=
  inferInstanceAs (Decidable (_ ∧ _))

/-- Finish the transaction on a node. -/
def Cluster.finish
    (cluster : Cluster n) (me : Fin n) (commit : Bool) : Cluster n :=
  { cluster with
    toCluster := cluster.toCluster.log me (.finish xact commit) }

/-! ## Replication -/

/-- What the locks permit of replication.  The transaction itself is finished
only by the actions of this machine. -/
def Permitted (cluster : Cluster n) : Replication.Action n → Prop
  | .finish _ other _ => other ≠ xact
  | .recover me =>
      ∀ record ∈ nextRecord cluster.toCluster me,
        record = .finish xact true ∨ record = .finish xact false →
        cluster.Free xact me
  | _ => True

instance (cluster : Cluster n) (action : Replication.Action n) :
    Decidable (Permitted xact cluster action) :=
  match action with
  | .finish _ other _ => inferInstanceAs (Decidable (other ≠ xact))
  | .recover me =>
      inferInstanceAs (Decidable
        (∀ record ∈ nextRecord cluster.toCluster me,
          record = .finish xact true ∨ record = .finish xact false →
          cluster.Free xact me))
  | .election _ => isTrue trivial
  | .crash _ => isTrue trivial
  | .logParallelSafe _ => isTrue trivial
  | .prepare _ => isTrue trivial
  | .applyPrepare _ _ => isTrue trivial
  | .startRecovery _ _ => isTrue trivial
  | .skip _ => isTrue trivial
  | .stopRecovery _ => isTrue trivial

/-- A step of replication: the backend starts with `PREPARE`, and a crash loses
all shared memory of the node. -/
def replicate
    (cluster : Cluster n) (action : Replication.Action n) : Cluster n :=
  let replicated :=
    { cluster with
      toCluster := Replication.effect cluster.toCluster action }
  match action with
  | .prepare prepared =>
      if prepared = xact then
        { replicated with
          voting := cluster.voting.setGtx xact.coordinator
            { cluster.voting.gtx xact.coordinator with orphaned := true }
          backend := true }
      else replicated
  | .crash me =>
      { replicated with
        voting :=
          if Pending (cluster.wal me) xact then
            cluster.voting.setGtx me (cluster.voting.gtx me).load
          else cluster.voting
        replier := Function.update cluster.replier me (Replier.idle n)
        backend := cluster.backend && decide (me ≠ xact.coordinator)
        ready := cluster.ready && decide (me ≠ xact.coordinator) }
  | _ => replicated

/-! ## Status requests -/

/-- What a response without a vote tells. -/
def outcomeState (status : GlobalTxStatus) : GTxState :=
  { GTxState.empty with status := status }

/-- What the end of `handle_1a` answers about the transaction. -/
def conclude
    (voting : Voting n) (me : Fin n) (request : StatusRequest n) :
    Verdict → Voting n
  | .finished true =>
      voting.respond me request.requester (outcomeState .committed)
  | .finished false =>
      voting.respond me request.requester (outcomeState .aborted)
  | .prepared => handle1aGtx voting me request.requester request.term
  | .directAbort =>
      voting.respond me request.requester (outcomeState .aborted)
  | .unknown => voting.respond me request.requester .empty

/-- The answer of the fast check in `handle_1a`, if the transaction is there;
its backend must not be disturbed. -/
def fastCheck
    (cluster : Cluster n) (me : Fin n) (request : StatusRequest n) :
    Voting n :=
  if request.xact = xact ∧ Pending (cluster.wal me) xact then
    if cluster.Free xact me then
      handle1aGtx cluster.voting me request.requester request.term
    else cluster.voting.respond me request.requester .empty
  else cluster.voting

/-- The verdict `handle_1a` is about to give on the transaction. -/
def Cluster.verdict
    (cluster : Cluster n) (me : Fin n) :
    Option (StatusRequest n × Verdict) :=
  (cluster.replier me).concluding.bind fun (request, scan) =>
    if request.xact = xact then
      some (request,
        Status.verdict scan xact (decide (Pending (cluster.wal me) xact)))
    else none

/-- The voting after a step of a replier. -/
def votingAfter
    (cluster : Cluster n) (me : Fin n) : ReplierAction n → Voting n
  | .pick request => fastCheck xact cluster me request
  | .conclude =>
      match cluster.verdict xact me with
      | some (request, verdict) => conclude cluster.voting me request verdict
      | none => cluster.voting
  | _ => cluster.voting

/-- The requests of a batch come from other nodes; those for the transaction
were sent.  The second lookup waits for the lock. -/
def Delivered (cluster : Cluster n) (me : Fin n) : ReplierAction n → Prop
  | .start entries =>
      ∀ entry ∈ entries, entry.requester ≠ me ∧
        (entry.xact = xact →
          (entry.requester, entry.term) ∈ cluster.voting.statusRequests)
  | .conclude => Pending (cluster.wal me) xact → cluster.Free xact me
  | _ => True

instance (cluster : Cluster n) (me : Fin n) (action : ReplierAction n) :
    Decidable (Delivered xact cluster me action) :=
  match action with
  | .start entries => inferInstanceAs (Decidable (∀ entry ∈ entries, _))
  | .pick _ => isTrue trivial
  | .read => isTrue trivial
  | .scan => isTrue trivial
  | .conclude => inferInstanceAs (Decidable (_ → _))

/-! ## Responses -/

/-- `handle_response` to a status response: finish with the outcome, or go on
voting. -/
def handleStatusResponse
    (cluster : Cluster n) (me : Fin n) (response : StatusResponse n) :
    Cluster n :=
  match response.state.status with
  | .committed => cluster.finish xact me true
  | .aborted => cluster.finish xact me false
  | _ => { cluster with voting := handleStatus cluster.voting me response }

/-- `handle_response` to a 2a response: refusals are ignored, and a quorum
finishes the transaction. -/
def handleAcceptResponse
    (cluster : Cluster n) (me : Fin n) (response : AcceptResponse n) :
    Cluster n :=
  if response.status = .preCommitted ∨ response.status = .preAborted then
    if quorum me (phase2With cluster.voting me response) then
      let commit := decide (response.status = .preCommitted)
      { cluster.finish xact me commit with
        finishRequests := commit :: cluster.finishRequests }
    else
      { cluster with voting := recordAccept cluster.voting me response }
  else cluster

/-- The voters for commit in the initial term known to the coordinator. -/
def Cluster.precommitVoters (cluster : Cluster n) : Finset (Fin n) :=
  insert xact.coordinator (cluster.precommits.toFinset ∩ xact.gen.members)

/-! ## The machine -/

/-- Whether an action can be taken. -/
def Enabled (cluster : Cluster n) : Action n → Prop
  | .replicate action =>
      Replication.Enabled cluster.toCluster action ∧
        Permitted xact cluster action
  | .confirm sender receiver position =>
      cluster.retention.CanConfirm cluster.toCluster sender receiver position
  | .recycle me position => cluster.retention.CanRecycle me position
  | .precommit =>
      cluster.backend = true ∧ cluster.precommitted = false ∧
        ∀ member ∈ xact.gen.members, (member, xact) ∈ cluster.acks
  | .commit =>
      cluster.backend = true ∧ cluster.precommitted = true ∧
        Quorum xact.gen.configured.card (cluster.precommitVoters xact).card
  | .cleanup => cluster.backend = true
  | .applyPhase2a me => cluster.precommitted = true ∧ cluster.Free xact me
  | .applyFinish me sender commit =>
      .finish xact commit ∈ cluster.wal sender ∧ cluster.Free xact me
  | .markOrphaned _ => True
  | .collectReady =>
      cluster.Free xact xact.coordinator ∧
        (cluster.voting.gtx xact.coordinator).orphaned = true ∧
        (cluster.voting.gtx xact.coordinator).state.status = .invalid
  | .finishReady =>
      cluster.ready = true ∧ cluster.Free xact xact.coordinator
  | .scatter me ballot =>
      cluster.Free xact me ∧ (cluster.voting.gtx me).orphaned = true ∧
        cluster.voting.promise me <
          { ballot := ballot, nodeId := nodeId me }
  | .reply me action =>
      (cluster.replier me).Enabled action ∧
        Delivered xact cluster me action
  | .handle2a me request =>
      request ∈ cluster.voting.acceptRequests ∧ request.requester ≠ me
  | .handleFinish me commit =>
      commit ∈ cluster.finishRequests ∧ cluster.Free xact me
  | .handleStatus me response =>
      response ∈ cluster.voting.statusResponses ∧
        response.requester = me ∧ cluster.Free xact me ∧
        (cluster.voting.gtx me).resolverStage = .awaitStatus
  | .handleAccept me response =>
      response ∈ cluster.voting.acceptResponses ∧
        response.requester = me ∧ cluster.Free xact me ∧
        (cluster.voting.gtx me).resolverStage = .awaitAcks

instance (cluster : Cluster n) (action : Action n) :
    Decidable (Enabled xact cluster action) :=
  match action with
  | .replicate _ => inferInstanceAs (Decidable (_ ∧ _))
  | .confirm sender receiver position =>
      inferInstanceAs (Decidable (cluster.retention.CanConfirm
        cluster.toCluster sender receiver position))
  | .recycle me position =>
      inferInstanceAs (Decidable (cluster.retention.CanRecycle me position))
  | .precommit => inferInstanceAs (Decidable (_ ∧ _ ∧ _))
  | .commit => inferInstanceAs (Decidable (_ ∧ _ ∧ _))
  | .cleanup => inferInstanceAs (Decidable (_ = _))
  | .applyPhase2a _ => inferInstanceAs (Decidable (_ ∧ _))
  | .applyFinish _ _ _ => inferInstanceAs (Decidable (_ ∧ _))
  | .markOrphaned _ => isTrue trivial
  | .collectReady => inferInstanceAs (Decidable (_ ∧ _ ∧ _))
  | .finishReady => inferInstanceAs (Decidable (_ ∧ _))
  | .scatter _ _ => inferInstanceAs (Decidable (_ ∧ _ ∧ _))
  | .reply _ _ => inferInstanceAs (Decidable (_ ∧ _))
  | .handle2a _ _ => inferInstanceAs (Decidable (_ ∧ _))
  | .handleFinish _ _ => inferInstanceAs (Decidable (_ ∧ _))
  | .handleStatus _ _ => inferInstanceAs (Decidable (_ ∧ _ ∧ _ ∧ _))
  | .handleAccept _ _ => inferInstanceAs (Decidable (_ ∧ _ ∧ _ ∧ _))

/-- The state after an action. -/
def effect (cluster : Cluster n) : Action n → Cluster n
  | .replicate action => replicate xact cluster action
  | .confirm sender receiver position =>
      { cluster with
        retention := cluster.retention.confirm sender receiver position }
  | .recycle me position =>
      { cluster with retention := cluster.retention.recycle me position }
  | .precommit =>
      { cluster with
        voting := cluster.voting.vote xact.coordinator initialGTxTerm true
        precommitted := true }
  | .commit =>
      { cluster.finish xact xact.coordinator true with backend := false }
  | .cleanup =>
      if (cluster.voting.gtx xact.coordinator).state.accepted =
          invalidGTxTerm then
        { cluster.finish xact xact.coordinator false with backend := false }
      else { cluster with backend := false }
  | .applyPhase2a me =>
      if cluster.voting.promise me ≤ initialGTxTerm then
        { cluster with
          voting := cluster.voting.vote me initialGTxTerm true
          precommits := me :: cluster.precommits }
      else cluster
  | .applyFinish me _ commit => cluster.finish xact me commit
  | .markOrphaned me =>
      { cluster with
        voting := cluster.voting.setGtx me
          { cluster.voting.gtx me with orphaned := true } }
  | .collectReady => { cluster with ready := true }
  | .finishReady => cluster.finish xact xact.coordinator false
  | .scatter me ballot =>
      { cluster with
        voting := scatter cluster.voting me
          { ballot := ballot, nodeId := nodeId me } }
  | .reply me action =>
      { cluster with
        replier := Function.update cluster.replier me
          ((cluster.replier me).step (cluster.node me).lastOnlineIn
            (cluster.wal me) (cluster.retention.recycled me) action)
        voting := votingAfter xact cluster me action }
  | .handle2a me request =>
      { cluster with
        voting :=
          if cluster.Free xact me then handle2a cluster.voting me request
          else refuse2a cluster.voting me request }
  | .handleFinish me commit => cluster.finish xact me commit
  | .handleStatus me response =>
      handleStatusResponse xact cluster me response
  | .handleAccept me response =>
      handleAcceptResponse xact cluster me response

/-- The machine of the commit protocol of a transaction.  The transaction is
not prepared anywhere at first. -/
def machine : Machine (Cluster n) (Action n) where
  init :=
    { toCluster := Replication.initialCluster n
      voting := Voting.initial n
      retention := Retention.initial n
      replier := fun _ => Replier.idle n
      backend := false
      ready := false
      precommitted := false
      precommits := []
      finishRequests := [] }
  Enabled := Enabled xact
  effect := effect xact

instance (cluster : Cluster n) (action : Action n) :
    Decidable ((machine xact).Enabled cluster action) :=
  inferInstanceAs (Decidable (Enabled xact cluster action))

/-- The side condition on runs: `handle_1a` does not answer with a direct abort
of a transaction that its own node has committed and the requester still has
prepared. -/
def AbortsUncommitted (cluster : Cluster n) : Action n → Prop
  | .reply me .conclude =>
      ∀ pair ∈ cluster.verdict xact me, pair.2 = .directAbort →
        .finish xact true ∈ cluster.wal me →
        ¬ Pending (cluster.wal pair.1.requester) xact
  | _ => True

instance (cluster : Cluster n) (action : Action n) :
    Decidable (AbortsUncommitted xact cluster action) :=
  match action with
  | .reply me .conclude =>
      inferInstanceAs (Decidable (∀ pair ∈ cluster.verdict xact me, _))
  | .reply _ (.start _) => isTrue trivial
  | .reply _ (.pick _) => isTrue trivial
  | .reply _ .read => isTrue trivial
  | .reply _ .scan => isTrue trivial
  | .replicate _ => isTrue trivial
  | .confirm _ _ _ => isTrue trivial
  | .recycle _ _ => isTrue trivial
  | .precommit => isTrue trivial
  | .commit => isTrue trivial
  | .cleanup => isTrue trivial
  | .applyPhase2a _ => isTrue trivial
  | .applyFinish _ _ _ => isTrue trivial
  | .markOrphaned _ => isTrue trivial
  | .collectReady => isTrue trivial
  | .finishReady => isTrue trivial
  | .scatter _ _ => isTrue trivial
  | .handle2a _ _ => isTrue trivial
  | .handleFinish _ _ => isTrue trivial
  | .handleStatus _ _ => isTrue trivial
  | .handleAccept _ _ => isTrue trivial

end Commit
end Multimaster
