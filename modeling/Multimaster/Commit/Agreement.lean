import Multimaster.Commit.Steps
import Multimaster.Status.DirectAbort

/-!
# Agreement on the outcome

No transaction is committed by one node and aborted by another, in every run in
which no direct abort is answered for a transaction that the answering node has
committed itself.  Without the condition agreement fails: a batch of status
requests is answered from a scan of the WAL that may be older than the commit.
-/

namespace Multimaster
namespace Commit

open Generation Replication Gtx Status

variable {xact : Xact n}

namespace Invariant

variable {cluster : Cluster n} {me : Fin n}

/-! ## Steps that finish the transaction -/

theorem continues_finish
    (me : Fin n) (commit : Bool)
    {backend : Bool} {finishRequests : List Bool}
    (kept : backend = true → cluster.backend = true) :
    Continues xact cluster
      { cluster.finish xact me commit with
        backend := backend, finishRequests := finishRequests } := by
  have grows := grows_log cluster.toCluster me (.finish xact commit)
    cluster.acks (fun _ => id) (fun _ => Or.inl)
  refine ⟨grows, fun _ => id, fun doomed => doomed.mono grows id ?_⟩
  intro _ gone
  by_contra running
  rw [Bool.not_eq_false] at running
  rw [kept running] at gone
  cases gone

/-- The transaction is finished on a node, for a reason. -/
theorem finish
    (invariant : Invariant xact cluster)
    (me : Fin n) (commit backend : Bool) {finishRequests : List Bool}
    (pending : Pending (cluster.wal me) xact)
    (kept : backend = true →
      cluster.backend = true ∧ xact.coordinator ≠ me)
    (requests : ∀ other ∈ finishRequests,
      other ∈ cluster.finishRequests ∨ other = commit)
    (decided : Decided xact
      { cluster.finish xact me commit with
        backend := backend, finishRequests := finishRequests } commit) :
    Invariant xact
      { cluster.finish xact me commit with
        backend := backend, finishRequests := finishRequests } := by
  have continues : Continues xact cluster
      { cluster.finish xact me commit with
        backend := backend, finishRequests := finishRequests } :=
    continues_finish me commit fun running => (kept running).1
  have grows := continues.grows
  have finished (other : Fin n) (outcome : Bool)
      (isFinished : .finish xact outcome ∈
        (cluster.toCluster.log me (.finish xact commit)).wal other) :
      .finish xact outcome ∈ cluster.wal other ∨
        (other = me ∧ outcome = commit) := by
    by_cases same : other = me
    · subst same
      rw [log_wal_self, List.mem_append, List.mem_singleton] at isFinished
      exact isFinished.imp_right fun isNew => ⟨rfl, by cases isNew; rfl⟩
    · rw [log_wal_ne _ _ same] at isFinished
      exact Or.inl isFinished
  exact {
    replication := invariant.replication.step (.finish me xact commit) pending
    retention := invariant.retention
    replier := fun other =>
      (invariant.replier other).mono grows (le_refl _)
    requests := invariant.requests
    voting := invariant.voting
    prepared := by
      intro other outcome isFinished
      rcases finished other outcome isFinished with isOld | ⟨same, _⟩
      · exact (grows.wal other).subset
          (invariant.prepared other outcome isOld)
      · rw [same]
        exact (grows.wal me).subset pending.1
    fresh := fun other unprepared => invariant.fresh other
      fun isPrepared => unprepared ((grows.wal other).subset isPrepared)
    asked := fun request isRequest =>
      (grows.wal request.1).subset (invariant.asked request isRequest)
    coordinator := by
      refine invariant.coordinator.step continues id ?_ rfl fun _ => Or.inl
      intro running
      obtain ⟨wasRunning, different⟩ := kept running
      have same := log_wal_ne cluster.toCluster (.finish xact commit)
        different
      obtain ⟨stillPending, reached⟩ :=
        invariant.coordinator.backend wasRunning
      rw [← same] at stillPending
      exact ⟨stillPending, reached⟩
    outcomes := by
      refine invariant.outcomes.step continues Or.inl ?_ ?_ fun _ => Or.inl
      · intro other outcome isFinished
        refine (finished other outcome isFinished).imp_right ?_
        rintro ⟨_, rfl⟩
        exact decided
      · intro other isRequest
        refine (requests other isRequest).imp_right ?_
        rintro rfl
        exact decided }

/-- A node that holds the transaction finishes it. -/
theorem finishFree
    (invariant : Invariant xact cluster) {commit : Bool}
    (free : cluster.Free xact me)
    (decided : Decided xact cluster commit) :
    Invariant xact (cluster.finish xact me commit) :=
  invariant.finish me commit cluster.backend free.1
    (fun running => ⟨running, free.ne_coordinator running⟩)
    (fun _ => Or.inl) (decided.mono (continues_finish me commit id))

/-! ## The backend of the coordinator -/

/-- The coordinator without a vote: nobody has voted for commit. -/
theorem uncommitted_of_unvoted
    (invariant : Invariant xact cluster)
    (unvoted : (cluster.voting.gtx xact.coordinator).state.accepted =
      invalidGTxTerm) :
    ¬ cluster.voting.CommitVote := by
  intro commitVote
  have hasVoted := (invariant.coordinator.justified commitVote).1
  have reached := (invariant.voting.gtx xact.coordinator).last _ hasVoted rfl
  rw [unvoted] at reached
  exact not_initial_le_invalid reached

/-- The first vote for commit: every member has acknowledged the transaction and
the backend is still there, so it was not doomed. -/
theorem precommit
    (invariant : Invariant xact cluster)
    (running : cluster.backend = true)
    (acked : ∀ member ∈ xact.gen.members, (member, xact) ∈ cluster.acks) :
    Invariant xact (effect xact cluster .precommit) := by
  obtain ⟨pending, reached⟩ := invariant.coordinator.backend running
  have continues : Continues xact cluster
      (effect xact cluster .precommit) := by
    refine ⟨Grows.refl _, List.subset_cons_self _ _, ?_⟩
    rintro ⟨_, ⟨member, isMember, never⟩ | ⟨_, gone⟩⟩
    · exact absurd (Or.inl (acked member isMember)) never
    · rw [running] at gone
      cases gone
  have hasVoted : ⟨xact.coordinator, initialGTxTerm, true⟩ ∈
      (effect xact cluster .precommit).voting.votes := List.mem_cons_self
  have joined : (effect xact cluster .precommit).voting.promise
      xact.coordinator = initialGTxTerm := setGtx_promise_self _ _ _
  exact {
    replication := invariant.replication
    retention := invariant.retention
    replier := invariant.replier
    requests := invariant.requests
    voting := invariant.voting.precommit reached
    prepared := invariant.prepared
    fresh := by
      intro other unprepared
      by_cases same : other = xact.coordinator
      · rw [same]
        exact joined.le
      · have kept : (effect xact cluster .precommit).voting.promise other =
            cluster.voting.promise other :=
          congrArg (fun gtx : GlobalTx n => gtx.state.proposal)
            (setGtx_gtx_ne _ _ same)
        rw [kept]
        exact invariant.fresh other unprepared
    asked := invariant.asked
    coordinator := {
      justified := fun _ => ⟨hasVoted, acked⟩
      backend := fun _ => ⟨pending, joined.le⟩
      precommitted := fun _ => hasVoted
      precommits := fun other isVoter =>
        continues.votes (invariant.coordinator.precommits other isVoter) }
    outcomes := invariant.outcomes.step continues Or.inl (fun _ _ => Or.inl)
      (fun _ => Or.inl) (fun _ => Or.inl) }

/-- The coordinator commits with a majority of votes in the initial term. -/
theorem commit
    (invariant : Invariant xact cluster)
    (running : cluster.backend = true)
    (precommitted : cluster.precommitted = true)
    (enough : Quorum xact.gen.configured.card
      (cluster.precommitVoters xact).card) :
    Invariant xact (effect xact cluster .commit) := by
  obtain ⟨pending, _⟩ := invariant.coordinator.backend running
  have genuine := invariant.replication.prepared _ xact pending.1
  obtain ⟨donors, announced⟩ := genuine.announced
  have configured :=
    invariant.replication.election.announced_configured announced
  refine invariant.finish xact.coordinator true false pending (by simp)
    (fun _ => Or.inl) ?_
  refine ⟨initialGTxTerm, cluster.precommitVoters xact, ?_, ?_⟩
  · rw [configured, Finset.card_univ] at enough
    exact enough
  · intro voter isVoter
    rcases Finset.mem_insert.mp isVoter with isCoordinator | isPeer
    · rw [isCoordinator]
      exact invariant.coordinator.precommitted precommitted
    · have replied := (Finset.mem_inter.mp isPeer).1
      exact invariant.coordinator.precommits voter
        (List.mem_toFinset.mp replied)

/-- `mtm_commit_cleanup`. -/
theorem cleanup
    (invariant : Invariant xact cluster)
    (running : cluster.backend = true) :
    Invariant xact (effect xact cluster .cleanup) := by
  obtain ⟨pending, _⟩ := invariant.coordinator.backend running
  simp only [effect]
  split
  · next unvoted =>
      refine invariant.finish xact.coordinator false false pending (by simp)
        (fun _ => Or.inl) ?_
      refine Or.inr ⟨invariant.uncommitted_of_unvoted unvoted,
        Or.inr ⟨?_, rfl⟩⟩
      exact (prefix_log _ _ _ _).subset pending.1
  · have continues : Continues xact cluster
        { cluster with backend := false } :=
      ⟨Grows.refl _, fun _ => id, fun doomed =>
        doomed.mono (Grows.refl _) id fun _ _ => rfl⟩
    exact {
      replication := invariant.replication
      retention := invariant.retention
      replier := invariant.replier
      requests := invariant.requests
      voting := invariant.voting
      prepared := invariant.prepared
      fresh := invariant.fresh
      asked := invariant.asked
      coordinator := invariant.coordinator.step continues id (by simp) rfl
        fun _ => Or.inl
      outcomes := invariant.outcomes.step continues Or.inl
        (fun _ _ => Or.inl) (fun _ => Or.inl) (fun _ => Or.inl) }

/-- `finish_ready` collects only doomed transactions. -/
theorem collectReady
    (invariant : Invariant xact cluster)
    (free : cluster.Free xact xact.coordinator)
    (unvoted : (cluster.voting.gtx xact.coordinator).state.status =
      .invalid) :
    Invariant xact (effect xact cluster .collectReady) := by
  have continues : Continues xact cluster
      (effect xact cluster .collectReady) :=
    ⟨Grows.refl _, fun _ => id, fun doomed =>
      doomed.mono (Grows.refl _) id fun _ => id⟩
  have doomed : Doomed xact (effect xact cluster .collectReady) := by
    refine ⟨invariant.uncommitted_of_unvoted ?_, Or.inr ⟨free.prepared, ?_⟩⟩
    · rcases (invariant.voting.gtx xact.coordinator).own.cast with
        ⟨isInvalid, _⟩ | ⟨value, _, isStatus⟩
      · exact isInvalid
      · rw [unvoted] at isStatus
        exact absurd isStatus.symm (voteStatus_ne_invalid value)
    · by_contra running
      rw [Bool.not_eq_false] at running
      exact free.2 ⟨rfl, running⟩
  exact {
    replication := invariant.replication
    retention := invariant.retention
    replier := invariant.replier
    requests := invariant.requests
    voting := invariant.voting
    prepared := invariant.prepared
    fresh := invariant.fresh
    asked := invariant.asked
    coordinator := invariant.coordinator.step continues id
      invariant.coordinator.backend rfl fun _ => Or.inl
    outcomes := invariant.outcomes.step continues (fun _ => Or.inr doomed)
      (fun _ _ => Or.inl) (fun _ => Or.inl) (fun _ => Or.inl) }

/-- A peer that applies the precommit votes like the coordinator. -/
theorem applyPhase2a
    (invariant : Invariant xact cluster)
    (precommitted : cluster.precommitted = true)
    (free : cluster.Free xact me) :
    Invariant xact (effect xact cluster (.applyPhase2a me)) := by
  simp only [effect]
  split
  · next allowed =>
      have routine : Routine me cluster.voting
          (cluster.voting.vote me initialGTxTerm true) :=
        Routine.vote fun _ =>
          ⟨_, invariant.coordinator.precommitted precommitted, rfl⟩
      have voted := invariant.voteOnly routine
        (invariant.voting.precommit allowed) (Or.inl free)
        (fun _ => Or.inl) rfl
      have continues : Continues xact
          { cluster with
            voting := cluster.voting.vote me initialGTxTerm true }
          { cluster with
            voting := cluster.voting.vote me initialGTxTerm true
            precommits := me :: cluster.precommits } :=
        ⟨Grows.refl _, fun _ => id, fun doomed =>
          doomed.mono (Grows.refl _) id fun _ => id⟩
      exact {
        replication := voted.replication
        retention := voted.retention
        replier := voted.replier
        requests := voted.requests
        voting := voted.voting
        prepared := voted.prepared
        fresh := voted.fresh
        asked := voted.asked
        coordinator := by
          refine voted.coordinator.step continues id
            voted.coordinator.backend rfl fun voter isVoter => ?_
          rcases List.mem_cons.mp isVoter with isNew | isOld
          · rw [isNew]
            exact Or.inr List.mem_cons_self
          · exact Or.inl isOld
        outcomes := voted.outcomes.step continues Or.inl
          (fun _ _ => Or.inl) (fun _ => Or.inl) (fun _ => Or.inl) }
  · exact invariant

/-! ## Replication -/

/-- Replication finishes the transaction only in recovery mode, as the donor
has finished it. -/
theorem finished_replicate
    {action : Replication.Action n}
    (enabled : Replication.Enabled cluster.toCluster action)
    (permitted : Permitted xact cluster action)
    {other : Fin n} {commit : Bool}
    (isFinished : .finish xact commit ∈
      (Replication.effect cluster.toCluster action).wal other) :
    .finish xact commit ∈ cluster.wal other ∨
      (cluster.Free xact other ∧
        ∃ sender, .finish xact commit ∈ cluster.wal sender) := by
  have logged {me : Fin n} {record : Record n}
      (wal : (Replication.effect cluster.toCluster action).wal =
        (cluster.toCluster.log me record).wal) :
      .finish xact commit ∈ cluster.wal other ∨
        (other = me ∧ record = .finish xact commit) := by
    rw [wal] at isFinished
    by_cases same : other = me
    · subst same
      rw [log_wal_self, List.mem_append, List.mem_singleton] at isFinished
      exact isFinished.imp_right fun isNew => ⟨rfl, isNew.symm⟩
    · rw [log_wal_ne _ _ same] at isFinished
      exact Or.inl isFinished
  cases effect_outcome cluster.toCluster action enabled with
  | quiet wal acks recovery =>
      rw [wal] at isFinished
      exact Or.inl isFinished
  | marked me gen donors wal acks recovery =>
      exact (logged wal).imp_right fun ⟨_, isNew⟩ => by cases isNew
  | accepted me prepared isAction isNew wal acks recovery =>
      exact (logged wal).imp_right fun ⟨_, isNew⟩ => by cases isNew
  | finished me finishing outcome isAction pending wal acks recovery =>
      refine (logged wal).imp_right fun ⟨_, isNew⟩ => ?_
      cases isNew
      subst isAction
      exact absurd rfl permitted
  | recovered me running record isAction isRunning isNext canRecover wal acks
      recovery =>
      have inLog : record ∈ cluster.wal running.sender :=
        List.mem_of_getElem? isNext
      cases record with
      | parallelSafe gen donors =>
          rw [wal] at isFinished
          exact Or.inl isFinished
      | prepare prepared =>
          exact (logged wal).imp_right fun ⟨_, isNew⟩ => by cases isNew
      | finish finishing outcome =>
          refine (logged wal).imp_right fun ⟨isMe, isNew⟩ => ?_
          cases isNew
          subst isAction isMe
          refine ⟨permitted (.finish xact commit) ?_ ?_, running.sender, inLog⟩
          · exact Option.mem_def.mpr
              (Option.bind_eq_some_iff.mpr ⟨running, isRunning, isNext⟩)
          · cases commit <;> simp
  | skipped me running record isAction isRunning isNext canSkip wal acks
      recovery =>
      rw [wal] at isFinished
      exact Or.inl isFinished

/-- The backend keeps the transaction prepared, and gets it prepared when it
starts. -/
theorem pending_replicate
    (invariant : Invariant xact cluster)
    {action : Replication.Action n}
    (enabled : Replication.Enabled cluster.toCluster action)
    (permitted : Permitted xact cluster action)
    (running : cluster.backend = true ∨ action = .prepare xact) :
    Pending ((Replication.effect cluster.toCluster action).wal
      xact.coordinator) xact := by
  have grows := grows_effect cluster.toCluster action enabled
  rcases running with wasRunning | isPrepare
  · obtain ⟨pending, _⟩ := invariant.coordinator.backend wasRunning
    have unfinished (commit : Bool) : .finish xact commit ∉
        (Replication.effect cluster.toCluster action).wal
          xact.coordinator := by
      intro isFinished
      rcases finished_replicate enabled permitted isFinished with
        isOld | ⟨free, _⟩
      · cases commit with
        | true => exact pending.2.1 isOld
        | false => exact pending.2.2 isOld
      · exact free.2 ⟨rfl, wasRunning⟩
    exact ⟨(grows.wal _).subset pending.1, unfinished true, unfinished false⟩
  · subst isPrepare
    have isNew : .prepare xact ∉ cluster.wal xact.coordinator := enabled.2.2
    have unfinished (commit : Bool) : .finish xact commit ∉
        (Replication.effect cluster.toCluster (.prepare xact)).wal
          xact.coordinator := by
      intro isFinished
      rcases finished_replicate enabled permitted isFinished with
        isOld | ⟨free, _⟩
      · exact isNew (invariant.prepared _ commit isOld)
      · exact isNew free.prepared
    refine ⟨?_, unfinished true, unfinished false⟩
    simp [Replication.effect]

/-- A step of replication, with what it does to the state in shared memory. -/
theorem replicateWith
    (invariant : Invariant xact cluster)
    {action : Replication.Action n}
    (enabled : Replication.Enabled cluster.toCluster action)
    (permitted : Permitted xact cluster action)
    {voting : Voting n} {replier : Fin n → Replier n} {backend ready : Bool}
    (routine : Routine me cluster.voting voting)
    (ok : VotingOk voting)
    (promise : voting.promise me = cluster.voting.promise me)
    (asked : voting.statusRequests = cluster.voting.statusRequests)
    (responses : voting.statusResponses = cluster.voting.statusResponses)
    (repliers : ∀ other, replier other = cluster.replier other ∨
      replier other = Replier.idle n)
    (running : backend = true →
      cluster.backend = true ∨ action = .prepare xact)
    (collected : ready = true → cluster.ready = true) :
    Invariant xact
      { cluster with
        toCluster := Replication.effect cluster.toCluster action
        voting := voting
        replier := replier
        backend := backend
        ready := ready } := by
  have grows := grows_effect cluster.toCluster action enabled
  have samePromise (other : Fin n) :
      voting.promise other = cluster.voting.promise other := by
    by_cases same : other = me
    · rw [same, promise]
    · rw [Voting.promise, Voting.promise, routine.others other same]
  have continues : Continues xact cluster
      { cluster with
        toCluster := Replication.effect cluster.toCluster action
        voting := voting
        replier := replier
        backend := backend
        ready := ready } := by
    refine ⟨grows, routine.votes, fun doomed =>
      doomed.mono grows routine.commitVote ?_⟩
    intro isPrepared gone
    by_contra isRunning
    rw [Bool.not_eq_false] at isRunning
    rcases running isRunning with wasRunning | isPrepare
    · rw [wasRunning] at gone
      cases gone
    · subst isPrepare
      exact enabled.2.2 isPrepared
  exact {
    replication := invariant.replication.step action enabled
    retention := invariant.retention
    replier := by
      intro other
      change ReplierOk _ _ other (replier other)
      rcases repliers other with same | idle
      · rw [same]
        exact (invariant.replier other).mono grows (le_refl _)
      · rw [idle]
        exact replierOk_idle _ _ other
    requests := by
      intro other
      change (replier other).All (RequestOk xact voting other)
      rcases repliers other with same | idle
      · rw [same]
        exact (invariant.requests other).mono fun entry isOk =>
          ⟨isOk.1, fun sameXact => routine.requests (isOk.2 sameXact)⟩
      · rw [idle]
        exact Replier.all_idle _
    voting := ok
    prepared := by
      intro other commit isFinished
      apply (grows.wal other).subset
      rcases finished_replicate enabled permitted isFinished with
        isOld | ⟨free, _⟩
      · exact invariant.prepared other commit isOld
      · exact free.prepared
    fresh := by
      intro other unprepared
      change voting.promise other ≤ _
      rw [samePromise]
      exact invariant.fresh other fun isPrepared =>
        unprepared ((grows.wal other).subset isPrepared)
    asked := by
      intro request isRequest
      change request ∈ voting.statusRequests at isRequest
      rw [asked] at isRequest
      exact (grows.wal request.1).subset (invariant.asked request isRequest)
    coordinator := by
      refine invariant.coordinator.step continues routine.commitVote ?_ rfl
        fun _ => Or.inl
      intro isRunning
      refine ⟨invariant.pending_replicate enabled permitted
        (running isRunning), ?_⟩
      change voting.promise xact.coordinator ≤ _
      rw [samePromise]
      rcases running isRunning with wasRunning | isPrepare
      · exact (invariant.coordinator.backend wasRunning).2
      · subst isPrepare
        exact invariant.fresh _ enabled.2.2
    outcomes := by
      refine invariant.outcomes.step continues
        (fun isReady => Or.inl (collected isReady)) ?_ (fun _ => Or.inl) ?_
      · intro other commit isFinished
        refine (finished_replicate enabled permitted isFinished).imp_right ?_
        rintro ⟨_, sender, atSender⟩
        exact (invariant.outcomes.finished sender commit atSender).mono
          continues
      · intro response isResponse
        change response ∈ voting.statusResponses at isResponse
        rw [responses] at isResponse
        exact Or.inl isResponse }

/-- A step of replication. -/
theorem replicate
    (invariant : Invariant xact cluster)
    {action : Replication.Action n}
    (enabled : Replication.Enabled cluster.toCluster action)
    (permitted : Permitted xact cluster action) :
    Invariant xact (replicate xact cluster action) := by
  have plain : Invariant xact
      { cluster with
        toCluster := Replication.effect cluster.toCluster action } :=
    invariant.replicateWith enabled permitted
      (Routine.refl xact.coordinator _) invariant.voting rfl rfl rfl
      (fun _ => Or.inl rfl) Or.inl id
  cases action with
  | prepare prepared =>
      simp only [Commit.replicate]
      split
      · next same =>
          subst same
          exact invariant.replicateWith enabled permitted
            (Routine.setGtx _ prepared.coordinator _)
            (invariant.voting.orphan true) (setGtx_promise_self _ _ _) rfl
            rfl (fun _ => Or.inl rfl) (fun _ => Or.inr rfl) id
      · exact plain
  | crash crashed =>
      have repliers (other : Fin n) :
          Function.update cluster.replier crashed (Replier.idle n) other =
              cluster.replier other ∨
            Function.update cluster.replier crashed (Replier.idle n) other =
              Replier.idle n := by
        by_cases same : other = crashed
        · subst same
          exact Or.inr (Function.update_self _ _ _)
        · exact Or.inl (Function.update_of_ne same _ _)
      have still {flag : Bool}
          (both : (flag && decide (crashed ≠ xact.coordinator)) = true) :
          flag = true :=
        (Bool.and_eq_true_iff.mp both).1
      simp only [Commit.replicate]
      split
      · exact invariant.replicateWith enabled permitted
          (Routine.setGtx _ crashed _) invariant.voting.load
          (setGtx_promise_self _ _ _) rfl rfl repliers
          (fun both => Or.inl (still both)) still
      · exact invariant.replicateWith enabled permitted
          (Routine.refl crashed _) invariant.voting rfl rfl rfl repliers
          (fun both => Or.inl (still both)) still
  | election action => exact plain
  | logParallelSafe other => exact plain
  | applyPrepare other prepared => exact plain
  | finish other finished commit => exact plain
  | startRecovery other sender => exact plain
  | recover other => exact plain
  | skip other => exact plain
  | stopRecovery other => exact plain

/-! ## Retention -/

/-- Retention alone changes. -/
theorem retain
    (invariant : Invariant xact cluster)
    {retention : Retention n} (ok : RetentionOk retention)
    (further : ∀ other, cluster.retention.recycled other ≤
      retention.recycled other) :
    Invariant xact { cluster with retention := retention } := by
  have continues : Continues xact cluster
      { cluster with retention := retention } :=
    ⟨Grows.refl _, fun _ => id, fun doomed =>
      doomed.mono (Grows.refl _) id fun _ => id⟩
  exact {
    replication := invariant.replication
    retention := ok
    replier := fun other =>
      (invariant.replier other).mono (Grows.refl _) (further other)
    requests := invariant.requests
    voting := invariant.voting
    prepared := invariant.prepared
    fresh := invariant.fresh
    asked := invariant.asked
    coordinator := invariant.coordinator.step continues id
      invariant.coordinator.backend rfl fun _ => Or.inl
    outcomes := invariant.outcomes.step continues Or.inl (fun _ _ => Or.inl)
      (fun _ => Or.inl) (fun _ => Or.inl) }

/-! ## Resolvers -/

/-- `handle_2a`, for a transaction that is there or not. -/
theorem handle2a
    (invariant : Invariant xact cluster)
    {request : AcceptRequest n}
    (isRequest : request ∈ cluster.voting.acceptRequests)
    (elsewhere : request.requester ≠ me) :
    Invariant xact (effect xact cluster (.handle2a me request)) := by
  simp only [effect]
  split
  · next free =>
      refine invariant.voteOnly (Routine.handle2a invariant.voting isRequest)
        (invariant.voting.handle2a isRequest elsewhere) (Or.inl free) ?_ ?_
      · intro asked isAsked
        unfold Commit.handle2a at isAsked
        split at isAsked
        · exact Or.inl isAsked
        · exact Or.inl isAsked
      · unfold Commit.handle2a
        split <;> rfl
  · have routine : Routine me cluster.voting
        (refuse2a cluster.voting me request) :=
      ⟨fun _ _ => rfl, fun _ => id, id, fun _ => id⟩
    exact invariant.voteOnly routine (invariant.voting.refuse2a elsewhere)
      (Or.inr rfl) (fun _ => Or.inl) rfl

/-- `handle_response` to a status response. -/
theorem handleStatusResponse
    (invariant : Invariant xact cluster)
    {response : StatusResponse n}
    (isResponse : response ∈ cluster.voting.statusResponses)
    (mine : response.requester = me)
    (free : cluster.Free xact me)
    (isStage : (cluster.voting.gtx me).resolverStage = .awaitStatus) :
    Invariant xact (handleStatusResponse xact cluster me response) := by
  have isOk := invariant.outcomes.responses response isResponse
  unfold Commit.handleStatusResponse
  split
  · next isCommitted =>
      exact invariant.finishFree free (isOk.committed isCommitted)
  · next isAborted =>
      refine invariant.finishFree free ?_
      refine (isOk.aborted isAborted).resolve_right ?_
      rintro ⟨commit, isFinished⟩
      rw [mine] at isFinished
      cases commit with
      | true => exact free.1.2.1 isFinished
      | false => exact free.1.2.2 isFinished
  · refine invariant.voteOnly
      (Routine.handleStatus invariant.voting isResponse mine)
      (invariant.voting.handleStatus isResponse mine isStage) (Or.inl free)
      ?_ ?_
    · intro asked isAsked
      unfold Commit.handleStatus at isAsked
      split at isAsked
      · exact Or.inl isAsked
      · exact Or.inl isAsked
    · unfold Commit.handleStatus
      split <;> rfl

/-- `handle_response` to a 2a response. -/
theorem handleAcceptResponse
    (invariant : Invariant xact cluster)
    {response : AcceptResponse n}
    (isResponse : response ∈ cluster.voting.acceptResponses)
    (mine : response.requester = me)
    (free : cluster.Free xact me)
    (isStage : (cluster.voting.gtx me).resolverStage = .awaitAcks) :
    Invariant xact (handleAcceptResponse xact cluster me response) := by
  unfold Commit.handleAcceptResponse
  split
  · split
    · next isQuorum =>
        have chosen := invariant.voting.chosen_of_quorum isResponse mine
          isStage isQuorum
        have decided : Decided xact cluster
            (decide (response.status = .preCommitted)) := by
          generalize decide (response.status = .preCommitted) = commit
            at chosen ⊢
          cases commit with
          | true => exact ⟨_, chosen⟩
          | false => exact Or.inl ⟨_, chosen⟩
        refine invariant.finish me _ cluster.backend free.1
          (fun running => ⟨running, free.ne_coordinator running⟩) ?_
          (decided.mono (continues_finish me _ id))
        intro other isRequest
        rcases List.mem_cons.mp isRequest with isNew | isOld
        · exact Or.inr isNew
        · exact Or.inl isOld
    · next noQuorum =>
        exact invariant.voteOnly (Routine.setGtx _ me _)
          (invariant.voting.recordAccept isResponse mine isStage noQuorum)
          (Or.inl free) (fun _ => Or.inl) rfl
  · exact invariant

/-- Every permitted action keeps the invariant. -/
theorem step
    (invariant : Invariant xact cluster) (action : Action n)
    (enabled : Enabled xact cluster action)
    (permitted : AbortsUncommitted xact cluster action) :
    Invariant xact (effect xact cluster action) := by
  cases action with
  | replicate action => exact invariant.replicate enabled.1 enabled.2
  | confirm sender receiver position =>
      exact invariant.retain (invariant.retention.confirm enabled)
        fun _ => le_refl _
  | recycle me position =>
      refine invariant.retain (invariant.retention.recycle enabled) ?_
      intro other
      simp only [Retention.recycle, Function.update_apply]
      split
      · next same =>
          subst same
          exact enabled.1
      · exact le_refl _
  | precommit => exact invariant.precommit enabled.1 enabled.2.2
  | commit => exact invariant.commit enabled.1 enabled.2.1 enabled.2.2
  | cleanup => exact invariant.cleanup enabled
  | applyPhase2a me => exact invariant.applyPhase2a enabled.1 enabled.2
  | applyFinish me sender commit =>
      exact invariant.finishFree enabled.2
        (invariant.outcomes.finished sender commit enabled.1)
  | markOrphaned me =>
      exact invariant.voteOnly (Routine.setGtx _ me _)
        (invariant.voting.orphan true) (Or.inr (setGtx_promise_self _ _ _))
        (fun _ => Or.inl) rfl
  | collectReady => exact invariant.collectReady enabled.1 enabled.2.2
  | finishReady =>
      exact invariant.finishFree enabled.2
        (Or.inr (invariant.outcomes.ready enabled.1))
  | scatter me ballot =>
      obtain ⟨free, _, higher⟩ := enabled
      refine invariant.voteOnly (Routine.scatter _ me _)
        (invariant.voting.scatter rfl higher) (Or.inl free) ?_ rfl
      intro request isRequest
      rcases List.mem_cons.mp isRequest with isNew | isOld
      · rw [isNew]
        exact Or.inr free.prepared
      · exact Or.inl isOld
  | reply me action => exact invariant.reply enabled.1 enabled.2 permitted
  | handle2a me request => exact invariant.handle2a enabled.1 enabled.2
  | handleFinish me commit =>
      exact invariant.finishFree enabled.2
        (invariant.outcomes.finishRequests commit enabled.1)
  | handleStatus me response =>
      exact invariant.handleStatusResponse enabled.1 enabled.2.1
        enabled.2.2.1 enabled.2.2.2
  | handleAccept me response =>
      exact invariant.handleAcceptResponse enabled.1 enabled.2.1
        enabled.2.2.1 enabled.2.2.2

end Invariant

theorem invariant_init (xact : Xact n) : Invariant xact (machine xact).init where
  replication := Replication.invariant_initialCluster n
  retention := fun _ _ _ => le_refl _
  replier := fun me => replierOk_idle _ _ me
  requests := fun _ => Replier.all_idle _
  voting := votingOk_initial n
  prepared := fun _ _ isFinished => by cases isFinished
  fresh := fun _ _ => le_refl _
  asked := fun _ isRequest => by cases isRequest
  coordinator := {
    justified := fun ⟨_, isVote, _⟩ => by cases isVote
    backend := fun running => by cases running
    precommitted := fun isPrecommit => by cases isPrecommit
    precommits := fun _ isVoter => by cases isVoter }
  outcomes := {
    ready := fun isReady => by cases isReady
    finished := fun _ _ isFinished => by cases isFinished
    finishRequests := fun _ isRequest => by cases isRequest
    responses := fun _ isResponse => by cases isResponse }

/-- In a run in which no direct abort is answered for a transaction that the
answering node has committed while the requester has it prepared, no node
commits a transaction that another node aborts. -/
theorem outcome_agreement
    {cluster : Cluster n}
    (reachable : (machine xact).Reachable (AbortsUncommitted xact) cluster) :
    ∀ committer aborter, .finish xact true ∈ cluster.wal committer →
      .finish xact false ∉ cluster.wal aborter := by
  have invariant : Invariant xact cluster := by
    refine Machine.Reachable.invariant (invariant_init xact) ?_ reachable
    intro current action invariant enabled permitted
    exact invariant.step action enabled permitted
  intro committer aborter isCommitted isAborted
  exact invariant.not_decided_both
    (invariant.outcomes.finished committer true isCommitted)
    (invariant.outcomes.finished aborter false isAborted)

/-! ## Runs with and without agreement -/

/-- The transaction is prepared everywhere and precommitted by nodes 0
and 1. -/
def precommitOnTwo : List (Action 3) :=
  [.replicate (.logParallelSafe 0), .replicate (.logParallelSafe 1),
    .replicate (.logParallelSafe 2), .replicate (.prepare Clog.firstXact),
    .replicate (.applyPrepare 1 Clog.firstXact),
    .replicate (.applyPrepare 2 Clog.firstXact),
    .precommit, .applyPhase2a 1]

/-- The coordinator crashes after its precommit.  Node 1 resolves the
transaction with the votes of node 2 and tells it the outcome. -/
def resolveWithoutCoordinator : List (Action 3) :=
  let request : StatusRequest 3 :=
    { requester := 1
      term := { ballot := 2, nodeId := 2 }
      xact := Clog.firstXact }
  precommitOnTwo ++
  [Action.replicate (.crash 0), .markOrphaned 1, .scatter 1 2,
    .reply 2 (.start [request]), .reply 2 (.pick request),
    .handleStatus 1
      { responder := 2
        requester := 1
        state :=
          { proposal := { ballot := 2, nodeId := 2 }
            accepted := invalidGTxTerm
            status := .invalid } },
    .handle2a 2
      { requester := 1
        term := { ballot := 2, nodeId := 2 }
        precommit := true },
    .handleAccept 1
      { responder := 2
        requester := 1
        acceptedTerm := { ballot := 2, nodeId := 2 }
        status := .preCommitted },
    .handleFinish 2 true]

theorem resolveWithoutCoordinator_completes :
    ((machine Clog.firstXact).execute (AbortsUncommitted Clog.firstXact)
      (machine Clog.firstXact).init resolveWithoutCoordinator).isSome =
      true := by
  decide +kernel

theorem outcome_agreement_resolveWithoutCoordinator :
    let cluster := ((machine Clog.firstXact).execute
      (AbortsUncommitted Clog.firstXact) (machine Clog.firstXact).init
      resolveWithoutCoordinator).get resolveWithoutCoordinator_completes
    .finish Clog.firstXact true ∈ cluster.wal 1 ∧
      .finish Clog.firstXact true ∈ cluster.wal 2 ∧
      ∀ aborter, .finish Clog.firstXact false ∉ cluster.wal aborter := by
  intro cluster
  have isCommitted : .finish Clog.firstXact true ∈ cluster.wal 1 := by
    decide +kernel
  refine ⟨isCommitted, by decide +kernel, fun aborter => ?_⟩
  exact outcome_agreement (Machine.reachable_of_execute
    resolveWithoutCoordinator resolveWithoutCoordinator_completes) 1 aborter
    isCommitted

/-- The coordinator commits.  Node 1 recycles the `PREPARE` and gets online in
generation 2, without node 2, which asks it about two transactions.  Node 1
scans its WAL for the other one, commits the transaction as the coordinator did,
and only then comes to the request for it. -/
def abortOfCommitted : List (Action 3) :=
  precommitOnTwo ++
  [Action.commit, .confirm 1 0 2, .confirm 1 2 2, .recycle 1 2] ++
  (Election.excludeNodeTwo.map fun action =>
    Action.replicate (.election action)) ++
  [Action.markOrphaned 2, .scatter 2 2,
    .reply 1 (.start [requestOfTwo lonelyXact,
      requestOfTwo Clog.firstXact]),
    .reply 1 (.pick (requestOfTwo lonelyXact)), .reply 1 .read,
    .reply 1 .scan, .reply 1 .conclude, .applyFinish 1 0 true,
    .reply 1 (.pick (requestOfTwo Clog.firstXact)), .reply 1 .conclude,
    .handleStatus 2
      { responder := 1, requester := 2, state := outcomeState .aborted }]

theorem abortOfCommitted_completes :
    ((machine Clog.firstXact).execute Machine.Always
      (machine Clog.firstXact).init abortOfCommitted).isSome = true := by
  decide +kernel

/-- A reachable cluster in which two nodes have committed a transaction that the
third one has aborted. -/
theorem outcome_disagreement :
    ∃ cluster, (machine Clog.firstXact).Reachable Machine.Always cluster ∧
      .finish Clog.firstXact true ∈ cluster.wal 0 ∧
      .finish Clog.firstXact true ∈ cluster.wal 1 ∧
      .finish Clog.firstXact false ∈ cluster.wal 2 := by
  refine ⟨_, Machine.reachable_of_execute abortOfCommitted
    abortOfCommitted_completes, ?_⟩
  decide +kernel

end Commit
end Multimaster
