import Multimaster.Commit.Invariant

/-!
# Steps of the commit protocol

Every action keeps the invariant.  The steps fall into three kinds: replication,
steps that only vote, and steps that finish the transaction.
-/

namespace Multimaster
namespace Commit

open Generation Replication Gtx Status

/-! ## Steps that only vote -/

/-- A step of voting by one node that is not the first vote for commit. -/
structure Routine (me : Fin n) (before after : Voting n) : Prop where
  others : ∀ other, other ≠ me → after.gtx other = before.gtx other
  votes : before.votes ⊆ after.votes
  commitVote : after.CommitVote → before.CommitVote
  requests : before.statusRequests ⊆ after.statusRequests

namespace Routine

variable {me : Fin n}

theorem refl (me : Fin n) (voting : Voting n) : Routine me voting voting :=
  ⟨fun _ _ => rfl, fun _ => id, id, fun _ => id⟩

theorem trans
    {first middle last : Voting n}
    (left : Routine me first middle) (right : Routine me middle last) :
    Routine me first last where
  others := fun other different =>
    (right.others other different).trans (left.others other different)
  votes := List.Subset.trans left.votes right.votes
  commitVote := fun later => left.commitVote (right.commitVote later)
  requests := List.Subset.trans left.requests right.requests

theorem setGtx (voting : Voting n) (me : Fin n) (gtx : GlobalTx n) :
    Routine me voting (voting.setGtx me gtx) :=
  ⟨fun _ => setGtx_gtx_ne voting gtx, fun _ => id, id, fun _ => id⟩

theorem vote
    {voting : Voting n} {term : GlobalTxTerm} {value : Bool}
    (follows : value = true → voting.CommitVote) :
    Routine me voting (voting.vote me term value) where
  others := fun _ => setGtx_gtx_ne voting _
  votes := List.subset_cons_self _ _
  commitVote := by
    rintro ⟨vote, isVote, isCommit⟩
    rcases List.mem_cons.mp isVote with isNew | isOld
    · rw [isNew] at isCommit
      exact follows isCommit
    · exact ⟨vote, isOld, isCommit⟩
  requests := fun _ => id

theorem handle1aGtx
    (voting : Voting n) (me requester : Fin n) (term : GlobalTxTerm) :
    Routine me voting (handle1aGtx voting me requester term) := by
  unfold Commit.handle1aGtx
  split
  · have joined := setGtx voting me ((voting.gtx me).join term)
    exact ⟨joined.others, joined.votes, joined.commitVote,
      joined.requests⟩
  · exact ⟨fun _ _ => rfl, fun _ => id, id, fun _ => id⟩

theorem handle2a
    {voting : Voting n} (ok : VotingOk voting)
    {request : AcceptRequest n}
    (isRequest : request ∈ voting.acceptRequests) :
    Routine me voting (handle2a voting me request) := by
  unfold Commit.handle2a
  split
  · have voted : Routine me voting
        (voting.vote me request.term request.precommit) :=
      vote fun isCommit =>
        ⟨_, (ok.acceptRequests request isRequest).2, isCommit⟩
    exact ⟨voted.others, voted.votes, voted.commitVote, voted.requests⟩
  · exact ⟨fun _ _ => rfl, fun _ => id, id, fun _ => id⟩

theorem scatter (voting : Voting n) (me : Fin n) (term : GlobalTxTerm) :
    Routine me voting (scatter voting me term) :=
  ⟨fun _ => setGtx_gtx_ne voting _, fun _ => id, id,
    List.subset_cons_self _ _⟩

theorem propose
    {voting : Voting n} {acks : Fin n → GTxState}
    (follows : decide (decision (maxAccepted
        (voting.gtx me).state.accepted acks) acks = .preCommitted) = true →
      voting.CommitVote) :
    Routine me voting (propose voting me acks) := by
  have voted : Routine me voting
      (voting.vote me (voting.gtx me).state.proposal _) := vote follows
  refine ⟨fun other different => ?_, voted.votes, voted.commitVote,
    voted.requests⟩
  exact (setGtx_gtx_ne _ _ different).trans (voted.others other different)

theorem handleStatus
    {voting : Voting n} (ok : VotingOk voting)
    {response : StatusResponse n}
    (isResponse : response ∈ voting.statusResponses)
    (mine : response.requester = me) :
    Routine me voting (handleStatus voting me response) := by
  have recorded : Routine me voting (recordStatus voting me response) :=
    setGtx voting me _
  unfold Commit.handleStatus
  split
  · next isQuorum =>
      have acksOk := ok.acksOk_recordStatus isResponse mine
      have follows := ((ok.recordStatus isResponse mine).decided acksOk
        isQuorum rfl).2.2
      exact recorded.trans (propose follows)
  · exact recorded

end Routine

variable {xact : Xact n}

namespace Cluster.Free

variable {cluster : Cluster n} {me : Fin n}

theorem prepared (free : cluster.Free xact me) :
    .prepare xact ∈ cluster.wal me :=
  free.1.1

theorem ne_coordinator
    (free : cluster.Free xact me) (backend : cluster.backend = true) :
    xact.coordinator ≠ me :=
  fun same => free.2 ⟨same.symm, backend⟩

end Cluster.Free

/-- A response without an outcome. -/
theorem responseOk_of_undecided
    {cluster : Cluster n} {response : StatusResponse n}
    (notCommitted : response.state.status ≠ .committed)
    (notAborted : response.state.status ≠ .aborted) :
    ResponseOk xact cluster response :=
  ⟨fun isCommitted => absurd isCommitted notCommitted,
    fun isAborted => absurd isAborted notAborted⟩

/-- States of voters have no outcome. -/
theorem Reported.undecided
    {voting : Voting n} {node : Fin n} {state : GTxState}
    (reported : Reported voting node state) :
    state.status ≠ .committed ∧ state.status ≠ .aborted := by
  rcases reported.cast with ⟨_, isInvalid⟩ | ⟨value, _, isStatus⟩
  · simp [isInvalid]
  · rw [isStatus]
    cases value <;> simp [voteStatus]

namespace Invariant

variable {cluster : Cluster n} {me : Fin n}

theorem continues_voting
    {voting : Voting n} {replier : Fin n → Replier n}
    (routine : Routine me cluster.voting voting) :
    Continues xact cluster
      { cluster with voting := voting, replier := replier } where
  grows := Grows.refl _
  votes := routine.votes
  doomed := fun doomed =>
    doomed.mono (Grows.refl _) routine.commitVote fun _ => id

/-- A step of voting by a node that has the transaction, or that changes
nothing of its own. -/
theorem vote
    (invariant : Invariant xact cluster)
    {voting : Voting n} {replier : Fin n → Replier n}
    (routine : Routine me cluster.voting voting)
    (ok : VotingOk voting)
    (mine : cluster.Free xact me ∨
      voting.promise me = cluster.voting.promise me)
    (asked : ∀ request ∈ voting.statusRequests,
      request ∈ cluster.voting.statusRequests ∨
        .prepare xact ∈ cluster.wal request.1)
    (responses : ∀ response ∈ voting.statusResponses,
      response ∈ cluster.voting.statusResponses ∨
        ResponseOk xact cluster response)
    (replierOk : ∀ other, ReplierOk cluster.toCluster cluster.retention other
      (replier other))
    (requests : ∀ other, (replier other).All
      (RequestOk xact cluster.voting other)) :
    Invariant xact
      { cluster with voting := voting, replier := replier } := by
  have continues : Continues xact cluster
      { cluster with voting := voting, replier := replier } :=
    continues_voting routine
  have promise (other : Fin n) (kept : other ≠ me ∨
      voting.promise me = cluster.voting.promise me) :
      voting.promise other = cluster.voting.promise other := by
    by_cases same : other = me
    · subst same
      exact kept.resolve_left (fun different => different rfl)
    · rw [Voting.promise, Voting.promise, routine.others other same]
  exact {
    replication := invariant.replication
    retention := invariant.retention
    replier := replierOk
    requests := fun other => (requests other).mono fun entry isOk =>
      ⟨isOk.1, fun same => routine.requests (isOk.2 same)⟩
    voting := ok
    prepared := invariant.prepared
    fresh := by
      intro other unprepared
      rw [promise other]
      · exact invariant.fresh other unprepared
      · refine mine.imp_left fun free same => ?_
        rw [same] at unprepared
        exact unprepared free.prepared
    asked := fun request isRequest =>
      (asked request isRequest).elim (invariant.asked request) id
    coordinator := by
      refine invariant.coordinator.step continues routine.commitVote ?_ rfl
        fun _ => Or.inl
      intro backend
      obtain ⟨pending, reached⟩ := invariant.coordinator.backend backend
      refine ⟨pending, ?_⟩
      rw [promise]
      · exact reached
      · exact mine.imp_left fun free => free.ne_coordinator backend
    outcomes := by
      refine invariant.outcomes.step continues Or.inl (fun _ _ => Or.inl)
        (fun _ => Or.inl) fun response isResponse => ?_
      exact (responses response isResponse).imp_right
        fun isOk => isOk.mono continues }

/-- A step of voting that leaves the repliers alone. -/
theorem voteOnly
    (invariant : Invariant xact cluster)
    {voting : Voting n}
    (routine : Routine me cluster.voting voting)
    (ok : VotingOk voting)
    (mine : cluster.Free xact me ∨
      voting.promise me = cluster.voting.promise me)
    (asked : ∀ request ∈ voting.statusRequests,
      request ∈ cluster.voting.statusRequests ∨
        .prepare xact ∈ cluster.wal request.1)
    (responses : voting.statusResponses = cluster.voting.statusResponses) :
    Invariant xact { cluster with voting := voting } :=
  invariant.vote routine ok mine asked
    (fun _ isResponse => Or.inl (responses ▸ isResponse))
    invariant.replier invariant.requests

/-! ## Answers of a replier -/

/-- An answer by `handle_1a_gtx` has no outcome. -/
theorem responses_handle1aGtx
    (invariant : Invariant xact cluster)
    (requester : Fin n) (term : GlobalTxTerm) :
    ∀ response ∈
      (handle1aGtx cluster.voting me requester term).statusResponses,
      response ∈ cluster.voting.statusResponses ∨
        ResponseOk xact cluster response := by
  intro response isResponse
  unfold Commit.handle1aGtx at isResponse
  split at isResponse
  · rcases List.mem_cons.mp isResponse with isNew | isOld
    · obtain ⟨notCommitted, notAborted⟩ :=
        (invariant.voting.gtx me).own.undecided
      rw [isNew]
      exact Or.inr (responseOk_of_undecided notCommitted notAborted)
    · exact Or.inl isOld
  · rcases List.mem_cons.mp isResponse with isNew | isOld
    · rw [isNew]
      exact Or.inr (responseOk_of_undecided (by simp [GTxState.empty])
        (by simp [GTxState.empty]))
    · exact Or.inl isOld

theorem asked_handle1aGtx
    (voting : Voting n) (me requester : Fin n) (term : GlobalTxTerm) :
    (handle1aGtx voting me requester term).statusRequests =
      voting.statusRequests := by
  unfold Commit.handle1aGtx
  split <;> rfl

/-- A transaction that was asked for and is not viable is aborted. -/
theorem decided_of_not_viable
    (invariant : Invariant xact cluster)
    {requester : Fin n} (isPrepared : .prepare xact ∈ cluster.wal requester)
    (notViable : ¬ Viable cluster.toCluster xact) :
    Decided xact cluster false := by
  by_cases aborted : ∃ other, .finish xact false ∈ cluster.wal other
  · obtain ⟨other, isFinished⟩ := aborted
    exact invariant.outcomes.finished other false isFinished
  · obtain ⟨member, isMember, never⟩ : ∃ member ∈ xact.gen.members,
        ¬ cluster.toCluster.Ackable member xact := by
      by_contra noMember
      have allAckable : ∀ member ∈ xact.gen.members,
          cluster.toCluster.Ackable member xact := by
        intro member isMember
        by_contra never
        exact noMember ⟨member, isMember, never⟩
      exact notViable {
        majority :=
          (invariant.replication.prepared requester xact isPrepared).majority
        generation := invariant.replication.generation_unique isPrepared
        ackable := allAckable
        notAborted := not_exists.mp aborted }
    refine Or.inr ⟨fun commitVote => never (Or.inl ?_),
      Or.inl ⟨member, isMember, never⟩⟩
    exact (invariant.coordinator.justified commitVote).2 member isMember

/-- The direct abort has its reason, unless it is given for a transaction that
the node has committed. -/
theorem decided_of_directAbort
    (invariant : Invariant xact cluster)
    {requester : Fin n} (isPrepared : .prepare xact ∈ cluster.wal requester)
    {scan : Scan n}
    (isScan : (cluster.replier me).scan = some scan)
    (isDirect : Status.verdict scan xact
      (decide (Pending (cluster.wal me) xact)) = .directAbort)
    (uncommitted : .finish xact true ∉ cluster.wal me) :
    Decided xact cluster false := by
  have scanOk := (invariant.replier me).scan scan isScan
  rw [verdict_eq_directAbort] at isDirect
  obtain ⟨_, notPending, _, earlier⟩ := isDirect
  rw [decide_eq_false_iff_not] at notPending
  apply invariant.decided_of_not_viable isPrepared
  intro viable
  apply notPending
  exact ⟨scanOk.past.subset (scanOk.viable xact viable earlier), uncommitted,
    viable.notAborted me⟩

theorem verdict_eq_some
    {request : StatusRequest n} {verdict : Verdict}
    (given : cluster.verdict xact me = some (request, verdict)) :
    ∃ scan, (cluster.replier me).handling = some request ∧
      (cluster.replier me).scan = some scan ∧ request.xact = xact ∧
      Status.verdict scan xact (decide (Pending (cluster.wal me) xact)) =
        verdict := by
  obtain ⟨⟨handled, scan⟩, concluding, isGiven⟩ :=
    Option.bind_eq_some_iff.mp given
  obtain ⟨isHandled, isScan⟩ := Replier.concluding_eq_some.mp concluding
  simp only at isGiven
  split at isGiven
  · next same =>
      cases isGiven
      exact ⟨scan, isHandled, isScan, same, rfl⟩
  · cases isGiven

/-- The answer at the end of `handle_1a`. -/
structure Answer
    (xact : Xact n) (cluster : Cluster n) (me : Fin n) (voting : Voting n) :
    Prop where
  routine : Routine me cluster.voting voting
  ok : VotingOk voting
  mine : cluster.Free xact me ∨
    voting.promise me = cluster.voting.promise me
  asked : voting.statusRequests = cluster.voting.statusRequests
  responses : ∀ response ∈ voting.statusResponses,
    response ∈ cluster.voting.statusResponses ∨
      ResponseOk xact cluster response

/-- Nothing is answered about the transaction. -/
theorem answer_nothing (invariant : Invariant xact cluster) :
    Answer xact cluster me cluster.voting :=
  ⟨Routine.refl me _, invariant.voting, Or.inr rfl, rfl, fun _ => Or.inl⟩

/-- An outcome or the lack of it is answered. -/
theorem answer_respond
    (invariant : Invariant xact cluster)
    {requester : Fin n} (elsewhere : requester ≠ me)
    {state : GTxState} (empty : state.proposal = invalidGTxTerm)
    (isOk : ResponseOk xact cluster ⟨me, requester, state⟩) :
    Answer xact cluster me
      (cluster.voting.respond me requester state) where
  routine := ⟨fun _ _ => rfl, fun _ => id, id, fun _ => id⟩
  ok := invariant.voting.respond elsewhere empty
  mine := Or.inr rfl
  asked := rfl
  responses := by
    intro response isResponse
    rcases List.mem_cons.mp isResponse with isNew | isOld
    · rw [isNew]
      exact Or.inr isOk
    · exact Or.inl isOld

theorem answer_handle1aGtx
    (invariant : Invariant xact cluster)
    {requester : Fin n} {term : GlobalTxTerm} (elsewhere : requester ≠ me)
    (isRequest : (requester, term) ∈ cluster.voting.statusRequests)
    (free : cluster.Free xact me) :
    Answer xact cluster me
      (handle1aGtx cluster.voting me requester term) where
  routine := Routine.handle1aGtx _ _ _ _
  ok := invariant.voting.handle1aGtx elsewhere isRequest
  mine := Or.inl free
  asked := asked_handle1aGtx _ _ _ _
  responses := invariant.responses_handle1aGtx requester term

theorem answer_fastCheck
    (invariant : Invariant xact cluster)
    {request : StatusRequest n}
    (isEntry : request ∈ (cluster.replier me).entries) :
    Answer xact cluster me (fastCheck xact cluster me request) := by
  obtain ⟨elsewhere, isRequest⟩ := (invariant.requests me).1 request isEntry
  unfold fastCheck
  split
  · next found =>
      split
      · next free =>
          exact invariant.answer_handle1aGtx elsewhere
            (isRequest found.1) free
      · exact invariant.answer_respond elsewhere rfl
          (responseOk_of_undecided (by simp [GTxState.empty])
            (by simp [GTxState.empty]))
  · exact invariant.answer_nothing

theorem answer_conclude
    (invariant : Invariant xact cluster)
    (locked : Pending (cluster.wal me) xact → cluster.Free xact me)
    (permitted : AbortsUncommitted xact cluster (.reply me .conclude))
    {request : StatusRequest n} {verdict : Verdict}
    (given : cluster.verdict xact me = some (request, verdict)) :
    Answer xact cluster me
      (conclude cluster.voting me request verdict) := by
  obtain ⟨scan, isHandled, isScan, same, isVerdict⟩ := verdict_eq_some given
  obtain ⟨elsewhere, isRequest⟩ :=
    (invariant.requests me).2 request isHandled
  have asked := invariant.asked _ (isRequest same)
  have scanOk := (invariant.replier me).scan scan isScan
  -- the outcome in the log has its reason
  have decided {commit : Bool} (isFinished : verdict = .finished commit) :
      Decided xact cluster commit := by
    rw [← isVerdict] at isFinished
    have inScan := Scan.mem_of_outcome (outcome_of_verdict isFinished)
    exact invariant.outcomes.finished me commit
      (scanOk.past.subset (List.mem_of_mem_drop inScan))
  cases verdict with
  | finished commit =>
      cases commit with
      | true =>
          exact invariant.answer_respond elsewhere rfl
            ⟨fun _ => decided rfl, fun isAborted => by cases isAborted⟩
      | false =>
          exact invariant.answer_respond elsewhere rfl
            ⟨fun isCommitted => (by cases isCommitted),
              fun _ => Or.inl (decided rfl)⟩
  | prepared =>
      have isPending := isPrepared_of_verdict isVerdict
      rw [decide_eq_true_iff] at isPending
      exact invariant.answer_handle1aGtx elsewhere (isRequest same)
        (locked isPending)
  | directAbort =>
      refine invariant.answer_respond elsewhere rfl
        ⟨fun isCommitted => (by cases isCommitted), fun _ => ?_⟩
      by_cases uncommitted : .finish xact true ∈ cluster.wal me
      · have notPending := permitted _ given rfl uncommitted
        exact Or.inr (finished_of_not_pending asked notPending)
      · exact Or.inl (invariant.decided_of_directAbort asked isScan
          isVerdict uncommitted)
  | unknown =>
      exact invariant.answer_respond elsewhere rfl
        (responseOk_of_undecided (by simp [GTxState.empty])
          (by simp [GTxState.empty]))

/-- A step of a replier. -/
theorem reply
    (invariant : Invariant xact cluster)
    {action : ReplierAction n}
    (enabled : (cluster.replier me).Enabled action)
    (delivered : Delivered xact cluster me action)
    (permitted : AbortsUncommitted xact cluster (.reply me action)) :
    Invariant xact (effect xact cluster (.reply me action)) := by
  have answer : Answer xact cluster me
      (votingAfter xact cluster me action) := by
    cases action with
    | start entries => exact invariant.answer_nothing
    | pick request => exact invariant.answer_fastCheck enabled.1
    | read => exact invariant.answer_nothing
    | scan => exact invariant.answer_nothing
    | conclude =>
        simp only [votingAfter]
        split
        · next request verdict given =>
            exact invariant.answer_conclude delivered permitted given
        · exact invariant.answer_nothing
  refine invariant.vote answer.routine answer.ok answer.mine ?_
    answer.responses ?_ ?_
  · rw [answer.asked]
    exact fun _ => Or.inl
  · intro other
    by_cases same : other = me
    · subst same
      rw [Function.update_self]
      exact (invariant.replier other).step invariant.replication action
    · rw [Function.update_of_ne same]
      exact invariant.replier other
  · intro other
    by_cases same : other = me
    · subst same
      rw [Function.update_self]
      refine (invariant.requests other).step enabled ?_
      rintro entries rfl
      exact delivered
    · rw [Function.update_of_ne same]
      exact invariant.requests other

end Invariant

end Commit
end Multimaster
