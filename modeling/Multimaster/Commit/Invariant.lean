import Multimaster.Commit.Defs
import Multimaster.Commit.Rounds

/-!
# Why a transaction is finished

A transaction is committed only when a majority has voted so in some term, and
aborted when a majority has voted so or when it is doomed: nobody has voted for
commit, and nobody will, because some member of its generation will never
acknowledge it or because its backend is gone without a precommit.  The two
reasons exclude each other.
-/

namespace Multimaster
namespace Commit

open Generation Replication Gtx Status

/-- Somebody has voted for commit. -/
def Voting.CommitVote (voting : Voting n) : Prop :=
  ∃ vote ∈ voting.votes, vote.value = true

variable (xact : Xact n)

/-- Nobody has voted for commit or will do so. -/
structure Doomed (cluster : Cluster n) : Prop where
  uncommitted : ¬ cluster.voting.CommitVote
  forever : (∃ member ∈ xact.gen.members,
      ¬ cluster.toCluster.Ackable member xact) ∨
    (.prepare xact ∈ cluster.wal xact.coordinator ∧
      cluster.backend = false)

/-- There is a reason to finish the transaction in this way. -/
def Decided (cluster : Cluster n) : Bool → Prop
  | true => ∃ term, Synod.Chosen cluster.voting.votes term true
  | false => (∃ term, Synod.Chosen cluster.voting.votes term false) ∨
      Doomed xact cluster

/-- What holds on the coordinator. -/
structure CoordinatorOk (cluster : Cluster n) : Prop where
  justified : cluster.voting.CommitVote →
    ⟨xact.coordinator, initialGTxTerm, true⟩ ∈ cluster.voting.votes ∧
      ∀ member ∈ xact.gen.members, (member, xact) ∈ cluster.acks
  backend : cluster.backend = true →
    Pending (cluster.wal xact.coordinator) xact ∧
      cluster.voting.promise xact.coordinator ≤ initialGTxTerm
  precommitted : cluster.precommitted = true →
    ⟨xact.coordinator, initialGTxTerm, true⟩ ∈ cluster.voting.votes
  precommits : ∀ me ∈ cluster.precommits,
    ⟨me, initialGTxTerm, true⟩ ∈ cluster.voting.votes

/-- What holds of a response with an outcome.  An abort may also be answered to
a node that has already finished the transaction. -/
structure ResponseOk
    (cluster : Cluster n) (response : StatusResponse n) : Prop where
  committed : response.state.status = .committed → Decided xact cluster true
  aborted : response.state.status = .aborted → Decided xact cluster false ∨
    ∃ commit, .finish xact commit ∈ cluster.wal response.requester

/-- Whatever finishes the transaction has its reason. -/
structure OutcomesOk (cluster : Cluster n) : Prop where
  ready : cluster.ready = true → Doomed xact cluster
  finished : ∀ me commit, .finish xact commit ∈ cluster.wal me →
    Decided xact cluster commit
  finishRequests : ∀ commit ∈ cluster.finishRequests,
    Decided xact cluster commit
  responses : ∀ response ∈ cluster.voting.statusResponses,
    ResponseOk xact cluster response

/-- A request at hand comes from another node, and was sent if it is about the
transaction. -/
def RequestOk
    (voting : Voting n) (me : Fin n) (entry : StatusRequest n) : Prop :=
  entry.requester ≠ me ∧
    (entry.xact = xact →
      (entry.requester, entry.term) ∈ voting.statusRequests)

/-- The invariant of the commit protocol. -/
structure Invariant (cluster : Cluster n) : Prop where
  replication : Replication.Invariant cluster.toCluster
  retention : RetentionOk cluster.retention
  replier : ∀ me, ReplierOk cluster.toCluster cluster.retention me
    (cluster.replier me)
  requests : ∀ me, (cluster.replier me).All
    (RequestOk xact cluster.voting me)
  voting : VotingOk cluster.voting
  prepared : ∀ me commit, .finish xact commit ∈ cluster.wal me →
    .prepare xact ∈ cluster.wal me
  /-- There is no voting before the transaction is prepared. -/
  fresh : ∀ me, .prepare xact ∉ cluster.wal me →
    cluster.voting.promise me ≤ initialGTxTerm
  asked : ∀ request ∈ cluster.voting.statusRequests,
    .prepare xact ∈ cluster.wal request.1
  coordinator : CoordinatorOk xact cluster
  outcomes : OutcomesOk xact cluster

variable {xact}

/-! ## The reasons exclude each other -/

theorem commitVote_of_chosen
    {voting : Voting n} {term : GlobalTxTerm}
    (chosen : Synod.Chosen voting.votes term true) :
    voting.CommitVote := by
  obtain ⟨quorum, majority, voted⟩ := chosen
  obtain ⟨voter, isVoter⟩ := majority.nonempty
  exact ⟨_, voted voter isVoter, rfl⟩

theorem Invariant.not_decided_both
    {cluster : Cluster n} (invariant : Invariant xact cluster)
    (committed : Decided xact cluster true) :
    ¬ Decided xact cluster false := by
  obtain ⟨term, chosen⟩ := committed
  rintro (⟨other, otherChosen⟩ | doomed)
  · cases invariant.voting.consistent.chosen_unique chosen otherChosen
  · exact doomed.uncommitted (commitVote_of_chosen chosen)

/-! ## Reasons persist -/

/-- A step after which the reasons of before still hold. -/
structure Continues (xact : Xact n) (before after : Cluster n) : Prop where
  grows : Grows before.toCluster after.toCluster
  votes : before.voting.votes ⊆ after.voting.votes
  doomed : Doomed xact before → Doomed xact after

theorem Decided.mono
    {before after : Cluster n} {commit : Bool}
    (decided : Decided xact before commit)
    (continues : Continues xact before after) :
    Decided xact after commit := by
  have chosen {value : Bool}
      (isChosen : ∃ term, Synod.Chosen before.voting.votes term value) :
      ∃ term, Synod.Chosen after.voting.votes term value :=
    isChosen.imp fun _ before => before.mono continues.votes
  cases commit with
  | true => exact chosen decided
  | false => exact Or.imp chosen continues.doomed decided

theorem ResponseOk.mono
    {before after : Cluster n} {response : StatusResponse n}
    (ok : ResponseOk xact before response)
    (continues : Continues xact before after) :
    ResponseOk xact after response where
  committed := fun isCommitted => (ok.committed isCommitted).mono continues
  aborted := fun isAborted => (ok.aborted isAborted).imp
    (fun decided => decided.mono continues)
    fun ⟨commit, isFinished⟩ =>
      ⟨commit, (continues.grows.wal _).subset isFinished⟩

/-- A doomed transaction stays doomed. -/
theorem Doomed.mono
    {before after : Cluster n}
    (doomed : Doomed xact before)
    (grows : Grows before.toCluster after.toCluster)
    (uncommitted : after.voting.CommitVote → before.voting.CommitVote)
    (backend : .prepare xact ∈ before.wal xact.coordinator →
      before.backend = false → after.backend = false) :
    Doomed xact after where
  uncommitted := fun commit => doomed.uncommitted (uncommitted commit)
  forever := by
    rcases doomed.forever with ⟨member, isMember, never⟩ | ⟨origin, gone⟩
    · exact Or.inl ⟨member, isMember,
        fun later => never (grows.ackable member xact later)⟩
    · exact Or.inr ⟨(grows.wal _).subset origin, backend origin gone⟩

/-- The coordinator after a step that brings no first vote for commit. -/
theorem CoordinatorOk.step
    {before after : Cluster n}
    (ok : CoordinatorOk xact before)
    (continues : Continues xact before after)
    (commitVote : after.voting.CommitVote → before.voting.CommitVote)
    (backend : after.backend = true →
      Pending (after.wal xact.coordinator) xact ∧
        after.voting.promise xact.coordinator ≤ initialGTxTerm)
    (precommitted : after.precommitted = before.precommitted)
    (precommits : ∀ me ∈ after.precommits,
      me ∈ before.precommits ∨
        ⟨me, initialGTxTerm, true⟩ ∈ after.voting.votes) :
    CoordinatorOk xact after where
  justified := by
    intro isVote
    obtain ⟨hasVoted, acked⟩ := ok.justified (commitVote isVote)
    exact ⟨continues.votes hasVoted, fun member isMember =>
      continues.grows.acks (acked member isMember)⟩
  backend := backend
  precommitted := by
    rw [precommitted]
    exact fun isPrecommit => continues.votes (ok.precommitted isPrecommit)
  precommits := fun me isVoter => (precommits me isVoter).elim
    (fun isOld => continues.votes (ok.precommits me isOld)) id

/-- The outcomes after a step: what is new has its reason. -/
theorem OutcomesOk.step
    {before after : Cluster n}
    (ok : OutcomesOk xact before)
    (continues : Continues xact before after)
    (ready : after.ready = true → before.ready = true ∨ Doomed xact after)
    (finished : ∀ me commit, .finish xact commit ∈ after.wal me →
      .finish xact commit ∈ before.wal me ∨ Decided xact after commit)
    (finishRequests : ∀ commit ∈ after.finishRequests,
      commit ∈ before.finishRequests ∨ Decided xact after commit)
    (responses : ∀ response ∈ after.voting.statusResponses,
      response ∈ before.voting.statusResponses ∨
        ResponseOk xact after response) :
    OutcomesOk xact after where
  ready := fun isReady => (ready isReady).elim
    (fun wasReady => continues.doomed (ok.ready wasReady)) id
  finished := fun me commit isFinished =>
    (finished me commit isFinished).elim
      (fun isOld => (ok.finished me commit isOld).mono continues) id
  finishRequests := fun commit isRequest =>
    (finishRequests commit isRequest).elim
      (fun isOld => (ok.finishRequests commit isOld).mono continues) id
  responses := fun response isResponse =>
    (responses response isResponse).elim
      (fun isOld => (ok.responses response isOld).mono continues) id

end Commit
end Multimaster
