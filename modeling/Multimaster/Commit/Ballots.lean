import Multimaster.Commit.Voting

/-!
# The voting is consistent

Every reported state is the state some node was in when it joined the term of
the resolver.  The arrays of a resolver keep the states reported to its earlier
terms: these are older, and they do no harm, since they only add votes that
were given before.
-/

namespace Multimaster
namespace Commit

open Generation Gtx

/-- The node was in this state when it joined the term. -/
structure Reported
    (voting : Voting n) (node : Fin n) (state : GTxState) : Prop where
  report : Synod.Report voting.votes voting.promise node
    state.proposal state.accepted
  ordered : state.accepted ≤ state.proposal
  /-- The status is that of the last vote. -/
  cast : (state.accepted = invalidGTxTerm ∧ state.status = .invalid) ∨
    ∃ value, ⟨node, state.accepted, value⟩ ∈ voting.votes ∧
      state.status = voteStatus value

/-- The node gave the vote. -/
def Accepted
    (voting : Voting n) (node : Fin n) (term : GlobalTxTerm)
    (status : GlobalTxStatus) : Prop :=
  ∃ value, ⟨node, term, value⟩ ∈ voting.votes ∧ status = voteStatus value

/-- What holds of the transaction on a node. -/
structure GtxOk (voting : Voting n) (me : Fin n) (gtx : GlobalTx n) : Prop where
  begun : initialGTxTerm ≤ gtx.state.proposal
  own : Reported voting me gtx.state
  last : ∀ vote ∈ voting.votes, vote.acceptor = me →
    vote.ballot ≤ gtx.state.accepted
  phase1 : ∀ node, node ≠ me →
    (gtx.phase1Acks node).proposal = invalidGTxTerm ∨
      (Reported voting node (gtx.phase1Acks node) ∧
        (gtx.phase1Acks node).proposal ≤ gtx.state.proposal)
  phase2 : ∀ node, node ≠ me →
    (gtx.phase2Acks node).proposal = invalidGTxTerm ∨
      (Accepted voting node (gtx.phase2Acks node).proposal
          (gtx.phase2Acks node).status ∧
        (gtx.phase2Acks node).proposal ≤ gtx.state.proposal)
  /-- No vote for the own term is recorded before 2a is sent. -/
  unanswered : gtx.resolverStage = .awaitStatus →
    gtx.state.proposal.nodeId = nodeId me →
    ∀ node, node ≠ me →
      (gtx.phase2Acks node).proposal ≠ gtx.state.proposal
  /-- The transaction is finished as soon as there is a quorum. -/
  undecided : gtx.resolverStage = .awaitAcks →
    ¬ quorum me (Function.update gtx.phase2Acks me gtx.state)

/-- A term of the node, already reached by it. -/
def OwnTerm (voting : Voting n) (me : Fin n) (term : GlobalTxTerm) : Prop :=
  term.nodeId = nodeId me ∧ term ≤ voting.promise me

/-- What holds of a status response. -/
def StatusResponseOk
    (voting : Voting n) (response : StatusResponse n) : Prop :=
  response.responder ≠ response.requester ∧
    (response.state.proposal = invalidGTxTerm ∨
      (Reported voting response.responder response.state ∧
        response.state.proposal ≤ voting.promise response.requester))

/-- What holds of a 2a request: the resolver has voted itself. -/
def AcceptRequestOk
    (voting : Voting n) (request : AcceptRequest n) : Prop :=
  request.term.nodeId = nodeId request.requester ∧
    ⟨request.requester, request.term, request.precommit⟩ ∈ voting.votes

/-- What holds of a 2a response. -/
def AcceptResponseOk
    (voting : Voting n) (response : AcceptResponse n) : Prop :=
  response.responder ≠ response.requester ∧
    (response.acceptedTerm = invalidGTxTerm ∨
      (Accepted voting response.responder response.acceptedTerm
          response.status ∧
        response.acceptedTerm ≤ voting.promise response.requester))

/-- A vote is that of the coordinator or follows a resolver. -/
def Proposed (votes : List (Vote n)) (vote : Vote n) : Prop :=
  (vote.ballot = initialGTxTerm ∧ vote.value = true) ∨
    ∃ proposer, vote.ballot.nodeId = nodeId proposer ∧
      ⟨proposer, vote.ballot, vote.value⟩ ∈ votes

/-- The invariant of the voting. -/
structure VotingOk (voting : Voting n) : Prop where
  consistent : Synod.Consistent voting.votes voting.promise
  above : ∀ vote ∈ voting.votes, initialGTxTerm ≤ vote.ballot
  proposed : ∀ vote ∈ voting.votes, Proposed voting.votes vote
  gtx : ∀ me, GtxOk voting me (voting.gtx me)
  statusRequests : ∀ request ∈ voting.statusRequests,
    OwnTerm voting request.1 request.2
  statusResponses : ∀ response ∈ voting.statusResponses,
    StatusResponseOk voting response
  acceptRequests : ∀ request ∈ voting.acceptRequests,
    AcceptRequestOk voting request
  acceptResponses : ∀ response ∈ voting.acceptResponses,
    AcceptResponseOk voting response

/-! ## Terms -/

theorem invalidGTxTerm_lt_initial : invalidGTxTerm < initialGTxTerm :=
  GlobalTxTerm.lt_iff.mpr (Or.inl Nat.one_pos)

theorem not_initial_le_invalid : ¬ initialGTxTerm ≤ invalidGTxTerm :=
  not_le.mpr invalidGTxTerm_lt_initial

theorem invalidGTxTerm_le (term : GlobalTxTerm) : invalidGTxTerm ≤ term :=
  bot_le

theorem ne_invalid_of_initial_le
    {term : GlobalTxTerm} (begun : initialGTxTerm ≤ term) :
    term ≠ invalidGTxTerm := by
  intro isInvalid
  rw [isInvalid] at begun
  exact not_initial_le_invalid begun

theorem nodeId_injective {first second : Fin n}
    (same : nodeId first = nodeId second) : first = second :=
  Fin.val_injective (Nat.succ_injective same)

theorem nodeId_ne_zero (me : Fin n) : nodeId me ≠ 0 :=
  Nat.succ_ne_zero _

theorem voteStatus_ne_invalid (value : Bool) : voteStatus value ≠ .invalid := by
  cases value <;> simp [voteStatus]

/-! ## Steps extend the voting -/

/-- The voting goes on: votes and promises are kept, and new votes respect the
promises. -/
structure Extends (before after : Voting n) : Prop where
  votes : before.votes ⊆ after.votes
  promise : ∀ me, before.promise me ≤ after.promise me
  respected : ∀ vote ∈ after.votes,
    vote ∈ before.votes ∨ before.promise vote.acceptor ≤ vote.ballot

section Mono

variable {before after : Voting n}

theorem Reported.mono
    {node : Fin n} {state : GTxState}
    (reported : Reported before node state) (ext : Extends before after) :
    Reported after node state where
  report := by
    refine ⟨le_trans reported.report.promised (ext.promise node), ?_⟩
    intro vote isVote mine below
    rcases ext.respected vote isVote with isOld | respects
    · exact reported.report.seen vote isOld mine below
    · rw [mine] at respects
      have notBelow := le_trans reported.report.promised respects
      exact absurd below (not_lt.mpr notBelow)
  ordered := reported.ordered
  cast := reported.cast.imp_right fun ⟨value, isVote, isStatus⟩ =>
    ⟨value, ext.votes isVote, isStatus⟩

theorem Accepted.mono
    {node : Fin n} {term : GlobalTxTerm} {status : GlobalTxStatus}
    (accepted : Accepted before node term status)
    (ext : Extends before after) :
    Accepted after node term status :=
  accepted.imp fun _ ⟨isVote, isStatus⟩ => ⟨ext.votes isVote, isStatus⟩

theorem OwnTerm.mono
    {me : Fin n} {term : GlobalTxTerm}
    (own : OwnTerm before me term) (ext : Extends before after) :
    OwnTerm after me term :=
  ⟨own.1, le_trans own.2 (ext.promise me)⟩

theorem StatusResponseOk.mono
    {response : StatusResponse n}
    (ok : StatusResponseOk before response) (ext : Extends before after) :
    StatusResponseOk after response :=
  ⟨ok.1, ok.2.imp_right fun ⟨reported, reached⟩ =>
    ⟨reported.mono ext, le_trans reached (ext.promise _)⟩⟩

theorem AcceptRequestOk.mono
    {request : AcceptRequest n}
    (ok : AcceptRequestOk before request) (ext : Extends before after) :
    AcceptRequestOk after request :=
  ⟨ok.1, ext.votes ok.2⟩

theorem AcceptResponseOk.mono
    {response : AcceptResponse n}
    (ok : AcceptResponseOk before response) (ext : Extends before after) :
    AcceptResponseOk after response :=
  ⟨ok.1, ok.2.imp_right fun ⟨accepted, reached⟩ =>
    ⟨accepted.mono ext, le_trans reached (ext.promise _)⟩⟩

theorem Proposed.mono
    {vote : Vote n}
    (isProposed : Proposed before.votes vote)
    (ext : Extends before after) :
    Proposed after.votes vote :=
  isProposed.imp_right fun ⟨proposer, isProposer, isVote⟩ =>
    ⟨proposer, isProposer, ext.votes isVote⟩

/-- The transaction on a node that does not take part in the step. -/
theorem GtxOk.mono
    {me : Fin n} {gtx : GlobalTx n}
    (ok : GtxOk before me gtx) (ext : Extends before after)
    (silent : ∀ vote ∈ after.votes, vote.acceptor = me →
      vote ∈ before.votes) :
    GtxOk after me gtx where
  begun := ok.begun
  own := ok.own.mono ext
  last := fun vote isVote mine =>
    ok.last vote (silent vote isVote mine) mine
  phase1 := fun node other => (ok.phase1 node other).imp_right
    fun ⟨reported, reached⟩ => ⟨reported.mono ext, reached⟩
  phase2 := fun node other => (ok.phase2 node other).imp_right
    fun ⟨accepted, reached⟩ => ⟨accepted.mono ext, reached⟩
  unanswered := ok.unanswered
  undecided := ok.undecided

/-- The transaction on a node that joins a term. -/
theorem GtxOk.join
    {me : Fin n} {gtx : GlobalTx n} {term : GlobalTxTerm}
    {stage : GlobalTxResolvingStage}
    (ok : GtxOk before me gtx) (ext : Extends before after)
    (silent : ∀ vote ∈ after.votes, vote.acceptor = me →
      vote ∈ before.votes)
    (higher : gtx.state.proposal ≤ term)
    (joined : after.promise me = term)
    (unanswered : stage = .awaitStatus → term.nodeId = nodeId me →
      ∀ node, node ≠ me → (gtx.phase2Acks node).proposal ≠ term)
    (undecided : stage = .awaitAcks → term.nodeId ≠ nodeId me) :
    GtxOk after me { gtx.join term with resolverStage := stage } where
  begun := le_trans ok.begun higher
  own := {
    report := by
      refine ⟨joined.ge, fun vote isVote mine _ => ?_⟩
      exact ok.last vote (silent vote isVote mine) mine
    ordered := le_trans ok.own.ordered higher
    cast := (ok.own.mono ext).cast }
  last := fun vote isVote mine =>
    ok.last vote (silent vote isVote mine) mine
  phase1 := fun node other => (ok.phase1 node other).imp_right
    fun ⟨reported, reached⟩ => ⟨reported.mono ext, le_trans reached higher⟩
  phase2 := fun node other => (ok.phase2 node other).imp_right
    fun ⟨accepted, reached⟩ => ⟨accepted.mono ext, le_trans reached higher⟩
  unanswered := unanswered
  undecided := by
    intro isStage isQuorum
    apply undecided isStage
    simpa [GlobalTx.join] using isQuorum.1

/-- The transaction on a node that votes. -/
theorem GtxOk.accept
    {me : Fin n} {gtx : GlobalTx n} {term : GlobalTxTerm} {value : Bool}
    {stage : GlobalTxResolvingStage}
    (ok : GtxOk before me gtx) (ext : Extends before after)
    (votes : after.votes = ⟨me, term, value⟩ :: before.votes)
    (higher : gtx.state.proposal ≤ term)
    (joined : after.promise me = term)
    (unanswered : stage = .awaitStatus → term.nodeId ≠ nodeId me)
    (undecided : stage = .awaitAcks →
      ¬ quorum me (Function.update gtx.phase2Acks me
        (gtx.accept term value).state)) :
    GtxOk after me { gtx.accept term value with resolverStage := stage } where
  begun := le_trans ok.begun higher
  own := {
    report := ⟨joined.ge, fun _ _ _ below => below.le⟩
    ordered := le_refl _
    cast := Or.inr ⟨value, by rw [votes]; exact List.mem_cons_self, rfl⟩ }
  last := by
    intro vote isVote mine
    rw [votes] at isVote
    rcases List.mem_cons.mp isVote with isNew | isOld
    · rw [isNew]
      exact le_refl _
    · exact le_trans (ok.last vote isOld mine)
        (le_trans ok.own.ordered higher)
  phase1 := fun node other => (ok.phase1 node other).imp_right
    fun ⟨reported, reached⟩ => ⟨reported.mono ext, le_trans reached higher⟩
  phase2 := fun node other => (ok.phase2 node other).imp_right
    fun ⟨accepted, reached⟩ => ⟨accepted.mono ext, le_trans reached higher⟩
  unanswered := fun isStage isOwn => absurd isOwn (unanswered isStage)
  undecided := undecided

end Mono

/-- The messages sent in a step are in order. -/
structure Sent (before after : Voting n) : Prop where
  statusRequests : ∀ request ∈ after.statusRequests,
    request ∈ before.statusRequests ∨ OwnTerm after request.1 request.2
  statusResponses : ∀ response ∈ after.statusResponses,
    response ∈ before.statusResponses ∨ StatusResponseOk after response
  acceptRequests : ∀ request ∈ after.acceptRequests,
    request ∈ before.acceptRequests ∨ AcceptRequestOk after request
  acceptResponses : ∀ response ∈ after.acceptResponses,
    response ∈ before.acceptResponses ∨ AcceptResponseOk after response

namespace VotingOk

variable {before after : Voting n} {me : Fin n}

theorem messages
    (ok : VotingOk before) (ext : Extends before after)
    (sent : Sent before after)
    (consistent : Synod.Consistent after.votes after.promise)
    (above : ∀ vote ∈ after.votes, initialGTxTerm ≤ vote.ballot)
    (proposed : ∀ vote ∈ after.votes, Proposed after.votes vote)
    (gtx : ∀ me, GtxOk after me (after.gtx me)) :
    VotingOk after where
  consistent := consistent
  above := above
  proposed := proposed
  gtx := gtx
  statusRequests := fun request isRequest =>
    (sent.statusRequests request isRequest).elim
      (fun isOld => (ok.statusRequests request isOld).mono ext) id
  statusResponses := fun response isResponse =>
    (sent.statusResponses response isResponse).elim
      (fun isOld => (ok.statusResponses response isOld).mono ext) id
  acceptRequests := fun request isRequest =>
    (sent.acceptRequests request isRequest).elim
      (fun isOld => (ok.acceptRequests request isOld).mono ext) id
  acceptResponses := fun response isResponse =>
    (sent.acceptResponses response isResponse).elim
      (fun isOld => (ok.acceptResponses response isOld).mono ext) id

theorem promise_le
    (others : ∀ other, other ≠ me → after.gtx other = before.gtx other)
    (raised : before.promise me ≤ after.promise me) (node : Fin n) :
    before.promise node ≤ after.promise node := by
  by_cases same : node = me
  · rw [same]
    exact raised
  · rw [Voting.promise, Voting.promise, others node same]

/-- A step of a node that does not vote. -/
theorem quiet
    (ok : VotingOk before) (me : Fin n)
    (others : ∀ other, other ≠ me → after.gtx other = before.gtx other)
    (votes : after.votes = before.votes)
    (raised : before.promise me ≤ after.promise me)
    (mine : Extends before after → GtxOk after me (after.gtx me))
    (sent : Extends before after → Sent before after) :
    VotingOk after := by
  have ext : Extends before after :=
    ⟨by rw [votes]; exact fun _ => id, promise_le others raised,
      by rw [votes]; exact fun _ => Or.inl⟩
  refine ok.messages ext (sent ext) ?_ ?_ ?_ ?_
  · rw [votes]
    exact ok.consistent.raise ext.promise
  · rw [votes]
    exact ok.above
  · rw [votes]
    exact ok.proposed
  · intro node
    by_cases same : node = me
    · rw [same]
      exact mine ext
    · rw [others node same]
      exact (ok.gtx node).mono ext (by rw [votes]; exact fun _ isOld _ => isOld)

/-- A step of a node that votes. -/
theorem voting
    {term : GlobalTxTerm} {value : Bool}
    (ok : VotingOk before) (me : Fin n)
    (others : ∀ other, other ≠ me → after.gtx other = before.gtx other)
    (votes : after.votes = ⟨me, term, value⟩ :: before.votes)
    (higher : before.promise me ≤ term)
    (joined : after.promise me = term)
    (safe : Synod.SafeAt before.votes before.promise term value)
    (agrees : ∀ other ∈ before.votes, other.ballot = term →
      other.value = value)
    (isProposed : Proposed after.votes ⟨me, term, value⟩)
    (mine : Extends before after → GtxOk after me (after.gtx me))
    (sent : Extends before after → Sent before after) :
    VotingOk after := by
  have ext : Extends before after := by
    refine ⟨?_, promise_le others (joined ▸ higher), ?_⟩
    · rw [votes]
      exact List.subset_cons_self _ _
    · rw [votes]
      intro vote isVote
      rcases List.mem_cons.mp isVote with isNew | isOld
      · rw [isNew]
        exact Or.inr higher
      · exact Or.inl isOld
  refine ok.messages ext (sent ext) ?_ ?_ ?_ ?_
  · rw [votes]
    exact ok.consistent.add higher ext.promise joined.ge safe agrees
  · intro vote isVote
    rw [votes] at isVote
    rcases List.mem_cons.mp isVote with isNew | isOld
    · rw [isNew]
      exact le_trans (ok.gtx me).begun higher
    · exact ok.above vote isOld
  · intro vote isVote
    rw [votes] at isVote
    rcases List.mem_cons.mp isVote with isNew | isOld
    · rw [isNew]
      exact isProposed
    · exact (ok.proposed vote isOld).mono ext
  · intro node
    by_cases same : node = me
    · rw [same]
      exact mine ext
    · rw [others node same]
      refine (ok.gtx node).mono ext ?_
      intro vote isVote isNode
      rw [votes] at isVote
      rcases List.mem_cons.mp isVote with isNew | isOld
      · rw [isNew] at isNode
        exact absurd isNode.symm same
      · exact isOld

end VotingOk

end Commit
end Multimaster
