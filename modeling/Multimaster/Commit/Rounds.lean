import Multimaster.Commit.Ballots

/-!
# Rounds of voting

The handlers of the replier and the resolver keep the voting consistent, the
decision of a resolver with a quorum of reports is safe, and a quorum of 2a
responses means that the value is chosen.
-/

namespace Multimaster
namespace Commit

open Generation Gtx

@[simp] theorem setGtx_gtx_self
    (voting : Voting n) (me : Fin n) (gtx : GlobalTx n) :
    (voting.setGtx me gtx).gtx me = gtx := by
  simp [Voting.setGtx]

theorem setGtx_gtx_ne
    (voting : Voting n) (gtx : GlobalTx n) {me other : Fin n}
    (different : other ≠ me) :
    (voting.setGtx me gtx).gtx other = voting.gtx other := by
  simp [Voting.setGtx, different]

@[simp] theorem setGtx_promise_self
    (voting : Voting n) (me : Fin n) (gtx : GlobalTx n) :
    (voting.setGtx me gtx).promise me = gtx.state.proposal := by
  simp [Voting.promise]

/-- Before any voting everything is in order. -/
theorem votingOk_initial (n : ℕ) : VotingOk (Voting.initial n) where
  consistent := ⟨by simp [Voting.initial], by simp [Voting.initial],
    by simp [Voting.initial]⟩
  above := by simp [Voting.initial]
  proposed := by simp [Voting.initial]
  gtx := by
    intro me
    exact {
      begun := le_refl _
      own := {
        report := ⟨le_refl _, by simp [Voting.initial]⟩
        ordered := invalidGTxTerm_le _
        cast := Or.inl ⟨rfl, rfl⟩ }
      last := by simp [Voting.initial]
      phase1 := fun _ _ => Or.inl rfl
      phase2 := fun _ _ => Or.inl rfl
      unanswered := fun _ isOwn => absurd isOwn.symm (nodeId_ne_zero me)
      undecided := fun isStage => by cases isStage }
  statusRequests := by simp [Voting.initial]
  statusResponses := by simp [Voting.initial]
  acceptRequests := by simp [Voting.initial]
  acceptResponses := by simp [Voting.initial]

namespace VotingOk

variable {voting : Voting n} {me : Fin n}

/-- A change of a transaction that keeps its state. -/
theorem extends_setGtx
    {gtx : GlobalTx n} (state : gtx.state = (voting.gtx me).state) :
    Extends voting (voting.setGtx me gtx) := by
  refine ⟨fun _ => id, ?_, fun _ => Or.inl⟩
  refine promise_le (fun _ => setGtx_gtx_ne voting gtx) ?_
  rw [setGtx_promise_self, state]
  exact le_refl _

theorem setGtx
    (ok : VotingOk voting) {gtx : GlobalTx n}
    (state : gtx.state = (voting.gtx me).state)
    (mine : Extends voting (voting.setGtx me gtx) →
      GtxOk (voting.setGtx me gtx) me gtx) :
    VotingOk (voting.setGtx me gtx) := by
  refine ok.quiet me (fun _ => setGtx_gtx_ne voting gtx) rfl
    ((extends_setGtx state).promise me) ?_ ?_
  · rw [setGtx_gtx_self]
    exact mine
  · exact fun _ => ⟨fun _ => Or.inl, fun _ => Or.inl, fun _ => Or.inl,
      fun _ => Or.inl⟩

/-- `GlobalTxMarkOrphaned`. -/
theorem orphan (ok : VotingOk voting) (orphaned : Bool) :
    VotingOk (voting.setGtx me
      { voting.gtx me with orphaned := orphaned }) := by
  refine ok.setGtx rfl fun ext => ?_
  have same := (ok.gtx me).mono ext fun _ isOld _ => isOld
  exact ⟨same.begun, same.own, same.last, same.phase1, same.phase2,
    same.unanswered, same.undecided⟩

/-- `GlobalTxLoadAll`: the arrays of the resolver are empty again. -/
theorem load (ok : VotingOk voting) :
    VotingOk (voting.setGtx me (voting.gtx me).load) := by
  refine ok.setGtx rfl fun ext => ?_
  have same := (ok.gtx me).mono ext fun _ isOld _ => isOld
  exact {
    begun := same.begun
    own := same.own
    last := same.last
    phase1 := fun _ _ => Or.inl rfl
    phase2 := fun _ _ => Or.inl rfl
    unanswered := fun _ _ _ _ empty =>
      ne_invalid_of_initial_le same.begun empty.symm
    undecided := fun isStage => by cases isStage }

/-- A response that reports an outcome or nothing. -/
theorem respond
    (ok : VotingOk voting) {requester : Fin n} {state : GTxState}
    (elsewhere : requester ≠ me)
    (empty : state.proposal = invalidGTxTerm) :
    VotingOk (voting.respond me requester state) := by
  refine ok.quiet me (fun _ _ => rfl) rfl (le_refl _) ?_ ?_
  · exact fun ext => (ok.gtx me).mono ext fun _ isOld _ => isOld
  · refine fun ext => ⟨fun _ => Or.inl, ?_, fun _ => Or.inl,
      fun _ => Or.inl⟩
    intro response isResponse
    rcases List.mem_cons.mp isResponse with isNew | isOld
    · rw [isNew]
      exact Or.inr ⟨elsewhere.symm, Or.inl empty⟩
    · exact Or.inl isOld

/-- `handle_1a_gtx`. -/
theorem handle1aGtx
    (ok : VotingOk voting) {requester : Fin n} {term : GlobalTxTerm}
    (elsewhere : requester ≠ me)
    (isRequest : (requester, term) ∈ voting.statusRequests) :
    VotingOk (handle1aGtx voting me requester term) := by
  obtain ⟨isOwn, reached⟩ := ok.statusRequests _ isRequest
  unfold Commit.handle1aGtx
  split
  · next higher =>
      have notMine : term.nodeId ≠ nodeId me := by
        rw [isOwn]
        exact fun same => elsewhere (nodeId_injective same)
      set after := (voting.setGtx me ((voting.gtx me).join term)).respond
        me requester ((voting.gtx me).join term).state
      have joined : after.promise me = term := setGtx_promise_self _ _ _
      have mine (ext : Extends voting after) :
          GtxOk after me ((voting.gtx me).join term) :=
        (ok.gtx me).join ext (fun _ isOld _ => isOld) higher.le joined
          (fun _ same => absurd same notMine) (fun _ => notMine)
      refine ok.quiet me (fun _ => setGtx_gtx_ne voting _) rfl ?_ ?_ ?_
      · rw [joined]
        exact higher.le
      · intro ext
        have same : after.gtx me = (voting.gtx me).join term :=
          setGtx_gtx_self _ _ _
        rw [same]
        exact mine ext
      · refine fun ext => ⟨fun _ => Or.inl, ?_, fun _ => Or.inl,
          fun _ => Or.inl⟩
        intro response isResponse
        rcases List.mem_cons.mp isResponse with isNew | isOld
        · rw [isNew]
          exact Or.inr ⟨elsewhere.symm, Or.inr ⟨(mine ext).own,
            le_trans reached (ext.promise requester)⟩⟩
        · exact Or.inl isOld
  · exact ok.respond elsewhere rfl

/-- `scatter_status_requests`. -/
theorem scatter
    (ok : VotingOk voting) {term : GlobalTxTerm}
    (isOwn : term.nodeId = nodeId me)
    (higher : voting.promise me < term) :
    VotingOk (scatter voting me term) := by
  set after := Commit.scatter voting me term
  have joined : after.promise me = term := setGtx_promise_self _ _ _
  refine ok.quiet me (fun _ => setGtx_gtx_ne voting _) rfl ?_ ?_ ?_
  · rw [joined]
    exact higher.le
  · intro ext
    have same : after.gtx me =
        { (voting.gtx me).join term with resolverStage := .awaitStatus } :=
      setGtx_gtx_self _ _ _
    rw [same]
    refine (ok.gtx me).join ext (fun _ isOld _ => isOld) higher.le joined
      ?_ (fun isStage => by cases isStage)
    intro _ _ node other isTerm
    rcases (ok.gtx me).phase2 node other with empty | ⟨_, reached⟩
    · rw [empty] at isTerm
      rw [← isTerm] at higher
      exact absurd (invalidGTxTerm_le _) (not_le.mpr higher)
    · rw [isTerm] at reached
      exact absurd higher (not_lt.mpr reached)
  · refine fun ext => ⟨?_, fun _ => Or.inl, fun _ => Or.inl,
      fun _ => Or.inl⟩
    intro request isRequest
    rcases List.mem_cons.mp isRequest with isNew | isOld
    · rw [isNew]
      exact Or.inr ⟨isOwn, joined.ge⟩
    · exact Or.inl isOld

/-! ## Votes -/

/-- The voting after a vote, with some messages sent. -/
theorem vote
    (ok : VotingOk voting) {after : Voting n} (me : Fin n)
    (term : GlobalTxTerm) (value : Bool) (stage : GlobalTxResolvingStage)
    (gtx : after.gtx = Function.update voting.gtx me
      { (voting.gtx me).accept term value with resolverStage := stage })
    (votes : after.votes = ⟨me, term, value⟩ :: voting.votes)
    (higher : voting.promise me ≤ term)
    (safe : Synod.SafeAt voting.votes voting.promise term value)
    (agrees : ∀ other ∈ voting.votes, other.ballot = term →
      other.value = value)
    (isProposed : Proposed after.votes ⟨me, term, value⟩)
    (unanswered : stage = .awaitStatus → term.nodeId ≠ nodeId me)
    (undecided : stage = .awaitAcks →
      ¬ quorum me (Function.update (voting.gtx me).phase2Acks me
        ((voting.gtx me).accept term value).state))
    (sent : Extends voting after → Sent voting after) :
    VotingOk after := by
  have mine : after.gtx me =
      { (voting.gtx me).accept term value with resolverStage := stage } := by
    rw [gtx, Function.update_self]
  have joined : after.promise me = term := by
    rw [Voting.promise, mine]
    rfl
  refine ok.voting me ?_ votes higher joined safe agrees isProposed ?_ sent
  · intro other different
    rw [gtx, Function.update_of_ne different]
  · intro ext
    rw [mine]
    exact (ok.gtx me).accept ext votes higher joined unanswered undecided

/-- A vote in the term of another node leaves the own round undecided. -/
theorem not_quorum_of_foreign
    {term : GlobalTxTerm} {value : Bool}
    (foreign : term.nodeId ≠ nodeId me) (acks : Fin n → GTxState)
    (gtx : GlobalTx n) :
    ¬ quorum me (Function.update acks me (gtx.accept term value).state) := by
  intro isQuorum
  have isOwn := isQuorum.1
  rw [Function.update_self] at isOwn
  exact foreign isOwn

/-- The precommit of the coordinator, and the votes that follow it. -/
theorem precommit
    (ok : VotingOk voting)
    (allowed : voting.promise me ≤ initialGTxTerm) :
    VotingOk (voting.vote me initialGTxTerm true) := by
  have foreign : initialGTxTerm.nodeId ≠ nodeId me := (nodeId_ne_zero me).symm
  refine ok.vote me initialGTxTerm true (voting.gtx me).resolverStage rfl rfl
    allowed ?_ ?_ (Or.inl ⟨rfl, rfl⟩) (fun _ => foreign)
    (fun _ => not_quorum_of_foreign foreign _ _) ?_
  · -- nobody votes below the initial term
    intro lower below
    refine ⟨Finset.univ, ?_, fun acceptor _ => Or.inr ⟨?_, ?_⟩⟩
    · have positive := me.pos
      rw [IsMajority, Finset.card_univ, Fintype.card_fin]
      omega
    · exact lt_of_lt_of_le below (ok.gtx acceptor).begun
    · intro other isVote
      exact absurd (ok.above _ isVote) (not_le.mpr below)
  · intro other isVote isInitial
    rcases ok.proposed other isVote with ⟨_, isTrue⟩ | ⟨proposer, isOwn, _⟩
    · exact isTrue
    · rw [isInitial] at isOwn
      exact absurd isOwn.symm (nodeId_ne_zero proposer)
  · exact fun _ => ⟨fun _ => Or.inl, fun _ => Or.inl, fun _ => Or.inl,
      fun _ => Or.inl⟩

theorem refuse2a
    (ok : VotingOk voting) {request : AcceptRequest n}
    (elsewhere : request.requester ≠ me) :
    VotingOk (refuse2a voting me request) := by
  refine ok.quiet me (fun _ _ => rfl) rfl (le_refl _) ?_ ?_
  · exact fun ext => (ok.gtx me).mono ext fun _ isOld _ => isOld
  · refine fun ext => ⟨fun _ => Or.inl, fun _ => Or.inl,
      fun _ => Or.inl, ?_⟩
    intro response isResponse
    rcases List.mem_cons.mp isResponse with isNew | isOld
    · rw [isNew]
      exact Or.inr ⟨elsewhere.symm, Or.inl rfl⟩
    · exact Or.inl isOld

/-- `handle_2a`. -/
theorem handle2a
    (ok : VotingOk voting) {request : AcceptRequest n}
    (isRequest : request ∈ voting.acceptRequests)
    (elsewhere : request.requester ≠ me) :
    VotingOk (handle2a voting me request) := by
  obtain ⟨isOwn, hasVoted⟩ := ok.acceptRequests request isRequest
  have reached := ok.consistent.bounded _ hasVoted
  have foreign : request.term.nodeId ≠ nodeId me := by
    rw [isOwn]
    exact fun same => elsewhere (nodeId_injective same)
  unfold Commit.handle2a
  split
  · next allowed =>
      set after : Voting n :=
        { voting.vote me request.term request.precommit with
          acceptResponses :=
            { responder := me
              requester := request.requester
              acceptedTerm := request.term
              status := voteStatus request.precommit } ::
              voting.acceptResponses }
      refine ok.vote me request.term request.precommit
        (voting.gtx me).resolverStage rfl rfl allowed
        (ok.consistent.safe _ hasVoted) ?_ ?_ (fun _ => foreign)
        (fun _ => not_quorum_of_foreign foreign _ _) ?_
      · exact fun other isVote same =>
          ok.consistent.agree other isVote _ hasVoted same
      · exact Or.inr ⟨request.requester, isOwn,
          List.mem_cons_of_mem _ hasVoted⟩
      · refine fun ext => ⟨fun _ => Or.inl, fun _ => Or.inl,
          fun _ => Or.inl, ?_⟩
        intro response isResponse
        rcases List.mem_cons.mp isResponse with isNew | isOld
        · rw [isNew]
          refine Or.inr ⟨elsewhere.symm, Or.inr ⟨?_, ?_⟩⟩
          · exact ⟨request.precommit, List.mem_cons_self, rfl⟩
          · exact le_trans reached (ext.promise request.requester)
        · exact Or.inl isOld
  · exact ok.refuse2a elsewhere

/-! ## Phase 1 of a resolver -/

/-- The states a resolver goes over. -/
structure AcksOk
    (voting : Voting n) (me : Fin n) (acks : Fin n → GTxState) : Prop where
  own : acks me = (voting.gtx me).state
  reported : ∀ node, (acks node).proposal = invalidGTxTerm ∨
    (Reported voting node (acks node) ∧
      (acks node).proposal ≤ voting.promise me)

theorem acksOk_phase1With
    (ok : VotingOk voting) {response : StatusResponse n}
    (isResponse : response ∈ voting.statusResponses)
    (mine : response.requester = me) :
    AcksOk voting me (phase1With voting me response) := by
  obtain ⟨elsewhere, reported⟩ := ok.statusResponses response isResponse
  rw [mine] at elsewhere reported
  refine ⟨?_, ?_⟩
  · rw [phase1With, Function.update_of_ne elsewhere.symm,
      Function.update_self]
  · intro node
    by_cases isResponder : node = response.responder
    · subst isResponder
      rw [phase1With, Function.update_self]
      exact reported
    · rw [phase1With, Function.update_of_ne isResponder]
      by_cases isMe : node = me
      · subst isMe
        rw [Function.update_self]
        exact Or.inr ⟨(ok.gtx node).own, le_refl _⟩
      · rw [Function.update_of_ne isMe]
        exact (ok.gtx me).phase1 node isMe

/-- The response is recorded. -/
theorem recordStatus
    (ok : VotingOk voting) {response : StatusResponse n}
    (isResponse : response ∈ voting.statusResponses)
    (mine : response.requester = me) :
    VotingOk (recordStatus voting me response) := by
  have acksOk := ok.acksOk_phase1With isResponse mine
  refine ok.setGtx rfl fun ext => ?_
  have same := (ok.gtx me).mono ext fun _ isOld _ => isOld
  refine ⟨same.begun, same.own, same.last, ?_, same.phase2,
    same.unanswered, same.undecided⟩
  exact fun node _ => (acksOk.reported node).imp_right
    fun ⟨reported, reached⟩ => ⟨reported.mono ext, reached⟩

theorem acksOk_recordStatus
    (ok : VotingOk voting) {response : StatusResponse n}
    (isResponse : response ∈ voting.statusResponses)
    (mine : response.requester = me) :
    AcksOk (Commit.recordStatus voting me response) me
      (phase1With voting me response) := by
  have acksOk := ok.acksOk_phase1With isResponse mine
  have ext : Extends voting (Commit.recordStatus voting me response) :=
    extends_setGtx rfl
  refine ⟨?_, fun node => ?_⟩
  · rw [Commit.recordStatus, setGtx_gtx_self]
    exact acksOk.own
  · exact (acksOk.reported node).imp_right fun ⟨reported, reached⟩ =>
      ⟨reported.mono ext, le_trans reached (ext.promise me)⟩

/-- Votes in the terms of a node follow a vote of its own. -/
theorem own_vote
    (ok : VotingOk voting) {vote : Vote n}
    (isVote : vote ∈ voting.votes)
    (isOwn : vote.ballot.nodeId = nodeId me) :
    ⟨me, vote.ballot, vote.value⟩ ∈ voting.votes := by
  rcases ok.proposed vote isVote with
    ⟨isInitial, _⟩ | ⟨proposer, isProposer, hasVoted⟩
  · rw [isInitial] at isOwn
    exact absurd isOwn.symm (nodeId_ne_zero me)
  · rw [isProposer] at isOwn
    rw [nodeId_injective isOwn] at hasVoted
    exact hasVoted

/-- The decision with a quorum of reports is safe, is that of the votes already
given in the term, and is to commit only if somebody has voted so. -/
theorem decided
    (ok : VotingOk voting) {acks : Fin n → GTxState}
    (acksOk : AcksOk voting me acks)
    (isQuorum : quorum me acks)
    {value : Bool}
    (isDecision : value = decide (decision (maxAccepted
      (voting.gtx me).state.accepted acks) acks = .preCommitted)) :
    Synod.SafeAt voting.votes voting.promise (voting.promise me) value ∧
      (∀ other ∈ voting.votes, other.ballot = voting.promise me →
        other.value = value) ∧
      (value = true → ∃ vote ∈ voting.votes, vote.value = true) := by
  have gtxOk := ok.gtx me
  have ownProposal : (acks me).proposal = voting.promise me := by
    rw [acksOk.own]
    rfl
  set highest := maxAccepted (voting.gtx me).state.accepted acks
  obtain ⟨aboveOwn, covers, _⟩ :=
    maxAccepted_spec (voting.gtx me).state.accepted acks
  obtain ⟨node, isValid, isHighest, decides⟩ :
      ∃ node, (acks node).proposal ≠ invalidGTxTerm ∧
        (acks node).accepted = highest ∧
        (decision highest acks = .preCommitted ↔
          (acks node).status = .preCommitted) := by
    apply decision_spec
    rcases (maxAccepted_spec (voting.gtx me).state.accepted acks).2.2 with
      isOwn | found
    · refine ⟨me, ?_, ?_⟩
      · rw [ownProposal]
        exact ne_invalid_of_initial_le gtxOk.begun
      · rw [acksOk.own]
        exact isOwn.symm
    · exact found
  have reports : ∀ voter ∈ supporters me acks,
      Synod.Report voting.votes voting.promise voter (voting.promise me)
        highest := by
    intro voter isVoter
    obtain ⟨valid, same⟩ := mem_supporters.mp isVoter
    rcases acksOk.reported voter with empty | ⟨reported, _⟩
    · exact absurd empty valid
    · have report := reported.report
      rw [same, ownProposal] at report
      exact ⟨report.promised, fun vote isVote mine below =>
        le_trans (report.seen vote isVote mine below) (covers voter valid)⟩
  obtain ⟨reported, reached⟩ := (acksOk.reported node).resolve_left isValid
  have bounded : highest ≤ voting.promise me := by
    rw [← isHighest]
    exact le_trans reported.ordered reached
  -- with a vote in the own term there is an own one, the highest of all
  have isLast (vote : Vote n) (isVote : vote ∈ voting.votes)
      (same : vote.ballot = voting.promise me) :
      highest = voting.promise me := by
    have isOwn := isQuorum.1
    rw [ownProposal, ← same] at isOwn
    have hasVoted := ok.own_vote isVote isOwn
    apply le_antisymm bounded
    rw [← same]
    exact le_trans (gtxOk.last ⟨me, _, _⟩ hasVoted rfl) aboveOwn
  rcases reported.cast with ⟨noVote, isInvalid⟩ | ⟨voted, isVote, isStatus⟩
  · rw [isHighest] at noVote
    have isFalse : value = false := by
      rw [isDecision, decide_eq_false_iff_not, decides, isInvalid]
      simp
    refine ⟨?_, ?_, by simp [isFalse]⟩
    · refine Synod.safeAt_of_silence isQuorum.majority reports ?_ value
      intro vote isVote
      rw [noVote]
      exact lt_of_lt_of_le invalidGTxTerm_lt_initial (ok.above vote isVote)
    · intro other isOther same
      have begun := gtxOk.begun
      have isProposal := isLast other isOther same
      rw [noVote] at isProposal
      exact absurd isProposal.symm (ne_invalid_of_initial_le begun)
  · have sameValue : voted = value := by
      rw [Bool.eq_iff_iff, isDecision, decide_eq_true_iff, decides, isStatus,
        voteStatus_eq_preCommitted]
    subst sameValue
    rw [isHighest] at isVote
    refine ⟨?_, ?_, fun isTrue => ⟨_, isVote, isTrue⟩⟩
    · exact ok.consistent.safeAt_of_reports isQuorum.majority reports isVote rfl
    · intro other isOther same
      have isProposal := isLast other isOther same
      exact ok.consistent.agree other isOther _ isVote
        (same.trans isProposal.symm)

/-- A node alone is no quorum. -/
theorem not_quorum_of_alone
    {acks : Fin n → GTxState} (several : 1 < n)
    (alone : ∀ node, node ≠ me → (acks node).proposal ≠ (acks me).proposal) :
    ¬ quorum me acks := by
  rintro ⟨-, enough⟩
  have onlyMe : supporters me acks ⊆ {me} := by
    intro node isVoter
    rw [Finset.mem_singleton]
    by_contra notMe
    exact alone node notMe (mem_supporters.mp isVoter).2
  have few := Finset.card_le_card onlyMe
  rw [Finset.card_singleton] at few
  unfold Quorum at enough
  omega

/-- The vote of a resolver with a quorum. -/
theorem propose
    (ok : VotingOk voting) {acks : Fin n → GTxState}
    (several : 1 < n)
    (isStage : (voting.gtx me).resolverStage = .awaitStatus)
    (acksOk : AcksOk voting me acks)
    (isQuorum : quorum me acks) :
    VotingOk (propose voting me acks) := by
  obtain ⟨safe, agrees, _⟩ := ok.decided acksOk isQuorum rfl
  have isOwn : (voting.promise me).nodeId = nodeId me := by
    have isOwn := isQuorum.1
    rw [acksOk.own] at isOwn
    exact isOwn
  refine ok.vote me (voting.promise me) _ .awaitAcks ?_ rfl (le_refl _)
    safe agrees ?_ (fun isStatus => by cases isStatus) ?_ ?_
  · simp [Commit.propose, Voting.vote, Voting.setGtx, Voting.promise]
  · exact Or.inr ⟨me, isOwn, List.mem_cons_self⟩
  · -- no response to the 2a request is there yet
    refine fun _ => not_quorum_of_alone several fun node notMe => ?_
    rw [Function.update_of_ne notMe, Function.update_self]
    exact (ok.gtx me).unanswered isStage isOwn node notMe
  · refine fun ext => ⟨fun _ => Or.inl, fun _ => Or.inl, ?_,
      fun _ => Or.inl⟩
    intro request isRequest
    rcases List.mem_cons.mp isRequest with isNew | isOld
    · rw [isNew]
      exact Or.inr ⟨isOwn, List.mem_cons_self⟩
    · exact Or.inl isOld

/-- `handle_response` in phase 1. -/
theorem handleStatus
    (ok : VotingOk voting) {response : StatusResponse n}
    (isResponse : response ∈ voting.statusResponses)
    (mine : response.requester = me)
    (isStage : (voting.gtx me).resolverStage = .awaitStatus) :
    VotingOk (handleStatus voting me response) := by
  have recorded := ok.recordStatus isResponse mine
  have elsewhere := (ok.statusResponses response isResponse).1
  unfold Commit.handleStatus
  split
  · next isQuorum =>
      have several : 1 < n := by
        rw [mine] at elsewhere
        have different := Fin.val_ne_of_ne elsewhere
        omega
      refine recorded.propose several ?_
        (ok.acksOk_recordStatus isResponse mine) isQuorum
      rw [Commit.recordStatus, setGtx_gtx_self]
      exact isStage
  · exact recorded

/-! ## Phase 2 of a resolver -/

/-- The responses a resolver goes over in phase 2 are votes. -/
theorem accepted_phase2With
    (ok : VotingOk voting) {response : AcceptResponse n}
    (isResponse : response ∈ voting.acceptResponses)
    (mine : response.requester = me)
    {node : Fin n} (other : node ≠ me) :
    (phase2With voting me response node).proposal = invalidGTxTerm ∨
      (Accepted voting node (phase2With voting me response node).proposal
          (phase2With voting me response node).status ∧
        (phase2With voting me response node).proposal ≤
          voting.promise me) := by
  obtain ⟨_, accepted⟩ := ok.acceptResponses response isResponse
  rw [mine] at accepted
  by_cases isResponder : node = response.responder
  · subst isResponder
    rw [phase2With, Function.update_self]
    exact accepted
  · rw [phase2With, Function.update_of_ne isResponder,
      Function.update_of_ne other]
    exact (ok.gtx me).phase2 node other

theorem phase2With_self
    (ok : VotingOk voting) {response : AcceptResponse n}
    (isResponse : response ∈ voting.acceptResponses)
    (mine : response.requester = me) :
    phase2With voting me response me = (voting.gtx me).state := by
  have elsewhere := (ok.acceptResponses response isResponse).1
  rw [mine] at elsewhere
  rw [phase2With, Function.update_of_ne elsewhere.symm, Function.update_self]

/-- A response that does not decide. -/
theorem recordAccept
    (ok : VotingOk voting) {response : AcceptResponse n}
    (isResponse : response ∈ voting.acceptResponses)
    (mine : response.requester = me)
    (isStage : (voting.gtx me).resolverStage = .awaitAcks)
    (noQuorum : ¬ quorum me (phase2With voting me response)) :
    VotingOk (recordAccept voting me response) := by
  refine ok.setGtx rfl fun ext => ?_
  have same := (ok.gtx me).mono ext fun _ isOld _ => isOld
  refine ⟨same.begun, same.own, same.last, same.phase1, ?_, ?_, ?_⟩
  · intro node other
    exact (ok.accepted_phase2With isResponse mine other).imp_right
      fun ⟨accepted, reached⟩ => ⟨accepted.mono ext, reached⟩
  · exact fun isStatus => by rw [isStage] at isStatus; cases isStatus
  · intro _
    rw [← ok.phase2With_self isResponse mine, Function.update_eq_self]
    exact noQuorum

/-- A quorum of 2a responses: the response that completes it is one to the own
term, and its value is chosen. -/
theorem chosen_of_quorum
    (ok : VotingOk voting) {response : AcceptResponse n}
    (isResponse : response ∈ voting.acceptResponses)
    (mine : response.requester = me)
    (isStage : (voting.gtx me).resolverStage = .awaitAcks)
    (isQuorum : quorum me (phase2With voting me response)) :
    Synod.Chosen voting.votes (voting.promise me)
      (decide (response.status = .preCommitted)) := by
  have own := ok.phase2With_self isResponse mine
  have ownProposal : (phase2With voting me response me).proposal =
      voting.promise me := by
    rw [own]
    rfl
  have isOwn := isQuorum.1
  rw [ownProposal] at isOwn
  -- otherwise the earlier responses were a quorum
  have isTerm : response.acceptedTerm = voting.promise me := by
    by_contra stale
    apply (ok.gtx me).undecided isStage
    refine ⟨by rw [Function.update_self]; exact isOwn, ?_⟩
    refine le_trans isQuorum.2 (Finset.card_le_card ?_)
    intro node isVoter
    obtain ⟨valid, same⟩ := mem_supporters.mp isVoter
    rw [ownProposal] at same
    have isBefore : phase2With voting me response node =
        Function.update (voting.gtx me).phase2Acks me
          (voting.gtx me).state node := by
      apply Function.update_of_ne
      rintro rfl
      rw [phase2With, Function.update_self] at same
      exact stale same
    rw [isBefore] at valid same
    refine mem_supporters.mpr ⟨valid, ?_⟩
    rw [same, Function.update_self]
    rfl
  obtain ⟨_, accepted⟩ := ok.acceptResponses response isResponse
  rw [isTerm] at accepted
  obtain ⟨⟨value, isVote, isStatus⟩, _⟩ :=
    accepted.resolve_left (ne_invalid_of_initial_le (ok.gtx me).begun)
  have isValue : decide (response.status = .preCommitted) = value := by
    rw [Bool.eq_iff_iff, decide_eq_true_iff, isStatus,
      voteStatus_eq_preCommitted]
  rw [isValue]
  refine ⟨supporters me (phase2With voting me response),
    isQuorum.majority, fun node isVoter => ?_⟩
  obtain ⟨valid, same⟩ := mem_supporters.mp isVoter
  by_cases isMe : node = me
  · rw [isMe]
    exact ok.own_vote isVote isOwn
  · rcases ok.accepted_phase2With isResponse mine isMe with
      empty | ⟨⟨other, isOther, _⟩, _⟩
    · exact absurd empty valid
    · rw [same, ownProposal] at isOther
      have sameValue : other = value :=
        ok.consistent.agree _ isOther _ isVote rfl
      rw [← sameValue]
      exact isOther

end VotingOk

end Commit
end Multimaster
