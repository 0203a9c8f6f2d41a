import Multimaster.Gtx.Basic
import Multimaster.Lib.Synod
import Multimaster.Generation.Basic

/-!
# Voting about a transaction

The Paxos part of the commit protocol for one transaction: its voting state on
every node, the messages between resolvers and repliers, and the decision of a
resolver.  The functions are the parts of `handle_1a_gtx`, `handle_2a`,
`scatter_status_requests` and `handle_response` that do not touch the WAL.
-/

namespace Multimaster
namespace Commit

open Generation Gtx

/-- `GlobalTx`: the durable voting state and the part in shared memory. -/
structure GlobalTx (n : ℕ) where
  state : GTxState
  orphaned : Bool
  resolverStage : GlobalTxResolvingStage
  phase1Acks : Fin n → GTxState
  phase2Acks : Fin n → GTxState

/-- A transaction as created by `GlobalTxAcquire`. -/
def GlobalTx.created (n : ℕ) : GlobalTx n where
  state := .created
  orphaned := false
  resolverStage := .awaitStatus
  phase1Acks := fun _ => .empty
  phase2Acks := fun _ => .empty

/-- `GlobalTxLoadAll`: only the voting state survives a restart. -/
def GlobalTx.load (gtx : GlobalTx n) : GlobalTx n :=
  { GlobalTx.created n with state := gtx.state, orphaned := true }

/-- `MtmTxStatusResponse`. -/
structure StatusResponse (n : ℕ) where
  responder : Fin n
  requester : Fin n
  state : GTxState
  deriving DecidableEq

/-- `MtmTxRequest` of type `MTReq_Precommit` or `MTReq_Preabort`. -/
structure AcceptRequest (n : ℕ) where
  requester : Fin n
  term : GlobalTxTerm
  precommit : Bool
  deriving DecidableEq

/-- `Mtm2AResponse` to a resolver. -/
structure AcceptResponse (n : ℕ) where
  responder : Fin n
  requester : Fin n
  acceptedTerm : GlobalTxTerm
  status : GlobalTxStatus
  deriving DecidableEq

/-- A vote for the transaction; the value says whether it is for commit. -/
abbrev Vote (n : ℕ) := Synod.Vote (Fin n) GlobalTxTerm Bool

/-- The voting about the transaction.  Messages stay in the network once
sent. -/
structure Voting (n : ℕ) where
  gtx : Fin n → GlobalTx n
  /-- All votes ever given. -/
  votes : List (Vote n)
  /-- The terms for which nodes have sent status requests. -/
  statusRequests : List (Fin n × GlobalTxTerm)
  statusResponses : List (StatusResponse n)
  acceptRequests : List (AcceptRequest n)
  acceptResponses : List (AcceptResponse n)

/-- The transaction before any voting. -/
def Voting.initial (n : ℕ) : Voting n where
  gtx := fun _ => GlobalTx.created n
  votes := []
  statusRequests := []
  statusResponses := []
  acceptRequests := []
  acceptResponses := []

/-- The term a node has joined; it does not vote in lower ones. -/
def Voting.promise (voting : Voting n) (me : Fin n) : GlobalTxTerm :=
  (voting.gtx me).state.proposal

/-! ## Quorums and decisions -/

/-- The identifier of a node in terms; `0` is none. -/
def nodeId (me : Fin n) : ℕ := me.val + 1

/-- The nodes whose state has the proposal of this node. -/
def supporters (me : Fin n) (states : Fin n → GTxState) : Finset (Fin n) :=
  Finset.univ.filter fun node =>
    (states node).proposal ≠ invalidGTxTerm ∧
      (states node).proposal = (states me).proposal

/-- `quorum`: a majority of the states has the proposal of this node, which
must be one of its own. -/
def quorum (me : Fin n) (states : Fin n → GTxState) : Prop :=
  (states me).proposal.nodeId = nodeId me ∧
    Quorum n (supporters me states).card

theorem mem_supporters {me node : Fin n} {states : Fin n → GTxState} :
    node ∈ supporters me states ↔
      (states node).proposal ≠ invalidGTxTerm ∧
        (states node).proposal = (states me).proposal := by
  simp [supporters]

theorem quorum.majority {me : Fin n} {states : Fin n → GTxState}
    (isQuorum : quorum me states) : IsMajority (supporters me states) := by
  rw [IsMajority, Fintype.card_fin]
  exact isQuorum.2

instance (me : Fin n) (states : Fin n → GTxState) :
    Decidable (quorum me states) :=
  inferInstanceAs (Decidable (_ ∧ _))

/-- The highest term of the votes collected in phase 1. -/
def maxAccepted
    (own : GlobalTxTerm) (states : Fin n → GTxState) : GlobalTxTerm :=
  (List.finRange n).foldl (fun highest node =>
    if (states node).proposal ≠ invalidGTxTerm ∧
        highest < (states node).accepted then (states node).accepted
    else highest) own

/-- The decision of the resolver: that of the last state with the highest
term. -/
def decision
    (highest : GlobalTxTerm) (states : Fin n → GTxState) : GlobalTxStatus :=
  (List.finRange n).foldl (fun decided node =>
    if (states node).proposal ≠ invalidGTxTerm ∧
        (states node).accepted = highest then
      if (states node).status = .preCommitted then .preCommitted
      else .preAborted
    else decided) .invalid

/-- The status of a vote. -/
def voteStatus (precommit : Bool) : GlobalTxStatus :=
  if precommit then .preCommitted else .preAborted

theorem voteStatus_eq_preCommitted {value : Bool} :
    voteStatus value = .preCommitted ↔ value = true := by
  cases value <;> simp [voteStatus]

/-! ## Steps -/

/-- Replace the state of the transaction on a node. -/
def Voting.setGtx
    (voting : Voting n) (me : Fin n) (gtx : GlobalTx n) : Voting n :=
  { voting with gtx := Function.update voting.gtx me gtx }

/-- The state of a node that votes in a term. -/
def GlobalTx.accept
    (gtx : GlobalTx n) (term : GlobalTxTerm) (precommit : Bool) :
    GlobalTx n :=
  { gtx with
    state :=
      { proposal := term
        accepted := term
        status := voteStatus precommit } }

/-- The state of a node that joins a term. -/
def GlobalTx.join (gtx : GlobalTx n) (term : GlobalTxTerm) : GlobalTx n :=
  { gtx with state := { gtx.state with proposal := term } }

/-- A node votes. -/
def Voting.vote
    (voting : Voting n) (me : Fin n) (term : GlobalTxTerm)
    (precommit : Bool) : Voting n :=
  { voting.setGtx me ((voting.gtx me).accept term precommit) with
    votes := ⟨me, term, precommit⟩ :: voting.votes }

/-- A status response is sent. -/
def Voting.respond
    (voting : Voting n) (me requester : Fin n) (state : GTxState) :
    Voting n :=
  { voting with
    statusResponses :=
      { responder := me, requester := requester, state := state } ::
        voting.statusResponses }

/-- `handle_1a_gtx`: join the term and report the state, or refuse. -/
def handle1aGtx
    (voting : Voting n) (me requester : Fin n) (term : GlobalTxTerm) :
    Voting n :=
  if (voting.gtx me).state.proposal < term then
    let joined := (voting.gtx me).join term
    (voting.setGtx me joined).respond me requester joined.state
  else voting.respond me requester .empty

/-- The reply of `handle_2a` without a vote. -/
def refuse2a
    (voting : Voting n) (me : Fin n) (request : AcceptRequest n) :
    Voting n :=
  { voting with
    acceptResponses :=
      { responder := me
        requester := request.requester
        acceptedTerm := invalidGTxTerm
        status := .invalid } :: voting.acceptResponses }

/-- `handle_2a` for a prepared transaction. -/
def handle2a
    (voting : Voting n) (me : Fin n) (request : AcceptRequest n) :
    Voting n :=
  if (voting.gtx me).state.proposal ≤ request.term then
    { voting.vote me request.term request.precommit with
      acceptResponses :=
        { responder := me
          requester := request.requester
          acceptedTerm := request.term
          status := voteStatus request.precommit } ::
          voting.acceptResponses }
  else refuse2a voting me request

/-- `scatter_status_requests` for the transaction. -/
def scatter
    (voting : Voting n) (me : Fin n) (term : GlobalTxTerm) : Voting n :=
  { voting.setGtx me
      { (voting.gtx me).join term with resolverStage := .awaitStatus } with
    statusRequests := (me, term) :: voting.statusRequests }

/-- The votes of phase 1 with one more response. -/
def phase1With
    (voting : Voting n) (me : Fin n) (response : StatusResponse n) :
    Fin n → GTxState :=
  Function.update
    (Function.update (voting.gtx me).phase1Acks me (voting.gtx me).state)
    response.responder response.state

/-- The response is recorded in `phase1_acks`. -/
def recordStatus
    (voting : Voting n) (me : Fin n) (response : StatusResponse n) :
    Voting n :=
  voting.setGtx me
    { voting.gtx me with phase1Acks := phase1With voting me response }

/-- The vote of a resolver with a quorum in phase 1, and its 2a message. -/
def propose
    (voting : Voting n) (me : Fin n) (acks : Fin n → GTxState) : Voting n :=
  let state := (voting.gtx me).state
  let precommit := decide
    (decision (maxAccepted state.accepted acks) acks = .preCommitted)
  let voted := voting.vote me state.proposal precommit
  { voted.setGtx me { voted.gtx me with resolverStage := .awaitAcks } with
    acceptRequests :=
      { requester := me, term := state.proposal, precommit := precommit } ::
        voting.acceptRequests }

/-- `handle_response` to a status response without an outcome, in the stage
`GTRS_AwaitStatus`. -/
def handleStatus
    (voting : Voting n) (me : Fin n) (response : StatusResponse n) :
    Voting n :=
  if quorum me (phase1With voting me response) then
    propose (recordStatus voting me response) me
      (phase1With voting me response)
  else recordStatus voting me response

/-- The votes of phase 2 with one more response. -/
def phase2With
    (voting : Voting n) (me : Fin n) (response : AcceptResponse n) :
    Fin n → GTxState :=
  Function.update
    (Function.update (voting.gtx me).phase2Acks me (voting.gtx me).state)
    response.responder
    { proposal := response.acceptedTerm
      accepted := response.acceptedTerm
      status := response.status }

/-- The response is recorded in `phase2_acks`. -/
def recordAccept
    (voting : Voting n) (me : Fin n) (response : AcceptResponse n) :
    Voting n :=
  voting.setGtx me
    { voting.gtx me with phase2Acks := phase2With voting me response }

/-! ## What a decision means -/

/-- The highest term is that of the node itself or of a state it has. -/
theorem maxAccepted_spec
    (own : GlobalTxTerm) (states : Fin n → GTxState) :
    own ≤ maxAccepted own states ∧
      (∀ node, (states node).proposal ≠ invalidGTxTerm →
        (states node).accepted ≤ maxAccepted own states) ∧
      (maxAccepted own states = own ∨ ∃ node,
        (states node).proposal ≠ invalidGTxTerm ∧
          (states node).accepted = maxAccepted own states) := by
  have general : ∀ (nodes : List (Fin n)) (start : GlobalTxTerm),
      start ≤ nodes.foldl (fun highest node =>
          if (states node).proposal ≠ invalidGTxTerm ∧
            highest < (states node).accepted then (states node).accepted
          else highest) start ∧
      (∀ node ∈ nodes, (states node).proposal ≠ invalidGTxTerm →
        (states node).accepted ≤ nodes.foldl (fun highest node =>
          if (states node).proposal ≠ invalidGTxTerm ∧
            highest < (states node).accepted then (states node).accepted
          else highest) start) ∧
      (nodes.foldl (fun highest node =>
          if (states node).proposal ≠ invalidGTxTerm ∧
            highest < (states node).accepted then (states node).accepted
          else highest) start = start ∨ ∃ node,
        (states node).proposal ≠ invalidGTxTerm ∧
          (states node).accepted = nodes.foldl (fun highest node =>
            if (states node).proposal ≠ invalidGTxTerm ∧
              highest < (states node).accepted then (states node).accepted
            else highest) start) := by
    intro nodes
    induction nodes with
    | nil => exact fun start => ⟨le_refl _, by simp, Or.inl rfl⟩
    | cons node rest inductionHypothesis =>
        intro start
        rw [List.foldl_cons]
        by_cases higher : (states node).proposal ≠ invalidGTxTerm ∧
            start < (states node).accepted
        · rw [if_pos higher]
          obtain ⟨above, covers, source⟩ :=
            inductionHypothesis (states node).accepted
          refine ⟨le_trans higher.2.le above, ?_, Or.inr ?_⟩
          · intro other isOther valid
            rcases List.mem_cons.mp isOther with isHead | inRest
            · rw [isHead]
              exact above
            · exact covers other inRest valid
          · rcases source with same | found
            · exact ⟨node, higher.1, same.symm⟩
            · exact found
        · rw [if_neg higher]
          obtain ⟨above, covers, source⟩ := inductionHypothesis start
          refine ⟨above, ?_, source⟩
          intro other isOther valid
          rcases List.mem_cons.mp isOther with isHead | inRest
          · subst isHead
            rw [not_and, not_lt] at higher
            exact le_trans (higher valid) above
          · exact covers other inRest valid
  obtain ⟨above, covers, source⟩ := general (List.finRange n) own
  exact ⟨above, fun node => covers node (List.mem_finRange node), source⟩

/-- Some state with the highest term decides. -/
theorem decision_spec
    {highest : GlobalTxTerm} {states : Fin n → GTxState}
    (found : ∃ node, (states node).proposal ≠ invalidGTxTerm ∧
      (states node).accepted = highest) :
    ∃ node, (states node).proposal ≠ invalidGTxTerm ∧
      (states node).accepted = highest ∧
      (decision highest states = .preCommitted ↔
        (states node).status = .preCommitted) := by
  -- the decision after some nodes is the initial one or made by one of them
  have general : ∀ (nodes : List (Fin n)) (start : GlobalTxStatus),
      ((∀ node ∈ nodes, ¬ ((states node).proposal ≠ invalidGTxTerm ∧
          (states node).accepted = highest)) ∧
        nodes.foldl (fun decided node =>
          if (states node).proposal ≠ invalidGTxTerm ∧
            (states node).accepted = highest then
            if (states node).status = .preCommitted then .preCommitted
            else .preAborted
          else decided) start = start) ∨
      ∃ node, (states node).proposal ≠ invalidGTxTerm ∧
        (states node).accepted = highest ∧
        (nodes.foldl (fun decided node =>
          if (states node).proposal ≠ invalidGTxTerm ∧
            (states node).accepted = highest then
            if (states node).status = .preCommitted then .preCommitted
            else .preAborted
          else decided) start = .preCommitted ↔
          (states node).status = .preCommitted) := by
    intro nodes
    induction nodes with
    | nil => exact fun start => Or.inl ⟨by simp, rfl⟩
    | cons node rest inductionHypothesis =>
        intro start
        rw [List.foldl_cons]
        by_cases decides : (states node).proposal ≠ invalidGTxTerm ∧
            (states node).accepted = highest
        · rw [if_pos decides]
          rcases inductionHypothesis (if (states node).status = .preCommitted
              then .preCommitted else .preAborted) with
            ⟨_, same⟩ | later
          · refine Or.inr ⟨node, decides.1, decides.2, ?_⟩
            rw [same]
            split
            · next isPrecommit => simp [isPrecommit]
            · next notPrecommit => simp [notPrecommit]
          · exact Or.inr later
        · rw [if_neg decides]
          rcases inductionHypothesis start with ⟨nobody, same⟩ | later
          · refine Or.inl ⟨?_, same⟩
            intro other isOther
            rcases List.mem_cons.mp isOther with isHead | inRest
            · rw [isHead]
              exact decides
            · exact nobody other inRest
          · exact Or.inr later
  rcases general (List.finRange n) .invalid with ⟨nobody, _⟩ | decided
  · obtain ⟨node, isFound⟩ := found
    exact absurd isFound (nobody node (List.mem_finRange node))
  · exact decided

end Commit
end Multimaster
