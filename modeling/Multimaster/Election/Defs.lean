import Multimaster.Lib.Machine
import Multimaster.Generation.Vote
import Mathlib.Logic.Function.Basic

/-!
# The election protocol of a cluster

All nodes of a fixed configured set, their campaigns, votes and generation
switches.  Messages stay in the network once sent, so they may be delivered
late, any number of times or never.  Generation switches learned from others
(heartbeats, vote responses, `ParallelSafe` records) are switches to some pair
that was current on a node before.

Every action is one critical section of the source; the statement level of a
single node is treated in `Multimaster.Node`.
-/

namespace Multimaster
namespace Election

open Generation

/-- A granted vote with the `last_online_in` reported for it; the vote of a
proposer for itself is one too. -/
structure Vote (n : ℕ) where
  voter : Fin n
  gen : MtmGeneration n
  lastOnlineIn : ℕ
  deriving DecidableEq

/-- A vote response on its way.  The request is not part of the message: the
body carries only its number. -/
structure Response (n : ℕ) where
  voter : Fin n
  proposer : Fin n
  request : MtmGeneration n
  body : MtmGenVoteResponse n
  deriving DecidableEq

/-- A campaigner in `CampaignTour`. -/
structure Tour (n : ℕ) where
  campaign : Campaign n
  /-- The responses gathered so far, in order of arrival. -/
  messages : List (Fin n × MtmGenVoteResponse n)
  /-- Whether the votes have been counted. -/
  counted : Bool
  deriving DecidableEq

/-- The tally of a tour. -/
def Tour.tally (me : Fin n) (tour : Tour n) : Tally n :=
  tallyResponses me tour.campaign tour.messages

/-- The state of the election protocol. -/
structure Cluster (n : ℕ) where
  node : Fin n → MtmState n
  tour : Fin n → Option (Tour n)
  /-- Vote requests sent so far, each with its proposer. -/
  requests : List (Fin n × MtmGeneration n)
  /-- Vote responses sent so far. -/
  responses : List (Response n)
  /-- All votes ever granted. -/
  votes : List (Vote n)
  /-- All generations won in `CampaignTour`, with their donors. -/
  elected : List (MtmGeneration n × NodeMask n)
  /-- All pairs that ever were the current generation and donors of a node. -/
  announced : List (MtmGeneration n × NodeMask n)
  /-- For every node, the values its `last_online_in` ever had. -/
  online : Fin n → List ℕ

/-- The actions of the protocol. -/
inductive Action (n : ℕ)
  /-- `CampaignMyself` on a node whose campaigner is idle, and the scatter of
  the request. -/
  | campaign (me : Fin n) (env : CampaignEnv n)
  /-- `HandleGenVoteRequest`. -/
  | vote
      (me : Fin n) (env : VoteEnv n) (proposer : Fin n)
      (request : MtmGeneration n)
  /-- The campaigner gathers a response. -/
  | gather (me : Fin n) (response : Response n)
  /-- `CampaignTour` counts the votes and switches if it won. -/
  | count (me : Fin n)
  /-- The end of `CampaignTour`. -/
  | finishTour (me : Fin n)
  /-- `MtmConsiderGenSwitch` to a generation learned from elsewhere. -/
  | learn (me : Fin n) (gen : MtmGeneration n) (donors : NodeMask n)
  /-- `MtmHandleParallelSafe` after its generation switch. -/
  | parallelSafe (me : Fin n) (gen : MtmGeneration n) (isRecovery : Bool)
  /-- The flushed `ParallelSafe` record of a node that got online. -/
  | logParallelSafe (me : Fin n)
  /-- Crash and `MtmStateStartup`; the campaign in progress is lost. -/
  | crash (me : Fin n)

/-- Replace the state of a node, remembering a new `last_online_in`. -/
def Cluster.setNode
    (cluster : Cluster n) (me : Fin n) (state : MtmState n) : Cluster n :=
  { cluster with
    node := Function.update cluster.node me state
    online := Function.update cluster.online me
      (if state.lastOnlineIn = (cluster.node me).lastOnlineIn then
        cluster.online me
      else state.lastOnlineIn :: cluster.online me) }

/-- A response may be gathered: it is addressed to the node, passes
`CampaignerGatherHook`, and is the first one from a member of the cohort. -/
def CanGather (me : Fin n) (tour : Tour n) (response : Response n) : Prop :=
  response.proposer = me ∧
    response.body.genNum = tour.campaign.candidate.num ∧
    response.voter ∈ tour.campaign.cohort ∧
    ∀ message ∈ tour.messages, message.1 ≠ response.voter

instance (me : Fin n) (tour : Tour n) (response : Response n) :
    Decidable (CanGather me tour response) :=
  inferInstanceAs (Decidable (_ ∧ _ ∧ _ ∧ _))

/-- Whether an action can be taken. -/
def Enabled (cluster : Cluster n) : Action n → Prop
  | .campaign me _ => cluster.tour me = none
  | .vote me _ proposer request =>
      me ≠ proposer ∧ (proposer, request) ∈ cluster.requests
  | .gather me response =>
      response ∈ cluster.responses ∧
        (cluster.tour me).any (fun tour =>
          !tour.counted && decide (CanGather me tour response)) = true
  | .count me => (cluster.tour me).any (fun tour => !tour.counted) = true
  | .finishTour me => (cluster.tour me).any (fun tour => tour.counted) = true
  | .learn _ gen donors => (gen, donors) ∈ cluster.announced
  | .parallelSafe _ _ _ => True
  | .logParallelSafe me =>
      (cluster.node me).lastOnlineIn = (cluster.node me).currentGen.num ∧
        (cluster.node me).psLogged = false
  | .crash _ => True

instance (cluster : Cluster n) (action : Action n) :
    Decidable (Enabled cluster action) :=
  match action with
  | .campaign _ _ => inferInstanceAs (Decidable (_ = _))
  | .vote _ _ _ _ => inferInstanceAs (Decidable (_ ∧ _))
  | .gather _ _ => inferInstanceAs (Decidable (_ ∧ _))
  | .count _ => inferInstanceAs (Decidable (_ = _))
  | .finishTour _ => inferInstanceAs (Decidable (_ = _))
  | .learn _ _ _ => inferInstanceAs (Decidable (_ ∈ _))
  | .parallelSafe _ _ _ => inferInstanceAs (Decidable True)
  | .logParallelSafe _ => inferInstanceAs (Decidable (_ ∧ _))
  | .crash _ => inferInstanceAs (Decidable True)

/-- `CampaignMyself`, and the start of `CampaignTour` unless the candidate
generation needs the referee. -/
def campaign
    (me : Fin n) (env : CampaignEnv n) (cluster : Cluster n) : Cluster n :=
  let result := campaignMyself me env (cluster.node me)
  let voted := cluster.setNode me result.1
  match result.2 with
  | none => voted
  | some campaign =>
      if IsRefereeGen campaign.candidate.members
          campaign.candidate.configured then voted
      else
        { voted with
          tour := Function.update cluster.tour me
            (some { campaign := campaign, messages := [], counted := false })
          requests := (me, campaign.candidate) :: cluster.requests
          votes :=
            { voter := me
              gen := campaign.candidate
              lastOnlineIn := campaign.myLastOnlineIn } :: cluster.votes }

/-- `HandleGenVoteRequest` and the sending of its response. -/
def vote
    (me : Fin n) (env : VoteEnv n) (proposer : Fin n)
    (request : MtmGeneration n) (cluster : Cluster n) : Cluster n :=
  let answer := handleGenVoteRequest me env proposer request (cluster.node me)
  { cluster.setNode me answer.1 with
    responses :=
      { voter := me
        proposer := proposer
        request := request
        body := answer.2 } :: cluster.responses
    votes :=
      if answer.2.voteOk then
        { voter := me
          gen := request
          lastOnlineIn := answer.2.lastOnlineIn } :: cluster.votes
      else cluster.votes }

/-- The gathering of one response. -/
def gather
    (me : Fin n) (response : Response n) (cluster : Cluster n) : Cluster n :=
  match cluster.tour me with
  | some tour =>
      { cluster with
        tour := Function.update cluster.tour me
          (some { tour with
            messages := tour.messages ++ [(response.voter, response.body)] }) }
  | none => cluster

/-- The end of the loop of `CampaignTour`. -/
def count (me : Fin n) (cluster : Cluster n) : Cluster n :=
  match cluster.tour me with
  | some tour =>
      let tally := tour.tally me
      let candidate := tour.campaign.candidate
      let counted :=
        { cluster with
          tour := Function.update cluster.tour me
            (some { tour with counted := true }) }
      if Victory tally then
        let switched :=
          considerGenSwitch me candidate tally.donors (cluster.node me)
        { counted.setNode me switched with
          elected := (candidate, tally.donors) :: cluster.elected
          announced :=
            if (cluster.node me).currentGen.num < candidate.num then
              (candidate, tally.donors) :: cluster.announced
            else cluster.announced }
      else counted
  | none => cluster

/-- The bump of the vote at the end of `CampaignTour`. -/
def finishTour (me : Fin n) (cluster : Cluster n) : Cluster n :=
  match cluster.tour me with
  | some tour =>
      { cluster.setNode me
          (bumpLastVote (tour.tally me).maxLastVoteNum (cluster.node me)) with
        tour := Function.update cluster.tour me none }
  | none => cluster

/-- The state after an action. -/
def effect (cluster : Cluster n) : Action n → Cluster n
  | .campaign me env => campaign me env cluster
  | .vote me env proposer request => vote me env proposer request cluster
  | .gather me response => gather me response cluster
  | .count me => count me cluster
  | .finishTour me => finishTour me cluster
  | .learn me gen donors =>
      cluster.setNode me
        (considerGenSwitch me gen donors (cluster.node me))
  | .parallelSafe me gen isRecovery =>
      cluster.setNode me
        (parallelSafe me gen isRecovery (cluster.node me))
  | .logParallelSafe me =>
      cluster.setNode me (logParallelSafe (cluster.node me))
  | .crash me =>
      { cluster.setNode me
          (mtmStateLoad me (cluster.node me).toMtmStateOnDisk) with
        tour := Function.update cluster.tour me none }

/-- A new cluster: all nodes have loaded the state of `mtm_state_create`. -/
def initialCluster (n : ℕ) : Cluster n where
  node := fun me => mtmStateLoad me (mtmStateCreate n)
  tour := fun _ => none
  requests := []
  responses := []
  votes := []
  elected := []
  announced := [(initialGen n, Finset.univ)]
  online := fun _ => [1]

/-- The machine of the election protocol. -/
def machine (n : ℕ) : Machine (Cluster n) (Action n) where
  init := initialCluster n
  Enabled := Enabled
  effect := effect

instance (cluster : Cluster n) (action : Action n) :
    Decidable ((machine n).Enabled cluster action) :=
  inferInstanceAs (Decidable (Enabled cluster action))

/-! ## Projections of `setNode` -/

@[simp] theorem setNode_node_self
    (cluster : Cluster n) (me : Fin n) (state : MtmState n) :
    (cluster.setNode me state).node me = state := by
  simp [Cluster.setNode]

theorem setNode_node_ne
    (cluster : Cluster n) (state : MtmState n)
    {me other : Fin n} (different : other ≠ me) :
    (cluster.setNode me state).node other = cluster.node other := by
  simp [Cluster.setNode, different]

@[simp] theorem setNode_tour
    (cluster : Cluster n) (me : Fin n) (state : MtmState n) :
    (cluster.setNode me state).tour = cluster.tour := rfl

@[simp] theorem setNode_requests
    (cluster : Cluster n) (me : Fin n) (state : MtmState n) :
    (cluster.setNode me state).requests = cluster.requests := rfl

@[simp] theorem setNode_responses
    (cluster : Cluster n) (me : Fin n) (state : MtmState n) :
    (cluster.setNode me state).responses = cluster.responses := rfl

@[simp] theorem setNode_votes
    (cluster : Cluster n) (me : Fin n) (state : MtmState n) :
    (cluster.setNode me state).votes = cluster.votes := rfl

@[simp] theorem setNode_elected
    (cluster : Cluster n) (me : Fin n) (state : MtmState n) :
    (cluster.setNode me state).elected = cluster.elected := rfl

@[simp] theorem setNode_announced
    (cluster : Cluster n) (me : Fin n) (state : MtmState n) :
    (cluster.setNode me state).announced = cluster.announced := rfl

theorem mem_setNode_online
    {cluster : Cluster n} {me : Fin n} {state : MtmState n}
    {other : Fin n} {num : ℕ} :
    num ∈ (cluster.setNode me state).online other ↔
      num ∈ cluster.online other ∨
        (other = me ∧ num = state.lastOnlineIn ∧
          state.lastOnlineIn ≠ (cluster.node me).lastOnlineIn) := by
  by_cases same : other = me
  · subst same
    by_cases unchanged :
        state.lastOnlineIn = (cluster.node other).lastOnlineIn
    · simp [Cluster.setNode, unchanged]
    · simp [Cluster.setNode, unchanged, or_comm]
  · simp [Cluster.setNode, same]

end Election
end Multimaster
