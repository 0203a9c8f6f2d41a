import Multimaster.Election.Defs

/-!
# Two nodes and a referee

The election protocol of a cluster of two nodes in which a node may also get
the grant of a referee for a generation of its own.  A statement sent to the
referee is executed there atomically.  Once its sender has given up on it, it
may still be executed at any later time, or never.

The campaigner of a node is one process: it campaigns, asks the referee and
turns the grant in one after the other.
-/

namespace Multimaster
namespace Referee

open Generation

/-! ## The referee -/

/-- The row of `referee.decision`. -/
structure Decision where
  nodeId : Fin 2
  genNum : ℕ
  deriving DecidableEq

/-- The statements sent to the referee. -/
inductive Sql
  /-- `select referee.request_grant(applicant_id, gen_num)` -/
  | requestGrant (applicantId : Fin 2) (genNum : ℕ)
  /-- `delete from referee.decision where gen_num < full_online_gen_num or
  (node_id = my_node_id and gen_num <= my_last_vote_num)` -/
  | clearGrant (fullOnlineGenNum : ℕ) (myNodeId : Fin 2) (myLastVoteNum : ℕ)
  deriving DecidableEq

/-- `referee.request_grant`: the row it leaves, `none` where it raises. -/
def requestGrant
    (applicantId : Fin 2) (genNum : ℕ) (decision : Option Decision) :
    Option Decision :=
  match decision with
  | none => some ⟨applicantId, genNum⟩
  | some row =>
      if row.nodeId = applicantId ∧ row.genNum < genNum then
        some ⟨applicantId, genNum⟩
      else none

/-- The rows the `delete` of `RefereeClearGrant` is for. -/
def Clears
    (fullOnlineGenNum : ℕ) (myNodeId : Fin 2) (myLastVoteNum : ℕ)
    (row : Decision) : Prop :=
  row.genNum < fullOnlineGenNum ∨
    (row.nodeId = myNodeId ∧ row.genNum ≤ myLastVoteNum)

instance (fullOnlineGenNum : ℕ) (myNodeId : Fin 2) (myLastVoteNum : ℕ)
    (row : Decision) :
    Decidable (Clears fullOnlineGenNum myNodeId myLastVoteNum row) :=
  inferInstanceAs (Decidable (_ ∨ _))

/-- The table after a statement; a statement that raises leaves it alone. -/
def Sql.table (sql : Sql) (decision : Option Decision) : Option Decision :=
  match sql with
  | .requestGrant applicantId genNum =>
      (Referee.requestGrant applicantId genNum decision).or decision
  | .clearGrant fullOnlineGenNum myNodeId myLastVoteNum =>
      decision.filter fun row =>
        !decide (Clears fullOnlineGenNum myNodeId myLastVoteNum row)

/-! ## The nodes -/

/-- What the campaigner of a node is doing with the referee. -/
inductive Campaigner
  | idle
  /-- In `CampaignReferee`, before the request is sent. -/
  | connecting (candidate : MtmGeneration 2)
  /-- The request is sent. -/
  | requesting (candidate : MtmGeneration 2)
  /-- The request was granted as the grant of number `time`. -/
  | granted (candidate : MtmGeneration 2) (time : ℕ)
  /-- The request failed. -/
  | refused
  /-- In `RefereeClearGrant`, with the `delete` sent. -/
  | clearing (fullOnlineGenNum myLastVoteNum : ℕ)
  /-- The `delete` was executed. -/
  | cleared (fullOnlineGenNum : ℕ)
  deriving DecidableEq

/-- The statement whose result the campaigner of a node waits for. -/
def Campaigner.statement (me : Fin 2) : Campaigner → Option Sql
  | .requesting candidate => some (.requestGrant me candidate.num)
  | .clearing fullOnlineGenNum myLastVoteNum =>
      some (.clearGrant fullOnlineGenNum me myLastVoteNum)
  | _ => none

/-- What `RefereeClearGrant` decides before it connects to the referee. -/
inductive ClearDecision
  /-- Not online in the full generation; forget about it. -/
  | forget
  /-- The other node is not online in it yet. -/
  | wait
  | clear (fullOnlineGenNum myLastVoteNum : ℕ)
  deriving DecidableEq

/-- The first part of `RefereeClearGrant`. -/
def refereeClearGrant
    (me : Fin 2) (state : MtmStateOnDisk 2)
    (othersLastOnlineIn : Fin 2 → ℕ) : ClearDecision :=
  if state.currentGen.members.card ≠ 2 ∨
      mtmGetCurrentStatusInGen me state ≠ .online then .forget
  else if ∃ other ∈ state.currentGen.members, other ≠ me ∧
      othersLastOnlineIn other < state.lastOnlineIn then .wait
  else .clear state.currentGen.num state.lastVote.num

/-- A grant on which a node got online. -/
structure Grant where
  node : Fin 2
  num : ℕ
  /-- How many grants the referee had issued before. -/
  time : ℕ
  deriving DecidableEq

/-- The two nodes and the referee. -/
structure World where
  cluster : Election.Cluster 2
  campaigner : Fin 2 → Campaigner
  /-- `referee_grant_turn_in_pending` -/
  turnInPending : Fin 2 → ℕ
  othersLastOnlineIn : Fin 2 → Fin 2 → ℕ
  decision : Option Decision
  /-- Statements that are not executed and whose senders do not wait for them
  any more. -/
  abandoned : List Sql
  /-- How many grants the referee has issued. -/
  issued : ℕ
  won : List Grant
  /-- Every generation a node got online in. -/
  online : List (Fin 2 × MtmGeneration 2)

/-- The campaigner of a node stops waiting for the referee. -/
def World.abandon (world : World) (me : Fin 2) : World :=
  { world with
    campaigner := Function.update world.campaigner me .idle
    abandoned :=
      ((world.campaigner me).statement me).toList ++ world.abandoned }

/-- The steps. -/
inductive Action
  | election (action : Election.Action 2)
  /-- `MtmOnDmqReceiverHeartbeat` after its generation switch. -/
  | heartbeat (me other : Fin 2) (lastOnlineIn : ℕ)
  /-- `CampaignReferee` connects and sends its request. -/
  | request (me : Fin 2)
  /-- `RefereeClearGrant`, up to the sending of the `delete`. -/
  | clear (me : Fin 2)
  /-- The referee executes the statement a node waits for. -/
  | execute (me : Fin 2)
  /-- The referee executes a statement nobody waits for. -/
  | executeLate (sql : Sql)
  /-- A statement nobody waits for is lost. -/
  | lose (sql : Sql)
  /-- `CampaignReferee` has its grant and switches the generation. -/
  | switch (me : Fin 2)
  /-- `RefereeClearGrant` has its result. -/
  | finishClear (me : Fin 2)
  /-- Connection or statement failed, or its result is lost. -/
  | fail (me : Fin 2)

/-- The generation the campaigner of a node is about to ask a grant for. -/
def Campaigner.proposed : Campaigner → Option (MtmGeneration 2)
  | .connecting candidate => some candidate
  | _ => none

/-- The campaigner of a node has its grant. -/
def Campaigner.isGranted : Campaigner → Bool
  | .granted _ _ => true
  | _ => false

/-- The campaigner of a node has executed its `delete`. -/
def Campaigner.isCleared : Campaigner → Bool
  | .cleared _ => true
  | _ => false

/-- Which steps can be taken. -/
def Enabled (world : World) : Action → Prop
  | .election action =>
      Election.Enabled world.cluster action ∧
        match action with
        | .campaign me _ => world.campaigner me = .idle
        | _ => True
  | .heartbeat me other lastOnlineIn =>
      other ≠ me ∧ lastOnlineIn ∈ world.cluster.online other
  | .request me => (world.campaigner me).proposed.isSome = true
  | .clear me =>
      world.campaigner me = .idle ∧ world.cluster.tour me = none ∧
        world.turnInPending me ≠ mtmInvalidGenNum
  | .execute me => ((world.campaigner me).statement me).isSome = true
  | .executeLate sql => sql ∈ world.abandoned
  | .lose sql => sql ∈ world.abandoned
  | .switch me => (world.campaigner me).isGranted = true
  | .finishClear me => (world.campaigner me).isCleared = true
  | .fail me => world.campaigner me ≠ .idle

instance (world : World) (action : Action) :
    Decidable (Enabled world action) :=
  match action with
  | .election (.campaign _ _) => inferInstanceAs (Decidable (_ ∧ _ = _))
  | .election (.vote _ _ _ _) => inferInstanceAs (Decidable (_ ∧ True))
  | .election (.gather _ _) => inferInstanceAs (Decidable (_ ∧ True))
  | .election (.count _) => inferInstanceAs (Decidable (_ ∧ True))
  | .election (.finishTour _) => inferInstanceAs (Decidable (_ ∧ True))
  | .election (.learn _ _ _) => inferInstanceAs (Decidable (_ ∧ True))
  | .election (.parallelSafe _ _ _) => inferInstanceAs (Decidable (_ ∧ True))
  | .election (.logParallelSafe _) => inferInstanceAs (Decidable (_ ∧ True))
  | .election (.crash _) => inferInstanceAs (Decidable (_ ∧ True))
  | .heartbeat _ _ _ => inferInstanceAs (Decidable (_ ∧ _))
  | .request _ => inferInstanceAs (Decidable (_ = _))
  | .clear _ => inferInstanceAs (Decidable (_ ∧ _ ∧ _))
  | .execute _ => inferInstanceAs (Decidable (_ = _))
  | .executeLate _ => inferInstanceAs (Decidable (_ ∈ _))
  | .lose _ => inferInstanceAs (Decidable (_ ∈ _))
  | .switch _ => inferInstanceAs (Decidable (_ = _))
  | .finishClear _ => inferInstanceAs (Decidable (_ = _))
  | .fail _ => inferInstanceAs (Decidable (_ ≠ _))

/-- A step of the election protocol, with what it does to the campaigner. -/
def electionEffect (world : World) (action : Election.Action 2) : World :=
  let next := { world with cluster := Election.effect world.cluster action }
  match action with
  | .campaign me env =>
      match (campaignMyself me env (world.cluster.node me)).2 with
      | some campaign =>
          if IsRefereeGen campaign.candidate.members
              campaign.candidate.configured then
            { next with
              campaigner := Function.update world.campaigner me
                (.connecting campaign.candidate) }
          else next
      | none => next
  | .parallelSafe me gen isRecovery =>
      if parallelSafeVerdict me gen isRecovery
          (world.cluster.node me).toMtmStateOnDisk = .getOnline then
        { next with
          turnInPending := Function.update world.turnInPending me gen.num }
      else next
  | .crash me =>
      { next.abandon me with
        -- `CampaignerMain` does not know whether a turn in is required.
        turnInPending := Function.update world.turnInPending me
          (world.cluster.node me).currentGen.num
        othersLastOnlineIn := Function.update world.othersLastOnlineIn me
          fun _ => mtmInvalidGenNum }
  | _ => next

/-- `RefereeClearGrant` up to the sending of its statement. -/
def clear (me : Fin 2) (world : World) : World :=
  match refereeClearGrant me (world.cluster.node me).toMtmStateOnDisk
      (world.othersLastOnlineIn me) with
  | .forget =>
      { world with
        turnInPending :=
          Function.update world.turnInPending me mtmInvalidGenNum }
  | .wait => world
  | .clear fullOnlineGenNum myLastVoteNum =>
      { world with
        campaigner := Function.update world.campaigner me
          (.clearing fullOnlineGenNum myLastVoteNum) }

/-- What the waiting campaigner sees of an executed statement. -/
def Campaigner.answered
    (me : Fin 2) (world : World) : Campaigner → Campaigner
  | .requesting candidate =>
      if (requestGrant me candidate.num world.decision).isSome then
        .granted candidate world.issued
      else .refused
  | .clearing fullOnlineGenNum _ => .cleared fullOnlineGenNum
  | other => other

/-- The referee executes a statement. -/
def World.execute (world : World) (sql : Sql) : World :=
  { world with
    decision := sql.table world.decision
    issued :=
      match sql with
      | .requestGrant applicantId genNum =>
          if (requestGrant applicantId genNum world.decision).isSome then
            world.issued + 1
          else world.issued
      | .clearGrant _ _ _ => world.issued }

/-- `MtmConsiderGenSwitch` at the end of `CampaignReferee`. -/
def switch (me : Fin 2) (world : World) : World :=
  match world.campaigner me with
  | .granted candidate time =>
      let before := world.cluster.node me
      let after := considerGenSwitch me candidate {me} before
      { world with
        cluster :=
          { world.cluster.setNode me after with
            announced :=
              if before.currentGen.num < candidate.num then
                (candidate, {me}) :: world.cluster.announced
              else world.cluster.announced }
        campaigner := Function.update world.campaigner me .idle
        won :=
          if after.lastOnlineIn = before.lastOnlineIn then world.won
          else ⟨me, candidate.num, time⟩ :: world.won }
  | _ => world

/-- The end of `RefereeClearGrant`. -/
def finishClear (me : Fin 2) (world : World) : World :=
  match world.campaigner me with
  | .cleared fullOnlineGenNum =>
      { world with
        campaigner := Function.update world.campaigner me .idle
        turnInPending :=
          if world.turnInPending me ≤ fullOnlineGenNum then
            Function.update world.turnInPending me mtmInvalidGenNum
          else world.turnInPending }
  | _ => world

/-- A failed connection or statement.  A request that failed may have been
granted, so it is remembered to be turned in. -/
def fail (me : Fin 2) (world : World) : World :=
  match world.campaigner me with
  | .requesting _ | .granted _ _ | .refused =>
      { world.abandon me with
        turnInPending := Function.update world.turnInPending me
          (world.cluster.node me).currentGen.num }
  | _ => world.abandon me

/-- The state after a step, the record of the generations apart. -/
def step (world : World) : Action → World
  | .election action => electionEffect world action
  | .heartbeat me other lastOnlineIn =>
      { world with
        othersLastOnlineIn := Function.update world.othersLastOnlineIn me
          (Function.update (world.othersLastOnlineIn me) other lastOnlineIn) }
  | .request me =>
      match world.campaigner me with
      | .connecting candidate =>
          { world with
            campaigner := Function.update world.campaigner me
              (.requesting candidate) }
      | _ => world
  | .clear me => clear me world
  | .execute me =>
      match (world.campaigner me).statement me with
      | some sql =>
          { world.execute sql with
            campaigner := Function.update world.campaigner me
              ((world.campaigner me).answered me world) }
      | none => world
  | .executeLate sql =>
      { world.execute sql with abandoned := world.abandoned.erase sql }
  | .lose sql => { world with abandoned := world.abandoned.erase sql }
  | .switch me => switch me world
  | .finishClear me => finishClear me world
  | .fail me => fail me world

/-- The generations nodes got online in by a step. -/
def newOnline (before after : Election.Cluster 2) :
    List (Fin 2 × MtmGeneration 2) :=
  (List.finRange 2).filterMap fun me =>
    if (after.node me).lastOnlineIn = (before.node me).lastOnlineIn then none
    else some (me, (after.node me).currentGen)

/-- The state after a step. -/
def effect (world : World) (action : Action) : World :=
  let next := step world action
  { next with online := newOnline world.cluster next.cluster ++ world.online }

/-- Two nodes online in the first generation and a referee that has granted
nothing. -/
def initialWorld : World where
  cluster := Election.initialCluster 2
  campaigner := fun _ => .idle
  turnInPending := fun _ => mtmInvalidGenNum
  othersLastOnlineIn := fun _ _ => mtmInvalidGenNum
  decision := none
  abandoned := []
  issued := 0
  won := []
  online := [(0, initialGen 2), (1, initialGen 2)]

/-- The machine of two nodes and a referee. -/
def machine : Machine World Action where
  init := initialWorld
  Enabled := Enabled
  effect := effect

instance (world : World) (action : Action) :
    Decidable (machine.Enabled world action) :=
  inferInstanceAs (Decidable (Enabled world action))

/-- The statement deletes a grant of the node for the number. -/
def Sql.Covers (me : Fin 2) (num : ℕ) : Sql → Prop
  | .requestGrant _ _ => False
  | .clearGrant _ myNodeId myLastVoteNum => myNodeId = me ∧ num ≤ myLastVoteNum

instance (me : Fin 2) (num : ℕ) (sql : Sql) : Decidable (sql.Covers me num) :=
  match sql with
  | .requestGrant _ _ => inferInstanceAs (Decidable False)
  | .clearGrant _ _ _ => inferInstanceAs (Decidable (_ ∧ _))

/-- When a node asks for a grant, no `delete` of its own that covers the number
is still to be executed. -/
def UnclearedRequest (world : World) : Action → Prop
  | .request me =>
      ∀ sql ∈ world.abandoned, ∀ candidate ∈ (world.campaigner me).proposed,
        ¬ sql.Covers me candidate.num
  | _ => True

instance (world : World) (action : Action) :
    Decidable (UnclearedRequest world action) :=
  match action with
  | .request _ => inferInstanceAs (Decidable (∀ _ ∈ _, ∀ _ ∈ _, _))
  | .election _ => inferInstanceAs (Decidable True)
  | .heartbeat _ _ _ => inferInstanceAs (Decidable True)
  | .clear _ => inferInstanceAs (Decidable True)
  | .execute _ => inferInstanceAs (Decidable True)
  | .executeLate _ => inferInstanceAs (Decidable True)
  | .lose _ => inferInstanceAs (Decidable True)
  | .switch _ => inferInstanceAs (Decidable True)
  | .finishClear _ => inferInstanceAs (Decidable True)
  | .fail _ => inferInstanceAs (Decidable True)

end Referee
end Multimaster
