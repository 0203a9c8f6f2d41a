import Multimaster.Election.Unique

/-!
# Progress of a node in one step

What a step of the election protocol does to the node states, whatever the
action is.  The layers above the protocol use the election machine only through
`Advance` and the invariants.
-/

namespace Multimaster
namespace Election

open Generation

/-- The node that performs an action. -/
def Action.actor : Action n → Fin n
  | .campaign me _ => me
  | .vote me _ _ _ => me
  | .gather me _ => me
  | .count me => me
  | .finishTour me => me
  | .learn me _ _ => me
  | .parallelSafe me _ _ => me
  | .logParallelSafe me => me
  | .crash me => me

/-- The state of the actor after an action. -/
def nodeAfter (cluster : Cluster n) : Action n → MtmState n
  | .campaign me env => (campaignMyself me env (cluster.node me)).1
  | .vote me env proposer request =>
      (handleGenVoteRequest me env proposer request (cluster.node me)).1
  | .gather me _ => cluster.node me
  | .count me =>
      match cluster.tour me with
      | some tour =>
          if Victory (tour.tally me) then
            considerGenSwitch me tour.campaign.candidate
              (tour.tally me).donors (cluster.node me)
          else cluster.node me
      | none => cluster.node me
  | .finishTour me =>
      match cluster.tour me with
      | some tour =>
          bumpLastVote (tour.tally me).maxLastVoteNum (cluster.node me)
      | none => cluster.node me
  | .learn me gen donors => considerGenSwitch me gen donors (cluster.node me)
  | .parallelSafe me gen isRecovery =>
      parallelSafe me gen isRecovery (cluster.node me)
  | .logParallelSafe me => logParallelSafe (cluster.node me)
  | .crash me => mtmStateLoad me (cluster.node me).toMtmStateOnDisk

theorem setNode_self_node (cluster : Cluster n) (me : Fin n) :
    (cluster.setNode me (cluster.node me)).node = cluster.node ∧
      (cluster.setNode me (cluster.node me)).online = cluster.online := by
  constructor <;> simp [Cluster.setNode]

/-- An action replaces the state of its actor. -/
theorem effect_node_online (cluster : Cluster n) (action : Action n) :
    (effect cluster action).node =
        (cluster.setNode action.actor (nodeAfter cluster action)).node ∧
      (effect cluster action).online =
        (cluster.setNode action.actor (nodeAfter cluster action)).online := by
  cases action with
  | campaign me env =>
      change (campaign me env cluster).node = _ ∧
        (campaign me env cluster).online = _
      unfold campaign
      dsimp only [Action.actor, nodeAfter]
      split
      · exact ⟨rfl, rfl⟩
      · split <;> exact ⟨rfl, rfl⟩
  | gather me response =>
      obtain ⟨sameNode, sameOnline⟩ := setNode_self_node cluster me
      change (gather me response cluster).node = _ ∧
        (gather me response cluster).online = _
      dsimp only [Action.actor, nodeAfter]
      rw [sameNode, sameOnline]
      unfold gather
      split <;> exact ⟨rfl, rfl⟩
  | count me =>
      obtain ⟨sameNode, sameOnline⟩ := setNode_self_node cluster me
      dsimp only [Action.actor, nodeAfter, effect]
      cases isTour : cluster.tour me with
      | none =>
          simp only [count, isTour]
          exact ⟨sameNode.symm, sameOnline.symm⟩
      | some tour =>
          by_cases victory : Victory (tour.tally me)
          · simp only [count, isTour, if_pos victory]
            exact ⟨rfl, rfl⟩
          · simp only [count, isTour, if_neg victory]
            exact ⟨sameNode.symm, sameOnline.symm⟩
  | finishTour me =>
      obtain ⟨sameNode, sameOnline⟩ := setNode_self_node cluster me
      dsimp only [Action.actor, nodeAfter, effect]
      cases isTour : cluster.tour me with
      | none =>
          simp only [finishTour, isTour]
          exact ⟨sameNode.symm, sameOnline.symm⟩
      | some tour =>
          rw [finishTour, isTour]
          exact ⟨rfl, rfl⟩
  | vote me env proposer request => exact ⟨rfl, rfl⟩
  | learn me gen donors => exact ⟨rfl, rfl⟩
  | parallelSafe me gen isRecovery => exact ⟨rfl, rfl⟩
  | logParallelSafe me => exact ⟨rfl, rfl⟩
  | crash me => exact ⟨rfl, rfl⟩

theorem effect_node_ne
    (cluster : Cluster n) (action : Action n)
    {other : Fin n} (different : other ≠ action.actor) :
    (effect cluster action).node other = cluster.node other := by
  rw [(effect_node_online cluster action).1]
  exact setNode_node_ne cluster _ different

theorem effect_online_ne
    (cluster : Cluster n) (action : Action n)
    {other : Fin n} (different : other ≠ action.actor) :
    (effect cluster action).online other = cluster.online other := by
  rw [(effect_node_online cluster action).2]
  exact setNode_online_ne cluster _ different

/-- The three kinds of progress: the node keeps its `last_online_in`, gets
online as a donor of an announced generation, or gets online by applying
`ParallelSafe` in recovery. -/
inductive Advance
    (announced : List (MtmGeneration n × NodeMask n)) (me : Fin n)
    (action : Action n) (before after : MtmState n) : Prop
  | offline
      (currentGen : before.currentGen.num ≤ after.currentGen.num)
      (lastVote : before.lastVote.num ≤ after.lastVote.num)
      (lastOnlineIn : after.lastOnlineIn = before.lastOnlineIn)
  | donor (donors : NodeMask n)
      (known : (after.currentGen, donors) ∈ announced)
      (newer : before.currentGen.num < after.currentGen.num)
      (lastVote : before.lastVote.num ≤ after.lastVote.num)
      (unpromised : before.lastVote.num ≤ after.currentGen.num)
      (lastOnlineIn : after.lastOnlineIn = after.currentGen.num)
      (isDonor : me ∈ donors)
  | recovered (gen : MtmGeneration n)
      (applied : action = .parallelSafe me gen true)
      (sameNum : gen.num = before.currentGen.num)
      (currentGen : after.currentGen = before.currentGen)
      (lastVote : after.lastVote = before.lastVote)
      (unpromised : before.lastVote.num = before.currentGen.num)
      (lastOnlineIn : after.lastOnlineIn = before.currentGen.num)

theorem Advance.rfl
    {announced : List (MtmGeneration n × NodeMask n)} {me : Fin n}
    {action : Action n} {state : MtmState n} :
    Advance announced me action state state :=
  .offline (le_refl _) (le_refl _) (Eq.refl _)

/-- A switch to an announced generation is progress. -/
theorem advance_considerGenSwitch
    {announced : List (MtmGeneration n × NodeMask n)} {me : Fin n}
    {action : Action n} {state : MtmState n}
    (gen : MtmGeneration n) (donors : NodeMask n)
    (known : state.currentGen.num < gen.num → (gen, donors) ∈ announced) :
    Advance announced me action state
      (considerGenSwitch me gen donors state) := by
  have outcome := considerGenSwitch_outcome me gen donors state
  have voted : state.lastVote.num ≤
      (voteAfterSwitch state.lastVote gen).num := by
    rw [voteAfterSwitch_num]
    exact le_max_left _ _
  generalize considerGenSwitch me gen donors state = after at outcome ⊢
  cases outcome with
  | skipped stale => exact .rfl
  | idle mode newer => exact .offline newer.le voted rfl
  | online newer member quorum unpromised donor =>
      exact .donor donors (known newer) newer voted unpromised rfl donor

/-- Every action is progress of its actor. -/
theorem advance_nodeAfter
    (cluster : Cluster n) (action : Action n)
    (enabled : Enabled cluster action) :
    Advance (effect cluster action).announced action.actor action
      (cluster.node action.actor) (nodeAfter cluster action) := by
  cases action with
  | campaign me env =>
      have outcome := campaignMyself_outcome me env (cluster.node me)
      dsimp only [Action.actor, nodeAfter]
      generalize campaignMyself me env (cluster.node me) = result
        at outcome ⊢
      cases outcome with
      | declined mode => exact .offline (le_refl _) (le_refl _) rfl
      | reused mode cohort member configured elsewhere different =>
          exact .offline (le_refl _) (le_refl _) rfl
      | voted mode cohort candidate fresh member configured elsewhere =>
          exact .offline (le_refl _) (by dsimp only; omega) rfl
  | vote me env proposer request =>
      have outcome := handleGenVoteRequest_outcome me env proposer request
        (cluster.node me)
      dsimp only [Action.actor, nodeAfter]
      generalize handleGenVoteRequest me env proposer request
        (cluster.node me) = answer at outcome ⊢
      cases outcome with
      | refused response asked refusal reported gossip => exact .rfl
      | confirmed newer already => exact .rfl
      | voted mode newer fresh configured =>
          exact .offline (le_refl _) fresh.le rfl
  | gather me response => exact .rfl
  | count me =>
      dsimp only [Action.actor, nodeAfter, effect]
      cases isTour : cluster.tour me with
      | none => exact .rfl
      | some tour =>
          by_cases victory : Victory (tour.tally me)
          · simp only [count, isTour, if_pos victory]
            refine advance_considerGenSwitch _ _ ?_
            intro newer
            rw [if_pos newer]
            exact List.mem_cons_self
          · simp only [if_neg victory]
            exact .rfl
  | finishTour me =>
      dsimp only [Action.actor, nodeAfter]
      split
      · unfold bumpLastVote
        split
        · next complained =>
            exact .offline (le_refl _) complained.2 rfl
        · exact .rfl
      · exact .rfl
  | learn me gen donors =>
      exact advance_considerGenSwitch gen donors fun _ => enabled
  | parallelSafe me gen isRecovery =>
      dsimp only [Action.actor, nodeAfter]
      rcases parallelSafe_outcome me gen isRecovery (cluster.node me) with
        unchanged | ⟨inRecovery, sameNum, _, _, _, votedHere, changed⟩
      · rw [unchanged]
        exact .rfl
      · rw [changed]
        exact .recovered gen (by rw [inRecovery]) sameNum rfl rfl
          votedHere.symm rfl
  | logParallelSafe me => exact .offline (le_refl _) (le_refl _) rfl
  | crash me => exact .offline (le_refl _) (le_refl _) rfl

/-- Every action is progress of every node. -/
theorem advance_effect
    (cluster : Cluster n) (action : Action n)
    (enabled : Enabled cluster action) (me : Fin n) :
    Advance (effect cluster action).announced me action
      (cluster.node me) ((effect cluster action).node me) := by
  by_cases isActor : me = action.actor
  · subst isActor
    rw [(effect_node_online cluster action).1, setNode_node_self]
    exact advance_nodeAfter cluster action enabled
  · rw [effect_node_ne cluster action isActor]
    exact .rfl

/-- The values of `last_online_in` after an action. -/
theorem mem_effect_online
    {cluster : Cluster n} {action : Action n} {me : Fin n} {num : ℕ} :
    num ∈ (effect cluster action).online me ↔
      num ∈ cluster.online me ∨
        (num = ((effect cluster action).node me).lastOnlineIn ∧
          ((effect cluster action).node me).lastOnlineIn ≠
            (cluster.node me).lastOnlineIn) := by
  by_cases isActor : me = action.actor
  · subst isActor
    rw [(effect_node_online cluster action).1,
      (effect_node_online cluster action).2, setNode_node_self,
      setNode_online_self, mem_onlineAfter]
  · rw [effect_node_ne cluster action isActor,
      effect_online_ne cluster action isActor]
    simp

namespace Advance

variable {announced : List (MtmGeneration n × NodeMask n)} {me : Fin n}
variable {action : Action n} {before after : MtmState n}

theorem currentGen_le
    (advance : Advance announced me action before after) :
    before.currentGen.num ≤ after.currentGen.num := by
  cases advance with
  | offline currentGen lastVote lastOnlineIn => exact currentGen
  | donor donors known newer lastVote unpromised lastOnlineIn isDonor =>
      exact newer.le
  | recovered gen applied sameNum currentGen lastVote unpromised
      lastOnlineIn => rw [currentGen]

theorem lastVote_le
    (advance : Advance announced me action before after) :
    before.lastVote.num ≤ after.lastVote.num := by
  cases advance with
  | offline currentGen lastVote lastOnlineIn => exact lastVote
  | donor donors known newer lastVote unpromised lastOnlineIn isDonor =>
      exact lastVote
  | recovered gen applied sameNum currentGen lastVote unpromised
      lastOnlineIn => rw [lastVote]

/-- A node gets online only in a generation that is not below its vote. -/
theorem unpromised
    (advance : Advance announced me action before after) :
    after.lastOnlineIn = before.lastOnlineIn ∨
      before.lastVote.num ≤ after.lastOnlineIn := by
  cases advance with
  | offline currentGen lastVote lastOnlineIn => exact Or.inl lastOnlineIn
  | donor donors known newer lastVote unpromised lastOnlineIn isDonor =>
      rw [lastOnlineIn]
      exact Or.inr unpromised
  | recovered gen applied sameNum currentGen lastVote unpromised
      lastOnlineIn =>
      rw [lastOnlineIn]
      exact Or.inr unpromised.le

end Advance

/-- Votes are not granted in the steps that move a node to another
generation. -/
theorem effect_votes_of_newer
    {cluster : Cluster n} {action : Action n} {me : Fin n}
    (newer : (cluster.node me).currentGen.num <
      ((effect cluster action).node me).currentGen.num) :
    (effect cluster action).votes = cluster.votes := by
  have isActor : me = action.actor := by
    by_contra different
    rw [effect_node_ne cluster action different] at newer
    exact lt_irrefl _ newer
  subst isActor
  rw [(effect_node_online cluster action).1, setNode_node_self] at newer
  cases action with
  | campaign me env =>
      have outcome := campaignMyself_outcome me env (cluster.node me)
      dsimp only [Action.actor, nodeAfter] at newer
      generalize campaignMyself me env (cluster.node me) = result
        at outcome newer
      cases outcome <;> exact absurd newer (lt_irrefl _)
  | vote me env proposer request =>
      have outcome := handleGenVoteRequest_outcome me env proposer request
        (cluster.node me)
      dsimp only [Action.actor, nodeAfter] at newer
      generalize handleGenVoteRequest me env proposer request
        (cluster.node me) = answer at outcome newer
      cases outcome <;> exact absurd newer (lt_irrefl _)
  | gather me response =>
      change (gather me response cluster).votes = _
      unfold gather
      split <;> rfl
  | count me =>
      change (count me cluster).votes = _
      unfold count
      split
      · dsimp only
        split <;> rfl
      · rfl
  | finishTour me =>
      change (finishTour me cluster).votes = _
      unfold finishTour
      split <;> rfl
  | learn me gen donors => rfl
  | parallelSafe me gen isRecovery => rfl
  | logParallelSafe me => rfl
  | crash me => rfl

/-- A donor of a generation reported to be at least as advanced as everything
a majority may have seen: some number below the generation in which every
voting node of the majority was online. -/
theorem Invariant.donor_reported
    {cluster : Cluster n}
    (invariant : Invariant cluster)
    {gen : MtmGeneration n} {donors members : NodeMask n}
    {donor : Fin n} {num : ℕ}
    (known : (gen, donors) ∈ cluster.announced)
    (notInitial : 1 < gen.num)
    (isDonor : donor ∈ donors)
    (majority : IsMajority members)
    (below : num < gen.num)
    (held : ∀ member ∈ members,
      gen.num ≤ (cluster.node member).lastVote.num →
      num ∈ cluster.online member) :
    ∃ vote ∈ cluster.votes, vote.voter = donor ∧ vote.gen = gen ∧
      num ≤ vote.lastOnlineIn := by
  obtain ⟨_, top, voters, voterMajority, voted, _, advanced⟩ :=
    invariant.announced_electable known notInitial
  obtain ⟨voter, isMember, isVoter⟩ :=
    majority.exists_mem_both voterMajority
  obtain ⟨vote, isVote, itsVoter, itsGen, atMost⟩ := voted voter isVoter
  obtain ⟨best, isBest, bestVoter, bestGen, isTop⟩ :=
    advanced donor isDonor
  have nodeOk := invariant.node voter
  have bounded := (nodeOk.granted vote isVote itsVoter).1
  rw [itsGen] at bounded
  have wasOnline := held voter isMember bounded
  have promised := nodeOk.promise vote isVote itsVoter num wasOnline
    (by rw [itsGen]; exact below)
  exact ⟨best, isBest, bestVoter, bestGen, by omega⟩

end Election
end Multimaster
