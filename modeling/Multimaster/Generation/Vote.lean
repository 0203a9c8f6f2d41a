import Multimaster.Generation.Switch

/-!
# Campaigns and votes

The pure parts of `CampaignMyself`, `HandleGenVoteRequest` and `CampaignTour`.
What the three functions read outside the generation state (connectivity,
heartbeat data, catch-up reports, configuration flags) is an explicit
environment argument, so nothing is assumed about connectivity.
-/

namespace Multimaster
namespace Generation

/-! ## Standing for election -/

/-- Everything `CampaignMyself` reads besides the generation state. -/
structure CampaignEnv (n : ℕ) where
  /-- `mtm_cfg->backup_node_id`, set while recovering from a basebackup. -/
  backupNode : Option (Fin n)
  connectedMaskWithMe : NodeMask n
  clique : NodeMask n
  replierLoaded : Bool
  refereeEnabled : Bool
  othersLastOnlineIn : Fin n → ℕ
  /-- `catchup_node_id`, with `none` for `MtmInvalidNodeId`. -/
  catchupNode : Option (Fin n)
  /-- Whether the last catch-up report is recent enough. -/
  catchupFresh : Bool

/-- A campaign `CampaignMyself` decided to start. -/
structure Campaign (n : ℕ) where
  candidate : MtmGeneration n
  cohort : NodeMask n
  myLastOnlineIn : ℕ
  deriving DecidableEq

/-- The scan of `SetCatchupDonor`: the first connected node with the greatest
reported `last_online_in`, and that number. -/
def mostAdvancedNode
    (connected : NodeMask n) (othersLastOnlineIn : Fin n → ℕ) :
    Option (Fin n) × ℕ :=
  (List.finRange n).foldl
    (fun best node =>
      if node ∈ connected ∧ best.2 < othersLastOnlineIn node then
        (some node, othersLastOnlineIn node)
      else best)
    (none, mtmInvalidGenNum)

/-- `SetCatchupDonor`: the new receive mode and the greatest number seen.  A
donor that is connected and most advanced is kept. -/
def setCatchupDonor
    (connected : NodeMask n) (othersLastOnlineIn : Fin n → ℕ)
    (mode : ReceiveMode n) : ReceiveMode n × ℕ :=
  let best := mostAdvancedNode connected othersLastOnlineIn
  let replacement :=
    match best.1 with
    | some node => .donor node
    | none => .normal
  match mode with
  | .donor node =>
      if node ∈ connected ∧ best.2 ≤ othersLastOnlineIn node then
        (.donor node, best.2)
      else (replacement, best.2)
  | _ => (replacement, best.2)

/-- `catchup_node_id == receive_mode`, where both numbers are `0` for no node
and for normal mode. -/
def caughtUpFrom : Option (Fin n) → ReceiveMode n → Bool
  | some node, .donor donor => node = donor
  | none, .normal => true
  | _, _ => false

/-- The last part of `CampaignMyself`: form the candidate generation and vote
for it, reusing the previous vote when it is for the same masks. -/
def ballot
    (me : Fin n) (env : CampaignEnv n) (state : MtmState n) :
    MtmState n × Option (Campaign n) :=
  let members := insert me (state.currentGen.members ∩ env.clique)
  let configured : NodeMask n := Finset.univ
  let campaign (candidate : MtmGeneration n) : Campaign n :=
    { candidate := candidate
      cohort := env.clique.erase me
      myLastOnlineIn := state.lastOnlineIn }
  if members = state.currentGen.members ∧
      (mtmGetCurrentStatusInGen me state.toMtmStateOnDisk ≠ .dead ∨
        state.lastVote.num = state.currentGen.num) then (state, none)
  else if members = state.lastVote.members ∧
      configured = state.lastVote.configured then
    (state, some (campaign
      { num := state.lastVote.num
        members := members
        configured := configured }))
  else
    let candidate : MtmGeneration n :=
      { num := state.lastVote.num + 1
        members := members
        configured := configured }
    ({ state with lastVote := candidate }, some (campaign candidate))

/-- `CampaignMyself`. -/
def campaignMyself
    (me : Fin n) (env : CampaignEnv n) (state : MtmState n) :
    MtmState n × Option (Campaign n) :=
  let status := mtmGetCurrentStatusInGen me state.toMtmStateOnDisk
  match env.backupNode with
  | some donor => ({ state with receiveMode := .donor donor }, none)
  | none =>
      if env.replierLoaded = false then (state, none)
      else if status = .online ∧
          state.currentGen.members ⊆ env.connectedMaskWithMe then
        (state, none)
      else if (¬ Quorum n env.clique.card ∨ me ∉ env.clique) ∧
          ¬ (env.refereeEnabled = true ∧ status = .online) then
        (if status = .dead then { state with receiveMode := .disabled }
          else state, none)
      else if status = .dead then
        let donor := setCatchupDonor env.connectedMaskWithMe
          env.othersLastOnlineIn state.receiveMode
        let state := { state with receiveMode := donor.1 }
        if (me ∉ state.currentGen.members ∧ state.lastOnlineIn < donor.2) ∧
            ¬ (caughtUpFrom env.catchupNode donor.1 = true ∧
              env.catchupFresh = true) then (state, none)
        else ballot me env state
      else ballot me env state

/-- What a campaign can do to the state: it never touches anything but the
receive mode and the vote, and a started campaign is for the remembered vote. -/
inductive CampaignOutcome
    (me : Fin n) (state : MtmState n) :
    MtmState n × Option (Campaign n) → Prop
  | declined (mode : ReceiveMode n) :
      CampaignOutcome me state ({ state with receiveMode := mode }, none)
  | reused (mode : ReceiveMode n) (cohort : NodeMask n)
      (member : me ∈ state.lastVote.members)
      (configured : state.lastVote.configured = Finset.univ)
      (elsewhere : me ∉ cohort)
      (different : state.lastVote.members = state.currentGen.members →
        state.lastVote.num ≠ state.currentGen.num) :
      CampaignOutcome me state
        ({ state with receiveMode := mode },
          some {
            candidate := state.lastVote
            cohort := cohort
            myLastOnlineIn := state.lastOnlineIn })
  | voted (mode : ReceiveMode n) (cohort : NodeMask n)
      (candidate : MtmGeneration n)
      (fresh : candidate.num = state.lastVote.num + 1)
      (member : me ∈ candidate.members)
      (configured : candidate.configured = Finset.univ)
      (elsewhere : me ∉ cohort) :
      CampaignOutcome me state
        ({ state with receiveMode := mode, lastVote := candidate },
          some {
            candidate := candidate
            cohort := cohort
            myLastOnlineIn := state.lastOnlineIn })

theorem ballot_outcome
    (me : Fin n) (env : CampaignEnv n) (state : MtmState n)
    (mode : ReceiveMode n) :
    CampaignOutcome me state
      (ballot me env { state with receiveMode := mode }) := by
  unfold ballot
  dsimp only
  split
  · exact .declined mode
  · next interesting =>
    split
    · next sameMasks =>
        obtain ⟨sameMembers, sameConfigured⟩ := sameMasks
        have candidateEq :
            ({ num := state.lastVote.num
               members := insert me (state.currentGen.members ∩ env.clique)
               configured := Finset.univ } : MtmGeneration n) =
              state.lastVote := by
          rw [sameMembers, sameConfigured]
        rw [candidateEq]
        refine .reused mode _ ?_ sameConfigured.symm
          (Finset.notMem_erase _ _) ?_
        · rw [← sameMembers]
          exact Finset.mem_insert_self _ _
        · intro unchanged sameNum
          exact interesting ⟨sameMembers.trans unchanged, Or.inr sameNum⟩
    · exact .voted mode _ _ rfl (Finset.mem_insert_self _ _) rfl
        (Finset.notMem_erase _ _)

/-- Every call of `CampaignMyself` is one of the listed outcomes. -/
theorem campaignMyself_outcome
    (me : Fin n) (env : CampaignEnv n) (state : MtmState n) :
    CampaignOutcome me state (campaignMyself me env state) := by
  unfold campaignMyself
  dsimp only
  split
  · exact .declined _
  · split
    · exact .declined state.receiveMode
    · split
      · exact .declined state.receiveMode
      · split
        · split
          · exact .declined _
          · exact .declined state.receiveMode
        · split
          · split
            · exact .declined _
            · exact ballot_outcome me env state _
          · exact ballot_outcome me env state state.receiveMode

/-! ## Answering a vote request -/

/-- `MtmGenVoteResponse`; the fields a branch does not set are zero. -/
structure MtmGenVoteResponse (n : ℕ) where
  genNum : ℕ
  voteOk : Bool := false
  lastOnlineIn : ℕ := 0
  lastVoteNum : ℕ := 0
  /-- The generation of the responder, of number `0` when not reported. -/
  currGen : MtmGeneration n := { num := 0, members := ∅, configured := ∅ }
  currGenDonors : NodeMask n := ∅
  deriving DecidableEq

/-- What `HandleGenVoteRequest` reads besides the generation state. -/
structure VoteEnv (n : ℕ) where
  clique : NodeMask n
  /-- `MtmIsConnectivityClique(current_gen_members)`. -/
  isCurrGenConnected : Bool

/-- `HandleGenVoteRequest`: the state it leaves and the response it sends. -/
def handleGenVoteRequest
    (me : Fin n) (env : VoteEnv n) (sender : Fin n)
    (request : MtmGeneration n) (state : MtmState n) :
    MtmState n × MtmGenVoteResponse n :=
  if request.num ≤ state.currentGen.num then
    (state,
      { genNum := request.num
        lastVoteNum := state.lastVote.num
        currGen := state.currentGen
        currGenDonors := state.donors })
  else if state.lastVote = request then
    (state,
      { genNum := request.num
        voteOk := true
        lastOnlineIn := state.lastOnlineIn })
  else if request.num ≤ state.lastVote.num then
    (state,
      { genNum := request.num
        lastVoteNum := state.lastVote.num })
  else if ¬ request.members ⊆ insert sender state.currentGen.members ∨
      ¬ request.members ⊆ env.clique ∨
      request.configured ≠ Finset.univ then
    (state, { genNum := request.num })
  else if mtmGetCurrentStatusInGen me state.toMtmStateOnDisk = .online ∧
      env.isCurrGenConnected = true ∧
      sender ∉ state.currentGen.members ∧
      ¬ state.currentGen.members ⊆ request.members then
    (state, { genNum := request.num })
  else
    let voted := { state with lastVote := request }
    let mode :=
      if mtmGetCurrentStatusInGen me state.toMtmStateOnDisk = .recovery ∧
          mtmGetCurrentStatusInGen me voted.toMtmStateOnDisk = .dead then
        .disabled
      else state.receiveMode
    ({ voted with receiveMode := mode },
      { genNum := request.num
        voteOk := true
        lastOnlineIn := state.lastOnlineIn })

/-- What answering a request can do. -/
inductive VoteOutcome
    (request : MtmGeneration n) (state : MtmState n) :
    MtmState n × MtmGenVoteResponse n → Prop
  | refused (response : MtmGenVoteResponse n)
      (asked : response.genNum = request.num)
      (refusal : response.voteOk = false)
      (reported : response.lastVoteNum = 0 ∨
        response.lastVoteNum = state.lastVote.num)
      (gossip : response.currGen.num = 0 ∨
        (response.currGen = state.currentGen ∧
          response.currGenDonors = state.donors)) :
      VoteOutcome request state (state, response)
  | confirmed
      (newer : state.currentGen.num < request.num)
      (already : state.lastVote = request) :
      VoteOutcome request state
        (state,
          { genNum := request.num
            voteOk := true
            lastOnlineIn := state.lastOnlineIn })
  | voted (mode : ReceiveMode n)
      (newer : state.currentGen.num < request.num)
      (fresh : state.lastVote.num < request.num)
      (configured : request.configured = Finset.univ) :
      VoteOutcome request state
        ({ state with lastVote := request, receiveMode := mode },
          { genNum := request.num
            voteOk := true
            lastOnlineIn := state.lastOnlineIn })

/-- Every answer is one of the listed outcomes. -/
theorem handleGenVoteRequest_outcome
    (me : Fin n) (env : VoteEnv n) (sender : Fin n)
    (request : MtmGeneration n) (state : MtmState n) :
    VoteOutcome request state
      (handleGenVoteRequest me env sender request state) := by
  unfold handleGenVoteRequest
  split
  · exact .refused _ rfl rfl (Or.inr rfl) (Or.inr ⟨rfl, rfl⟩)
  · next newer =>
      have newer : state.currentGen.num < request.num := by omega
      split
      · next already => exact .confirmed newer already
      · split
        · exact .refused _ rfl rfl (Or.inr rfl) (Or.inl rfl)
        · next fresh =>
            split
            · exact .refused _ rfl rfl (Or.inl rfl) (Or.inl rfl)
            · next sensible =>
                split
                · exact .refused _ rfl rfl (Or.inl rfl) (Or.inl rfl)
                · simp only [not_or, not_not] at sensible
                  exact .voted _ newer (by omega) (by
                    simpa using sensible.2.2)

/-! ## Counting the votes -/

/-- The local variables of `CampaignTour` while it goes over the responses. -/
structure Tally (n : ℕ) where
  nvotes : ℕ
  maxLastOnlineIn : ℕ
  donors : NodeMask n
  notPolledCandidates : NodeMask n
  maxLastVoteNum : ℕ
  deriving DecidableEq

/-- The values the loop of `CampaignTour` starts from. -/
def startTally (me : Fin n) (campaign : Campaign n) : Tally n where
  nvotes := 1
  maxLastOnlineIn := campaign.myLastOnlineIn
  donors := {me}
  notPolledCandidates := campaign.candidate.members.erase me
  maxLastVoteNum := mtmInvalidGenNum

/-- One round of the loop of `CampaignTour`, the switch to the generation of
the responder apart. -/
def tallyResponse
    (candidateNum : ℕ) (tally : Tally n)
    (message : Fin n × MtmGenVoteResponse n) : Tally n :=
  let granted := message.2.genNum = candidateNum ∧ message.2.voteOk = true
  { nvotes := if granted then tally.nvotes + 1 else tally.nvotes
    maxLastOnlineIn :=
      if granted ∧ tally.maxLastOnlineIn < message.2.lastOnlineIn then
        message.2.lastOnlineIn
      else tally.maxLastOnlineIn
    donors :=
      if granted then
        if message.2.lastOnlineIn = tally.maxLastOnlineIn then
          insert message.1 tally.donors
        else if tally.maxLastOnlineIn < message.2.lastOnlineIn then
          {message.1}
        else tally.donors
      else tally.donors
    notPolledCandidates := tally.notPolledCandidates.erase message.1
    maxLastVoteNum :=
      if message.2.voteOk = false ∧
          tally.maxLastVoteNum < message.2.lastVoteNum then
        message.2.lastVoteNum
      else tally.maxLastVoteNum }

/-- The tally of all gathered responses, in their order of arrival. -/
def tallyResponses
    (me : Fin n) (campaign : Campaign n)
    (messages : List (Fin n × MtmGenVoteResponse n)) : Tally n :=
  messages.foldl (tallyResponse campaign.candidate.num)
    (startTally me campaign)

/-- The victory test of `CampaignTour`. -/
def Victory (tally : Tally n) : Prop :=
  Quorum n tally.nvotes ∧ tally.notPolledCandidates = ∅

instance (tally : Tally n) : Decidable (Victory tally) :=
  inferInstanceAs (Decidable (_ ∧ _))

/-- The end of `CampaignTour`: a complaint about a too low vote number moves
the vote to that number and wipes its masks. -/
def bumpLastVote (maxLastVoteNum : ℕ) (state : MtmState n) : MtmState n :=
  if maxLastVoteNum ≠ mtmInvalidGenNum ∧
      state.lastVote.num ≤ maxLastVoteNum then
    { state with
      lastVote := { num := maxLastVoteNum, members := ∅, configured := ∅ } }
  else state

end Generation
end Multimaster
