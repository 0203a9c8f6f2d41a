import Multimaster.Generation.Vote

/-!
# The receive mode and the status in the generation

`MtmGetCurrentStatusInGen` recomputes the status from the generation state,
while `receive_mode` is set separately by every operation.  This module says
what it means that the two agree, and shows for each operation under which
condition on its input it leaves them in agreement.
-/

namespace Multimaster
namespace Generation

/-- The receive mode is the one the status asks for. -/
structure ReceivesAsStatus (me : Fin n) (state : MtmState n) : Prop where
  normal : state.receiveMode = .normal ↔
    mtmGetCurrentStatusInGen me state.toMtmStateOnDisk = .online
  recovery :
    mtmGetCurrentStatusInGen me state.toMtmStateOnDisk = .recovery →
      ∃ donor ∈ state.donors, state.receiveMode = .donor donor

/-- The branch `MtmConsiderGenSwitch` takes on a switch to `gen`. -/
def switchBranch
    (me : Fin n) (gen : MtmGeneration n) (donors : NodeMask n)
    (lastVote : MtmGeneration n) : MtmStatusInGen :=
  if DeadInGen me gen (voteAfterSwitch lastVote gen).num then .dead
  else if me ∈ donors then .online
  else .recovery

/-- The state a switch to a newer generation leaves behind. -/
def afterGenSwitch
    (me : Fin n) (gen : MtmGeneration n) (donors : NodeMask n)
    (state : MtmState n) : MtmState n :=
  match switchBranch me gen donors state.lastVote with
  | .online => logParallelSafe (considerGenSwitch me gen donors state)
  | _ => considerGenSwitch me gen donors state

/-- What `CampaignTour` and `CampaignReferee` guarantee of the generations they
announce: there is a donor, and the member of a referee generation is one. -/
def SoundDonors
    (me : Fin n) (gen : MtmGeneration n) (donors : NodeMask n) : Prop :=
  donors.Nonempty ∧
    (IsRefereeGen gen.members gen.configured →
      me ∈ gen.members → me ∈ donors)

instance (me : Fin n) (gen : MtmGeneration n) (donors : NodeMask n) :
    Decidable (SoundDonors me gen donors) :=
  inferInstanceAs (Decidable (_ ∧ _))

/-- `CampaignMyself` gets to `SetCatchupDonor`. -/
def CatchesUp
    (me : Fin n) (env : CampaignEnv n) (state : MtmState n) : Prop :=
  env.replierLoaded = true ∧
    Quorum n env.clique.card ∧ me ∈ env.clique ∧
    mtmGetCurrentStatusInGen me state.toMtmStateOnDisk = .dead

instance (me : Fin n) (env : CampaignEnv n) (state : MtmState n) :
    Decidable (CatchesUp me env state) :=
  inferInstanceAs (Decidable (_ ∧ _ ∧ _ ∧ _))

/-- Outside a recovery from basebackup, `SetCatchupDonor` finds a connected
node that has ever been online. -/
def FindsDonor
    (me : Fin n) (env : CampaignEnv n) (state : MtmState n) : Prop :=
  env.backupNode = none ∧
    (CatchesUp me env state →
      ∃ node ∈ env.connectedMaskWithMe, 0 < env.othersLastOnlineIn node)

instance (me : Fin n) (env : CampaignEnv n) (state : MtmState n) :
    Decidable (FindsDonor me env state) :=
  inferInstanceAs (Decidable (_ ∧ _))

/-! ## Donors -/

theorem firstSetBit_of_nonempty
    {mask : NodeMask n}
    (nonempty : mask.Nonempty) :
    ∃ node ∈ mask, firstSetBit mask = some node := by
  obtain ⟨member, isMember⟩ := nonempty
  cases found : firstSetBit mask with
  | none =>
      have absent := List.find?_eq_none.mp found member
        (List.mem_finRange member)
      exact absurd (decide_eq_true isMember) absent
  | some node =>
      have isSet : decide (node ∈ mask) = true :=
        List.find?_some (p := fun node => decide (node ∈ mask)) found
      exact ⟨node, of_decide_eq_true isSet, rfl⟩

theorem receiveModeOfDonors_of_nonempty
    {donors : NodeMask n}
    (nonempty : donors.Nonempty) :
    ∃ donor ∈ donors, receiveModeOfDonors donors = .donor donor := by
  obtain ⟨donor, member, found⟩ := firstSetBit_of_nonempty nonempty
  exact ⟨donor, member, by rw [receiveModeOfDonors, found]⟩

/-- The scan of `SetCatchupDonor` ends with a node as soon as it started with
one or passes a connected node with a greater number. -/
theorem isSome_mostAdvanced_foldl
    (connected : NodeMask n) (othersLastOnlineIn : Fin n → ℕ)
    (nodes : List (Fin n)) (best : Option (Fin n) × ℕ)
    (improves : best.1.isSome = true ∨
      ∃ node ∈ nodes, node ∈ connected ∧ best.2 < othersLastOnlineIn node) :
    (nodes.foldl
      (fun best node =>
        if node ∈ connected ∧ best.2 < othersLastOnlineIn node then
          (some node, othersLastOnlineIn node)
        else best)
      best).1.isSome = true := by
  induction nodes generalizing best with
  | nil =>
      rcases improves with found | ⟨node, member, _⟩
      · exact found
      · cases member
  | cons head tail inductionHypothesis =>
      rw [List.foldl_cons]
      apply inductionHypothesis
      split
      · exact Or.inl rfl
      · next notBetter =>
          rcases improves with found | ⟨node, member, isConnected, greater⟩
          · exact Or.inl found
          · rcases List.mem_cons.mp member with rfl | inTail
            · exact absurd ⟨isConnected, greater⟩ notBetter
            · exact Or.inr ⟨node, inTail, isConnected, greater⟩

/-- With a connected node that has been online, `SetCatchupDonor` ends in
recovery from some node. -/
theorem setCatchupDonor_donor
    {connected : NodeMask n} {othersLastOnlineIn : Fin n → ℕ}
    (advanced : ∃ node ∈ connected, 0 < othersLastOnlineIn node)
    (mode : ReceiveMode n) :
    ∃ donor,
      (setCatchupDonor connected othersLastOnlineIn mode).1 =
        .donor donor := by
  obtain ⟨node, isConnected, positive⟩ := advanced
  have found : (mostAdvancedNode connected othersLastOnlineIn).1.isSome = true :=
    isSome_mostAdvanced_foldl connected othersLastOnlineIn _ _
      (Or.inr ⟨node, List.mem_finRange node, isConnected, positive⟩)
  obtain ⟨best, isBest⟩ := Option.isSome_iff_exists.mp found
  unfold setCatchupDonor
  simp only [isBest]
  cases mode with
  | disabled => exact ⟨best, rfl⟩
  | normal => exact ⟨best, rfl⟩
  | donor current =>
      dsimp only
      split
      · exact ⟨current, rfl⟩
      · exact ⟨best, rfl⟩

/-! ## Switches -/

/-- The status after a switch to a newer generation is the branch taken. -/
theorem mtmGetCurrentStatusInGen_afterGenSwitch
    {me : Fin n} {gen : MtmGeneration n} {donors : NodeMask n}
    {state : MtmState n}
    (ordered : Ordered state.toMtmStateOnDisk)
    (newer : state.currentGen.num < gen.num)
    (sound : SoundDonors me gen donors) :
    mtmGetCurrentStatusInGen me
        (afterGenSwitch me gen donors state).toMtmStateOnDisk =
      switchBranch me gen donors state.lastVote := by
  have offline : state.lastOnlineIn ≠ gen.num := by
    have := ordered.online
    omega
  have fresh : ¬ gen.num ≤ state.currentGen.num := by omega
  unfold afterGenSwitch switchBranch
  by_cases isDead : DeadInGen me gen (voteAfterSwitch state.lastVote gen).num
  · -- the negation of the recovery condition, read off the dead branch
    have ineligible : ¬ (me ∈ gen.members ∧
        Quorum gen.configured.card gen.members.card ∧
        gen.num = (voteAfterSwitch state.lastVote gen).num) := by
      rintro ⟨member, quorum, votedHere⟩
      rcases isDead with absent | ⟨noQuorum, _⟩ | promised
      · exact absent member
      · exact noQuorum quorum
      · omega
    simp only [considerGenSwitch, fresh, isDead, if_true, if_false,
      mtmGetCurrentStatusInGen, offline, ineligible]
  · by_cases donor : me ∈ donors
    · simp only [considerGenSwitch, fresh, isDead, donor, if_true, if_false,
        mtmGetCurrentStatusInGen, logParallelSafe]
    · simp only [DeadInGen, not_or, not_and_or, not_not, not_lt] at isDead
      obtain ⟨member, hasQuorum, unpromised⟩ := isDead
      have quorum : Quorum gen.configured.card gen.members.card := by
        rcases hasQuorum with quorum | isReferee
        · exact quorum
        · exact absurd (sound.2 isReferee member) donor
      have votedHere :
          gen.num = (voteAfterSwitch state.lastVote gen).num := by
        rw [voteAfterSwitch_num] at unpromised ⊢
        omega
      have alive :
          ¬ DeadInGen me gen (voteAfterSwitch state.lastVote gen).num := by
        simp only [DeadInGen, not_or, not_and_or, not_not, not_lt]
        exact ⟨member, Or.inl quorum, unpromised⟩
      have eligible : me ∈ gen.members ∧
          Quorum gen.configured.card gen.members.card ∧
          gen.num = (voteAfterSwitch state.lastVote gen).num :=
        ⟨member, quorum, votedHere⟩
      simp only [considerGenSwitch, fresh, alive, donor, if_false,
        mtmGetCurrentStatusInGen, offline, if_pos eligible]

/-- A switch to a newer generation sets the receive mode of its branch. -/
theorem receivesAsStatus_afterGenSwitch
    {me : Fin n} {gen : MtmGeneration n} {donors : NodeMask n}
    {state : MtmState n}
    (ordered : Ordered state.toMtmStateOnDisk)
    (newer : state.currentGen.num < gen.num)
    (sound : SoundDonors me gen donors) :
    ReceivesAsStatus me (afterGenSwitch me gen donors state) := by
  have status := mtmGetCurrentStatusInGen_afterGenSwitch ordered newer sound
  have fresh : ¬ gen.num ≤ state.currentGen.num := by omega
  obtain ⟨donor, isDonor, mode⟩ := receiveModeOfDonors_of_nonempty sound.1
  by_cases isDead : DeadInGen me gen (voteAfterSwitch state.lastVote gen).num
  · have branch : switchBranch me gen donors state.lastVote = .dead :=
      if_pos isDead
    rw [branch] at status
    refine ⟨?_, by rw [status]; intro isRecovery; cases isRecovery⟩
    rw [status]
    simp [afterGenSwitch, branch, considerGenSwitch, fresh, isDead]
  · by_cases inDonors : me ∈ donors
    · have branch : switchBranch me gen donors state.lastVote = .online := by
        rw [switchBranch, if_neg isDead, if_pos inDonors]
      rw [branch] at status
      refine ⟨?_, by rw [status]; intro isRecovery; cases isRecovery⟩
      rw [status]
      simp [afterGenSwitch, branch, logParallelSafe]
    · have branch :
          switchBranch me gen donors state.lastVote = .recovery := by
        rw [switchBranch, if_neg isDead, if_neg inDonors]
      have after : afterGenSwitch me gen donors state =
          { state with
            currentGen := gen, donors := donors,
            lastVote := voteAfterSwitch state.lastVote gen,
            receiveMode := .donor donor } := by
        simp [afterGenSwitch, branch, considerGenSwitch, fresh, isDead,
          inDonors, mode]
      rw [branch] at status
      refine ⟨by rw [status, after]; simp, ?_⟩
      intro _
      rw [after]
      exact ⟨donor, isDonor, rfl⟩

/-- Getting online sets the normal mode. -/
theorem receivesAsStatus_logParallelSafe
    {me : Fin n} {state : MtmState n}
    (online : state.lastOnlineIn = state.currentGen.num) :
    ReceivesAsStatus me (logParallelSafe state) := by
  have status : mtmGetCurrentStatusInGen me
      (logParallelSafe state).toMtmStateOnDisk = .online :=
    mtmGetCurrentStatusInGen_eq_online.mpr online
  refine ⟨⟨fun _ => status, fun _ => rfl⟩, ?_⟩
  rw [status]
  intro isRecovery
  cases isRecovery

/-- `MtmStateStartup` restores the mode from the status. -/
theorem receivesAsStatus_mtmStateLoad
    {me : Fin n} {state : MtmStateOnDisk n}
    (nonempty : state.donors.Nonempty) :
    ReceivesAsStatus me (mtmStateLoad me state) := by
  obtain ⟨donor, isDonor, mode⟩ := receiveModeOfDonors_of_nonempty nonempty
  unfold mtmStateLoad startupReceiveMode
  refine ⟨?_, ?_⟩
  · cases mtmGetCurrentStatusInGen me state with
    | dead => simp
    | recovery => simp [mode]
    | online => simp
  · dsimp only
    intro isRecovery
    rw [isRecovery]
    exact ⟨donor, isDonor, mode⟩

/-! ## Votes -/

/-- Voting for a later generation turns recovery into death and keeps the
other statuses. -/
theorem mtmGetCurrentStatusInGen_revote
    (me : Fin n) {state : MtmStateOnDisk n}
    (vote : MtmGeneration n)
    (ordered : Ordered state)
    (larger : state.lastVote.num < vote.num) :
    mtmGetCurrentStatusInGen me { state with lastVote := vote } =
      if mtmGetCurrentStatusInGen me state = .online then .online
      else .dead := by
  have voted := ordered.voted
  have unvoted : state.currentGen.num ≠ vote.num := by omega
  by_cases online : state.lastOnlineIn = state.currentGen.num
  · rw [if_pos (mtmGetCurrentStatusInGen_eq_online.mpr online)]
    exact mtmGetCurrentStatusInGen_eq_online.mpr online
  · rw [if_neg (fun isOnline =>
      online (mtmGetCurrentStatusInGen_eq_online.mp isOnline))]
    simp [mtmGetCurrentStatusInGen, online, unvoted]

/-- A vote for a later generation, with a mode that is kept or disabled when
the node is not online. -/
theorem ReceivesAsStatus.revote
    {me : Fin n} {state : MtmState n}
    (agrees : ReceivesAsStatus me state)
    (ordered : Ordered state.toMtmStateOnDisk)
    {vote : MtmGeneration n}
    (larger : state.lastVote.num < vote.num) :
    ReceivesAsStatus me { state with lastVote := vote } := by
  have status := mtmGetCurrentStatusInGen_revote me vote ordered larger
  refine ⟨?_, ?_⟩
  · rw [agrees.normal, status]
    split
    · next online => simp [online]
    · next offline => simp [offline]
  · rw [status]
    intro isRecovery
    split at isRecovery <;> cases isRecovery

/-- In a dead generation every mode but the normal one will do. -/
theorem receivesAsStatus_of_dead
    {me : Fin n} {state : MtmState n}
    (isDead : mtmGetCurrentStatusInGen me state.toMtmStateOnDisk = .dead)
    (notNormal : state.receiveMode ≠ .normal) :
    ReceivesAsStatus me state := by
  refine ⟨by simp [isDead, notNormal], ?_⟩
  rw [isDead]
  intro isRecovery
  cases isRecovery

theorem receivesAsStatus_ballot
    {me : Fin n} {env : CampaignEnv n} {state : MtmState n}
    (agrees : ReceivesAsStatus me state)
    (ordered : Ordered state.toMtmStateOnDisk) :
    ReceivesAsStatus me (ballot me env state).1 := by
  unfold ballot
  dsimp only
  split
  · exact agrees
  · split
    · exact agrees
    · exact agrees.revote ordered (Nat.lt_succ_self _)

/-- `CampaignMyself` with a donor to find. -/
theorem receivesAsStatus_campaignMyself
    {me : Fin n} {env : CampaignEnv n} {state : MtmState n}
    (agrees : ReceivesAsStatus me state)
    (ordered : Ordered state.toMtmStateOnDisk)
    (finds : FindsDonor me env state) :
    ReceivesAsStatus me (campaignMyself me env state).1 := by
  obtain ⟨noBackup, advanced⟩ := finds
  unfold campaignMyself
  simp only [noBackup]
  split
  · exact agrees
  · next loaded =>
    split
    · exact agrees
    · split
      · split
        · next isDead => exact receivesAsStatus_of_dead isDead (by simp)
        · exact agrees
      · next connected =>
        split
        · next isDead =>
          have catches : CatchesUp me env state := by
            simp only [isDead, reduceCtorEq, and_false, not_false_eq_true,
              and_true, not_or, not_not] at connected
            exact ⟨by simpa using loaded, connected.1, connected.2, isDead⟩
          obtain ⟨donor, isDonor⟩ := setCatchupDonor_donor
            (advanced catches) state.receiveMode
          have caught : ReceivesAsStatus me
              { state with
                receiveMode := (setCatchupDonor env.connectedMaskWithMe
                  env.othersLastOnlineIn state.receiveMode).1 } :=
            receivesAsStatus_of_dead isDead (by simp [isDonor])
          split
          · exact caught
          · exact receivesAsStatus_ballot caught ordered
        · exact receivesAsStatus_ballot agrees ordered

theorem receivesAsStatus_bumpLastVote
    {me : Fin n} {state : MtmState n}
    (agrees : ReceivesAsStatus me state)
    (ordered : Ordered state.toMtmStateOnDisk)
    (maxLastVoteNum : ℕ) :
    ReceivesAsStatus me (bumpLastVote maxLastVoteNum state) := by
  unfold bumpLastVote
  split
  · next complained =>
      rcases Nat.lt_or_eq_of_le complained.2 with larger | same
      · exact agrees.revote ordered larger
      · -- the bump only wipes the masks, which no status reads
        refine ⟨?_, ?_⟩
        · rw [agrees.normal]
          simp [mtmGetCurrentStatusInGen, ← same]
        · intro isRecovery
          apply agrees.recovery
          rw [mtmGetCurrentStatusInGen_eq_recovery] at isRecovery ⊢
          exact ⟨isRecovery.1, isRecovery.2.1, isRecovery.2.2.1,
            isRecovery.2.2.2.trans same.symm⟩
  · exact agrees

theorem receivesAsStatus_handleGenVoteRequest
    {me : Fin n} {state : MtmState n}
    (agrees : ReceivesAsStatus me state)
    (ordered : Ordered state.toMtmStateOnDisk)
    (env : VoteEnv n) (sender : Fin n) (request : MtmGeneration n) :
    ReceivesAsStatus me
      (handleGenVoteRequest me env sender request state).1 := by
  unfold handleGenVoteRequest
  split
  · exact agrees
  · split
    · exact agrees
    · split
      · exact agrees
      · next fresh =>
        split
        · exact agrees
        · split
          · exact agrees
          · have voted := agrees.revote ordered (not_le.mp fresh)
            dsimp only
            split
            · next dies => exact receivesAsStatus_of_dead dies.2 (by simp)
            · exact voted

end Generation
end Multimaster
