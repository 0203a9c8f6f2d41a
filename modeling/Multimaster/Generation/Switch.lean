import Multimaster.Generation.Basic

/-!
# Generation switches

The effect of `MtmConsiderGenSwitch` and `MtmHandleParallelSafe` on the node
state, cut at the points where the state file is written.  `considerGenSwitch`
and `parallelSafe` are the states saved by the first `MtmStateSave` of the two
functions, and `logParallelSafe` is the state saved by the second one, once the
`ParallelSafe` record is flushed.

Each function has one inversion lemma that lists everything it can do; the
invariants of the later modules use nothing else about it.
-/

namespace Multimaster
namespace Generation

/-- The condition under which `MtmConsiderGenSwitch` decides that the node can
never be online in the generation it switches to. -/
def DeadInGen
    (me : Fin n) (gen : MtmGeneration n) (lastVoteNum : ℕ) : Prop :=
  me ∉ gen.members ∨
    (¬ Quorum gen.configured.card gen.members.card ∧
      ¬ IsRefereeGen gen.members gen.configured) ∨
    gen.num < lastVoteNum

instance (me : Fin n) (gen : MtmGeneration n) (lastVoteNum : ℕ) :
    Decidable (DeadInGen me gen lastVoteNum) :=
  inferInstanceAs (Decidable (_ ∨ _))

/-- The vote remembered across a switch to `gen`. -/
def voteAfterSwitch
    (lastVote gen : MtmGeneration n) : MtmGeneration n :=
  if lastVote.num < gen.num then gen else lastVote

/-- The state saved by the first `MtmStateSave` of `MtmConsiderGenSwitch`. -/
def considerGenSwitch
    (me : Fin n) (gen : MtmGeneration n) (donors : NodeMask n)
    (state : MtmState n) : MtmState n :=
  if gen.num ≤ state.currentGen.num then state
  else
    let lastVote := voteAfterSwitch state.lastVote gen
    if DeadInGen me gen lastVote.num then
      { state with
        currentGen := gen, donors := donors, lastVote := lastVote,
        receiveMode := .disabled }
    else if me ∈ donors then
      { state with
        currentGen := gen, donors := donors, lastVote := lastVote,
        lastOnlineIn := gen.num, psLogged := false }
    else
      { state with
        currentGen := gen, donors := donors, lastVote := lastVote,
        receiveMode := receiveModeOfDonors donors }

/-- What applying `ParallelSafe` does after its generation switch. -/
inductive ParallelSafeVerdict
  /-- The record changes nothing. -/
  | notInterested
  /-- The record came in normal mode; the receiver reconnects in recovery. -/
  | reconnect
  /-- The node gets online. -/
  | getOnline
  deriving DecidableEq

/-- The decision of `MtmHandleParallelSafe` under `gen_lock`. -/
def parallelSafeVerdict
    (me : Fin n) (gen : MtmGeneration n) (isRecovery : Bool)
    (state : MtmStateOnDisk n) : ParallelSafeVerdict :=
  if gen.num ≠ state.currentGen.num ∨
      mtmGetCurrentStatusInGen me state ≠ .recovery then .notInterested
  else if isRecovery then .getOnline
  else .reconnect

/-- The state saved by the first `MtmStateSave` of `MtmHandleParallelSafe`
itself, that is after its call of `MtmConsiderGenSwitch`. -/
def parallelSafe
    (me : Fin n) (gen : MtmGeneration n) (isRecovery : Bool)
    (state : MtmState n) : MtmState n :=
  match parallelSafeVerdict me gen isRecovery state.toMtmStateOnDisk with
  | .getOnline => { state with lastOnlineIn := gen.num, psLogged := false }
  | .reconnect => state
  | .notInterested => state

/-- The state once `ParallelSafe` is in the WAL: the second `MtmStateSave` and
the switch of the receivers to normal mode. -/
def logParallelSafe (state : MtmState n) : MtmState n :=
  { state with psLogged := true, receiveMode := .normal }

/-- The receive mode restored by `MtmStateStartup`. -/
def startupReceiveMode
    (me : Fin n) (state : MtmStateOnDisk n) : ReceiveMode n :=
  match mtmGetCurrentStatusInGen me state with
  | .online => .normal
  | .recovery => receiveModeOfDonors state.donors
  | .dead => .disabled

/-- The state loaded by `MtmStateStartup` before it looks at `ps_logged`. -/
def mtmStateLoad (me : Fin n) (state : MtmStateOnDisk n) : MtmState n where
  toMtmStateOnDisk := state
  receiveMode := startupReceiveMode me state

/-! ## What a switch can do -/

theorem voteAfterSwitch_num
    (lastVote gen : MtmGeneration n) :
    (voteAfterSwitch lastVote gen).num = max lastVote.num gen.num := by
  unfold voteAfterSwitch
  split <;> omega

/-- The three outcomes of a switch that is not skipped. -/
inductive SwitchOutcome
    (me : Fin n) (gen : MtmGeneration n) (donors : NodeMask n)
    (state : MtmState n) : MtmState n → Prop
  | skipped
      (stale : gen.num ≤ state.currentGen.num) :
      SwitchOutcome me gen donors state state
  | idle (mode : ReceiveMode n)
      (newer : state.currentGen.num < gen.num) :
      SwitchOutcome me gen donors state
        { state with
          currentGen := gen, donors := donors,
          lastVote := voteAfterSwitch state.lastVote gen,
          receiveMode := mode }
  | online
      (newer : state.currentGen.num < gen.num)
      (member : me ∈ gen.members)
      (quorum : Quorum gen.configured.card gen.members.card ∨
        IsRefereeGen gen.members gen.configured)
      (unpromised : state.lastVote.num ≤ gen.num)
      (donor : me ∈ donors) :
      SwitchOutcome me gen donors state
        { state with
          currentGen := gen, donors := donors,
          lastVote := voteAfterSwitch state.lastVote gen,
          lastOnlineIn := gen.num, psLogged := false }

/-- Every switch is one of the listed outcomes. -/
theorem considerGenSwitch_outcome
    (me : Fin n) (gen : MtmGeneration n) (donors : NodeMask n)
    (state : MtmState n) :
    SwitchOutcome me gen donors state
      (considerGenSwitch me gen donors state) := by
  unfold considerGenSwitch
  split
  · next stale => exact .skipped stale
  · next newer =>
      have newer : state.currentGen.num < gen.num := by omega
      dsimp only
      split
      · exact .idle .disabled newer
      · next alive =>
          split
          · next donor =>
              simp only [DeadInGen, voteAfterSwitch_num, not_or, not_and_or,
                not_not, not_lt] at alive
              exact .online newer alive.1 alive.2.1
                (le_trans (le_max_left _ _) alive.2.2) donor
          · exact .idle (receiveModeOfDonors donors) newer

/-- Applying `ParallelSafe` either keeps the state or gets a recovering member
online in its current generation. -/
theorem parallelSafe_outcome
    (me : Fin n) (gen : MtmGeneration n) (isRecovery : Bool)
    (state : MtmState n) :
    parallelSafe me gen isRecovery state = state ∨
      (isRecovery = true ∧
        gen.num = state.currentGen.num ∧
        state.lastOnlineIn ≠ state.currentGen.num ∧
        me ∈ state.currentGen.members ∧
        Quorum state.currentGen.configured.card
          state.currentGen.members.card ∧
        state.currentGen.num = state.lastVote.num ∧
        parallelSafe me gen isRecovery state =
          { state with
            lastOnlineIn := state.currentGen.num, psLogged := false }) := by
  unfold parallelSafe parallelSafeVerdict
  by_cases ignored : gen.num ≠ state.currentGen.num ∨
      mtmGetCurrentStatusInGen me state.toMtmStateOnDisk ≠ .recovery
  · left
    rw [if_pos ignored]
  · rw [if_neg ignored]
    rw [not_or, not_ne_iff, not_ne_iff] at ignored
    obtain ⟨sameNum, recovering⟩ := ignored
    rw [mtmGetCurrentStatusInGen_eq_recovery] at recovering
    obtain ⟨offline, member, quorum, votedHere⟩ := recovering
    cases isRecovery with
    | false => exact Or.inl rfl
    | true =>
        right
        exact ⟨rfl, sameNum, offline, member, quorum, votedHere,
          by simp [sameNum]⟩

/-- A switch keeps the counters ordered. -/
theorem Ordered.considerGenSwitch
    {state : MtmState n}
    (ordered : Ordered state.toMtmStateOnDisk)
    (me : Fin n) (gen : MtmGeneration n) (donors : NodeMask n) :
    Ordered (considerGenSwitch me gen donors state).toMtmStateOnDisk := by
  obtain ⟨online, voted⟩ := ordered
  have outcome := considerGenSwitch_outcome me gen donors state
  generalize Generation.considerGenSwitch me gen donors state = switched
    at outcome ⊢
  cases outcome with
  | skipped stale => exact ⟨online, voted⟩
  | idle mode newer =>
      refine ⟨by dsimp only; omega, ?_⟩
      rw [voteAfterSwitch_num]
      exact le_max_right _ _
  | online newer member quorum unpromised donor =>
      refine ⟨le_refl _, ?_⟩
      rw [voteAfterSwitch_num]
      exact le_max_right _ _

theorem Ordered.parallelSafe
    {state : MtmState n}
    (ordered : Ordered state.toMtmStateOnDisk)
    (me : Fin n) (gen : MtmGeneration n) (isRecovery : Bool) :
    Ordered (parallelSafe me gen isRecovery state).toMtmStateOnDisk := by
  rcases parallelSafe_outcome me gen isRecovery state with
    unchanged | ⟨_, _, _, _, _, _, changed⟩
  · rw [unchanged]
    exact ordered
  · rw [changed]
    exact ⟨le_refl _, ordered.voted⟩

end Generation
end Multimaster
