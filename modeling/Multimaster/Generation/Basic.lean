import Multimaster.Lib.Majority

/-!
# Generations and the persistent node state

The data model of `state.c`.  A generation is a numbered set of members; a node
keeps its current generation, the donors of it, the last generation it was
online in and its last vote.  `MtmStateOnDisk` is exactly what `MtmStateSave`
writes, and `MtmState` adds the receive mode that lives in shared memory.

Node identifiers are `Fin n`, so bit `i` of a `nodemask_t` is `i ∈ mask`, and
the configured nodes of the cluster are all of them.
-/

namespace Multimaster
namespace Generation

/-- `nodemask_t`: a set of nodes. -/
abbrev NodeMask (n : ℕ) := Finset (Fin n)

/-- `MtmGeneration`. -/
structure MtmGeneration (n : ℕ) where
  num : ℕ
  members : NodeMask n
  configured : NodeMask n
  deriving DecidableEq

/-- `MtmInvalidGenNum`. -/
def mtmInvalidGenNum : ℕ := 0

/-- `Quorum(ntotal, nvotes)`. -/
def Quorum (ntotal nvotes : ℕ) : Prop := ntotal / 2 + 1 ≤ nvotes

instance (ntotal nvotes : ℕ) : Decidable (Quorum ntotal nvotes) :=
  inferInstanceAs (Decidable (_ ≤ _))

/-- `IS_REFEREE_GEN(members, configured)`: one member out of two configured
nodes. -/
def IsRefereeGen (members configured : NodeMask n) : Prop :=
  members.card = 1 ∧ configured.card = 2

instance (members configured : NodeMask n) :
    Decidable (IsRefereeGen members configured) :=
  inferInstanceAs (Decidable (_ ∧ _))

/-- `first_set_bit(mask)`, with `none` for the empty mask. -/
def firstSetBit (mask : NodeMask n) : Option (Fin n) :=
  (List.finRange n).find? fun node => decide (node ∈ mask)

/-- The values of `receive_mode`. -/
inductive ReceiveMode (n : ℕ)
  | disabled
  | normal
  | donor (node : Fin n)
  deriving DecidableEq

/-- `first_set_bit(donors) + 1` read as a receive mode.  The empty mask gives
the number `0`, which is `RECEIVE_MODE_NORMAL`. -/
def receiveModeOfDonors (donors : NodeMask n) : ReceiveMode n :=
  match firstSetBit donors with
  | some node => .donor node
  | none => .normal

/-- `MtmStatusInGen`. -/
inductive MtmStatusInGen
  | dead
  | recovery
  | online
  deriving DecidableEq

/-- The part of the node state that `MtmStateSave` makes durable. -/
structure MtmStateOnDisk (n : ℕ) where
  /-- My current generation. -/
  currentGen : MtmGeneration n
  /-- The nodes from which a member can recover to take part in it. -/
  donors : NodeMask n
  /-- Last generation the node was online in. -/
  lastOnlineIn : ℕ
  lastVote : MtmGeneration n
  /-- Whether `ParallelSafe` of the generation the node got online in is in
  the WAL. -/
  psLogged : Bool
  deriving DecidableEq

/-- The generation state in shared memory. -/
structure MtmState (n : ℕ) extends MtmStateOnDisk n where
  receiveMode : ReceiveMode n
  deriving DecidableEq

/-- The generation `mtm_state_create` starts a cluster in. -/
def initialGen (n : ℕ) : MtmGeneration n where
  num := 1
  members := Finset.univ
  configured := Finset.univ

/-- The state file written by `mtm_state_create`: the initializer of
`last_vote` leaves its configured mask empty. -/
def mtmStateCreate (n : ℕ) : MtmStateOnDisk n where
  currentGen := initialGen n
  donors := Finset.univ
  lastOnlineIn := 1
  lastVote := { num := 1, members := Finset.univ, configured := ∅ }
  psLogged := false

/-- `MtmGetCurrentStatusInGen` of a loaded state. -/
def mtmGetCurrentStatusInGen
    (me : Fin n) (state : MtmStateOnDisk n) : MtmStatusInGen :=
  if state.lastOnlineIn = state.currentGen.num then .online
  else if me ∈ state.currentGen.members ∧
      Quorum state.currentGen.configured.card state.currentGen.members.card ∧
      state.currentGen.num = state.lastVote.num then .recovery
  else .dead

theorem mtmGetCurrentStatusInGen_eq_online
    {me : Fin n} {state : MtmStateOnDisk n} :
    mtmGetCurrentStatusInGen me state = .online ↔
      state.lastOnlineIn = state.currentGen.num := by
  unfold mtmGetCurrentStatusInGen
  split
  · next same => simp [same]
  · next different =>
      split <;> simp [different]

theorem mtmGetCurrentStatusInGen_eq_recovery
    {me : Fin n} {state : MtmStateOnDisk n} :
    mtmGetCurrentStatusInGen me state = .recovery ↔
      state.lastOnlineIn ≠ state.currentGen.num ∧
      me ∈ state.currentGen.members ∧
      Quorum state.currentGen.configured.card
        state.currentGen.members.card ∧
      state.currentGen.num = state.lastVote.num := by
  unfold mtmGetCurrentStatusInGen
  split
  · next same => simp [same]
  · next different =>
      split
      · next eligible =>
          exact ⟨fun _ => ⟨different, eligible⟩, fun _ => rfl⟩
      · next ineligible =>
          simp only [reduceCtorEq, false_iff, not_and]
          intro _ member quorum votedHere
          exact ineligible ⟨member, quorum, votedHere⟩

/-- The three counters of a node are ordered. -/
structure Ordered (state : MtmStateOnDisk n) : Prop where
  online : state.lastOnlineIn ≤ state.currentGen.num
  voted : state.currentGen.num ≤ state.lastVote.num

theorem ordered_mtmStateCreate (n : ℕ) : Ordered (mtmStateCreate n) :=
  ⟨le_refl 1, le_refl 1⟩

end Generation
end Multimaster
