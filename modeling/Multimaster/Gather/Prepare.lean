import Multimaster.Gather.Loop

/-!
# Precommit after everybody prepared

`MtmTwoPhaseCommit` and `MtmExplicitPrepare` collect a reply to PREPARE from
every member of the generation of the transaction.  They combine the value that
`gather` returns, the number of messages and the flags in the messages.
-/

namespace Multimaster
namespace Gather

/-- The generation of the transaction. -/
structure XactGen where
  num : ℕ
  members : Nodemask
  isNodes : ∀ node < maxNodes, bitCheck members node = true → node < mtmMaxNodes

theorem XactGen.lt_of_bitCheck
    (gen : XactGen) {node : ℕ} (isMember : bitCheck gen.members node = true) :
    node < mtmMaxNodes := by
  apply gen.isNodes node _ isMember
  rw [bitCheck_eq_getLsbD] at isMember
  exact BitVec.lt_of_getLsbD isMember

/-- What the coordinator knows when PREPARE is done, and what happens while it
waits. -/
structure Coordinator where
  myNodeId : ℕ
  isNode : 0 < myNodeId
  xid : ℕ
  gen : XactGen
  inhandles : List Inhandle
  turns : List Turn

/-- Why the transaction is not prepared everywhere. -/
inductive PrepareError
  | notOnline
  /-- PREPARE on this node, or what stands before it, raises. -/
  | prepareFailed
  | interrupted
  | generationSwitch (was : ℕ)
  | networkError (failedCohort : Nodemask)
  | notPrepared (nodeId : ℕ) (errcode : ℤ) (errmsg : String)
  | invalidGid
  | gidInUse
  deriving Repr, DecidableEq

/-- The result of collecting the replies. -/
inductive Acks
  | waiting
  | raised (error : PrepareError)
  | allPrepared
  deriving Repr, DecidableEq

/-- The message read as a `MtmPrepareResponse`. -/
def MtmMessage.asPrepareResponse : MtmMessage → Option MtmPrepareResponse
  | .prepareResponse response => some response
  | _ => none

/-- The members that did not reply, by the ids in the replies. -/
def failedCohort (cohort : Nodemask)
    (messages : List (ℕ × MtmMessage)) : Nodemask :=
  (messages.filterMap fun entry => entry.2.asPrepareResponse).foldl
    (fun failed response => bitClear failed (response.nodeId - 1)) cohort

/-- The loop over the replies: the first one that is not prepared raises. -/
def firstNotPrepared (messages : List (ℕ × MtmMessage)) :
    Option MtmPrepareResponse :=
  (messages.filterMap fun entry => entry.2.asPrepareResponse).find?
    fun response =>
    !response.prepared

namespace Coordinator

/-- The members but for the coordinator. -/
def cohort (coordinator : Coordinator) : Nodemask :=
  bitClear coordinator.gen.members (coordinator.myNodeId - 1)

/-- The call of `gather` for the replies to PREPARE. -/
def gathered (coordinator : Coordinator) : Outcome :=
  gather
    { msgOk := some (prepareGatherHook coordinator.xid), sendconnCnt := none,
      genNum := coordinator.gen.num }
    coordinator.cohort coordinator.inhandles coordinator.turns

/-- The checks after `gather`. -/
def collectAcks (coordinator : Coordinator) : Acks :=
  match coordinator.gathered with
  | .waiting _ => .waiting
  | .interrupted _ => .raised .interrupted
  | .returned false _ => .raised (.generationSwitch coordinator.gen.num)
  | .returned true state =>
    if state.messages.length ≠ popcount coordinator.cohort then
      .raised (.networkError (failedCohort coordinator.cohort state.messages))
    else
      match firstNotPrepared state.messages with
      | some response =>
        .raised (.notPrepared response.nodeId response.errcode response.errmsg)
      | none => .allPrepared

/-- Every member but for the coordinator replied that it prepared the
transaction. -/
def EverybodyPrepared (coordinator : Coordinator) : Prop :=
  ∀ node, bitCheck coordinator.gen.members node = true →
    node + 1 ≠ coordinator.myNodeId →
    ∃ response : MtmPrepareResponse,
      response.prepared = true ∧ response.xid = coordinator.xid ∧
      Popped.message node (.prepareResponse response) ∈
        coordinator.gathered.state.history

end Coordinator

/-- The commit of a transaction, up to the precommit. -/
structure CommitEnv where
  mtmNo3PC : Bool
  containsDdl : Bool
  containsDml : Bool
  distributed : Bool
  online : Bool
  prepareRaises : Bool
  coordinator : Coordinator

/-- What `MtmTwoPhaseCommit` has come to. -/
inductive CommitProgress
  | notInterested
  | waiting
  | raised (error : PrepareError)
  /-- `SetPreparedTransactionState` with `GTXPreCommitted`. -/
  | precommitted
  deriving Repr, DecidableEq

/-- `MtmTwoPhaseCommit` up to `SetPreparedTransactionState`. -/
def mtmTwoPhaseCommit (env : CommitEnv) : CommitProgress :=
  if env.mtmNo3PC then
    .notInterested
  else if !env.containsDdl && !env.containsDml then
    .notInterested
  else if !env.distributed then
    .notInterested
  else if !env.online then
    .raised .notOnline
  else if env.prepareRaises then
    .raised .prepareFailed
  else
    match env.coordinator.collectAcks with
    | .waiting => .waiting
    | .raised error => .raised error
    | .allPrepared => .precommitted

/-- An explicit PREPARE TRANSACTION. -/
structure ExplicitEnv where
  aborted : Bool
  explicitGid : Bool
  online : Bool
  /-- The transaction with this identifier is already prepared. -/
  gidPrepared : Bool
  /-- `PrepareTransactionBlockWithState3PC` finds the block aborted. -/
  blockAborted : Bool
  prepareRaises : Bool
  coordinator : Coordinator

/-- What `MtmExplicitPrepare` has come to. -/
inductive ExplicitProgress
  | returned (success : Bool)
  | waiting
  | raised (error : PrepareError)
  deriving Repr, DecidableEq

/-- `MtmExplicitPrepare` -/
def mtmExplicitPrepare (env : ExplicitEnv) : ExplicitProgress :=
  if env.aborted then
    .returned false
  else if !env.explicitGid then
    .raised .invalidGid
  else if !env.online then
    .raised .notOnline
  else if env.gidPrepared then
    .raised .gidInUse
  else if env.blockAborted then
    .returned false
  else if env.prepareRaises then
    .raised .prepareFailed
  else
    match env.coordinator.collectAcks with
    | .waiting => .waiting
    | .raised error => .raised error
    | .allPrepared => .returned true

/-! ## Everybody prepared -/

/-- The hook lets through only replies for the transaction. -/
theorem prepareGatherHook_eq_true
    {xid : ℕ} {message : MtmMessage}
    (isOk : prepareGatherHook xid message = true) :
    ∃ response, message = .prepareResponse response ∧ response.xid = xid := by
  cases message with
  | prepareResponse response =>
      exact ⟨response, rfl, by simpa [prepareGatherHook] using isOk⟩
  | _ => exact Bool.noConfusion isOk

/-- As many distinct senders within the cohort as it has nodes are all of them. -/
theorem mem_senders
    {cohort : Nodemask} {senders : List ℕ}
    (isNodes : ∀ node, bitCheck cohort node = true → node < mtmMaxNodes)
    (distinct : senders.Nodup)
    (within : ∀ sender ∈ senders, bitCheck cohort sender = true)
    (enough : senders.length = popcount cohort)
    {node : ℕ} (isMember : bitCheck cohort node = true) :
    node ∈ senders := by
  have subset : senders.toFinset ⊆ nodes cohort := by
    intro sender isSender
    have inCohort := within sender (List.mem_toFinset.mp isSender)
    rw [mem_nodes, ← bitCheck_eq_getLsbD]
    exact ⟨isNodes sender inCohort, inCohort⟩
  have same : senders.toFinset = nodes cohort := by
    apply Finset.eq_of_subset_of_card_le subset
    rw [card_nodes, List.toFinset_card_of_nodup distinct, enough]
  rw [← List.mem_toFinset, same, mem_nodes, ← bitCheck_eq_getLsbD]
  exact ⟨isNodes node isMember, isMember⟩

namespace Coordinator

variable {coordinator : Coordinator}

theorem bitCheck_cohort
    {node : ℕ} (isMember : bitCheck coordinator.gen.members node = true)
    (isPeer : node + 1 ≠ coordinator.myNodeId) :
    bitCheck coordinator.cohort node = true := by
  have isNode := coordinator.isNode
  have other : node ≠ coordinator.myNodeId - 1 := by omega
  rw [cohort, bitCheck_bitClear, isMember]
  simp [other]

/-- The checks pass only if everybody prepared. -/
theorem everybodyPrepared_of_collectAcks
    (isCollected : coordinator.collectAcks = .allPrepared) :
    coordinator.EverybodyPrepared := by
  have collected := gather_collected
    { msgOk := some (prepareGatherHook coordinator.xid), sendconnCnt := none,
      genNum := coordinator.gen.num }
    coordinator.cohort coordinator.inhandles coordinator.turns
  change Collected _ _ _ coordinator.gathered.state at collected
  intro node isMember isPeer
  rw [collectAcks] at isCollected
  cases outcome : coordinator.gathered with
  | waiting state => simp [outcome] at isCollected
  | interrupted state => simp [outcome] at isCollected
  | returned ret state =>
    cases ret with
    | false => simp [outcome] at isCollected
    | true =>
      rw [outcome] at collected isCollected
      change Collected _ _ _ state at collected
      change ∃ response : MtmPrepareResponse,
        response.prepared = true ∧ response.xid = coordinator.xid ∧
          Popped.message node (.prepareResponse response) ∈ state.history
      simp only [ne_eq, ite_not] at isCollected
      split_ifs at isCollected with enough
      -- The number of replies tells that the node is among the senders.
      have isNodes (other : ℕ)
          (inCohort : bitCheck coordinator.cohort other = true) :
          other < mtmMaxNodes :=
        coordinator.gen.lt_of_bitCheck (bitCheck_of_bitClear inCohort)
      have within : ∀ sender ∈ state.messages.map Prod.fst,
          bitCheck coordinator.cohort sender = true := by
        intro sender isSender
        obtain ⟨entry, isEntry, rfl⟩ := List.mem_map.mp isSender
        exact collected.isParticipant entry isEntry
      have isSender : node ∈ state.messages.map Prod.fst :=
        mem_senders isNodes collected.distinct within
          (by rw [List.length_map, enough])
          (bitCheck_cohort isMember isPeer)
      obtain ⟨entry, isEntry, rfl⟩ := List.mem_map.mp isSender
      obtain ⟨response, isResponse, isXid⟩ :=
        prepareGatherHook_eq_true (collected.accepted entry isEntry _ rfl)
      have isPopped := collected.popped entry isEntry
      rw [isResponse] at isPopped
      refine ⟨response, ?_, isXid, isPopped⟩
      cases notPrepared : firstNotPrepared state.messages with
      | some other => simp [notPrepared] at isCollected
      | none =>
        have isListed : response ∈
            state.messages.filterMap fun entry => entry.2.asPrepareResponse :=
          List.mem_filterMap.mpr ⟨entry, isEntry, by rw [isResponse]; rfl⟩
        have isPrepared := List.find?_eq_none.mp notPrepared response isListed
        simpa using isPrepared

end Coordinator

theorem everybodyPrepared_of_precommitted
    {env : CommitEnv} (isPrecommitted : mtmTwoPhaseCommit env = .precommitted) :
    env.coordinator.EverybodyPrepared := by
  apply Coordinator.everybodyPrepared_of_collectAcks
  rw [mtmTwoPhaseCommit] at isPrecommitted
  split_ifs at isPrecommitted
  cases acks : env.coordinator.collectAcks with
  | allPrepared => rfl
  | waiting => simp [acks] at isPrecommitted
  | raised error => simp [acks] at isPrecommitted

theorem everybodyPrepared_of_explicitPrepare
    {env : ExplicitEnv} (isSuccess : mtmExplicitPrepare env = .returned true) :
    env.coordinator.EverybodyPrepared := by
  apply Coordinator.everybodyPrepared_of_collectAcks
  rw [mtmExplicitPrepare] at isSuccess
  split_ifs at isSuccess
  · simp at isSuccess
  · simp at isSuccess
  · cases acks : env.coordinator.collectAcks with
    | allPrepared => rfl
    | waiting => simp [acks] at isSuccess
    | raised error => simp [acks] at isSuccess

/-- `gather` returns accepted messages of distinct participants, and returns true
only when every participant delivered one, was reported dead or lost its
connection.  So a transaction is precommitted, and an explicit PREPARE succeeds,
only if every other member of its generation replied that it prepared this
transaction. -/
theorem precommit_after_everybody_prepared :
    (∀ args participants inhandles turns final,
      (gather args participants inhandles turns).state = final →
        (final.messages.map Prod.fst).Nodup ∧
        ∀ entry ∈ final.messages,
          bitCheck participants entry.1 = true ∧ args.Accepts entry.2 ∧
            Popped.message entry.1 entry.2 ∈ final.history) ∧
    (∀ args participants inhandles turns final,
      gather args participants inhandles turns = .returned true final →
        ∀ participant, bitCheck participants participant = true →
          participant ∈ final.messages.map Prod.fst ∨
            Popped.failed participant ∈ final.history ∨
              Lost args turns participant) ∧
    (∀ env, mtmTwoPhaseCommit env = .precommitted →
      env.coordinator.EverybodyPrepared) ∧
    ∀ env, mtmExplicitPrepare env = .returned true →
      env.coordinator.EverybodyPrepared := by
  refine ⟨?_, ?_, fun env => everybodyPrepared_of_precommitted,
    fun env => everybodyPrepared_of_explicitPrepare⟩
  · rintro args participants inhandles turns _ rfl
    have collected := gather_collected args participants inhandles turns
    exact ⟨collected.distinct, fun entry isEntry =>
      ⟨collected.isParticipant entry isEntry, collected.accepted entry isEntry,
        collected.popped entry isEntry⟩⟩
  · exact fun args participants inhandles turns final isReturned participant =>
      gather_accounted isReturned

/-- A turn in which the first queue has a message. -/
def deliver (message : MtmMessage) : Turn where
  receive := fun _ => .success message
  reattach := fun _ => .dead
  timeout := false
  sconnCnt := fun _ => 1
  currentGenNum := 1
  interrupted := false

/-- The first of two nodes commits a transaction, and gets a stale reply first. -/
def commitOfTwo : CommitEnv where
  mtmNo3PC := false
  containsDdl := false
  containsDml := true
  distributed := true
  online := true
  prepareRaises := false
  coordinator :=
    { myNodeId := 1
      isNode := by decide
      xid := 8
      gen := { num := 1, members := 3#64, isNodes := by decide +kernel }
      inhandles := [{ name := "node2", maskPos := 1, mqh := true }]
      turns :=
        [deliver (.prepareResponse ⟨2, true, 0, "", 7⟩),
          deliver (.prepareResponse ⟨2, true, 0, "", 8⟩)] }

theorem commitOfTwo_prepared :
    mtmTwoPhaseCommit commitOfTwo = .precommitted ∧
      commitOfTwo.coordinator.EverybodyPrepared := by
  have isPrecommitted : mtmTwoPhaseCommit commitOfTwo = .precommitted := by
    decide +kernel
  exact ⟨isPrecommitted,
    precommit_after_everybody_prepared.2.2.1 _ isPrecommitted⟩

end Gather
end Multimaster
