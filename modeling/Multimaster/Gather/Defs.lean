import Multimaster.Nodemask

/-!
# Collecting replies

`gather` receives one accepted message from every participant, or finds that the
participant is dead or that the request to it may have been lost.  Every turn of
its loop calls `dmq_pop_nb`, which looks into the queues of the attached
receivers in order. What the rest of the system does during a turn is given with
the turn.
-/

namespace Multimaster
namespace Gather

/-- `MtmPrepareResponse` -/
structure MtmPrepareResponse where
  nodeId : ℕ
  prepared : Bool
  errcode : ℤ
  errmsg : String
  xid : ℕ
  deriving Repr, DecidableEq

/-- `MtmMessage`.  The data of the messages other than the replies to PREPARE is
left out. -/
inductive MtmMessage
  | prepareResponse (response : MtmPrepareResponse)
  | twoAResponse
  | txRequest
  | txStatusResponse
  | heartbeat
  | genVoteRequest
  | genVoteResponse
  deriving Repr, DecidableEq

/-- `PrepareGatherHook` -/
def prepareGatherHook (xid : ℕ) : MtmMessage → Bool
  | .prepareResponse response => response.xid == xid
  | _ => false

/-- `shm_mq_result`, with the received message. -/
inductive ShmMqResult
  | success (message : MtmMessage)
  | wouldBlock
  | detached
  deriving Repr, DecidableEq

/-- The outcomes of `dmq_reattach_shm_mq`, which may be interrupted. -/
inductive Reattached
  | attached
  | dead
  | interrupted
  deriving Repr, DecidableEq

/-- An entry of `dmq_local.inhandles`.  The name of a free entry is empty, and
`mqh` tells whether a queue is attached. -/
structure Inhandle where
  name : String
  maskPos : ℕ
  mqh : Bool
  deriving Repr, DecidableEq

/-- What happens during one turn of the loop. -/
structure Turn where
  receive : ℕ → ShmMqResult
  reattach : ℕ → Reattached
  /-- `WaitLatch` ends by the timeout. -/
  timeout : Bool
  /-- `dmq_state->sconn_cnt` -/
  sconnCnt : ℕ → ℤ
  /-- `MtmGetCurrentGenNum` -/
  currentGenNum : ℕ
  /-- `CHECK_FOR_INTERRUPTS` raises. -/
  interrupted : Bool

/-- What `dmq_pop_nb` returns: a message, a sender that failed, or neither. -/
inductive Popped
  | message (sender : ℕ) (message : MtmMessage)
  | failed (sender : ℕ)
  | wouldBlock
  | interrupted
  deriving Repr, DecidableEq

/-- The loop of `dmq_pop_nb` over the entries from index `i` on. -/
def popFrom (turn : Turn) (mask : Nodemask) :
    List Inhandle → ℕ → Nodemask → List Inhandle × Popped
  | [], _, unchecked =>
    match firstSetBit unchecked with
    | some sender => ([], .failed sender)
    | none => ([], .wouldBlock)
  | handle :: rest, i, unchecked =>
    if handle.name = "" ∨ bitCheck mask handle.maskPos = false then
      let popped := popFrom turn mask rest (i + 1) unchecked
      (handle :: popped.1, popped.2)
    else
      match if handle.mqh then turn.receive i else .detached with
      | .success message => (handle :: rest, .message handle.maskPos message)
      | .detached =>
        match turn.reattach i with
        | .attached =>
            ({ handle with mqh := true } :: rest, .failed handle.maskPos)
        | .dead => ({ handle with mqh := false } :: rest, .failed handle.maskPos)
        | .interrupted => ({ handle with mqh := false } :: rest, .interrupted)
      | .wouldBlock =>
        let popped :=
          popFrom turn mask rest (i + 1) (bitClear unchecked handle.maskPos)
        (handle :: popped.1, popped.2)

/-- `dmq_pop_nb` -/
def dmqPopNb
    (turn : Turn) (mask : Nodemask) (inhandles : List Inhandle) :
    List Inhandle × Popped :=
  popFrom turn mask inhandles 0 mask

/-- `DMQ_N_MASK_POS` -/
def dmqNMaskPos : ℕ := 16

/-- `dmq_purge_failed_participants`.  A dead connection has the counter 0. -/
def dmqPurgeFailedParticipants
    (participants : Nodemask) (sconnCnt current : ℕ → ℤ) : Nodemask :=
  (List.range dmqNMaskPos).foldl (fun res i =>
    if bitCheck participants i ∧ (sconnCnt i = 0 ∨ sconnCnt i ≠ current i) then
      bitClear res i
    else
      res) participants

/-- The arguments of `gather` but for the participants.  `MtmInvalidGenNum` is
0. -/
structure Arguments where
  msgOk : Option (MtmMessage → Bool)
  sendconnCnt : Option (ℕ → ℤ)
  genNum : ℕ

/-- The message is not filtered out. -/
def Arguments.Accepts (args : Arguments) (message : MtmMessage) : Prop :=
  ∀ msgOk, args.msgOk = some msgOk → msgOk message = true

instance (args : Arguments) (message : MtmMessage) :
    Decidable (args.Accepts message) :=
  match hook : args.msgOk with
  | none => isTrue (by simp [Arguments.Accepts, hook])
  | some msgOk => decidable_of_iff (msgOk message = true) (by
      simp [Arguments.Accepts, hook])

/-- The variables of `gather`.  The history of what `dmq_pop_nb` returned is not
in the source. -/
structure State where
  participants : Nodemask
  /-- `messages` with the `mask_pos` of the senders. -/
  messages : List (ℕ × MtmMessage)
  inhandles : List Inhandle
  history : List Popped
  deriving Repr, DecidableEq

/-- How `gather` ends, or that it still waits. -/
inductive Outcome
  | waiting (state : State)
  | returned (ret : Bool) (state : State)
  | interrupted (state : State)
  deriving Repr, DecidableEq

/-- The state in which it ends. -/
def Outcome.state : Outcome → State
  | .waiting state => state
  | .returned _ state => state
  | .interrupted state => state

/-- The participants after the timeout. -/
def Arguments.purge (args : Arguments) (turn : Turn)
    (participants : Nodemask) : Nodemask :=
  match args.sendconnCnt with
  | some sconnCnt =>
      dmqPurgeFailedParticipants participants sconnCnt turn.sconnCnt
  | none => participants

/-- The generation is checked and has changed. -/
def Arguments.Switched (args : Arguments) (turn : Turn) : Prop :=
  args.genNum ≠ 0 ∧ args.genNum ≠ turn.currentGenNum

instance (args : Arguments) (turn : Turn) : Decidable (args.Switched turn) :=
  inferInstanceAs (Decidable (_ ∧ _))

/-- One turn of the loop: it ends, or goes on with another state. -/
def gatherTurn (args : Arguments) (turn : Turn) (state : State) : Outcome :=
  let popped := dmqPopNb turn state.participants state.inhandles
  let state := { state with
    inhandles := popped.1, history := state.history ++ [popped.2] }
  match popped.2 with
  | .message sender message =>
    if args.Accepts message then
      .waiting { state with
        messages := state.messages ++ [(sender, message)]
        participants := bitClear state.participants sender }
    else
      .waiting state
  | .failed sender =>
    .waiting { state with participants := bitClear state.participants sender }
  | .wouldBlock =>
    if turn.timeout then
      let state :=
        { state with participants := args.purge turn state.participants }
      if args.Switched turn then
        .returned false state
      else if turn.interrupted then
        .interrupted state
      else
        .waiting state
    else if turn.interrupted then
      .interrupted state
    else
      .waiting state
  | .interrupted => .interrupted state

/-- The loop of `gather`. -/
def gatherLoop (args : Arguments) : List Turn → State → Outcome
  | turns, state =>
    if state.participants = 0#64 then
      .returned true state
    else
      match turns with
      | [] => .waiting state
      | turn :: rest =>
        match gatherTurn args turn state with
        | .waiting state => gatherLoop args rest state
        | outcome => outcome

/-- `gather` -/
def gather
    (args : Arguments) (participants : Nodemask) (inhandles : List Inhandle)
    (turns : List Turn) : Outcome :=
  gatherLoop args turns
    { participants := participants, messages := [], inhandles := inhandles,
      history := [] }

end Gather
end Multimaster
