import Multimaster.Lib.Machine
import Multimaster.Lib.Rely
import Multimaster.Generation.Vote

/-!
# One node, statement by statement

The generation operations of `state.c` as straight-line programs over shared
memory, the state file and the WAL.  A crash may come between any two
statements: memory is lost, a rename that was not followed by the directory
sync may or may not survive, and the WAL keeps any prefix that contains the
flushed part.

The operations exclude each other.  Those that take `gen_lock` exclusively also
take the full prepare barrier, so they exclude heartbeats and prepares; those
that take `vote_lock` under a shared `gen_lock` run along with both.
-/

namespace Multimaster
namespace Node

open Generation

/-- How a `PREPARE` got into the WAL. -/
inductive PrepareKind
  /-- By a backend, in `MtmTwoPhaseCommit` or `MtmExplicitPrepare`. -/
  | backend
  | applyNormal
  | applyRecovery
  deriving DecidableEq

/-- The WAL records the generation rules are about. -/
inductive Record (n : ℕ)
  | parallelSafe
      (gen : MtmGeneration n) (donors : NodeMask n)
      (origin : Option (Fin n))
  | prepare (genNum : ℕ) (kind : PrepareKind)
  deriving DecidableEq

/-- What others can see of the node, and the assignments to `last_online_in`,
in the order in which the values are read from or written to memory. -/
inductive Event (n : ℕ)
  | heartbeat
      (currentGen : MtmGeneration n) (donors : NodeMask n)
      (lastOnlineIn : ℕ)
  | voteResponse
      (request : MtmGeneration n) (response : MtmGenVoteResponse n)
  | parallelSafeLogged (gen : MtmGeneration n)
  | lastOnlineInSet (num : ℕ)
  deriving DecidableEq

/-- Memory, disk and the record of what happened. -/
structure Storage (n : ℕ) where
  memory : MtmState n
  /-- The durable contents of `pg_mtm/state`. -/
  file : MtmStateOnDisk n
  /-- The contents of `pg_mtm/state.tmp`, when it is complete. -/
  tmp : Option (MtmStateOnDisk n)
  /-- A renamed file whose directory entry is not synced yet. -/
  renamed : Option (MtmStateOnDisk n)
  wal : List (Record n)
  /-- Length of the durable part of the WAL. -/
  flushed : ℕ
  /-- Replication origin of the session of the running operation. -/
  sessionOrigin : Option (Fin n)
  trace : List (Event n)

/-- The statements of the generation operations. -/
inductive Statement (n : ℕ)
  | endSession
  | load
  | setReceiveMode (mode : ReceiveMode n)
  | setLastVote (gen : MtmGeneration n)
  | setCurrentGenNum (num : ℕ)
  | setCurrentGenMasks (members configured : NodeMask n)
  | setDonors (donors : NodeMask n)
  | setPsLogged (value : Bool)
  | setLastOnlineIn (num : ℕ)
  | writeTmp
  | renameTmp
  | syncDirectory
  | insertParallelSafe (gen : MtmGeneration n) (donors : NodeMask n)
  | flushWal
  | respond (request : MtmGeneration n) (response : MtmGenVoteResponse n)

/-- Effect of one statement. -/
def exec : Statement n → Storage n → Storage n
  | .endSession, s => { s with sessionOrigin := none }
  | .load, s =>
      { s with
        memory :=
          { s.memory with toMtmStateOnDisk := s.renamed.getD s.file } }
  | .setReceiveMode mode, s =>
      { s with memory := { s.memory with receiveMode := mode } }
  | .setLastVote gen, s =>
      { s with memory := { s.memory with lastVote := gen } }
  | .setCurrentGenNum num, s =>
      { s with
        memory :=
          { s.memory with
            currentGen := { s.memory.currentGen with num := num } } }
  | .setCurrentGenMasks members configured, s =>
      { s with
        memory :=
          { s.memory with
            currentGen :=
              { s.memory.currentGen with
                members := members, configured := configured } } }
  | .setDonors donors, s =>
      { s with memory := { s.memory with donors := donors } }
  | .setPsLogged value, s =>
      { s with memory := { s.memory with psLogged := value } }
  | .setLastOnlineIn num, s =>
      { s with
        memory := { s.memory with lastOnlineIn := num }
        trace := s.trace ++ [.lastOnlineInSet num] }
  | .writeTmp, s => { s with tmp := some s.memory.toMtmStateOnDisk }
  | .renameTmp, s =>
      { s with
        renamed := s.tmp.orElse fun _ => s.renamed
        tmp := none }
  | .syncDirectory, s =>
      { s with file := s.renamed.getD s.file, renamed := none }
  | .insertParallelSafe gen donors, s =>
      { s with
        wal := s.wal ++ [.parallelSafe gen donors s.sessionOrigin]
        trace := s.trace ++ [.parallelSafeLogged gen] }
  | .flushWal, s => { s with flushed := s.wal.length }
  | .respond request response, s =>
      { s with trace := s.trace ++ [.voteResponse request response] }

/-! ## The operations as programs -/

/-- `MtmStateSave`. -/
def mtmStateSave : List (Statement n) :=
  [.writeTmp, .renameTmp, .syncDirectory]

/-- `LogParallelSafe`. -/
def logParallelSafe
    (gen : MtmGeneration n) (donors : NodeMask n) : List (Statement n) :=
  [.insertParallelSafe gen donors, .flushWal]

/-- Getting online, as `MtmConsiderGenSwitch` and `MtmHandleParallelSafe` do
it. -/
def getOnline
    (gen : MtmGeneration n) (donors : NodeMask n) : List (Statement n) :=
  [Statement.setPsLogged false, .setLastOnlineIn gen.num] ++ mtmStateSave ++
    logParallelSafe gen donors ++ Statement.setPsLogged true :: mtmStateSave ++
    [Statement.setReceiveMode .normal]

/-- `MtmConsiderGenSwitch`, from the state of memory under its locks. -/
def mtmConsiderGenSwitch
    (me : Fin n) (gen : MtmGeneration n) (donors : NodeMask n)
    (memory : MtmState n) : List (Statement n) :=
  -- `multimaster is not initialized yet`
  if memory.currentGen.num = mtmInvalidGenNum then []
  else if gen.num ≤ memory.currentGen.num then []
  else
    (if memory.lastVote.num < gen.num then [Statement.setLastVote gen]
      else []) ++
      [Statement.setCurrentGenNum gen.num,
        .setCurrentGenMasks gen.members gen.configured,
        .setDonors donors] ++
      (if DeadInGen me gen (voteAfterSwitch memory.lastVote gen).num then
        Statement.setReceiveMode .disabled :: mtmStateSave
      else if me ∈ donors then getOnline gen donors
      else
        mtmStateSave ++ [Statement.setReceiveMode (receiveModeOfDonors donors)])

/-- The part of `MtmHandleParallelSafe` after its generation switch. -/
def mtmHandleParallelSafe
    (me : Fin n) (gen : MtmGeneration n) (donors : NodeMask n)
    (isRecovery : Bool) (memory : MtmState n) : List (Statement n) :=
  match parallelSafeVerdict me gen isRecovery memory.toMtmStateOnDisk with
  | .getOnline => getOnline gen donors
  | .reconnect => []
  | .notInterested => []

/-- `MtmStateStartup`, from the contents of the state file. -/
def mtmStateStartup
    (me : Fin n) (file : MtmStateOnDisk n) : List (Statement n) :=
  [Statement.load, .setReceiveMode (startupReceiveMode me file)] ++
    (if file.currentGen.num = file.lastOnlineIn ∧ file.psLogged = false then
      logParallelSafe file.currentGen file.donors ++
        Statement.setPsLogged true :: mtmStateSave
    else [])

/-- Replace the vote, if it changes, and make it durable. -/
def saveVote (lastVote vote : MtmGeneration n) : List (Statement n) :=
  if vote = lastVote then [] else .setLastVote vote :: mtmStateSave

/-- The operations on the generation state. -/
inductive Operation (n : ℕ)
  | startup
  | considerGenSwitch (gen : MtmGeneration n) (donors : NodeMask n)
  /-- `MtmHandleParallelSafe` in an apply worker of `sender`, up to and with
  its call of `MtmConsiderGenSwitch`. -/
  | receiveParallelSafe
      (sender : Fin n) (gen : MtmGeneration n) (donors : NodeMask n)
  | applyParallelSafe
      (gen : MtmGeneration n) (donors : NodeMask n) (isRecovery : Bool)
  | campaignMyself (env : CampaignEnv n)
  /-- The end of `CampaignTour`. -/
  | bumpLastVote (maxLastVoteNum : ℕ)
  | handleGenVoteRequest
      (env : VoteEnv n) (sender : Fin n) (request : MtmGeneration n)

/-- Whether the operation takes `gen_lock` exclusively, and with it the full
prepare barrier. -/
def Operation.exclusive : Operation n → Bool
  | .startup => true
  | .considerGenSwitch _ _ => true
  | .receiveParallelSafe _ _ _ => true
  | .applyParallelSafe _ _ _ => true
  | .campaignMyself _ => false
  | .bumpLastVote _ => false
  | .handleGenVoteRequest _ _ _ => false

/-- The replication origin of the session that starts the operation. -/
def Operation.origin : Operation n → Option (Fin n)
  | .receiveParallelSafe sender _ _ => some sender
  | _ => none

/-- The statements the operation performs from a given state. -/
def Operation.program
    (me : Fin n) (s : Storage n) : Operation n → List (Statement n)
  | .startup => mtmStateStartup me (s.renamed.getD s.file)
  | .considerGenSwitch gen donors =>
      mtmConsiderGenSwitch me gen donors s.memory
  | .receiveParallelSafe _ gen donors =>
      .endSession :: mtmConsiderGenSwitch me gen donors s.memory
  | .applyParallelSafe gen donors isRecovery =>
      mtmHandleParallelSafe me gen donors isRecovery s.memory
  | .campaignMyself env =>
      .setReceiveMode (Generation.campaignMyself me env s.memory).1.receiveMode ::
        saveVote s.memory.lastVote
          (Generation.campaignMyself me env s.memory).1.lastVote
  | .bumpLastVote maxLastVoteNum =>
      saveVote s.memory.lastVote
        (Generation.bumpLastVote maxLastVoteNum s.memory).lastVote
  | .handleGenVoteRequest env sender request =>
      let answer :=
        Generation.handleGenVoteRequest me env sender request s.memory
      saveVote s.memory.lastVote answer.1.lastVote ++
        [.setReceiveMode answer.1.receiveMode, .respond request answer.2]

/-! ## The machine -/

/-- An operation in progress. -/
structure Task (n : ℕ) where
  exclusive : Bool
  rest : List (Statement n)

/-- A process that holds the prepare barrier and is about to prepare. -/
structure Preparer where
  genNum : ℕ
  kind : PrepareKind
  deriving DecidableEq

/-- A node. -/
structure NodeState (n : ℕ) where
  storage : Storage n
  task : Option (Task n)
  preparers : List Preparer

/-- `gen_lock` is held exclusively. -/
def NodeState.GenLockedExclusively (node : NodeState n) : Prop :=
  node.task.any Task.exclusive = true

instance (node : NodeState n) : Decidable node.GenLockedExclusively :=
  inferInstanceAs (Decidable (_ = _))

/-- The generation state is loaded. -/
def Storage.Initialized (s : Storage n) : Prop :=
  s.memory.currentGen.num ≠ mtmInvalidGenNum

instance (s : Storage n) : Decidable s.Initialized :=
  inferInstanceAs (Decidable (_ ≠ _))

/-- The checks made under the prepare barrier before a `PREPARE` of
generation `genNum` is written: those of `MtmTwoPhaseCommit` and
`MtmExplicitPrepare`, and those of `process_remote_commit`. -/
def AdmitsPrepare
    (me : Fin n) (memory : MtmState n) (genNum : ℕ) : PrepareKind → Prop
  | .backend =>
      mtmGetCurrentStatusInGen me memory.toMtmStateOnDisk = .online ∧
        genNum = memory.currentGen.num
  | .applyNormal =>
      ¬ memory.currentGen.num < genNum ∧
        (memory.currentGen.num > genNum ∨
          mtmGetCurrentStatusInGen me memory.toMtmStateOnDisk = .online) ∧
        ¬ genNum < memory.currentGen.num
  | .applyRecovery => ¬ memory.currentGen.num < genNum

instance (me : Fin n) (memory : MtmState n) (genNum : ℕ)
    (kind : PrepareKind) : Decidable (AdmitsPrepare me memory genNum kind) :=
  match kind with
  | .backend => inferInstanceAs (Decidable (_ ∧ _))
  | .applyNormal => inferInstanceAs (Decidable (_ ∧ _ ∧ _))
  | .applyRecovery => inferInstanceAs (Decidable (¬ _))

/-- The steps of a node. -/
inductive Action (n : ℕ)
  /-- Take the locks of an operation and fix what it is going to do. -/
  | begin (operation : Operation n)
  /-- Execute the next statement of the operation in progress. -/
  | run
  /-- Release the locks. -/
  | release
  | heartbeat
  /-- Take the prepare barrier and pass the checks under it. -/
  | acquireBarrier (preparer : Preparer)
  /-- Write `PREPARE`, flush it and release the barrier. -/
  | prepare (preparer : Preparer)
  /-- Lose memory; keep the pending rename or not, and at least `keep` records
  of the WAL besides the flushed ones. -/
  | crash (keepRenamed : Bool) (keep : ℕ)

/-- Shared memory after a server start. -/
def blankMemory (n : ℕ) : MtmState n where
  currentGen := { num := mtmInvalidGenNum, members := ∅, configured := ∅ }
  donors := ∅
  lastOnlineIn := mtmInvalidGenNum
  lastVote := { num := mtmInvalidGenNum, members := ∅, configured := ∅ }
  psLogged := false
  receiveMode := .disabled

/-- Whether a step can be taken. -/
def Enabled (me : Fin n) (node : NodeState n) : Action n → Prop
  | .begin operation =>
      node.task.isNone = true ∧
        (if operation.exclusive then node.preparers = []
          else node.storage.Initialized)
  | .run => node.task.any (fun task => !task.rest.isEmpty) = true
  | .release => node.task.any (fun task => task.rest.isEmpty) = true
  | .heartbeat =>
      node.storage.Initialized ∧ ¬ node.GenLockedExclusively
  | .acquireBarrier preparer =>
      node.storage.Initialized ∧ ¬ node.GenLockedExclusively ∧
        AdmitsPrepare me node.storage.memory preparer.genNum preparer.kind
  | .prepare preparer => preparer ∈ node.preparers
  | .crash _ _ => True

instance (me : Fin n) (node : NodeState n) (action : Action n) :
    Decidable (Enabled me node action) :=
  match action with
  | .begin _ => inferInstanceAs (Decidable (_ ∧ _))
  | .run => inferInstanceAs (Decidable (_ = _))
  | .release => inferInstanceAs (Decidable (_ = _))
  | .heartbeat => inferInstanceAs (Decidable (_ ∧ _))
  | .acquireBarrier _ => inferInstanceAs (Decidable (_ ∧ _ ∧ _))
  | .prepare _ => inferInstanceAs (Decidable (_ ∈ _))
  | .crash _ _ => inferInstanceAs (Decidable True)

/-- Execute the next statement of a task. -/
def runTask (node : NodeState n) : NodeState n :=
  match node.task with
  | some ⟨exclusive, statement :: rest⟩ =>
      { node with
        storage := exec statement node.storage
        task := some ⟨exclusive, rest⟩ }
  | _ => node

/-- What is left of the storage after a crash. -/
def crashStorage
    (keepRenamed : Bool) (keep : ℕ) (s : Storage n) : Storage n where
  memory := blankMemory n
  file := if keepRenamed then s.renamed.getD s.file else s.file
  tmp := none
  renamed := none
  wal := s.wal.take (s.flushed + keep)
  flushed := (s.wal.take (s.flushed + keep)).length
  sessionOrigin := none
  trace := s.trace

/-- The state after a step. -/
def effect (me : Fin n) (node : NodeState n) : Action n → NodeState n
  | .begin operation =>
      { node with
        storage := { node.storage with sessionOrigin := operation.origin }
        task := some
          ⟨operation.exclusive, operation.program me node.storage⟩ }
  | .run => runTask node
  | .release => { node with task := none }
  | .heartbeat =>
      { node with
        storage :=
          { node.storage with
            trace := node.storage.trace ++
              [.heartbeat node.storage.memory.currentGen
                node.storage.memory.donors
                node.storage.memory.lastOnlineIn] } }
  | .acquireBarrier preparer =>
      { node with preparers := preparer :: node.preparers }
  | .prepare preparer =>
      { node with
        storage :=
          { node.storage with
            wal := node.storage.wal ++
              [.prepare preparer.genNum preparer.kind]
            flushed := node.storage.wal.length + 1 }
        preparers := node.preparers.erase preparer }
  | .crash keepRenamed keep =>
      { storage := crashStorage keepRenamed keep node.storage
        task := none
        preparers := [] }

/-- A node after `mtm_state_create`, before its first `MtmStateStartup`. -/
def initialNode (n : ℕ) : NodeState n where
  storage :=
    { memory := blankMemory n
      file := mtmStateCreate n
      tmp := none
      renamed := none
      wal := []
      flushed := 0
      sessionOrigin := none
      trace := [] }
  task := none
  preparers := []

/-- The machine of node `me`. -/
def machine (me : Fin n) : Machine (NodeState n) (Action n) where
  init := initialNode n
  Enabled := Enabled me
  effect := effect me

instance (me : Fin n) (node : NodeState n) (action : Action n) :
    Decidable ((machine me).Enabled node action) :=
  inferInstanceAs (Decidable (Enabled me node action))

end Node
end Multimaster
