import Multimaster.Lib.Routine
import Multimaster.Barrier.Defs
import Multimaster.Node.Defs
import Mathlib.Algebra.BigOperators.Group.Finset.Basic

/-!
# The functions that hold the prepare barrier

The barrier belongs to no transaction and no resource owner, so whoever takes it
has to give it back, also when an error is raised in between.  The functions are
written here with every call that may raise one.  Which calls do, what is
answered by code that is not followed here, and what the other processes do to
the counters and to the generation state in the meantime is given by an
environment.

An `ERROR` goes to the handlers of the function, then to those of its caller and
last to the main loop of the process, which belongs to the server.  `FATAL` ends
the process, `PANIC` the whole server; no handler sees them.
-/

namespace Multimaster
namespace Barrier

open Generation

/-- Why a function does not return. -/
inductive Stop
  | error
  | fatal
  | panic
  /-- It still waits for the barrier. -/
  | waiting
  deriving DecidableEq

/-- The level of an error that a call may raise. -/
inductive Level
  | error
  | fatal
  deriving DecidableEq

/-- The error as a stop. -/
def Level.stop : Level → Stop
  | .error => .error
  | .fatal => .fatal

/-- What `PG_CATCH` sees. -/
def Stop.isError : Stop → Bool
  | .error => true
  | _ => false

/-- The calls that may raise an error. -/
inductive Site
  | beforeShmemExit
  | conditionVariableSleep
  | log
  | endSession
  | stateLoad
  | logLogicalMessage
  | xlogFlush
  | beginTransactionBlock
  | startTransactionCommand
  | commitTransactionCommand
  | userAbortTransactionBlock
  | getCurrentStatus
  | abortOutOfAnyTransaction
  | getTopTransactionId
  | dmqStreamSubscribe
  | dmqStreamUnsubscribe
  | globalTxAcquire
  | globalTxRelease
  | prepareTransactionBlock
  | setPreparedTransactionState
  | finishPreparedTransaction
  | gather
  | maybeLogSyncpoint
  | palloc
  | copyErrorData
  | emitErrorReport
  | sendPrepareReply
  | abortCurrentTransaction
  deriving DecidableEq

/-- What code that is not followed here decides. -/
inductive Question
  /-- `my_node_id` is a valid one. -/
  | configured
  | mtmNo3PC
  | containsDdlOrDml
  | distributed
  | isTransactionBlock
  | isAbortedTransactionBlock
  | mtmBreakConnection
  /-- `PrepareTransactionBlock` returns true. -/
  | blockPrepared
  /-- The gtx found under the gid is already prepared. -/
  | gidInUse
  /-- `gather` returns true. -/
  | gathered
  /-- As many messages as members. -/
  | everybodyReplied
  /-- Each reply says that the transaction is prepared. -/
  | everybodyPrepared
  /-- The votes for the precommit are a quorum. -/
  | precommitQuorum
  | mtmWaitPeerCommits
  /-- `GlobalTxAcquire` without `create` finds the gtx. -/
  | gtxFound
  /-- `origin_xid` of the executor is valid. -/
  | originXidValid
  | bdrLike
  /-- `DDLApplyInProgress` is `MTM_DDL_IN_PROGRESS_NONTX`. -/
  | ddlNontx
  deriving DecidableEq

/-- `mtm_commit_state.gtx`, as far as `mtm_commit_cleanup` reads it. -/
structure CommitGtx where
  prepared : Bool
  /-- The accepted term is not `InvalidGTxTerm`. -/
  accepted : Bool
  /-- `IS_EXPLICIT_2PC_GID` of the gid. -/
  explicitGid : Bool
  deriving DecidableEq

/-- A process and what it shares with the others. -/
structure World (n : ℕ) where
  /-- `pb_acquired_in_mode`. -/
  acquired : Option Mode
  /-- `pb_hook_registred`. -/
  hookRegistered : Bool
  counters : Counters
  /-- The process holds `gen_lock`. -/
  genLocked : Bool
  storage : Node.Storage n
  /-- `mtm_commit_state.gtx`. -/
  gtx : Option CommitGtx
  /-- How often the other processes had their turn. -/
  clock : ℕ

/-- What happens around the process. -/
structure Env (n : ℕ) where
  /-- The error a call raises at a time. -/
  errors : ℕ → Site → Option Level
  /-- Whether a failure in a critical section makes the server panic. -/
  panics : ℕ → Bool
  answers : ℕ → Question → Bool
  /-- What the others add to the counters. -/
  others : ℕ → Mode → ℤ
  /-- What the others do to the generation state while `gen_lock` is free. -/
  otherStorage : ℕ → Node.Storage n → Node.Storage n
  /-- How many rounds of waiting are followed. -/
  patience : ℕ
  /-- The orphaned transactions that `ResolveForRefereeWinner` collects. -/
  nGids : ℕ

/-- What the others have added to a counter by some time. -/
def Env.foreign (env : Env n) (clock : ℕ) (mode : Mode) : ℤ :=
  ∑ time ∈ Finset.range clock, env.others time mode

/-- The counters after others have added to them. -/
def Counters.shift (counters : Counters) (amount : Mode → ℤ) : Counters where
  nApplyPreparers := counters.nApplyPreparers + amount .applyPreparer
  nBackendPreparers := counters.nBackendPreparers + amount .backendPreparer
  nBackendHolders := counters.nBackendHolders + amount .backendHolder
  nFullHolders := counters.nFullHolders + amount .fullHolder

/-- The others have their turn. -/
def World.tick (env : Env n) (world : World n) : World n :=
  { world with
    counters := world.counters.shift (env.others world.clock)
    storage :=
      if world.genLocked then world.storage
      else env.otherStorage world.clock world.storage
    clock := world.clock + 1 }

/-- A piece of code of the process. -/
abbrev Code (n : ℕ) (Value : Type) := Routine (World n) Stop Value

/-! ## Steps -/

/-- The others have their turn. -/
def turn (env : Env n) : Code n Unit :=
  modify fun world => world.tick env

/-- A call that changes nothing followed here and may raise an error. -/
def call (env : Env n) (site : Site) : Code n Unit := do
  turn env
  let world ← get
  match env.errors world.clock site with
  | some level => throw level.stop
  | none => pure ()

/-- Calls one after another. -/
def calls (env : Env n) : List Site → Code n Unit
  | [] => pure ()
  | site :: rest => do
      call env site
      calls env rest

/-- A part of a critical section: an error there is a panic. -/
def critical (env : Env n) : Code n Unit := do
  turn env
  let world ← get
  if env.panics world.clock then throw .panic else pure ()

def ask (env : Env n) (question : Question) : Code n Bool := do
  let world ← get
  pure (env.answers world.clock question)

/-- A statement on the generation state. -/
def assign (statement : Node.Statement n) : Code n Unit :=
  modify fun world => { world with storage := Node.exec statement world.storage }

/-- `LWLockAcquire` and `LWLockRelease` of `gen_lock`. -/
def setGenLock (held : Bool) : Code n Unit :=
  modify fun world => { world with genLocked := held }

def setGtx (gtx : Option CommitGtx) : Code n Unit :=
  modify fun world => { world with gtx := gtx }

/-! ## The barrier -/

/-- The registration in a mode, under `cb_lock`. -/
def World.register (mode : Mode) (world : World n) : World n :=
  { world with
    counters := world.counters.add 1 mode
    acquired := some mode }

/-- `ReleasePB` on the state. -/
def World.release (world : World n) : World n :=
  { world with
    counters := world.counters.release world.acquired
    acquired := none }

/-- `ReleasePB` -/
def releasePB : Code n Unit :=
  modify World.release

/-- Register `PBOnExit`, once for a process. -/
def registerHook (env : Env n) : Code n Unit := do
  let world ← get
  if world.hookRegistered then pure ()
  else do
    call env .beforeShmemExit
    modify fun world => { world with hookRegistered := true }

/-- The loop of `AcquirePBByPreparer`. -/
def awaitAdmission (env : Env n) (backend : Bool) : ℕ → Code n Unit
  | 0 => throw .waiting
  | patience + 1 => do
      turn env
      let world ← get
      if world.counters.Admits backend then
        modify (World.register (preparerMode backend))
      else do
        call env .conditionVariableSleep
        awaitAdmission env backend patience

/-- `AcquirePBByPreparer` -/
def acquirePBByPreparer (env : Env n) (backend : Bool) : Code n Unit := do
  registerHook env
  awaitAdmission env backend env.patience

/-- The loop of `AcquirePBByHolder`. -/
def awaitDrained (env : Env n) (full : Bool) : ℕ → Code n Unit
  | 0 => throw .waiting
  | patience + 1 => do
      turn env
      let world ← get
      if world.counters.Drained full then pure ()
      else do
        Routine.protect Stop.isError (call env .conditionVariableSleep) releasePB
        awaitDrained env full patience

/-- `AcquirePBByHolder` -/
def acquirePBByHolder (env : Env n) (full : Bool) : Code n Unit := do
  registerHook env
  turn env
  modify (World.register (holderMode full))
  awaitDrained env full env.patience

/-! ## Generation switches -/

/-- `MtmStateSave`; the log message after the critical section allocates. -/
def mtmStateSave (env : Env n) : Code n Unit := do
  critical env
  assign .writeTmp
  critical env
  assign .renameTmp
  critical env
  assign .syncDirectory
  call env .log

/-- `LogParallelSafe` -/
def logParallelSafe
    (env : Env n) (gen : MtmGeneration n) (donors : NodeMask n) :
    Code n Unit := do
  call env .logLogicalMessage
  assign (.insertParallelSafe gen donors)
  call env .xlogFlush
  assign .flushWal

/-- `MtmSetReceiveMode` -/
def mtmSetReceiveMode (env : Env n) (mode : ReceiveMode n) : Code n Unit := do
  assign (.setReceiveMode mode)
  call env .log

/-- Getting online, as `MtmConsiderGenSwitch` and `MtmHandleParallelSafe` do
it. -/
def getOnline
    (env : Env n) (gen : MtmGeneration n) (donors : NodeMask n) :
    Code n Unit := do
  assign (.setPsLogged false)
  assign (.setLastOnlineIn gen.num)
  mtmStateSave env
  logParallelSafe env gen donors
  assign (.setPsLogged true)
  mtmStateSave env
  mtmSetReceiveMode env .normal

/-- The end of `MtmConsiderGenSwitch` for a node that can get online in the
generation. -/
def joinGen
    (env : Env n) (me : Fin n) (gen : MtmGeneration n) (donors : NodeMask n) :
    Code n Unit := do
  (if me ∈ donors then getOnline env gen donors
    else do
      mtmStateSave env
      mtmSetReceiveMode env (receiveModeOfDonors donors))
  call env .log
  setGenLock false
  releasePB

/-- The part of `MtmConsiderGenSwitch` that changes the generation. -/
def switchGen
    (env : Env n) (me : Fin n) (gen : MtmGeneration n) (donors : NodeMask n)
    (lastVote : MtmGeneration n) : Code n Unit := do
  (if lastVote.num < gen.num then assign (.setLastVote gen) else pure ())
  assign (.setCurrentGenNum gen.num)
  assign (.setCurrentGenMasks gen.members gen.configured)
  assign (.setDonors donors)
  if DeadInGen me gen (voteAfterSwitch lastVote gen).num then do
    mtmSetReceiveMode env .disabled
    mtmStateSave env
    call env .log
    setGenLock false
    releasePB
  else joinGen env me gen donors

/-- `MtmConsiderGenSwitch` -/
def mtmConsiderGenSwitch
    (env : Env n) (me : Fin n) (gen : MtmGeneration n) (donors : NodeMask n) :
    Code n Unit := do
  let unlocked ← get
  if gen.num ≤ unlocked.storage.memory.currentGen.num then pure ()
  else do
    acquirePBByHolder env true
    setGenLock true
    let locked ← get
    if locked.storage.memory.currentGen.num = mtmInvalidGenNum then
      -- "multimaster is not initialized yet"
      throw .error
    else if gen.num ≤ locked.storage.memory.currentGen.num then do
      releasePB
      setGenLock false
    else switchGen env me gen donors locked.storage.memory.lastVote

/-- `MtmGetCurrentStatusInGen` with its errors. -/
def currentStatusInGen (env : Env n) (me : Fin n) : Code n MtmStatusInGen := do
  let configured ← ask env .configured
  let world ← get
  if configured = false ∨
    world.storage.memory.currentGen.num = mtmInvalidGenNum then
    throw .error
  else pure (mtmGetCurrentStatusInGen me world.storage.memory.toMtmStateOnDisk)

/-- `MtmHandleParallelSafe` for a node that recovers in the generation. -/
def finishRecovery
    (env : Env n) (gen : MtmGeneration n) (donors : NodeMask n)
    (isRecovery : Bool) :
    Code n Bool :=
  if isRecovery then do
    getOnline env gen donors
    call env .log
    releasePB
    setGenLock false
    pure false
  else do
    releasePB
    setGenLock false
    pure true

/-- The part of `MtmHandleParallelSafe` under its locks; true asks for a
reconnection in recovery mode. -/
def applyParallelSafe
    (env : Env n) (me : Fin n) (gen : MtmGeneration n) (donors : NodeMask n)
    (isRecovery : Bool) : Code n Bool := do
  let locked ← get
  if gen.num ≠ locked.storage.memory.currentGen.num then do
    releasePB
    setGenLock false
    pure false
  else do
    let status ← currentStatusInGen env me
    if status ≠ .recovery then do
      releasePB
      setGenLock false
      pure false
    else finishRecovery env gen donors isRecovery

/-- `MtmHandleParallelSafe` -/
def mtmHandleParallelSafe
    (env : Env n) (me : Fin n) (gen : MtmGeneration n) (donors : NodeMask n)
    (isRecovery : Bool) : Code n Bool := do
  assign .endSession
  call env .endSession
  mtmConsiderGenSwitch env me gen donors
  turn env
  let unlocked ← get
  if gen.num < unlocked.storage.memory.currentGen.num then pure false
  else do
    setGenLock true
    acquirePBByHolder env true
    applyParallelSafe env me gen donors isRecovery

/-- `MtmStateStartup` -/
def mtmStateStartup (env : Env n) (me : Fin n) : Code n Unit := do
  acquirePBByHolder env true
  setGenLock true
  call env .stateLoad
  assign .load
  call env .log
  let _ ← currentStatusInGen env me
  let loaded ← get
  assign (.setReceiveMode
    (startupReceiveMode me loaded.storage.memory.toMtmStateOnDisk))
  (if loaded.storage.memory.currentGen.num = loaded.storage.memory.lastOnlineIn ∧
      loaded.storage.memory.psLogged = false then do
    logParallelSafe env loaded.storage.memory.currentGen
      loaded.storage.memory.donors
    assign (.setPsLogged true)
    mtmStateSave env
  else pure ())
  setGenLock false
  releasePB

/-! ## Commits -/

/-- The abort of a transaction that was prepared and not precommitted. -/
def abortOrphan (env : Env n) : Code n Unit :=
  Routine.protect Stop.isError
    (calls env [.abortOutOfAnyTransaction, .startTransactionCommand,
      .finishPreparedTransaction, .log, .commitTransactionCommand])
    (do
      call env .globalTxRelease
      setGtx none)

/-- `mtm_commit_cleanup` -/
def mtmCommitCleanup (env : Env n) : Code n Unit := do
  releasePB
  call env .dmqStreamUnsubscribe
  let world ← get
  match world.gtx with
  | none => pure ()
  | some gtx => do
      (if gtx.prepared then
        if !gtx.accepted || gtx.explicitGid then abortOrphan env
        -- the warning about the unknown status
        else call env .log
      else pure ())
      call env .globalTxRelease
      setGtx none

/-- The check that the node is online in the current generation. -/
def requireOnline (env : Env n) (me : Fin n) : Code n Unit := do
  let status ← currentStatusInGen env me
  if status = .online then pure ()
  else do
    calls env [.userAbortTransactionBlock, .getCurrentStatus]
    let breakConnection ← ask env .mtmBreakConnection
    if breakConnection then throw .fatal else throw .error

/-- The replies to PREPARE of the members of the generation. -/
def collectPrepareAcks (env : Env n) : Code n Unit := do
  call env .gather
  let gathered ← ask env .gathered
  let replied ← ask env .everybodyReplied
  let prepared ← ask env .everybodyPrepared
  if gathered && replied && prepared then pure () else throw .error

/-- The votes for the precommit; `gather` may fail here as long as there is a
quorum. -/
def collectPrecommits (env : Env n) : Code n Unit := do
  calls env [.gather, .log]
  let quorum ← ask env .precommitQuorum
  if quorum then pure () else throw .error

/-- `MtmTwoPhaseCommit` up to the release of the barrier, giving the generation
of the transaction. -/
def prepareLocally (env : Env n) (me : Fin n) : Code n (MtmGeneration n) := do
  acquirePBByPreparer env true
  requireOnline env me
  let world ← get
  calls env [.getTopTransactionId, .dmqStreamSubscribe, .log, .globalTxAcquire]
  setGtx (some { prepared := false, accepted := false, explicitGid := false })
  call env .prepareTransactionBlock
  let prepared ← ask env .blockPrepared
  if prepared then do
    calls env [.commitTransactionCommand, .startTransactionCommand]
    setGtx (some { prepared := true, accepted := false, explicitGid := false })
    releasePB
    pure world.storage.memory.currentGen
  else throw .panic

/-- The rest of `MtmTwoPhaseCommit` inside `PG_TRY`. -/
def commitEverywhere (env : Env n) (xactGen : MtmGeneration n) : Code n Unit := do
  call env .log
  collectPrepareAcks env
  call env .setPreparedTransactionState
  setGtx (some { prepared := true, accepted := true, explicitGid := false })
  call env .log
  (if IsRefereeGen xactGen.members xactGen.configured then pure ()
    else collectPrecommits env)
  calls env [.finishPreparedTransaction, .log, .globalTxRelease]
  setGtx none
  let waitPeers ← ask env .mtmWaitPeerCommits
  (if waitPeers then calls env [.gather, .log] else pure ())
  calls env [.dmqStreamUnsubscribe, .log]

/-- `MtmTwoPhaseCommit` -/
def mtmTwoPhaseCommit (env : Env n) (me : Fin n) : Code n Bool := do
  let no3PC ← ask env .mtmNo3PC
  let changes ← ask env .containsDdlOrDml
  let distributed ← ask env .distributed
  if no3PC || !changes || !distributed then pure false
  else do
    let isBlock ← ask env .isTransactionBlock
    (if isBlock then pure ()
      else calls env [.beginTransactionBlock, .commitTransactionCommand,
        .startTransactionCommand])
    setGtx none
    Routine.protect Stop.isError
      (do
        let xactGen ← prepareLocally env me
        commitEverywhere env xactGen)
      (mtmCommitCleanup env)
    call env .maybeLogSyncpoint
    pure true

/-- `MtmExplicitPrepare` inside `PG_TRY`. -/
def explicitPrepareBody (env : Env n) (me : Fin n) : Code n Bool := do
  acquirePBByPreparer env true
  requireOnline env me
  calls env [.getTopTransactionId, .globalTxAcquire]
  let inUse ← ask env .gidInUse
  setGtx (some { prepared := inUse, accepted := false, explicitGid := true })
  if inUse then do
    call env .globalTxRelease
    setGtx none
    call env .userAbortTransactionBlock
    throw .error
  else do
    calls env [.dmqStreamSubscribe, .log, .prepareTransactionBlock]
    let prepared ← ask env .blockPrepared
    if prepared then do
      call env .commitTransactionCommand
      setGtx (some { prepared := true, accepted := false, explicitGid := true })
      releasePB
      calls env [.log, .startTransactionCommand]
      collectPrepareAcks env
      call env .globalTxRelease
      setGtx none
      calls env [.dmqStreamUnsubscribe, .log]
      pure true
    else do
      mtmCommitCleanup env
      pure false

/-- `MtmExplicitPrepare` -/
def mtmExplicitPrepare (env : Env n) (me : Fin n) (explicitGid : Bool) :
    Code n Bool := do
  let aborted ← ask env .isAbortedTransactionBlock
  if aborted then do
    call env .prepareTransactionBlock
    pure false
  else if explicitGid then do
    setGtx none
    Routine.protect Stop.isError (explicitPrepareBody env me)
      (mtmCommitCleanup env)
  else do
    call env .userAbortTransactionBlock
    throw .error

/-! ## The referee winner -/

/-- The loop over the collected transactions. -/
def finishOrphans (env : Env n) : ℕ → Code n Unit
  | 0 => pure ()
  | rest + 1 => do
      call env .globalTxAcquire
      let found ← ask env .gtxFound
      (if found then
        calls env [.startTransactionCommand, .finishPreparedTransaction,
          .commitTransactionCommand, .log, .globalTxRelease]
      else pure ())
      finishOrphans env rest

/-- `ResolveForRefereeWinner` -/
def resolveForRefereeWinner (env : Env n) (me : Fin n) : Code n Unit := do
  acquirePBByPreparer env true
  let world ← get
  if IsRefereeGen world.storage.memory.currentGen.members
      world.storage.memory.currentGen.configured then do
    let status ← currentStatusInGen env me
    if status = .online then do
      calls env [.log, .palloc]
      finishOrphans env env.nGids
      releasePB
    else releasePB
  else releasePB

/-! ## The callers -/

/-- The call sites of the functions. -/
inductive CallSite (n : ℕ)
  /-- A heartbeat, in `dmq_receiver_loop`. -/
  | heartbeat (gen : MtmGeneration n) (donors : NodeMask n)
  /-- The campaigner has won, or learned of a generation. -/
  | campaign (gen : MtmGeneration n) (donors : NodeMask n)
  /-- `ParallelSafe` in the stream of `MtmExecutor`. -/
  | parallelSafe (gen : MtmGeneration n) (donors : NodeMask n) (isRecovery : Bool)
  /-- The monitor starts. -/
  | startup
  /-- A backend commits. -/
  | commit
  /-- A backend executes `PREPARE TRANSACTION`. -/
  | prepare (explicitGid : Bool)
  /-- The resolver in referee mode. -/
  | refereeWinner

/-- The function that is called. -/
def CallSite.code (env : Env n) (me : Fin n) : CallSite n → Code n Unit
  | .heartbeat gen donors => mtmConsiderGenSwitch env me gen donors
  | .campaign gen donors => mtmConsiderGenSwitch env me gen donors
  | .parallelSafe gen donors isRecovery => do
      let _ ← mtmHandleParallelSafe env me gen donors isRecovery
      pure ()
  | .startup => mtmStateStartup env me
  | .commit => do
      let _ ← mtmTwoPhaseCommit env me
      pure ()
  | .prepare explicitGid => do
      let _ ← mtmExplicitPrepare env me explicitGid
      pure ()
  | .refereeWinner => resolveForRefereeWinner env me

/-- Who gets an `ERROR` of the function. -/
inductive Handler
  /-- The main loop of a backend; `dmq_receiver_loop` calls `pq_startmsgread`
  before its loop and `pq_endmsgread` after it, so it is reading a message all
  the time. -/
  | backend (readingMsg : Bool)
  /-- The main loop of a background worker. -/
  | worker
  /-- `PG_CATCH` of `MtmExecutor`, in a background worker. -/
  | executor (isRecovery : Bool)

def CallSite.handler : CallSite n → Handler
  | .heartbeat _ _ => .backend true
  | .campaign _ _ => .worker
  | .parallelSafe _ _ isRecovery => .executor isRecovery
  | .startup => .worker
  | .commit => .backend false
  | .prepare _ => .backend false
  | .refereeWinner => .worker

/-- The main loops of the server: whether they end the process on an `ERROR`. -/
structure MainLoops where
  backendEnds : (readingMsg : Bool) → Bool
  workerEnds : Bool

/-- What is documented of the main loops: a backend that was interrupted while
reading a message has lost the synchronization of the protocol and ends, and a
background worker ends. -/
structure MainLoops.Documented (loops : MainLoops) : Prop where
  lostSync : loops.backendEnds true = true
  worker : loops.workerEnds = true

/-- How a call goes out. -/
inductive Exit
  /-- The function has returned. -/
  | returned
  /-- The process goes on after an `ERROR`. -/
  | resumed
  /-- The process is gone. -/
  | ended
  /-- The server panics. -/
  | crashed
  /-- It still waits for the barrier. -/
  | waiting
  deriving DecidableEq

/-- `PBOnExit`, where it is registered. -/
def World.procExit (world : World n) : World n :=
  if world.hookRegistered then world.release else world

/-- The error handler of `MtmExecutor`; true when it ends the process. -/
def executorHandler (env : Env n) (isRecovery : Bool) : Code n Bool := do
  calls env [.copyErrorData, .emitErrorReport, .log]
  let originXidValid ← ask env .originXidValid
  let bdrLike ← ask env .bdrLike
  let ddlNontx ← ask env .ddlNontx
  if (isRecovery || !originXidValid || bdrLike) && !ddlNontx then pure true
  else do
    releasePB
    calls env [.globalTxRelease, .endSession, .sendPrepareReply,
      .abortCurrentTransaction]
    pure false

/-- What the handler makes of an `ERROR`. -/
def Handler.run (loops : MainLoops) (env : Env n) :
    Handler → World n → Exit × World n
  | .backend readingMsg, world =>
      if loops.backendEnds readingMsg then (.ended, world.procExit)
        else (.resumed, world)
  | .worker, world =>
      if loops.workerEnds then (.ended, world.procExit) else (.resumed, world)
  | .executor isRecovery, world =>
      match Routine.exec (executorHandler env isRecovery) world with
      | (.ok true, last) => (.ended, last.procExit)
      | (.ok false, last) => (.resumed, last)
      -- an error of the handler itself goes to the main loop of the worker
      | (.error .error, last) =>
          if loops.workerEnds then (.ended, last.procExit) else (.resumed, last)
      | (.error .panic, last) => (.crashed, last)
      | (.error _, last) => (.ended, last.procExit)

/-- A call with the handlers of its caller. -/
def CallSite.run (loops : MainLoops) (env : Env n) (me : Fin n)
    (site : CallSite n) (world : World n) : Exit × World n :=
  match Routine.exec (site.code env me) world with
  | (.ok _, last) => (.returned, last)
  | (.error .error, last) => site.handler.run loops env last
  | (.error .fatal, last) => (.ended, last.procExit)
  | (.error .panic, last) => (.crashed, last)
  | (.error .waiting, last) => (.waiting, last)

end Barrier
end Multimaster
