import Multimaster.Node.Programs

/-!
# Invariants of a node over whole runs

The storage stays safe over every sequence of operations, prepares, heartbeats,
crashes and restarts.  Two results follow: the order and the monotonicity of
the three generation numbers together with the promise given by a vote, and
the order of `ParallelSafe` and prepares in the WAL.
-/

namespace Multimaster
namespace Node

open Generation

/-- Two states that differ at most in the vote. -/
structure SameButVote (first second : MtmStateOnDisk n) : Prop where
  currentGen : first.currentGen = second.currentGen
  donors : first.donors = second.donors
  lastOnlineIn : first.lastOnlineIn = second.lastOnlineIn
  psLogged : first.psLogged = second.psLogged

/-- What the holders of shared locks can rely on: memory is ordered, and agrees
with the disk except for a vote that is being saved. -/
structure Quiet (s : Storage n) : Prop where
  ordered : Ordered s.memory.toMtmStateOnDisk
  file : s.Initialized →
    SameButVote s.memory.toMtmStateOnDisk s.file
  tmp : s.Initialized → ∀ state, s.tmp = some state →
    SameButVote s.memory.toMtmStateOnDisk state
  renamed : s.Initialized → ∀ state, s.renamed = some state →
    SameButVote s.memory.toMtmStateOnDisk state
  logged : s.Initialized → Logged s.memory.toMtmStateOnDisk

/-- The statements of the operations that do not take `gen_lock` exclusively,
in a node of current generation `num`. -/
def VoteStatement (num : ℕ) : Statement n → Prop
  | .setLastVote gen => num ≤ gen.num
  | .setReceiveMode _ => True
  | .writeTmp => True
  | .renameTmp => True
  | .syncDirectory => True
  | .respond _ _ => True
  | _ => False

/-- A vote statement leaves everything but the vote and the receive mode in
memory as it is. -/
theorem exec_memory_of_voteStatement
    {num : ℕ} {statement : Statement n}
    (isVote : VoteStatement num statement)
    (s : Storage n) :
    SameButVote (exec statement s).memory.toMtmStateOnDisk
      s.memory.toMtmStateOnDisk := by
  cases statement <;> first
    | exact ⟨rfl, rfl, rfl, rfl⟩
    | exact isVote.elim

theorem Quiet.exec
    {s : Storage n} {statement : Statement n}
    (quiet : Quiet s)
    (initialized : s.Initialized)
    (isVote : VoteStatement s.memory.currentGen.num statement) :
    Quiet (exec statement s) := by
  have file := quiet.file initialized
  have tmp := quiet.tmp initialized
  have renamed := quiet.renamed initialized
  have logged := quiet.logged initialized
  cases statement with
  | setLastVote gen =>
      exact {
        ordered := ⟨quiet.ordered.online, isVote⟩
        file := fun _ => ⟨file.1, file.2, file.3, file.4⟩
        tmp := fun _ state isTmp =>
          ⟨(tmp state isTmp).1, (tmp state isTmp).2, (tmp state isTmp).3,
            (tmp state isTmp).4⟩
        renamed := fun _ state isRenamed =>
          ⟨(renamed state isRenamed).1, (renamed state isRenamed).2,
            (renamed state isRenamed).3, (renamed state isRenamed).4⟩
        logged := fun _ => logged }
  | setReceiveMode mode =>
      exact ⟨quiet.ordered, quiet.file, quiet.tmp, quiet.renamed,
        quiet.logged⟩
  | writeTmp =>
      refine ⟨quiet.ordered, quiet.file, ?_, quiet.renamed, quiet.logged⟩
      intro _ state isTmp
      cases isTmp
      exact ⟨rfl, rfl, rfl, rfl⟩
  | renameTmp =>
      refine ⟨quiet.ordered, quiet.file, ?_, ?_, quiet.logged⟩
      · intro _ state isTmp
        cases isTmp
      · intro _ state isRenamed
        cases written : s.tmp with
        | none =>
            simp only [Node.exec, written, Option.orElse_none] at isRenamed
            exact renamed state isRenamed
        | some value =>
            simp only [Node.exec, written, Option.orElse_some,
              Option.some.injEq] at isRenamed
            subst isRenamed
            exact tmp value written
  | syncDirectory =>
      refine ⟨quiet.ordered, ?_, quiet.tmp, ?_, quiet.logged⟩
      · intro _
        cases pending : s.renamed with
        | none =>
            simp only [Node.exec, pending, Option.getD_none]
            exact file
        | some value =>
            simp only [Node.exec, pending, Option.getD_some]
            exact renamed value pending
      · intro _ state isRenamed
        cases isRenamed
  | respond request response =>
      exact ⟨quiet.ordered, quiet.file, quiet.tmp, quiet.renamed,
        quiet.logged⟩
  | endSession => exact isVote.elim
  | load => exact isVote.elim
  | setCurrentGenNum _ => exact isVote.elim
  | setCurrentGenMasks _ _ => exact isVote.elim
  | setDonors _ => exact isVote.elim
  | setPsLogged _ => exact isVote.elim
  | setLastOnlineIn _ => exact isVote.elim
  | insertParallelSafe _ _ => exact isVote.elim
  | flushWal => exact isVote.elim

theorem Settled.quiet
    {s : Storage n}
    (settled : Settled s)
    (safe : Safe s) :
    Quiet s where
  ordered := by
    by_cases initialized : s.Initialized
    · rw [(settled.loaded initialized).1]
      exact safe.fileOrdered
    · rw [settled.blank initialized]
      exact ⟨le_refl _, le_refl _⟩
  file := by
    intro initialized
    rw [(settled.loaded initialized).1]
    exact ⟨rfl, rfl, rfl, rfl⟩
  tmp := by
    intro _ state isTmp
    rw [settled.tmp] at isTmp
    cases isTmp
  renamed := by
    intro _ state isRenamed
    rw [settled.renamed] at isRenamed
    cases isRenamed
  logged := by
    intro initialized
    rw [(settled.loaded initialized).1]
    exact (settled.loaded initialized).2

/-- The programs of the operations under shared locks consist of vote
statements. -/
theorem voteStatement_of_mem_program
    (me : Fin n) {s : Storage n} {operation : Operation n}
    (ordered : Ordered s.memory.toMtmStateOnDisk)
    (isShared : operation.exclusive = false)
    {statement : Statement n}
    (member : statement ∈ operation.program me s) :
    VoteStatement s.memory.currentGen.num statement := by
  have saved : ∀ vote : MtmGeneration n,
      s.memory.lastVote.num ≤ vote.num →
      statement ∈ saveVote s.memory.lastVote vote →
      VoteStatement s.memory.currentGen.num statement := by
    intro vote larger isSaved
    unfold saveVote mtmStateSave at isSaved
    split at isSaved
    · cases isSaved
    · simp only [List.mem_cons, List.not_mem_nil, or_false] at isSaved
      rcases isSaved with rfl | rfl | rfl | rfl
      · exact le_trans ordered.voted larger
      · trivial
      · trivial
      · trivial
  cases operation with
  | startup => cases isShared
  | considerGenSwitch _ _ => cases isShared
  | receiveParallelSafe _ _ _ => cases isShared
  | applyParallelSafe _ _ _ => cases isShared
  | campaignMyself env =>
      rcases List.mem_cons.mp member with rfl | isSaved
      · trivial
      · apply saved _ ?_ isSaved
        have outcome := campaignMyself_outcome me env s.memory
        generalize Generation.campaignMyself me env s.memory = result
          at outcome ⊢
        cases outcome with
        | declined mode => exact le_refl _
        | reused mode cohort member configured elsewhere different =>
        exact le_refl _
        | voted mode cohort candidate fresh member configured elsewhere =>
            dsimp only
            omega
  | bumpLastVote maxLastVoteNum =>
      apply saved _ ?_ member
      unfold Generation.bumpLastVote
      split
      · next complained => exact complained.2
      · exact le_refl _
  | handleGenVoteRequest env sender request =>
      rcases List.mem_append.mp member with isSaved | isLast
      · apply saved _ ?_ isSaved
        have outcome :=
          handleGenVoteRequest_outcome me env sender request s.memory
        generalize Generation.handleGenVoteRequest me env sender request
          s.memory = answer at outcome ⊢
        cases outcome with
        | refused response asked refusal reported gossip => exact le_refl _
        | confirmed newer already => exact le_refl _
        | voted mode newer fresh configured => exact le_of_lt fresh
      · simp only [List.mem_cons, List.not_mem_nil, or_false] at isLast
        rcases isLast with rfl | rfl
        · trivial
        · trivial

/-- Every operation started in a settled state is secure. -/
theorem secure_program
    (me : Fin n) {s : Storage n} (operation : Operation n)
    (settled : Settled s)
    (safe : Safe s)
    (session : s.sessionOrigin = operation.origin)
    (initialized : operation.exclusive = false → s.Initialized) :
    SecureProgram (operation.program me s) s := by
  cases operation with
  | startup =>
      have noRename : s.renamed.getD s.file = s.file := by
        rw [settled.renamed]
        rfl
      change SecureProgram (mtmStateStartup me (s.renamed.getD s.file)) s
      rw [noRename]
      exact secure_mtmStateStartup me settled safe session
  | considerGenSwitch gen donors =>
      exact secure_mtmConsiderGenSwitch me gen donors settled safe session
  | receiveParallelSafe sender gen donors =>
      exact secure_receiveParallelSafe me gen donors settled
  | applyParallelSafe gen donors isRecovery =>
      exact secure_mtmHandleParallelSafe me gen donors isRecovery settled
        safe session
  | campaignMyself env =>
      exact secure_campaignMyself me env settled safe (initialized rfl)
  | bumpLastVote maxLastVoteNum =>
      exact secure_bumpLastVote me maxLastVoteNum settled safe
        (initialized rfl)
  | handleGenVoteRequest env sender request =>
      exact secure_handleGenVoteRequest me env sender request settled safe
        (initialized rfl)

/-! ## The invariant of the machine -/

/-- The invariant of a node. -/
structure Invariant (node : NodeState n) : Prop where
  safe : Safe node.storage
  idle : node.task = none → Settled node.storage
  secure : ∀ task, node.task = some task →
    SecureProgram task.rest node.storage
  quiet : ¬ node.GenLockedExclusively → Quiet node.storage
  votes : ∀ task, node.task = some task → task.exclusive = false →
    node.storage.Initialized ∧
    ∀ statement ∈ task.rest,
      VoteStatement node.storage.memory.currentGen.num statement
  preparers : ∀ preparer ∈ node.preparers,
    ¬ node.GenLockedExclusively ∧ node.storage.Initialized ∧
    (preparer.kind ≠ .applyRecovery →
      preparer.genNum = node.storage.memory.currentGen.num ∧
      node.storage.memory.lastOnlineIn =
        node.storage.memory.currentGen.num)

theorem settled_crashStorage
    (keepRenamed : Bool) (keep : ℕ) (s : Storage n) :
    Settled (crashStorage keepRenamed keep s) where
  tmp := rfl
  renamed := rfl
  loaded := fun initialized => absurd rfl initialized
  blank := fun _ => rfl

theorem invariant_initialNode (n : ℕ) : Invariant (initialNode n) := by
  have settled : Settled (initialNode n).storage :=
    ⟨rfl, rfl, fun initialized => absurd rfl initialized, fun _ => rfl⟩
  exact {
    safe := safe_initialNode n
    idle := fun _ => settled
    secure := by intro task isTask; cases isTask
    quiet := fun _ => settled.quiet (safe_initialNode n)
    votes := by intro task isTask; cases isTask
    preparers := by intro preparer member; cases member }

theorem genLockedExclusively_some
    {node : NodeState n} {task : Task n}
    (isTask : node.task = some task) :
    node.GenLockedExclusively ↔ task.exclusive = true := by
  simp [NodeState.GenLockedExclusively, isTask]

theorem not_genLockedExclusively_none
    {node : NodeState n}
    (idle : node.task = none) :
    ¬ node.GenLockedExclusively := by
  simp [NodeState.GenLockedExclusively, idle]

namespace Invariant

variable {node : NodeState n}

theorem begin
    (me : Fin n) (operation : Operation n)
    (invariant : Invariant node)
    (enabled : Enabled me node (.begin operation)) :
    Invariant (effect me node (.begin operation)) := by
  obtain ⟨free, admitted⟩ := enabled
  have idle : node.task = none := by simpa using free
  have settled := invariant.idle idle
  have quiet := invariant.quiet (not_genLockedExclusively_none idle)
  let started : Storage n :=
    { node.storage with sessionOrigin := operation.origin }
  have safeStarted : Safe started :=
    invariant.safe.of_same rfl rfl rfl rfl rfl
  have settledStarted : Settled started :=
    ⟨settled.tmp, settled.renamed, settled.loaded, settled.blank⟩
  have initialized : operation.exclusive = false → started.Initialized := by
    intro isShared
    simp only [isShared, Bool.false_eq_true, if_false] at admitted
    exact admitted
  have secure : SecureProgram (operation.program me started) started :=
    secure_program me operation settledStarted safeStarted rfl initialized
  have sameProgram : operation.program me started =
      operation.program me node.storage := by
    cases operation <;> rfl
  exact {
    safe := safeStarted
    idle := by intro busy; cases busy
    secure := by
      intro task isTask
      cases isTask
      rw [← sameProgram]
      exact secure
    quiet := fun _ =>
      ⟨quiet.ordered, quiet.file, quiet.tmp, quiet.renamed, quiet.logged⟩
    votes := by
      intro task isTask isShared
      cases isTask
      exact ⟨initialized isShared, fun statement member =>
        voteStatement_of_mem_program me quiet.ordered isShared member⟩
    preparers := by
      intro preparer member
      obtain ⟨_, loaded, stamped⟩ := invariant.preparers preparer member
      refine ⟨?_, loaded, stamped⟩
      intro locked
      have isExclusive : operation.exclusive = true :=
        (genLockedExclusively_some rfl).mp locked
      simp only [isExclusive, if_true] at admitted
      change preparer ∈ node.preparers at member
      rw [admitted] at member
      cases member }

theorem run
    (me : Fin n)
    (invariant : Invariant node) :
    Invariant (effect me node .run) := by
  change Invariant (runTask node)
  unfold runTask
  split
  · next isExclusive statement rest isTask =>
      have secure := invariant.secure _ isTask
      obtain ⟨safe, secureRest⟩ := secure.step Rely.refl invariant.safe
      -- a statement of a vote leaves what preparers rely on
      have votes : isExclusive = false →
          node.storage.Initialized ∧
          VoteStatement node.storage.memory.currentGen.num statement ∧
          ∀ later ∈ rest,
            VoteStatement node.storage.memory.currentGen.num later := by
        intro isShared
        obtain ⟨initialized, isVote⟩ := invariant.votes _ isTask isShared
        exact ⟨initialized, isVote _ List.mem_cons_self,
          fun later member => isVote _ (List.mem_cons_of_mem _ member)⟩
      have notLocked : isExclusive = false →
          ¬ node.GenLockedExclusively := by
        intro isShared locked
        rw [genLockedExclusively_some isTask] at locked
        rw [isShared] at locked
        cases locked
      exact {
        safe := safe
        idle := by intro free; cases free
        secure := by
          intro task isSame
          cases isSame
          exact secureRest
        quiet := by
          intro unlocked
          rw [genLockedExclusively_some rfl, Bool.not_eq_true] at unlocked
          obtain ⟨initialized, isVote, _⟩ := votes unlocked
          exact (invariant.quiet (notLocked unlocked)).exec initialized isVote
        votes := by
          intro task isSame isShared
          cases isSame
          obtain ⟨initialized, isVote, later⟩ := votes isShared
          have same := exec_memory_of_voteStatement isVote node.storage
          refine ⟨?_, ?_⟩
          · unfold Storage.Initialized
            rw [same.currentGen]
            exact initialized
          · intro following member
            rw [same.currentGen]
            exact later following member
        preparers := by
          intro preparer member
          obtain ⟨unlocked, initialized, stamped⟩ :=
            invariant.preparers preparer member
          rw [genLockedExclusively_some isTask, Bool.not_eq_true] at unlocked
          obtain ⟨_, isVote, _⟩ := votes unlocked
          have same := exec_memory_of_voteStatement isVote node.storage
          refine ⟨?_, ?_, ?_⟩
          · rw [genLockedExclusively_some rfl, Bool.not_eq_true]
            exact unlocked
          · unfold Storage.Initialized
            rw [same.currentGen]
            exact initialized
          · rw [same.currentGen, same.lastOnlineIn]
            exact stamped }
  · exact invariant

theorem release
    (me : Fin n)
    (invariant : Invariant node)
    (enabled : Enabled me node .release) :
    Invariant (effect me node .release) := by
  cases isTask : node.task with
  | none => simp [Enabled, isTask] at enabled
  | some task =>
      have finished : task.rest = [] := by
        simpa [Enabled, isTask] using enabled
      have secure := invariant.secure task isTask
      rw [finished] at secure
      have settled := secure.final Rely.refl invariant.safe
      exact {
        safe := invariant.safe
        idle := fun _ => settled
        secure := by intro other isOther; cases isOther
        quiet := fun _ => settled.quiet invariant.safe
        votes := by intro other isOther; cases isOther
        preparers := by
          intro preparer member
          obtain ⟨_, loaded, stamped⟩ := invariant.preparers preparer member
          exact ⟨not_genLockedExclusively_none rfl, loaded, stamped⟩ }

/-- Steps of other processes: memory and disk stay, trace and WAL may grow. -/
theorem interfere
    (invariant : Invariant node)
    (later : Storage n) (preparers : List Preparer)
    (interference : Rely node.storage later)
    (safe : Safe later)
    (stamped : ∀ preparer ∈ preparers,
      ¬ node.GenLockedExclusively ∧ node.storage.Initialized ∧
      (preparer.kind ≠ .applyRecovery →
        preparer.genNum = node.storage.memory.currentGen.num ∧
        node.storage.memory.lastOnlineIn =
          node.storage.memory.currentGen.num)) :
    Invariant { node with storage := later, preparers := preparers } where
  safe := safe
  idle := fun free => (invariant.idle free).stable interference
  secure := fun task isTask =>
    (invariant.secure task isTask).stable Rely.trans interference
  quiet := by
    intro unlocked
    have quiet := invariant.quiet unlocked
    refine ⟨?_, ?_, ?_, ?_, ?_⟩ <;>
      simp only [Storage.Initialized, interference.memory,
        interference.file, interference.tmp, interference.renamed]
    · exact quiet.ordered
    · exact quiet.file
    · exact quiet.tmp
    · exact quiet.renamed
    · exact quiet.logged
  votes := by
    intro task isTask isShared
    simp only [Storage.Initialized, interference.memory]
    exact invariant.votes task isTask isShared
  preparers := by
    intro preparer member
    obtain ⟨unlocked, loaded, online⟩ := stamped preparer member
    simp only [Storage.Initialized, interference.memory]
    exact ⟨unlocked, loaded, online⟩

theorem heartbeat
    (me : Fin n)
    (invariant : Invariant node)
    (enabled : Enabled me node .heartbeat) :
    Invariant (effect me node .heartbeat) := by
  obtain ⟨initialized, unlocked⟩ := enabled
  have same := (invariant.quiet unlocked).file initialized
  apply invariant.interfere _ node.preparers
  · exact ⟨rfl, rfl, rfl, rfl, rfl, List.prefix_refl _, le_refl _⟩
  · apply invariant.safe.emit
    · intro counter value shows
      cases counter with
      | currentGenNum =>
          cases shows
          exact congrArg MtmGeneration.num same.currentGen
      | lastOnlineIn =>
          cases shows
          exact same.lastOnlineIn
      | lastVoteNum => cases shows
    · intro earlier member
      cases earlier <;> trivial
  · exact invariant.preparers

theorem acquireBarrier
    (me : Fin n) (preparer : Preparer)
    (invariant : Invariant node)
    (enabled : Enabled me node (.acquireBarrier preparer)) :
    Invariant (effect me node (.acquireBarrier preparer)) := by
  obtain ⟨initialized, unlocked, admitted⟩ := enabled
  apply invariant.interfere node.storage (preparer :: node.preparers)
    (Rely.refl _) invariant.safe
  intro other member
  rcases List.mem_cons.mp member with isNew | isOld
  · subst isNew
    refine ⟨unlocked, initialized, ?_⟩
    intro isNormal
    cases kind : other.kind with
    | backend =>
        rw [kind] at admitted
        exact ⟨admitted.2,
          mtmGetCurrentStatusInGen_eq_online.mp admitted.1⟩
    | applyNormal =>
        rw [kind] at admitted
        obtain ⟨known, online, current⟩ := admitted
        refine ⟨by omega, ?_⟩
        rcases online with newer | online
        · omega
        · exact mtmGetCurrentStatusInGen_eq_online.mp online
    | applyRecovery => exact absurd kind isNormal
  · exact invariant.preparers other isOld

theorem prepare
    (me : Fin n) (preparer : Preparer)
    (invariant : Invariant node)
    (enabled : Enabled me node (.prepare preparer)) :
    Invariant (effect me node (.prepare preparer)) := by
  obtain ⟨unlocked, initialized, stamped⟩ :=
    invariant.preparers preparer enabled
  have quiet := invariant.quiet unlocked
  have same := quiet.file initialized
  apply invariant.interfere _ (node.preparers.erase preparer)
  · exact ⟨rfl, rfl, rfl, rfl, rfl, List.prefix_append _ _,
      le_trans invariant.safe.flushedLength (Nat.le_succ _)⟩
  · apply invariant.safe.appendRecord
    · exact le_trans invariant.safe.flushedLength (Nat.le_succ _)
    · exact le_refl _
    · intro num isSafe
      cases isSafe
    · intro num isNormal
      have isStamped : preparer.kind ≠ .applyRecovery ∧
          num = preparer.genNum := by
        cases kind : preparer.kind <;>
          simp_all [Record.normalPrepare]
      obtain ⟨genNum, online⟩ := stamped isStamped.1
      have current : num = node.storage.file.currentGen.num := by
        rw [isStamped.2, genNum, same.currentGen]
      refine ⟨current, ?_⟩
      rw [current]
      apply Storage.Durable.mem
      apply invariant.safe.logged
      · rw [← same.psLogged]
        exact quiet.logged initialized online
      · rw [← same.lastOnlineIn, ← same.currentGen]
        exact online
  · intro other member
    exact invariant.preparers other (List.mem_of_mem_erase member)

theorem crash
    (me : Fin n) (keepRenamed : Bool) (keep : ℕ)
    (invariant : Invariant node) :
    Invariant (effect me node (.crash keepRenamed keep)) := by
  have settled := settled_crashStorage keepRenamed keep node.storage
  have safe := invariant.safe.crash keepRenamed keep
  exact {
    safe := safe
    idle := fun _ => settled
    secure := by intro task isTask; cases isTask
    quiet := fun _ => settled.quiet safe
    votes := by intro task isTask; cases isTask
    preparers := by intro preparer member; cases member }

end Invariant

/-- The invariant holds in every reachable state of a node. -/
theorem invariant_of_reachable
    (me : Fin n) {node : NodeState n}
    (reachable : (machine me).Reachable Machine.Always node) :
    Invariant node := by
  refine Machine.Reachable.invariant (invariant_initialNode n) ?_ reachable
  intro current action invariant enabled _
  cases action with
  | begin operation => exact invariant.begin me operation enabled
  | run => exact invariant.run me
  | release => exact invariant.release me enabled
  | heartbeat => exact invariant.heartbeat me enabled
  | acquireBarrier preparer => exact invariant.acquireBarrier me preparer enabled
  | prepare preparer => exact invariant.prepare me preparer enabled
  | crash keepRenamed keep => exact invariant.crash me keepRenamed keep

/-! ## Main results -/

/-- The WAL a node has or may be left with after a crash: every prepare by a
backend or in normal mode comes after `ParallelSafe` of its generation, logged
without origin, and none comes after `ParallelSafe` of a later generation. -/
theorem parallelSafe_precedes_prepares
    (me : Fin n) {node : NodeState n}
    (reachable : (machine me).Reachable Machine.Always node)
    (unflushed : ℕ) :
    ParallelSafeOrdered
      (node.storage.wal.take (node.storage.flushed + unflushed)) :=
  (invariant_of_reachable me reachable).safe.walOrdered.take _

/-- Node 0 of three starts, prepares in generation 1, votes for generation 2,
gets online there as a donor, crashes before the second save and prepares in
generation 2 after the restart. -/
def voteSwitchCrash : List (Action 3) :=
  let gen : MtmGeneration 3 :=
    { num := 2, members := {0, 1}, configured := Finset.univ }
  [Action.begin .startup] ++ List.replicate 8 Action.run ++
    [Action.release, .acquireBarrier ⟨1, .backend⟩, .prepare ⟨1, .backend⟩,
      .begin (.handleGenVoteRequest
        { clique := {0, 1}, isCurrGenConnected := false } 1 gen)] ++
    List.replicate 6 Action.run ++
    [Action.release, .heartbeat, .begin (.considerGenSwitch gen {0})] ++
    List.replicate 9 Action.run ++
    [Action.crash false 5, .begin .startup] ++
    List.replicate 8 Action.run ++
    [Action.release, .heartbeat, .acquireBarrier ⟨2, .applyNormal⟩,
      .prepare ⟨2, .applyNormal⟩]

theorem voteSwitchCrash_completes :
    ((machine (0 : Fin 3)).execute Machine.Always (machine 0).init
      voteSwitchCrash).isSome = true := by
  decide +kernel

/-- The last node of the schedule. -/
def voteSwitchCrashNode : NodeState 3 :=
  ((machine (0 : Fin 3)).execute Machine.Always (machine 0).init
    voteSwitchCrash).get voteSwitchCrash_completes

theorem wal_of_voteSwitchCrash :
    voteSwitchCrashNode.storage.wal.filterMap Record.normalPrepare =
      [1, 2] ∧
    ParallelSafeOrdered
      (voteSwitchCrashNode.storage.wal.take
        (voteSwitchCrashNode.storage.flushed + 0)) :=
  ⟨by decide +kernel,
    parallelSafe_precedes_prepares (0 : Fin 3)
      (Machine.reachable_of_execute voteSwitchCrash
        voteSwitchCrash_completes) 0⟩

end Node
end Multimaster
