import Multimaster.Node.Invariant
import Multimaster.Generation.Receive

/-!
# The receive mode of a node over whole runs

Whenever no operation is in progress, `receive_mode` is the one asked for by
`MtmGetCurrentStatusInGen`.  The invariant looks ahead: the memory that the
operation in progress is going to leave behind agrees with its status.  That
memory can be computed from the present one, because the statements of an
operation other than `load` act on memory alone.

Restarts need one more fact, that every state file of a node names a donor.
-/

namespace Multimaster
namespace Node

open Generation

/-- Execute a program without interference. -/
def perform (program : List (Statement n)) (s : Storage n) : Storage n :=
  program.foldl (fun s statement => exec statement s) s

/-- Effect on memory of a statement that does not load the state file. -/
def assign (memory : MtmState n) : Statement n → MtmState n
  | .setReceiveMode mode => { memory with receiveMode := mode }
  | .setLastVote gen => { memory with lastVote := gen }
  | .setCurrentGenNum num =>
      { memory with currentGen := { memory.currentGen with num := num } }
  | .setCurrentGenMasks members configured =>
      { memory with
        currentGen :=
          { memory.currentGen with
            members := members, configured := configured } }
  | .setDonors donors => { memory with donors := donors }
  | .setPsLogged value => { memory with psLogged := value }
  | .setLastOnlineIn num => { memory with lastOnlineIn := num }
  | _ => memory

theorem exec_memory
    {statement : Statement n}
    (notLoad : statement ≠ .load)
    (s : Storage n) :
    (exec statement s).memory = assign s.memory statement := by
  cases statement with
  | load => exact absurd rfl notLoad
  | _ => rfl

/-- A program that does not load the state file acts on memory alone. -/
theorem perform_memory
    {program : List (Statement n)}
    (noLoad : .load ∉ program)
    (s : Storage n) :
    (perform program s).memory = program.foldl assign s.memory := by
  induction program generalizing s with
  | nil => rfl
  | cons statement rest inductionHypothesis =>
      rw [List.mem_cons, not_or] at noLoad
      change (perform rest (exec statement s)).memory = _
      rw [inductionHypothesis noLoad.2, exec_memory (Ne.symm noLoad.1),
        List.foldl_cons]

/-! ## What the programs leave in memory -/

theorem load_not_mem_mtmConsiderGenSwitch
    (me : Fin n) (gen : MtmGeneration n) (donors : NodeMask n)
    (memory : MtmState n) :
    .load ∉ mtmConsiderGenSwitch me gen donors memory := by
  unfold mtmConsiderGenSwitch getOnline mtmStateSave logParallelSafe
  split_ifs <;> simp

/-- `MtmConsiderGenSwitch` to a newer generation. -/
theorem foldl_mtmConsiderGenSwitch
    (me : Fin n) (gen : MtmGeneration n) (donors : NodeMask n)
    {memory : MtmState n}
    (initialized : memory.currentGen.num ≠ mtmInvalidGenNum)
    (newer : memory.currentGen.num < gen.num) :
    (mtmConsiderGenSwitch me gen donors memory).foldl assign memory =
      afterGenSwitch me gen donors memory := by
  have fresh : ¬ gen.num ≤ memory.currentGen.num := by omega
  have voted : (if memory.lastVote.num < gen.num
      then [Statement.setLastVote gen] else []).foldl assign memory =
        { memory with lastVote := voteAfterSwitch memory.lastVote gen } := by
    unfold voteAfterSwitch
    split <;> rfl
  rw [mtmConsiderGenSwitch, if_neg initialized, if_neg fresh,
    List.foldl_append, List.foldl_append, voted]
  by_cases isDead : DeadInGen me gen
      (voteAfterSwitch memory.lastVote gen).num
  · simp [isDead, mtmStateSave, assign, afterGenSwitch, switchBranch,
      considerGenSwitch, fresh]
  · by_cases donor : me ∈ donors
    · simp [isDead, donor, getOnline, mtmStateSave, logParallelSafe, assign,
        afterGenSwitch, switchBranch, considerGenSwitch, fresh,
        Generation.logParallelSafe]
    · simp [isDead, donor, mtmStateSave, assign, afterGenSwitch, switchBranch,
        considerGenSwitch, fresh]

/-- Getting online by `ParallelSafe`. -/
theorem foldl_getOnline
    (gen : MtmGeneration n) (donors : NodeMask n) (memory : MtmState n) :
    (getOnline gen donors).foldl assign memory =
      Generation.logParallelSafe { memory with lastOnlineIn := gen.num } :=
  rfl

theorem foldl_saveVote
    (memory : MtmState n) (vote : MtmGeneration n) :
    (saveVote memory.lastVote vote).foldl assign memory =
      { memory with lastVote := vote } := by
  unfold saveVote
  split
  · next same => rw [same]; rfl
  · rfl

/-- A campaign only touches the receive mode and the vote. -/
theorem campaignMyself_state
    (me : Fin n) (env : CampaignEnv n) (state : MtmState n) :
    (Generation.campaignMyself me env state).1 =
      { state with
        receiveMode := (Generation.campaignMyself me env state).1.receiveMode
        lastVote := (Generation.campaignMyself me env state).1.lastVote } := by
  have outcome := campaignMyself_outcome me env state
  generalize Generation.campaignMyself me env state = result at outcome ⊢
  cases outcome <;> rfl

theorem handleGenVoteRequest_state
    (me : Fin n) (env : VoteEnv n) (sender : Fin n)
    (request : MtmGeneration n) (state : MtmState n) :
    (Generation.handleGenVoteRequest me env sender request state).1 =
      { state with
        receiveMode := (Generation.handleGenVoteRequest me env sender request
          state).1.receiveMode
        lastVote := (Generation.handleGenVoteRequest me env sender request
          state).1.lastVote } := by
  have outcome := handleGenVoteRequest_outcome me env sender request state
  generalize Generation.handleGenVoteRequest me env sender request state =
    result at outcome ⊢
  cases outcome <;> rfl

theorem bumpLastVote_state (maxLastVoteNum : ℕ) (state : MtmState n) :
    Generation.bumpLastVote maxLastVoteNum state =
      { state with
        lastVote :=
          (Generation.bumpLastVote maxLastVoteNum state).lastVote } := by
  unfold Generation.bumpLastVote
  split <;> rfl

theorem load_not_mem_saveVote (lastVote vote : MtmGeneration n) :
    .load ∉ saveVote lastVote vote := by
  unfold saveVote mtmStateSave
  split <;> simp

/-! ## One operation -/

/-- The condition on the input of an operation under which it leaves the
receive mode in agreement with the status. -/
def SoundOperation
    (me : Fin n) (memory : MtmState n) : Operation n → Prop
  | .considerGenSwitch gen donors => SoundDonors me gen donors
  | .receiveParallelSafe _ gen donors => SoundDonors me gen donors
  | .campaignMyself env => FindsDonor me env memory
  | _ => True

instance (me : Fin n) (memory : MtmState n) (operation : Operation n) :
    Decidable (SoundOperation me memory operation) :=
  match operation with
  | .startup => inferInstanceAs (Decidable True)
  | .considerGenSwitch _ _ => inferInstanceAs (Decidable (SoundDonors _ _ _))
  | .receiveParallelSafe _ _ _ =>
      inferInstanceAs (Decidable (SoundDonors _ _ _))
  | .applyParallelSafe _ _ _ => inferInstanceAs (Decidable True)
  | .campaignMyself _ => inferInstanceAs (Decidable (FindsDonor _ _ _))
  | .bumpLastVote _ => inferInstanceAs (Decidable True)
  | .handleGenVoteRequest _ _ _ => inferInstanceAs (Decidable True)

section Operations

variable {me : Fin n} {s : Storage n}

/-- `MtmConsiderGenSwitch` leaves agreement behind. -/
theorem receivesAsStatus_mtmConsiderGenSwitch
    {gen : MtmGeneration n} {donors : NodeMask n} {memory : MtmState n}
    (agrees : memory.currentGen.num ≠ mtmInvalidGenNum →
      ReceivesAsStatus me memory)
    (ordered : Ordered memory.toMtmStateOnDisk)
    (sound : SoundDonors me gen donors)
    (initialized : ((mtmConsiderGenSwitch me gen donors memory).foldl assign
      memory).currentGen.num ≠ mtmInvalidGenNum) :
    ReceivesAsStatus me
      ((mtmConsiderGenSwitch me gen donors memory).foldl assign memory) := by
  by_cases blank : memory.currentGen.num = mtmInvalidGenNum
  · have nothing : mtmConsiderGenSwitch me gen donors memory = [] := by
      rw [mtmConsiderGenSwitch, if_pos blank]
    rw [nothing] at initialized
    exact absurd blank initialized
  · by_cases stale : gen.num ≤ memory.currentGen.num
    · have nothing : mtmConsiderGenSwitch me gen donors memory = [] := by
        rw [mtmConsiderGenSwitch, if_neg blank, if_pos stale]
      rw [nothing]
      exact agrees blank
    · rw [foldl_mtmConsiderGenSwitch me gen donors blank (not_le.mp stale)]
      exact receivesAsStatus_afterGenSwitch ordered (not_le.mp stale) sound

/-- `MtmStateStartup` leaves agreement behind. -/
theorem receivesAsStatus_mtmStateStartup
    (noRename : s.renamed = none)
    (named : s.file.donors.Nonempty) :
    ReceivesAsStatus me
      (perform (mtmStateStartup me s.file) s).memory := by
  have loaded : ReceivesAsStatus me (mtmStateLoad me s.file) :=
    receivesAsStatus_mtmStateLoad named
  have executed : ∃ logged : Bool,
      (perform (mtmStateStartup me s.file) s).memory =
        { mtmStateLoad me s.file with psLogged := logged } := by
    unfold mtmStateStartup
    by_cases unlogged : s.file.currentGen.num = s.file.lastOnlineIn ∧
        s.file.psLogged = false
    · refine ⟨true, ?_⟩
      rw [if_pos unlogged]
      simp [perform, logParallelSafe, mtmStateSave, exec, noRename,
        mtmStateLoad]
    · refine ⟨s.file.psLogged, ?_⟩
      rw [if_neg unlogged]
      simp [perform, exec, noRename, mtmStateLoad]
  obtain ⟨logged, isMemory⟩ := executed
  rw [isMemory]
  exact ⟨loaded.normal, loaded.recovery⟩

/-- Every operation with a sound input leaves agreement behind. -/
theorem receivesAsStatus_program
    {operation : Operation n}
    (agrees : s.Initialized → ReceivesAsStatus me s.memory)
    (ordered : Ordered s.memory.toMtmStateOnDisk)
    (noRename : s.renamed = none)
    (named : s.file.donors.Nonempty)
    (started : operation.exclusive = false → s.Initialized)
    (sound : SoundOperation me s.memory operation)
    (initialized : (perform (operation.program me s) s).Initialized) :
    ReceivesAsStatus me (perform (operation.program me s) s).memory := by
  cases operation with
  | startup =>
      have noChange : s.renamed.getD s.file = s.file := by rw [noRename]; rfl
      change ReceivesAsStatus me
        (perform (mtmStateStartup me (s.renamed.getD s.file)) s).memory
      rw [noChange]
      exact receivesAsStatus_mtmStateStartup noRename named
  | considerGenSwitch gen donors =>
      have noLoad := load_not_mem_mtmConsiderGenSwitch me gen donors s.memory
      rw [Storage.Initialized, Operation.program, perform_memory noLoad]
        at initialized
      rw [Operation.program, perform_memory noLoad]
      exact receivesAsStatus_mtmConsiderGenSwitch agrees ordered sound
        initialized
  | receiveParallelSafe sender gen donors =>
      have noLoad : .load ∉ .endSession ::
          mtmConsiderGenSwitch me gen donors s.memory := by
        simpa using load_not_mem_mtmConsiderGenSwitch me gen donors s.memory
      rw [Storage.Initialized, Operation.program, perform_memory noLoad]
        at initialized
      rw [Operation.program, perform_memory noLoad]
      exact receivesAsStatus_mtmConsiderGenSwitch agrees ordered sound
        initialized
  | applyParallelSafe gen donors isRecovery =>
      change ReceivesAsStatus me
        (perform (mtmHandleParallelSafe me gen donors isRecovery s.memory)
          s).memory
      change (perform (mtmHandleParallelSafe me gen donors isRecovery s.memory)
          s).Initialized at initialized
      unfold mtmHandleParallelSafe parallelSafeVerdict at initialized ⊢
      by_cases ignored : gen.num ≠ s.memory.currentGen.num ∨
          mtmGetCurrentStatusInGen me s.memory.toMtmStateOnDisk ≠ .recovery
      · rw [if_pos ignored] at initialized ⊢
        exact agrees initialized
      · rw [if_neg ignored] at initialized ⊢
        rw [not_or, not_not] at ignored
        cases isRecovery with
        | false => exact agrees initialized
        | true =>
            have noLoad : .load ∉ getOnline gen donors := by
              simp [getOnline, mtmStateSave, logParallelSafe]
            change ReceivesAsStatus me
              (perform (getOnline gen donors) s).memory
            rw [perform_memory noLoad, foldl_getOnline]
            exact receivesAsStatus_logParallelSafe ignored.1
  | campaignMyself env =>
      have noLoad : .load ∉ Operation.program me s (.campaignMyself env) := by
        simpa [Operation.program] using load_not_mem_saveVote _ _
      rw [perform_memory noLoad, Operation.program, List.foldl_cons]
      have saved := foldl_saveVote
        (assign s.memory (.setReceiveMode
          (Generation.campaignMyself me env s.memory).1.receiveMode))
        (Generation.campaignMyself me env s.memory).1.lastVote
      have sameVote : (assign s.memory (.setReceiveMode
          (Generation.campaignMyself me env s.memory).1.receiveMode)).lastVote =
          s.memory.lastVote := rfl
      rw [sameVote] at saved
      rw [saved]
      have campaigned := receivesAsStatus_campaignMyself
        (agrees (started rfl)) ordered sound
      rw [campaignMyself_state] at campaigned
      exact campaigned
  | bumpLastVote maxLastVoteNum =>
      have noLoad := load_not_mem_saveVote s.memory.lastVote
        (Generation.bumpLastVote maxLastVoteNum s.memory).lastVote
      rw [Operation.program, perform_memory noLoad, foldl_saveVote,
        ← bumpLastVote_state]
      exact receivesAsStatus_bumpLastVote (agrees (started rfl)) ordered _
  | handleGenVoteRequest env sender request =>
      have noLoad : .load ∉ Operation.program me s
          (.handleGenVoteRequest env sender request) := by
        simpa [Operation.program] using load_not_mem_saveVote _ _
      rw [perform_memory noLoad, Operation.program, List.foldl_append,
        foldl_saveVote]
      have answered := receivesAsStatus_handleGenVoteRequest
        (agrees (started rfl)) ordered env sender request
      rw [handleGenVoteRequest_state] at answered
      exact answered

end Operations

/-! ## State files name a donor -/

/-- Every state on disk names a donor. -/
structure DonorsStored (s : Storage n) : Prop where
  file : s.file.donors.Nonempty
  tmp : ∀ state, s.tmp = some state → state.donors.Nonempty
  renamed : ∀ state, s.renamed = some state → state.donors.Nonempty

/-- The rest of a program saves no state without donors. -/
structure DonorsKept (rest : List (Statement n)) (memory : MtmState n) :
    Prop where
  assigned : ∀ donors, .setDonors donors ∈ rest → donors.Nonempty
  saved : memory.donors.Nonempty ∨ rest.head? = some .load ∨
    .writeTmp ∉ rest

theorem DonorsStored.loaded
    {s : Storage n}
    (stored : DonorsStored s) :
    (s.renamed.getD s.file).donors.Nonempty := by
  cases pending : s.renamed with
  | none => exact stored.file
  | some state => exact stored.renamed state pending

theorem DonorsStored.exec
    {s : Storage n} {statement : Statement n} {rest : List (Statement n)}
    (stored : DonorsStored s)
    (kept : DonorsKept (statement :: rest) s.memory) :
    DonorsStored (exec statement s) := by
  obtain ⟨file, tmp, renamed⟩ := stored
  cases statement with
  | writeTmp =>
      refine ⟨file, ?_, renamed⟩
      intro state isTmp
      cases isTmp
      rcases kept.saved with nonempty | isLoad | unsaved
      · exact nonempty
      · cases isLoad
      · exact absurd List.mem_cons_self unsaved
  | renameTmp =>
      refine ⟨file, fun state isTmp => (by cases isTmp), ?_⟩
      intro state isRenamed
      cases written : s.tmp with
      | none =>
          rw [Node.exec, written] at isRenamed
          exact renamed state isRenamed
      | some value =>
          rw [Node.exec, written] at isRenamed
          cases isRenamed
          exact tmp _ written
  | syncDirectory =>
      refine ⟨DonorsStored.loaded ⟨file, tmp, renamed⟩, tmp, ?_⟩
      intro state isRenamed
      cases isRenamed
  | _ => exact ⟨file, tmp, renamed⟩

theorem DonorsKept.exec
    {s : Storage n} {statement : Statement n} {rest : List (Statement n)}
    (kept : DonorsKept (statement :: rest) s.memory)
    (stored : DonorsStored s) :
    DonorsKept rest (exec statement s).memory := by
  refine ⟨fun donors member =>
    kept.assigned donors (List.mem_cons_of_mem _ member), ?_⟩
  rcases kept.saved with nonempty | isLoad | unsaved
  · left
    cases statement with
    | load => exact stored.loaded
    | setDonors donors => exact kept.assigned donors List.mem_cons_self
    | _ => exact nonempty
  · left
    cases isLoad
    exact stored.loaded
  · right
    right
    exact fun member => unsaved (List.mem_cons_of_mem _ member)

/-- A switch assigns the donors it got and saves nothing in blank memory. -/
theorem donorsKept_mtmConsiderGenSwitch
    {me : Fin n} {gen : MtmGeneration n} {donors : NodeMask n}
    {memory : MtmState n}
    (sound : SoundDonors me gen donors)
    (known : memory.currentGen.num ≠ mtmInvalidGenNum →
      memory.donors.Nonempty) :
    DonorsKept (mtmConsiderGenSwitch me gen donors memory) memory := by
  by_cases blank : memory.currentGen.num = mtmInvalidGenNum
  · have nothing : mtmConsiderGenSwitch me gen donors memory = [] := by
      rw [mtmConsiderGenSwitch, if_pos blank]
    rw [nothing]
    exact ⟨fun _ member => absurd member List.not_mem_nil,
      Or.inr (Or.inr List.not_mem_nil)⟩
  · refine ⟨?_, Or.inl (known blank)⟩
    intro assigned member
    have same : assigned = donors := by
      revert member
      unfold mtmConsiderGenSwitch getOnline mtmStateSave logParallelSafe
      split_ifs <;> simp
    rw [same]
    exact sound.1

/-- Every operation with a sound input keeps the donors on disk. -/
theorem donorsKept_program
    {me : Fin n} {s : Storage n} {operation : Operation n}
    (known : s.Initialized → s.memory.donors.Nonempty)
    (started : operation.exclusive = false → s.Initialized)
    (blank : ¬ s.Initialized → s.memory = blankMemory n)
    (sound : SoundOperation me s.memory operation) :
    DonorsKept (operation.program me s) s.memory := by
  have votes : ∀ vote donors,
      .setDonors donors ∉ saveVote s.memory.lastVote vote := by
    intro vote donors
    unfold saveVote mtmStateSave
    split <;> simp
  cases operation with
  | startup =>
      refine ⟨?_, Or.inr (Or.inl rfl)⟩
      intro donors member
      revert member
      unfold Operation.program mtmStateStartup mtmStateSave logParallelSafe
      split_ifs <;> simp
  | considerGenSwitch gen donors =>
      exact donorsKept_mtmConsiderGenSwitch sound known
  | receiveParallelSafe sender gen donors =>
      have kept := donorsKept_mtmConsiderGenSwitch sound known
      refine ⟨fun assigned member => kept.assigned assigned
        (by simpa [Operation.program] using member), ?_⟩
      rcases kept.saved with nonempty | isLoad | unsaved
      · exact Or.inl nonempty
      · have noLoad := load_not_mem_mtmConsiderGenSwitch me gen donors s.memory
        exact absurd (List.mem_of_head? isLoad) noLoad
      · exact Or.inr (Or.inr (by simpa [Operation.program] using unsaved))
  | applyParallelSafe gen donors isRecovery =>
      by_cases initialized : s.Initialized
      · refine ⟨?_, Or.inl (known initialized)⟩
        intro assigned member
        revert member
        change _ ∈ mtmHandleParallelSafe me gen donors isRecovery s.memory → _
        unfold mtmHandleParallelSafe
        cases parallelSafeVerdict me gen isRecovery
            s.memory.toMtmStateOnDisk <;>
          simp [getOnline, mtmStateSave, logParallelSafe]
      · -- blank memory counts as online in generation zero
        have nothing : Operation.program me s
            (.applyParallelSafe gen donors isRecovery) = [] := by
          have online : mtmGetCurrentStatusInGen me
              (blankMemory n).toMtmStateOnDisk = .online :=
            mtmGetCurrentStatusInGen_eq_online.mpr rfl
          rw [Operation.program, blank initialized]
          simp [mtmHandleParallelSafe, parallelSafeVerdict, online]
        rw [nothing]
        exact ⟨fun _ member => absurd member List.not_mem_nil,
          Or.inr (Or.inr List.not_mem_nil)⟩
  | campaignMyself env =>
      refine ⟨?_, Or.inl (known (started rfl))⟩
      intro assigned member
      exact absurd (by simpa [Operation.program] using member)
        (votes _ assigned)
  | bumpLastVote maxLastVoteNum =>
      refine ⟨?_, Or.inl (known (started rfl))⟩
      intro assigned member
      exact absurd member (votes _ assigned)
  | handleGenVoteRequest env sender request =>
      refine ⟨?_, Or.inl (known (started rfl))⟩
      intro assigned member
      exact absurd (by simpa [Operation.program] using member)
        (votes _ assigned)

/-! ## The machine -/

/-- The program still to be executed. -/
def NodeState.rest (node : NodeState n) : List (Statement n) :=
  node.task.elim [] Task.rest

/-- The storage the operation in progress is going to leave behind. -/
def NodeState.outcome (node : NodeState n) : Storage n :=
  perform node.rest node.storage

/-- Every operation begins with a sound input. -/
def SoundBegin (me : Fin n) (node : NodeState n) : Action n → Prop
  | .begin operation => SoundOperation me node.storage.memory operation
  | _ => True

instance (me : Fin n) (node : NodeState n) (action : Action n) :
    Decidable (SoundBegin me node action) :=
  match action with
  | .begin _ => inferInstanceAs (Decidable (SoundOperation _ _ _))
  | .run => inferInstanceAs (Decidable True)
  | .release => inferInstanceAs (Decidable True)
  | .heartbeat => inferInstanceAs (Decidable True)
  | .acquireBarrier _ => inferInstanceAs (Decidable True)
  | .prepare _ => inferInstanceAs (Decidable True)
  | .crash _ _ => inferInstanceAs (Decidable True)

/-- The invariant of the receive mode. -/
structure ModeInvariant (me : Fin n) (node : NodeState n) : Prop where
  stored : DonorsStored node.storage
  kept : ∀ task, node.task = some task →
    DonorsKept task.rest node.storage.memory
  agrees : node.outcome.Initialized →
    ReceivesAsStatus me node.outcome.memory

/-- Storages that agree on everything the programs read. -/
structure SameContents (s t : Storage n) : Prop where
  memory : s.memory = t.memory
  file : s.file = t.file
  tmp : s.tmp = t.tmp
  renamed : s.renamed = t.renamed

theorem SameContents.exec
    {s t : Storage n}
    (same : SameContents s t)
    (statement : Statement n) :
    SameContents (exec statement s) (exec statement t) := by
  obtain ⟨memory, file, tmp, renamed⟩ := same
  cases statement <;> constructor <;>
    simp only [Node.exec, memory, file, tmp, renamed]

theorem SameContents.perform
    {s t : Storage n}
    (same : SameContents s t)
    (program : List (Statement n)) :
    SameContents (perform program s) (perform program t) := by
  induction program generalizing s t with
  | nil => exact same
  | cons statement rest inductionHypothesis =>
      exact inductionHypothesis (same.exec statement)

theorem DonorsStored.of_same
    {s t : Storage n}
    (stored : DonorsStored s)
    (same : SameContents s t) :
    DonorsStored t where
  file := by rw [← same.file]; exact stored.file
  tmp := by rw [← same.tmp]; exact stored.tmp
  renamed := by rw [← same.renamed]; exact stored.renamed

namespace ModeInvariant

variable {me : Fin n} {node : NodeState n}

/-- Steps that touch neither the task nor the contents of the storage. -/
theorem of_same
    {other : NodeState n}
    (invariant : ModeInvariant me node)
    (task : other.task = node.task)
    (same : SameContents node.storage other.storage) :
    ModeInvariant me other := by
  have outcome : SameContents node.outcome other.outcome := by
    unfold NodeState.outcome NodeState.rest
    rw [task]
    exact same.perform _
  refine ⟨invariant.stored.of_same same, ?_, ?_⟩
  · intro current isTask
    rw [← same.memory]
    exact invariant.kept current (task.symm.trans isTask)
  · unfold Storage.Initialized
    rw [← outcome.memory]
    exact invariant.agrees

theorem idle_agrees
    (invariant : ModeInvariant me node)
    (idle : node.task = none)
    (initialized : node.storage.Initialized) :
    ReceivesAsStatus me node.storage.memory := by
  have outcome : node.outcome = node.storage := by
    rw [NodeState.outcome, NodeState.rest, idle]
    rfl
  rw [← outcome]
  exact invariant.agrees (by rw [outcome]; exact initialized)

theorem begin
    {operation : Operation n}
    (invariant : ModeInvariant me node)
    (base : Invariant node)
    (enabled : Enabled me node (.begin operation))
    (sound : SoundOperation me node.storage.memory operation) :
    ModeInvariant me (effect me node (.begin operation)) := by
  obtain ⟨free, admitted⟩ := enabled
  have idle : node.task = none := by simpa using free
  have settled := base.idle idle
  have ordered := (base.quiet (not_genLockedExclusively_none idle)).ordered
  have started : operation.exclusive = false → node.storage.Initialized := by
    intro isShared
    simpa [isShared] using admitted
  have known : node.storage.Initialized →
      node.storage.memory.donors.Nonempty := by
    intro initialized
    rw [(settled.loaded initialized).1]
    exact invariant.stored.file
  have agrees := receivesAsStatus_program
    (invariant.idle_agrees idle) ordered settled.renamed
    invariant.stored.file started sound
  have contents : SameContents node.storage
      (effect me node (.begin operation)).storage := ⟨rfl, rfl, rfl, rfl⟩
  have same := contents.perform (operation.program me node.storage)
  refine ⟨invariant.stored.of_same ⟨rfl, rfl, rfl, rfl⟩, ?_, ?_⟩
  · intro task isTask
    cases isTask
    exact donorsKept_program known started settled.blank sound
  · change (perform (operation.program me node.storage)
      (effect me node (.begin operation)).storage).Initialized →
        ReceivesAsStatus me (perform (operation.program me node.storage)
          (effect me node (.begin operation)).storage).memory
    unfold Storage.Initialized
    rw [← same.memory]
    exact agrees

theorem run
    (invariant : ModeInvariant me node) :
    ModeInvariant me (effect me node .run) := by
  change ModeInvariant me (runTask node)
  unfold runTask
  split
  · next exclusive statement rest isTask =>
      have kept := invariant.kept _ isTask
      have outcome : node.outcome =
          perform rest (exec statement node.storage) := by
        rw [NodeState.outcome, NodeState.rest, isTask]
        rfl
      refine ⟨invariant.stored.exec kept, ?_, ?_⟩
      · intro task isNext
        cases isNext
        exact kept.exec invariant.stored
      · have agrees := invariant.agrees
        rw [outcome] at agrees
        exact agrees
  · exact invariant

theorem release
    (invariant : ModeInvariant me node)
    (enabled : Enabled me node .release) :
    ModeInvariant me (effect me node .release) := by
  refine ⟨invariant.stored, fun _ isTask => (by cases isTask), ?_⟩
  have outcome : (effect me node .release).outcome = node.outcome := by
    cases isTask : node.task with
    | none => simp [Enabled, isTask] at enabled
    | some task =>
        have ended : task.rest = [] := by
          simpa [Enabled, isTask] using enabled
        simp [NodeState.outcome, NodeState.rest, effect, isTask, ended]
  rw [outcome]
  exact invariant.agrees

theorem crash
    (keepRenamed : Bool) (keep : ℕ)
    (invariant : ModeInvariant me node) :
    ModeInvariant me (effect me node (.crash keepRenamed keep)) := by
  refine ⟨⟨?_, fun _ isTmp => (by cases isTmp),
    fun _ isRenamed => (by cases isRenamed)⟩,
    fun _ isTask => (by cases isTask), ?_⟩
  · cases keepRenamed with
    | false => exact invariant.stored.file
    | true => exact invariant.stored.loaded
  · intro initialized
    exact absurd rfl initialized

end ModeInvariant

theorem modeInvariant_initialNode (me : Fin n) :
    ModeInvariant me (initialNode n) where
  stored :=
    ⟨⟨me, Finset.mem_univ me⟩, fun _ isTmp => (by cases isTmp),
      fun _ isRenamed => (by cases isRenamed)⟩
  kept := fun _ isTask => (by cases isTask)
  agrees := fun initialized => absurd rfl initialized

/-- The receive mode invariant holds in every run with sound inputs. -/
theorem modeInvariant_of_reachable
    {me : Fin n} {node : NodeState n}
    (reachable : (machine me).Reachable (SoundBegin me) node) :
    Invariant node ∧ ModeInvariant me node := by
  refine @Machine.Reachable.invariant _ _ _ _
    (fun node => Invariant node ∧ ModeInvariant me node)
    ⟨invariant_initialNode n, modeInvariant_initialNode me⟩ ?_ _ reachable
  rintro current action ⟨base, invariant⟩ enabled sound
  cases action with
  | begin operation =>
      exact ⟨base.begin me operation enabled,
        invariant.begin base enabled sound⟩
  | run => exact ⟨base.run me, invariant.run⟩
  | release => exact ⟨base.release me enabled, invariant.release enabled⟩
  | heartbeat =>
      exact ⟨base.heartbeat me enabled,
        invariant.of_same rfl ⟨rfl, rfl, rfl, rfl⟩⟩
  | acquireBarrier preparer =>
      exact ⟨base.acquireBarrier me preparer enabled,
        invariant.of_same rfl ⟨rfl, rfl, rfl, rfl⟩⟩
  | prepare preparer =>
      exact ⟨base.prepare me preparer enabled,
        invariant.of_same rfl ⟨rfl, rfl, rfl, rfl⟩⟩
  | crash keepRenamed keep =>
      exact ⟨base.crash me keepRenamed keep,
        invariant.crash keepRenamed keep⟩

/-! ## Main result -/

/-- In every run of a node whose switches name donors and whose campaigns find
one, whenever no operation is in progress the receive mode is the one the
status asks for, and a switch from there to a newer generation ends with the
status of the branch it takes and again with the mode of that status. -/
theorem receiveMode_follows_status
    (me : Fin n) {node : NodeState n}
    (reachable : (machine me).Reachable (SoundBegin me) node)
    (idle : node.task = none)
    (initialized : node.storage.Initialized) :
    (node.storage.memory.receiveMode = .normal ↔
      mtmGetCurrentStatusInGen me
        node.storage.memory.toMtmStateOnDisk = .online) ∧
    (mtmGetCurrentStatusInGen me
        node.storage.memory.toMtmStateOnDisk = .recovery →
      ∃ donor ∈ node.storage.memory.donors,
        node.storage.memory.receiveMode = .donor donor) ∧
    ∀ gen donors, SoundDonors me gen donors →
      node.storage.memory.currentGen.num < gen.num →
      mtmGetCurrentStatusInGen me
          (perform (mtmConsiderGenSwitch me gen donors node.storage.memory)
            node.storage).memory.toMtmStateOnDisk =
        switchBranch me gen donors node.storage.memory.lastVote := by
  obtain ⟨base, invariant⟩ := modeInvariant_of_reachable reachable
  have agrees := invariant.idle_agrees idle initialized
  have ordered := (base.quiet (not_genLockedExclusively_none idle)).ordered
  refine ⟨agrees.normal, agrees.recovery, ?_⟩
  intro gen donors sound newer
  rw [perform_memory (load_not_mem_mtmConsiderGenSwitch me gen donors _),
    foldl_mtmConsiderGenSwitch me gen donors initialized newer]
  exact mtmGetCurrentStatusInGen_afterGenSwitch ordered newer sound

/-- Node 0 of three learns of generation 2 of node 1 alone, is dead in it, and
campaigns while it sees only node 2, which reports `last`. -/
def deadThenCampaign (last : ℕ) : List (Action 3) :=
  [Action.begin .startup] ++ List.replicate 8 Action.run ++
    [Action.release,
      .begin (.considerGenSwitch
        { num := 2, members := {1}, configured := Finset.univ } {1})] ++
    List.replicate 8 Action.run ++
    [Action.release,
      .begin (.campaignMyself
        { backupNode := none
          connectedMaskWithMe := {0, 2}
          clique := {0, 2}
          replierLoaded := true
          refereeEnabled := false
          othersLastOnlineIn := fun node => if node = 2 then last else 0
          catchupNode := none
          catchupFresh := false })] ++
    List.replicate 5 Action.run ++ [Action.release]

theorem deadThenCampaign_completes :
    ((machine (0 : Fin 3)).execute (SoundBegin 0) (machine 0).init
      (deadThenCampaign 1)).isSome = true := by
  decide +kernel

theorem deadThenCampaign_zero_completes :
    ((machine (0 : Fin 3)).execute Machine.Always (machine 0).init
      (deadThenCampaign 0)).isSome = true := by
  decide +kernel

theorem receiveMode_follows_status_deadThenCampaign :
    let node := ((machine (0 : Fin 3)).execute (SoundBegin 0)
      (machine 0).init (deadThenCampaign 1)).get deadThenCampaign_completes
    node.task = none ∧ node.storage.Initialized ∧
      node.storage.memory.receiveMode = .donor 2 ∧
      (node.storage.memory.receiveMode = .normal ↔
        mtmGetCurrentStatusInGen 0
          node.storage.memory.toMtmStateOnDisk = .online) := by
  intro node
  have idle : node.task = none :=
    Option.isNone_iff_eq_none.mp (by decide +kernel)
  have initialized : node.storage.Initialized := by decide +kernel
  refine ⟨idle, initialized, by decide +kernel, ?_⟩
  exact (receiveMode_follows_status (0 : Fin 3)
    (Machine.reachable_of_execute (deadThenCampaign 1)
      deadThenCampaign_completes) idle initialized).1

/-- With only a node around that has never been online, as one joined from a
basebackup, the dead node starts to receive in normal mode. -/
theorem normal_while_dead :
    let node := ((machine (0 : Fin 3)).execute Machine.Always
      (machine 0).init (deadThenCampaign 0)).get
        deadThenCampaign_zero_completes
    (machine (0 : Fin 3)).Reachable Machine.Always node ∧
      node.task = none ∧ node.storage.Initialized ∧
      node.storage.memory.receiveMode = .normal ∧
      mtmGetCurrentStatusInGen 0
        node.storage.memory.toMtmStateOnDisk = .dead := by
  intro node
  exact ⟨Machine.reachable_of_execute (deadThenCampaign 0)
      deadThenCampaign_zero_completes,
    Option.isNone_iff_eq_none.mp (by decide +kernel), by decide +kernel,
    by decide +kernel, by decide +kernel⟩

end Node
end Multimaster
