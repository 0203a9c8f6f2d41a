import Multimaster.Syncpoint.Barrier

/-!
# What a registered row means

In every run of a receiver with its pool, each row that the receiver registers
means what the comment of the table says, and every record of the node lies on one
side of it.
-/

namespace Multimaster
namespace Syncpoint

open Pool (Accounted LeavesSlot State StepEnabled TxlEntry Workshop stepEffect)

variable {Node : Type} {me : Node} {config : Pool.Config}
variable {state : Applying me} {entries : List TxlEntry} {alive : State}

namespace Coordinated

/-! ## The stages of the receiver -/

theorem entries_of_idle
    (noWork : state.workshop.receiver = .idle) :
    state.workshop.receiver.entries = 0 := by
  rw [noWork]
  rfl

theorem entries_of_waiting
    {work : List Byte}
    (isWaiting : state.workshop.receiver = .asleep work ∨
      state.workshop.receiver = .woken work) :
    state.workshop.receiver.entries = 0 := by
  rcases isWaiting with isAsleep | isWoken
  · rw [isAsleep]
    rfl
  · rw [isWoken]
    rfl

/-- A receiver that waits for room has its last transaction at hand. -/
theorem waiting_atHand
    (ok : Coordinated config state entries alive) {work : List Byte}
    (isWaiting : state.workshop.receiver = .asleep work ∨
      state.workshop.receiver = .woken work) :
    state.task = .idle ∧ state.AtHand entries := by
  have notHolding : ∀ pos, state.workshop.receiver ≠ .holding pos := by
    intro pos isHolding
    rw [isHolding] at isWaiting
    rcases isWaiting with isAsleep | isWoken
    · cases isAsleep
    · cases isWoken
  have stage := ok.stage
  revert stage
  cases state.task with
  | idle =>
      rintro ⟨-, atHand⟩
      refine ⟨rfl, atHand ?_⟩
      rcases isWaiting with isAsleep | isWoken
      · rw [isAsleep]
        exact Option.some_ne_none _
      · rw [isWoken]
        exact Option.some_ne_none _
  | transaction =>
      rintro ⟨isIdle, -⟩
      rw [isIdle] at isWaiting
      rcases isWaiting with isAsleep | isWoken
      · cases isAsleep
      · cases isWoken
  | message =>
      rintro ⟨pos, isHolding, -⟩
      exact absurd isHolding (notHolding pos)
  | syncpoint origin originLsn forwarded =>
      rintro ⟨⟨pos, isHolding, -⟩, -⟩
      exact absurd isHolding (notHolding pos)
  | logged origin originLsn receiverLsn =>
      rintro ⟨⟨pos, isHolding, -⟩, -⟩
      exact absurd isHolding (notHolding pos)
  | handled =>
      rintro ⟨pos, isHolding, -⟩
      exact absurd isHolding (notHolding pos)

/-- What the receiver applies itself is the last transaction. -/
theorem running_last
    (ok : Coordinated config state entries alive)
    (isOwn : state.task = .transaction ∨ state.task = .message) :
    RunningAt state.jobs state.last := by
  have stage := ok.stage
  rcases isOwn with isTransaction | isMessage
  · rw [isTransaction] at stage
    exact stage.2.running
  · rw [isMessage] at stage
    obtain ⟨pos, isHolding, isLast⟩ := stage
    obtain ⟨value, isEntry⟩ := ok.exists_entry (mem_owned_of_holding isHolding)
    have owner : state.owner pos = state.last := by
      rw [Applying.last]
      omega
    rcases ok.owned _ isEntry with isRunning | ⟨-, isBehind⟩
    · rwa [← owner]
    · simp only at isBehind
      omega

/-- A worker that pops may wake the receiver. -/
theorem with_workshop
    {workshop : Workshop} {others : State}
    (ok : Coordinated config state entries alive)
    (kept : Accounted config workshop entries others)
    (sameReceiver : workshop.receiver = state.workshop.receiver ∨
      ∃ work, state.workshop.receiver = .asleep work ∧
        workshop.receiver = .woken work) :
    Coordinated config { state with workshop := workshop } entries others := by
  rcases sameReceiver with same | ⟨work, isAsleep, isWoken⟩
  · constructor
    · exact kept
    · exact ok.increasing
    · simp only [same]
      exact ok.owned
    · simp only [same]
      exact ok.held
    · have stage := ok.stage
      simp only at stage ⊢
      revert stage
      cases state.task with
      | idle =>
          rintro ⟨noEntries, waiting⟩
          simp only [Applying.Stage, same]
          refine ⟨noEntries, fun isWaiting => ?_⟩
          exact ⟨(waiting isWaiting).running, (waiting isWaiting).behind⟩
      | transaction =>
          rintro ⟨isIdle, atHand⟩
          exact ⟨same.trans isIdle, atHand.running, atHand.behind⟩
      | message =>
          rintro ⟨pos, isHolding, isLast⟩
          exact ⟨pos, same.trans isHolding, isLast⟩
      | syncpoint origin originLsn forwarded =>
          rintro ⟨⟨pos, isHolding, isLast⟩, rest⟩
          exact ⟨⟨pos, same.trans isHolding, isLast⟩, rest⟩
      | logged origin originLsn receiverLsn =>
          rintro ⟨⟨pos, isHolding, isLast⟩, rest⟩
          exact ⟨⟨pos, same.trans isHolding, isLast⟩, rest⟩
      | handled =>
          rintro ⟨pos, isHolding, isLast⟩
          exact ⟨pos, same.trans isHolding, isLast⟩
    · exact ok.written
    · exact ok.proven
    · exact fun entry isRow => { ok.rows entry isRow with }
  · obtain ⟨isIdle, atHand⟩ := ok.waiting_atHand (Or.inl isAsleep)
    have noEntries := entries_of_waiting (Or.inl isAsleep)
    constructor
    · exact kept
    · exact ok.increasing
    · exact fun entry isEntry => Or.inl (ok.owner_lt noEntries isEntry)
    · intro index isRunning
      refine (ok.listed_of_atHand isRunning).imp_right fun isLast => ?_
      refine ⟨isLast, Or.inr ⟨isIdle, ?_⟩⟩
      simp only [isWoken]
      exact Option.some_ne_none _
    · simp only [isIdle]
      refine ⟨?_, fun _ => ⟨atHand.running, atHand.behind⟩⟩
      simp only [isWoken]
      rfl
    · exact ok.written
    · exact ok.proven
    · exact fun entry isRow => { ok.rows entry isRow with }

theorem receiver_pop (workshop : Workshop) :
    workshop.pop.receiver = workshop.receiver ∨
      ∃ work, workshop.receiver = .asleep work ∧
        workshop.pop.receiver = .woken work := by
  unfold Workshop.pop
  split
  · cases isReceiver : workshop.receiver with
    | asleep work => exact Or.inr ⟨work, rfl, rfl⟩
    | idle => exact Or.inl rfl
    | woken work => exact Or.inl rfl
    | holding pos => exact Or.inl rfl
  · exact Or.inl rfl

theorem receiver_remove
    (config : Pool.Config) {workshop : Workshop} {pos : ℕ}
    (isHolding : workshop.receiver = .holding pos) :
    (stepEffect config workshop .remove).receiver = .idle := by
  simp only [stepEffect, isHolding]

/-- The receiver ends what it applied without an entry. -/
theorem finish_own
    {outcome : Outcome} (ok : Coordinated config state entries alive)
    (isTransaction : state.task = .transaction) (ended : outcome ≠ .running)
    (logged : outcome = .applied →
      ∃ record ∈ state.records, record.job = state.last) :
    Coordinated config
      { state with
        jobs := state.endJob state.last outcome
        task := .idle } entries alive := by
  have stage := ok.stage
  rw [isTransaction] at stage
  obtain ⟨noWork, atHand⟩ := stage
  have noEntries := entries_of_idle noWork
  have isNone : state.workshop.receiver.waiting = none := by
    rw [noWork]
    rfl
  constructor
  · exact ok.accounted
  · exact ok.increasing
  · intro entry isEntry
    have early := atHand.behind entry isEntry
    exact Or.inl ((runningAt_end ended).mpr
      ⟨ok.owner_lt noEntries isEntry, Nat.ne_of_lt early⟩)
  · intro index isRunning
    obtain ⟨wasRunning, different⟩ := (runningAt_end ended).mp isRunning
    rcases ok.listed_of_atHand wasRunning with listed | isLast
    · exact Or.inl listed
    · exact absurd isLast different
  · exact ⟨noEntries, fun isWaiting => absurd isNone isWaiting⟩
  · intro record isRecord
    simp only [Applying.endJob, List.length_modify]
    exact ok.written record isRecord
  · exact fun index arrival isApplied => ok.proven_end logged isApplied
  · exact fun entry isRow => rowOk_end (ok.rows entry isRow) ended

/-- The receiver leaves the list after a syncpoint. -/
theorem leave
    {workshop : Workshop} {pos : ℕ}
    (ok : Coordinated config state entries alive)
    (isHandled : state.task = .handled)
    (isHolding : state.workshop.receiver = .holding pos)
    (noWork : workshop.receiver = .idle)
    (kept : Accounted config workshop
      (entries.filter fun entry => entry.1 ≠ pos) alive) :
    Coordinated config
      { state with
        workshop := workshop
        task := .idle } (entries.filter fun entry => entry.1 ≠ pos)
      alive := by
  have stage := ok.stage
  rw [isHandled] at stage
  obtain ⟨own, isOwn, isLast⟩ := stage
  obtain rfl : pos = own := by
    rw [isHolding] at isOwn
    cases isOwn
    rfl
  have isNone : workshop.receiver.waiting = none := by
    rw [noWork]
    rfl
  constructor
  · exact kept
  · exact ok.increasing.sublist (List.filter_sublist.map _)
  · intro entry isKept
    obtain ⟨isEntry, different⟩ := List.mem_filter.mp isKept
    rcases ok.owned entry isEntry with isRunning | ⟨isHere, -⟩
    · exact Or.inl isRunning
    · rw [isHolding] at isHere
      cases isHere
      exact absurd rfl (of_decide_eq_true different)
  · intro index isRunning
    have early : index < state.jobs.length := isRunning.lt
    rcases ok.held index isRunning with ⟨entry, isEntry, rfl⟩ | ⟨-, unlisted⟩
    · refine Or.inl ⟨entry, List.mem_filter.mpr ⟨isEntry, ?_⟩, rfl⟩
      refine decide_eq_true ?_
      rintro rfl
      omega
    · rw [isHandled] at unlisted
      rcases unlisted with isTransaction | ⟨isIdle, -⟩
      · cases isTransaction
      · cases isIdle
  · refine ⟨?_, fun isWaiting => absurd isNone isWaiting⟩
    simp only [noWork]
    rfl
  · exact ok.written
  · exact ok.proven
  · exact fun entry isRow => { ok.rows entry isRow with }

/-! ## The steps of the pool -/

/-- The work at hand is offered to the pool, and then the receiver is idle. -/
theorem deliver
    [DecidableEq Node] {arrival : Arrival me} {work : List Byte}
    {registered : Bool} (ok : Coordinated config state entries alive)
    (enabled : ApplyEnabled config state (.deliver arrival work registered))
    (behind : state.Behind arrival) :
    ∃ entries alive, Coordinated config
      (applyEffect config state (.deliver arrival work registered)) entries
      alive := by
  obtain ⟨isIdle, noWork, short, bounded, -⟩ := enabled
  have arrived := ok.arrive isIdle noWork behind
  have stage := arrived.stage
  obtain ⟨entries, alive, pushed⟩ := arrived.push registered
    (entries_of_idle noWork) ⟨stage.2.running, stage.2.behind⟩ short bounded
  refine ⟨entries, alive, ?_⟩
  have isLast : (state.jobs ++ [(arrival, Outcome.running)]).length - 1 =
      state.jobs.length := by
    rw [List.length_append, List.length_singleton, Nat.add_sub_cancel]
  simp only [Applying.last, isLast] at pushed
  simp only [applyEffect, isIdle]
  exact pushed

theorem retry
    [DecidableEq Node] {registered : Bool}
    (ok : Coordinated config state entries alive)
    (enabled : ApplyEnabled config state (.retry registered)) :
    ∃ entries alive, Coordinated config
      (applyEffect config state (.retry registered)) entries alive := by
  obtain ⟨⟨work, isWoken⟩, -⟩ := enabled
  obtain ⟨isIdle, atHand⟩ := ok.waiting_atHand (Or.inr isWoken)
  obtain ⟨short, bounded⟩ := ok.accounted.work work (by rw [isWoken]; rfl)
  obtain ⟨entries, alive, pushed⟩ := ok.push registered
    (entries_of_waiting (Or.inr isWoken)) atHand short bounded
  refine ⟨entries, alive, ?_⟩
  simp only [applyEffect, stepEffect, isWoken, isIdle]
  exact pushed

/-- A worker is done with its transaction. -/
theorem complete
    {pos : BitVec 32} {outcome : Outcome} {workshop : Workshop}
    (ok : Coordinated config state entries alive)
    (isExecuting : pos ∈ state.workshop.executing)
    (ended : outcome ≠ .running)
    (logged : outcome = .applied →
      ∃ record ∈ state.records, record.job = state.owner pos.toNat)
    (kept : Accounted config workshop
      (entries.filter fun entry => entry.1 ≠ pos.toNat) alive)
    (sameReceiver : workshop.receiver = state.workshop.receiver) :
    Coordinated config
      { state with
        workshop := workshop
        jobs := state.endJob (state.owner pos.toNat) outcome }
      (entries.filter fun entry => entry.1 ≠ pos.toNat) alive := by
  obtain ⟨value, isEntry⟩ := ok.exists_entry (mem_owned_of_executing isExecuting)
  refine ok.dismiss isEntry ended logged kept ?_ ?_
    (ok.stage_end isEntry ended sameReceiver)
  · intro own _ isHolding
    exact sameReceiver.trans isHolding
  · rw [sameReceiver]
    exact fun unlisted => unlisted

theorem ne_running_of_canEnd
    [DecidableEq Node] {job : ℕ} {outcome : Outcome}
    (canEnd : state.CanEnd job outcome) : outcome ≠ .running := by
  rcases canEnd with rfl | ⟨rfl, -⟩
  · decide
  · decide

theorem logged_of_canEnd
    [DecidableEq Node] {job : ℕ} {outcome : Outcome}
    (canEnd : state.CanEnd job outcome) (isApplied : outcome = .applied) :
    ∃ record ∈ state.records, record.job = job := by
  rcases canEnd with rfl | ⟨-, found⟩
  · cases isApplied
  · exact found

/-! ## The steps of the receiver -/

/-- The task of the receiver changes, and nothing else. -/
theorem with_task
    {task : Task Node} (ok : Coordinated config state entries alive)
    (isBusy : state.task ≠ .idle ∧ state.task ≠ .transaction)
    (stage : state.Stage entries task) :
    Coordinated config { state with task := task } entries alive := by
  constructor
  · exact ok.accounted
  · exact ok.increasing
  · exact ok.owned
  · intro index isRunning
    rcases ok.held index isRunning with listed | ⟨-, unlisted⟩
    · exact Or.inl listed
    · rcases unlisted with isTransaction | ⟨isIdle, -⟩
      · exact absurd isTransaction isBusy.2
      · exact absurd isIdle isBusy.1
  · simp only
    revert stage
    cases task with
    | idle =>
        rintro ⟨noEntries, waiting⟩
        refine ⟨noEntries, fun isWaiting => ?_⟩
        exact ⟨(waiting isWaiting).running, (waiting isWaiting).behind⟩
    | transaction => exact fun stage => ⟨stage.1, stage.2.running, stage.2.behind⟩
    | message => exact fun stage => stage
    | syncpoint origin originLsn forwarded => exact fun stage => stage
    | logged origin originLsn receiverLsn => exact fun stage => stage
    | handled => exact fun stage => stage
  · exact ok.written
  · exact ok.proven
  · exact fun entry isRow => { ok.rows entry isRow with }

/-- With nothing running, the end of the WAL is a position that all received
transactions are before. -/
theorem separated_of_over
    {insertPtr : ℕ} (ok : Coordinated config state entries alive)
    (ended : ∀ index, ¬ RunningAt state.jobs index)
    (ahead : state.insertPtr ≤ insertPtr) :
    Separated state.jobs state.records insertPtr state.jobs.length
      insertPtr where
  ended := by
    rintro index - ⟨arrival, outcome⟩ isJob rfl
    exact ended index ⟨arrival, isJob⟩
  before := by
    intro record isRecord _
    exact Nat.le_trans (ok.written record isRecord).2 ahead
  behind := by
    intro record isRecord late
    exact absurd (ok.written record isRecord).1 (Nat.not_lt_of_le late)
  reached := Nat.le_refl _
  counted := Nat.le_refl _

variable [DecidableEq Node]

theorem beginMessage
    {arrival : Arrival me} (ok : Coordinated config state entries alive)
    (isIdle : state.task = .idle) (noWork : state.workshop.receiver = .idle)
    (behind : state.Behind arrival)
    (slot : LeavesSlot config state.workshop (.store 1)) :
    ∃ entries, Coordinated config
      (applyEffect config state (.beginMessage arrival)) entries alive := by
  have arrived := ok.arrive isIdle noWork behind
  have stage := arrived.stage
  have kept := ok.accounted.store_entries noWork slot
  have isLast : (state.jobs ++ [(arrival, Outcome.running)]).length - 1 =
      state.jobs.length := by
    rw [List.length_append, List.length_singleton, Nat.add_sub_cancel]
  have entered := arrived.enter .message kept (entries_of_idle noWork)
    stage.2.behind (fun _ isRunning => arrived.listed_of_atHand isRunning)
    (Or.inl stage.2.running)
    ⟨state.slot, rfl, by
      simp only [Applying.slot, Function.update_self, Applying.last,
        List.length_append, List.length_singleton, Nat.add_sub_cancel]⟩
  simp only [Applying.last, isLast] at entered
  exact ⟨_, entered⟩

theorem syncpoint
    {origin : Node} {originLsn : ℕ} {forwarded : Bool}
    (ok : Coordinated config state entries alive)
    (isIdle : state.task = .idle) (noWork : state.workshop.receiver = .idle)
    (foreign : forwarded = false → origin ≠ me)
    (before : state.Before origin originLsn)
    (slot : LeavesSlot config state.workshop (.store 2)) :
    ∃ entries, Coordinated config
      (applyEffect config state (.syncpoint origin originLsn forwarded))
      entries alive := by
  have kept := ok.accounted.store_entries noWork slot
  have noEntries := entries_of_idle noWork
  refine ⟨_, ok.enter _ kept noEntries ?_ ?_ (Or.inr ⟨rfl, rfl⟩)
    ⟨⟨state.slot, rfl, Function.update_self _ _ _⟩, before, foreign⟩⟩
  · intro entry isEntry
    exact (ok.owner_lt noEntries isEntry).lt
  · intro other isRunning
    refine (ok.held other isRunning).imp_right ?_
    rintro ⟨-, isTransaction | ⟨-, isWaiting⟩⟩
    · rw [isIdle] at isTransaction
      cases isTransaction
    · rw [noWork] at isWaiting
      exact absurd rfl isWaiting

omit [DecidableEq Node] in
theorem exists_of_isSyncpoint
    {task : Task Node} (isSyncpoint : task.IsSyncpoint) :
    ∃ origin originLsn forwarded,
      task = .syncpoint origin originLsn forwarded := by
  cases task with
  | syncpoint origin originLsn forwarded => exact ⟨_, _, _, rfl⟩
  | idle => cases isSyncpoint
  | transaction => cases isSyncpoint
  | message => cases isSyncpoint
  | logged origin originLsn receiverLsn => cases isSyncpoint
  | handled => cases isSyncpoint

omit [DecidableEq Node] in
theorem exists_of_isLogged
    {task : Task Node} (isLogged : task.IsLogged) :
    ∃ origin originLsn receiverLsn,
      task = .logged origin originLsn receiverLsn := by
  cases task with
  | logged origin originLsn receiverLsn => exact ⟨_, _, _, rfl⟩
  | idle => cases isLogged
  | transaction => cases isLogged
  | message => cases isLogged
  | syncpoint origin originLsn forwarded => cases isLogged
  | handled => cases isLogged

theorem log
    {endPtr : ℕ} (ok : Coordinated config state entries alive)
    (enabled : ApplyEnabled config state (.log endPtr)) :
    Coordinated config (applyEffect config state (.log endPtr)) entries
      alive := by
  obtain ⟨isWaiting, atHead, ahead⟩ := enabled
  obtain ⟨origin, originLsn, forwarded, isSyncpoint⟩ :=
    exists_of_isSyncpoint isWaiting
  have isBusy : state.task ≠ .idle ∧ state.task ≠ .transaction := by
    simp [isSyncpoint]
  have stage := ok.stage
  rw [isSyncpoint] at stage
  obtain ⟨atSyncpoint, before, foreign⟩ := stage
  have ended := ok.all_over atSyncpoint atHead isBusy
  simp only [applyEffect, isSyncpoint]
  cases forwarded with
  | true =>
      by_cases own : origin = me
      · simp only [Applying.noteSyncpoint, if_pos own]
        exact ok.with_task isBusy
          (show state.Stage entries .handled from atSyncpoint)
      · simp only [Applying.noteSyncpoint, if_neg own]
        have isLogged : state.Stage entries
            (.logged origin originLsn state.insertPtr) :=
          ⟨atSyncpoint, before, own,
            ok.separated_of_over ended (Nat.le_refl _)⟩
        exact ok.with_task isBusy isLogged
  | false =>
      -- the message is written first
      have written := ok.advance (Nat.le_of_lt ahead)
      have isLogged : Applying.Stage { state with insertPtr := endPtr } entries
          (.logged origin originLsn endPtr) :=
        ⟨atSyncpoint, before, foreign rfl,
          ok.separated_of_over ended (Nat.le_of_lt ahead)⟩
      exact written.with_task isBusy isLogged

theorem mem_insertRow_of
    {row : Row Node} {entry : ℕ × Row Node}
    (isEntry : entry ∈ state.insertRow row) :
    entry ∈ state.rows ∨ entry = (state.jobs.length, row) := by
  unfold Applying.insertRow at isEntry
  split at isEntry
  · exact Or.inl isEntry
  · exact (List.mem_append.mp isEntry).imp_right List.mem_singleton.mp

theorem register
    {endPtr : ℕ} (ok : Coordinated config state entries alive)
    (enabled : ApplyEnabled config state (.register endPtr)) :
    Coordinated config (applyEffect config state (.register endPtr)) entries
      alive := by
  obtain ⟨hasLsn, ahead⟩ := enabled
  obtain ⟨origin, originLsn, receiverLsn, isLogged⟩ := exists_of_isLogged hasLsn
  have isBusy : state.task ≠ .idle ∧ state.task ≠ .transaction := by
    simp [isLogged]
  have stage := ok.stage
  rw [isLogged] at stage
  obtain ⟨atSyncpoint, before, foreign, separated⟩ := stage
  have advanced := (ok.advance ahead).with_task isBusy
    (show Applying.Stage _ entries .handled from atSyncpoint)
  simp only [applyEffect, isLogged]
  refine { advanced with rows := ?_ }
  intro entry isEntry
  rcases mem_insertRow_of isEntry with isOld | rfl
  · exact { advanced.rows entry isOld with }
  · refine ⟨rfl, foreign, separated.advance ahead, ?_, ?_⟩
    · intro index _ job isJob isOrigin
      exact before job (List.mem_of_getElem? isJob) isOrigin
    · intro index late job isJob
      have early := (List.getElem?_eq_some_iff.mp isJob).1
      exact absurd early (Nat.not_lt_of_le late)

/-- The receiver returns from `MtmExecutor`. -/
theorem finishOwn
    {outcome : Outcome} (ok : Coordinated config state entries alive)
    (enabled : ApplyEnabled config state (.finishOwn outcome)) :
    ∃ entries, Coordinated config
      (applyEffect config state (.finishOwn outcome)) entries alive := by
  obtain ⟨isOwn, canEnd⟩ := enabled
  have ended := ne_running_of_canEnd canEnd
  have stage := ok.stage
  rcases isOwn with isTransaction | ⟨isMessage, -⟩
  · rw [isTransaction] at stage
    have stays : state.leaveList config = state.workshop := by
      simp only [Applying.leaveList, stepEffect, stage.1]
    simp only [applyEffect, stays]
    exact ⟨entries, ok.finish_own isTransaction ended (logged_of_canEnd canEnd)⟩
  · rw [isMessage] at stage
    obtain ⟨pos, isHolding, isLast⟩ := stage
    obtain ⟨value, isEntry⟩ := ok.exists_entry (mem_owned_of_holding isHolding)
    have owner : state.owner pos = state.last := by
      rw [Applying.last]
      omega
    have kept := ok.accounted.remove_entries isHolding
    have noWork := receiver_remove config isHolding
    rw [← owner] at canEnd
    simp only [applyEffect, Applying.leaveList, ← owner]
    refine ⟨_, ok.dismiss isEntry ended (logged_of_canEnd canEnd) kept ?_ ?_
      ?_⟩
    · intro own different isHere
      rw [isHolding] at isHere
      cases isHere
      exact absurd rfl different
    · rw [isMessage]
      rintro (isTransaction | ⟨isIdle, -⟩)
      · cases isTransaction
      · cases isIdle
    · refine ⟨entries_of_idle noWork, fun isWaiting => ?_⟩
      simp only [noWork] at isWaiting
      exact absurd rfl isWaiting

/-! ## Runs -/

theorem initially
    (me : Node) (config : Pool.Config) (memory : Memory) (insertPtr : ℕ) :
    Coordinated config (applyMachine me config memory insertPtr).init []
      (Pool.machine config.transSpillThreshold memory).init where
  accounted := Accounted.initially config memory
  increasing := List.Pairwise.nil
  owned := fun _ isEntry => by cases isEntry
  held := by
    rintro index ⟨arrival, isJob⟩
    cases isJob
  stage := ⟨rfl, fun isWaiting => absurd rfl isWaiting⟩
  written := fun _ isRecord => by cases isRecord
  proven := by
    intro index arrival isJob
    cases isJob
  rows := fun _ isRow => by cases isRow

theorem step
    {step : ApplyStep me} (ok : Coordinated config state entries alive)
    (enabled : ApplyEnabled config state step)
    (orderly : Orderly config state step) :
    ∃ entries alive,
      Coordinated config (applyEffect config state step) entries alive := by
  obtain ⟨inOrder, slotLeft⟩ := orderly
  cases step with
  | deliver arrival work registered => exact ok.deliver enabled inOrder
  | retry registered => exact ok.retry enabled
  | pop =>
      obtain ⟨others, kept⟩ := ok.accounted.pop enabled.2
      exact ⟨entries, others, ok.with_workshop kept (receiver_pop _)⟩
  | sleep =>
      exact ⟨entries, alive, ok.with_workshop { ok.accounted with }
        (Or.inl rfl)⟩
  | write pos start endPtr =>
      obtain ⟨isExecuting, ahead, nonempty⟩ := enabled
      exact ⟨entries, alive,
        ok.write (ok.running_of_executing isExecuting) ahead nonempty⟩
  | finish pos outcome =>
      obtain ⟨isExecuting, canEnd⟩ := enabled
      exact ⟨_, alive, ok.complete isExecuting (ne_running_of_canEnd canEnd)
        (logged_of_canEnd canEnd) (ok.accounted.complete_entries isExecuting)
        rfl⟩
  | exit pos =>
      have kept := ok.accounted.complete_entries enabled
      have ended : Outcome.lost ≠ .running := by
        decide
      have notApplied : Outcome.lost ≠ .applied := by
        decide
      exact ⟨_, alive, ok.complete enabled ended
        (fun isApplied => absurd isApplied notApplied) { kept with } rfl⟩
  | begin arrival =>
      exact ⟨entries, alive, ok.arrive enabled.1 enabled.2 inOrder⟩
  | beginMessage arrival =>
      obtain ⟨entries, kept⟩ :=
        ok.beginMessage enabled.1 enabled.2 inOrder slotLeft
      exact ⟨entries, alive, kept⟩
  | writeOwn start endPtr =>
      obtain ⟨isOwn, ahead, nonempty⟩ := enabled
      have isRunning := ok.running_last (isOwn.imp_right And.left)
      exact ⟨entries, alive, ok.write isRunning ahead nonempty⟩
  | finishOwn outcome =>
      obtain ⟨entries, kept⟩ := ok.finishOwn enabled
      exact ⟨entries, alive, kept⟩
  | syncpoint origin originLsn forwarded =>
      obtain ⟨entries, kept⟩ := ok.syncpoint enabled.1 enabled.2.1 enabled.2.2
        inOrder slotLeft
      exact ⟨entries, alive, kept⟩
  | log endPtr => exact ⟨entries, alive, ok.log enabled⟩
  | register endPtr => exact ⟨entries, alive, ok.register enabled⟩
  | leave =>
      have stage := ok.stage
      have isHandled : state.task = .handled := enabled
      rw [isHandled] at stage
      obtain ⟨pos, isHolding, -⟩ := stage
      exact ⟨_, alive, ok.leave isHandled isHolding
        (receiver_remove config isHolding)
          (ok.accounted.remove_entries isHolding)⟩
  | advance endPtr => exact ⟨entries, alive, ok.advance enabled⟩

theorem of_reachable
    {memory : Memory} {insertPtr : ℕ}
    (reachable : (applyMachine me config memory insertPtr).Reachable
      (Orderly config) state) :
    ∃ entries alive, Coordinated config state entries alive := by
  let Holds (state : Applying me) : Prop :=
    ∃ entries alive, Coordinated config state entries alive
  have atStart : Holds (applyMachine me config memory insertPtr).init :=
    ⟨[], _, initially me config memory insertPtr⟩
  refine Machine.Reachable.invariant atStart ?_ reachable
  rintro current action ⟨entries, alive, ok⟩ enabled orderly
  exact ok.step enabled orderly

end Coordinated

end Syncpoint
end Multimaster
