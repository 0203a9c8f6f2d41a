import Multimaster.Pool.Entries
import Multimaster.Syncpoint.Applying

/-!
# A registered syncpoint is a barrier

The entries of the list are in the order of the stream, and whatever is being
applied has one.  So when the entry of a syncpoint is the head of the list, all
that came before it is done, and nothing that comes behind it has begun.
-/

namespace Multimaster
namespace Syncpoint

open Pool (Accounted LeavesSlot State StepEnabled TxlEntry TxlistOk Workshop
  stepEffect txlStore)

variable {Node : Type} {me : Node}

/-! ## Before and behind a position -/

/-- The first transactions are over and are in the WAL before the position, and
the others behind it. -/
structure Separated
    (jobs : List (Arrival me × Outcome)) (records : List Logged)
    (insertPtr count lsn : ℕ) : Prop where
  ended : ∀ index < count, ∀ job, jobs[index]? = some job → job.2 ≠ .running
  before : ∀ record ∈ records, record.job < count → record.endPtr ≤ lsn
  behind : ∀ record ∈ records, count ≤ record.job → lsn ≤ record.start
  reached : lsn ≤ insertPtr
  counted : count ≤ jobs.length

variable {jobs : List (Arrival me × Outcome)} {records : List Logged}
variable {insertPtr count lsn : ℕ}

theorem Separated.advance
    {endPtr : ℕ} (separated : Separated jobs records insertPtr count lsn)
    (ahead : insertPtr ≤ endPtr) :
    Separated jobs records endPtr count lsn :=
  { separated with reached := Nat.le_trans separated.reached ahead }

/-- A transaction that runs writes behind the position. -/
theorem Separated.write
    {index start endPtr : ℕ} {arrival : Arrival me}
    (separated : Separated jobs records insertPtr count lsn)
    (isRunning : jobs[index]? = some (arrival, .running))
    (ahead : insertPtr ≤ start) (nonempty : start < endPtr) :
    Separated jobs (records ++ [⟨index, start, endPtr⟩]) endPtr count lsn := by
  have reached := separated.reached
  have later : count ≤ index := by
    by_contra early
    exact separated.ended index (Nat.lt_of_not_le early) _ isRunning rfl
  refine ⟨separated.ended, ?_, ?_, by omega, separated.counted⟩
  · intro record isRecord early
    rcases List.mem_append.mp isRecord with isOld | isNew
    · exact separated.before record isOld early
    · rw [List.mem_singleton.mp isNew] at early
      exact absurd later (Nat.not_le_of_lt early)
  · intro record isRecord late
    rcases List.mem_append.mp isRecord with isOld | isNew
    · exact separated.behind record isOld late
    · rw [List.mem_singleton.mp isNew]
      exact Nat.le_trans reached ahead

theorem Separated.arrive
    (separated : Separated jobs records insertPtr count lsn)
    (job : Arrival me × Outcome) :
    Separated (jobs ++ [job]) records insertPtr count lsn := by
  have counted := separated.counted
  refine { separated with ended := ?_, counted := ?_ }
  · intro index early other isOther
    rw [List.getElem?_append_left (by omega)] at isOther
    exact separated.ended index early other isOther
  · rw [List.length_append]
    omega

/-- A transaction after another one has ended. -/
theorem getElem?_end
    {index job : ℕ} {outcome : Outcome} {entry : Arrival me × Outcome}
    (isEntry : (jobs.modify job fun entry => (entry.1, outcome))[index]? =
      some entry) :
    ∃ old, jobs[index]? = some old ∧ entry.1 = old.1 ∧
      ((index ≠ job ∧ entry.2 = old.2) ∨ (index = job ∧ entry.2 = outcome)) := by
  rw [List.getElem?_modify] at isEntry
  obtain ⟨old, isOld, rfl⟩ := Option.map_eq_some_iff.mp isEntry
  refine ⟨old, isOld, ?_⟩
  by_cases same : job = index
  · rw [if_pos same]
    exact ⟨rfl, Or.inr ⟨same.symm, rfl⟩⟩
  · rw [if_neg same]
    exact ⟨rfl, Or.inl ⟨fun equal => same equal.symm, rfl⟩⟩

theorem Separated.finish
    {job : ℕ} {outcome : Outcome} (ended : outcome ≠ .running)
    (separated : Separated jobs records insertPtr count lsn) :
    Separated (jobs.modify job fun entry => (entry.1, outcome)) records
      insertPtr count lsn := by
  refine { separated with ended := ?_, counted := ?_ }
  · intro index early entry isEntry
    obtain ⟨old, isOld, -, ⟨-, same⟩ | ⟨-, same⟩⟩ := getElem?_end isEntry
    · rw [same]
      exact separated.ended index early old isOld
    · rw [same]
      exact ended
  · rw [List.length_modify]
    exact separated.counted

/-! ## The invariant -/

/-- A transaction is being applied, or is about to be. -/
def RunningAt (jobs : List (Arrival me × Outcome)) (index : ℕ) : Prop :=
  ∃ arrival, jobs[index]? = some (arrival, .running)

theorem RunningAt.lt {index : ℕ} (isRunning : RunningAt jobs index) :
    index < jobs.length := by
  obtain ⟨arrival, isEntry⟩ := isRunning
  exact (List.getElem?_eq_some_iff.mp isEntry).1

/-- When one has ended, the others still run. -/
theorem runningAt_end
    {job index : ℕ} {outcome : Outcome} (ended : outcome ≠ .running) :
    RunningAt (jobs.modify job fun entry => (entry.1, outcome)) index ↔
      RunningAt jobs index ∧ index ≠ job := by
  constructor
  · rintro ⟨arrival, isEntry⟩
    obtain ⟨⟨old, state⟩, isOld, rfl, ⟨different, rfl⟩ | ⟨-, rfl⟩⟩ :=
      getElem?_end isEntry
    · exact ⟨⟨arrival, isOld⟩, different⟩
    · exact absurd rfl ended
  · rintro ⟨⟨arrival, isEntry⟩, different⟩
    refine ⟨arrival, ?_⟩
    rw [List.getElem?_modify, isEntry, Option.map_eq_map, Option.map_some,
      if_neg (Ne.symm different)]

/-- A new one runs. -/
theorem runningAt_arrive {index : ℕ} {arrival : Arrival me} :
    RunningAt (jobs ++ [(arrival, .running)]) index ↔
      RunningAt jobs index ∨ index = jobs.length := by
  constructor
  · rintro ⟨other, isEntry⟩
    rcases Nat.lt_trichotomy index jobs.length with early | same | late
    · rw [List.getElem?_append_left early] at isEntry
      exact Or.inl ⟨other, isEntry⟩
    · exact Or.inr same
    · rw [List.getElem?_eq_none (by
        rw [List.length_append, List.length_singleton]
        omega)] at isEntry
      cases isEntry
  · rintro (isRunning | rfl)
    · have early := isRunning.lt
      obtain ⟨other, isEntry⟩ := isRunning
      exact ⟨other, by rwa [List.getElem?_append_left early]⟩
    · exact ⟨arrival, List.getElem?_concat_length⟩

/-- The last transaction has not got an entry. -/
structure Applying.AtHand
    (state : Applying me) (entries : List TxlEntry) : Prop where
  running : RunningAt state.jobs state.last
  behind : ∀ entry ∈ entries, state.owner entry.1 < state.last

/-- The receiver's entry is that of a syncpoint. -/
def Applying.AtSyncpoint (state : Applying me) : Prop :=
  ∃ pos, state.workshop.receiver = .holding pos ∧
    state.owner pos = state.jobs.length

/-- What a task of the receiver is about. -/
def Applying.Stage
    (state : Applying me) (entries : List TxlEntry) : Task Node → Prop
  | .idle =>
      state.workshop.receiver.entries = 0 ∧
        (state.workshop.receiver.waiting ≠ none → state.AtHand entries)
  | .transaction => state.workshop.receiver = .idle ∧ state.AtHand entries
  | .message =>
      ∃ pos, state.workshop.receiver = .holding pos ∧
        state.owner pos + 1 = state.jobs.length
  | .syncpoint origin originLsn forwarded =>
      state.AtSyncpoint ∧ state.Before origin originLsn ∧
        (forwarded = false → origin ≠ me)
  | .logged origin originLsn receiverLsn =>
      state.AtSyncpoint ∧ state.Before origin originLsn ∧ origin ≠ me ∧
        Separated state.jobs state.records state.insertPtr state.jobs.length
          receiverLsn
  | .handled => state.AtSyncpoint

/-- A row and the transactions before and behind its syncpoint. -/
structure Applying.RowOk
    (state : Applying me) (count : ℕ) (row : Row Node) : Prop where
  receiver : row.receiver = me
  foreign : row.origin ≠ me
  separated : Separated state.jobs state.records state.insertPtr count
    row.receiverLsn
  earlier : ∀ index < count, ∀ job, state.jobs[index]? = some job →
    job.1.origin = row.origin → job.1.endLsn ≤ row.originLsn
  later : ∀ index, count ≤ index → ∀ job, state.jobs[index]? = some job →
    job.1.origin = row.origin → row.originLsn ≤ job.1.start

/-- The invariant. -/
structure Coordinated
    (config : Pool.Config) (state : Applying me) (entries : List TxlEntry)
    (alive : State) : Prop where
  accounted : Accounted config state.workshop entries alive
  increasing : (entries.map fun entry => state.owner entry.1).Pairwise (· < ·)
  owned : ∀ entry ∈ entries, RunningAt state.jobs (state.owner entry.1) ∨
    (state.workshop.receiver = .holding entry.1 ∧
      state.owner entry.1 = state.jobs.length)
  held : ∀ index, RunningAt state.jobs index →
    (∃ entry ∈ entries, state.owner entry.1 = index) ∨
      (index = state.last ∧ (state.task = .transaction ∨
        (state.task = .idle ∧ state.workshop.receiver.waiting ≠ none)))
  stage : state.Stage entries state.task
  written : ∀ record ∈ state.records,
    record.job < state.jobs.length ∧ record.endPtr ≤ state.insertPtr
  proven : ∀ index arrival, state.jobs[index]? = some (arrival, .applied) →
    ∃ record ∈ state.records, record.job = index
  rows : ∀ entry ∈ state.rows, state.RowOk entry.1 entry.2

variable {config : Pool.Config} {state : Applying me}
variable {entries : List TxlEntry} {alive : State}

namespace Coordinated

theorem owner_le
    (ok : Coordinated config state entries alive) {entry : TxlEntry}
    (isEntry : entry ∈ entries) :
    state.owner entry.1 ≤ state.jobs.length := by
  rcases ok.owned entry isEntry with isRunning | ⟨-, isLast⟩
  · exact Nat.le_of_lt isRunning.lt
  · exact Nat.le_of_eq isLast

/-- Different entries belong to different transactions. -/
theorem owner_injective
    (ok : Coordinated config state entries alive) {first second : TxlEntry}
    (isFirst : first ∈ entries) (isSecond : second ∈ entries)
    (same : state.owner first.1 = state.owner second.1) :
    first = second := by
  have nodup : (entries.map fun entry => state.owner entry.1).Nodup :=
    ok.increasing.imp Nat.ne_of_lt
  exact List.inj_on_of_nodup_map nodup isFirst isSecond same

/-- What the pool is applying has an entry. -/
theorem exists_entry
    (ok : Coordinated config state entries alive) {pos : ℕ}
    (isOwned : pos ∈ state.workshop.owned alive) :
    ∃ value, (pos, value) ∈ entries := by
  obtain ⟨entry, isEntry, rfl⟩ :=
    List.mem_map.mp (ok.accounted.stored pos isOwned)
  exact ⟨entry.2, isEntry⟩

theorem mem_owned_of_executing
    {pos : BitVec 32} (isExecuting : pos ∈ state.workshop.executing) :
    pos.toNat ∈ state.workshop.owned alive :=
  List.mem_append_right _ (List.mem_append_left _
    (List.mem_map_of_mem isExecuting))

theorem mem_owned_of_holding
    {pos : ℕ} (isHolding : state.workshop.receiver = .holding pos) :
    pos ∈ state.workshop.owned alive := by
  rw [Workshop.owned, isHolding]
  exact List.mem_append_right _ (List.mem_append_right _ List.mem_cons_self)

/-- A worker does not apply what the receiver waits with. -/
theorem ne_of_executing
    (ok : Coordinated config state entries alive) {pos : BitVec 32} {own : ℕ}
    (isExecuting : pos ∈ state.workshop.executing)
    (isHolding : state.workshop.receiver = .holding own) :
    own ≠ pos.toNat := by
  rintro rfl
  have distinct := ok.accounted.distinct
  rw [Workshop.owned, isHolding] at distinct
  have disjoint := (List.nodup_append.mp
    (List.nodup_append.mp distinct).2.1).2.2
  exact disjoint _ (List.mem_map_of_mem isExecuting) _ List.mem_cons_self rfl

/-- What a worker applies is running. -/
theorem running_of_executing
    (ok : Coordinated config state entries alive) {pos : BitVec 32}
    (isExecuting : pos ∈ state.workshop.executing) :
    RunningAt state.jobs (state.owner pos.toNat) := by
  obtain ⟨value, isEntry⟩ := ok.exists_entry (mem_owned_of_executing isExecuting)
  rcases ok.owned _ isEntry with isRunning | ⟨isHolding, -⟩
  · exact isRunning
  · exact absurd rfl (ok.ne_of_executing isExecuting isHolding)

/-- The receiver's entry at the head of the list is the only one, when it is the
last one of the stream. -/
theorem alone_of_head
    (ok : Coordinated config state entries alive) {pos : ℕ}
    (isHolding : state.workshop.receiver = .holding pos)
    (isLast : state.owner pos = state.jobs.length)
    (atHead : state.workshop.txlist.head = pos) :
    ∀ entry ∈ entries, state.owner entry.1 = state.jobs.length := by
  obtain ⟨first, value, second, whole, -⟩ := TxlistOk.exists_split
    (ok.accounted.stored pos (mem_owned_of_holding isHolding))
    ok.accounted.list.list
  have list := ok.accounted.list.list
  simp only [whole] at list
  have noFirst := list.eq_head_iff.mp atHead.symm
  subst noFirst
  have increasing := ok.increasing
  rw [whole, List.nil_append, List.map_cons, List.pairwise_cons] at increasing
  intro entry isEntry
  rw [whole, List.nil_append] at isEntry
  rcases List.mem_cons.mp isEntry with rfl | isSecond
  · exact isLast
  · have later : state.owner pos < state.owner entry.1 :=
      increasing.1 _ (List.mem_map_of_mem isSecond)
    have inEntries : entry ∈ entries := by
      rw [whole]
      exact List.mem_cons_of_mem _ isSecond
    have bound := ok.owner_le inEntries
    omega

/-- Nothing runs when the entry of a syncpoint is the head of the list. -/
theorem all_over
    (ok : Coordinated config state entries alive)
    (atSyncpoint : state.AtSyncpoint) (atHead : state.AtHead)
    (isBusy : state.task ≠ .idle ∧ state.task ≠ .transaction) (index : ℕ) :
    ¬ RunningAt state.jobs index := by
  obtain ⟨pos, isHolding, isLast⟩ := atSyncpoint
  obtain ⟨head, isHead, atHead⟩ := atHead
  rw [isHolding] at isHead
  rw [List.mem_singleton.mp isHead] at atHead
  intro isRunning
  rcases ok.held index isRunning with ⟨entry, isEntry, rfl⟩ | ⟨-, unlisted⟩
  · have alone := ok.alone_of_head isHolding isLast atHead entry isEntry
    have bound := isRunning.lt
    omega
  · rcases unlisted with isTransaction | ⟨isIdle, -⟩
    · exact isBusy.2 isTransaction
    · exact isBusy.1 isIdle

/-! ## The WAL -/

/-- Something is written into the WAL. -/
theorem relog
    {records : List Logged} {insertPtr : ℕ}
    (ok : Coordinated config state entries alive)
    (kept : ∀ count lsn,
      Separated state.jobs state.records state.insertPtr count lsn →
      Separated state.jobs records insertPtr count lsn)
    (subset : state.records ⊆ records)
    (written : ∀ record ∈ records,
      record.job < state.jobs.length ∧ record.endPtr ≤ insertPtr) :
    Coordinated config
      { state with records := records, insertPtr := insertPtr } entries
      alive where
  accounted := ok.accounted
  increasing := ok.increasing
  owned := ok.owned
  held := ok.held
  stage := by
    have stage := ok.stage
    simp only at stage ⊢
    revert stage
    cases state.task with
    | idle =>
        intro stage
        refine ⟨stage.1, fun isWaiting => ?_⟩
        exact ⟨(stage.2 isWaiting).running, (stage.2 isWaiting).behind⟩
    | transaction => exact fun stage => ⟨stage.1, stage.2.running, stage.2.behind⟩
    | message => exact fun stage => stage
    | syncpoint origin originLsn forwarded => exact fun stage => stage
    | logged origin originLsn receiverLsn =>
        rintro ⟨atSyncpoint, before, foreign, separated⟩
        exact ⟨atSyncpoint, before, foreign, kept _ _ separated⟩
    | handled => exact fun stage => stage
  written := written
  proven := by
    intro index arrival isApplied
    obtain ⟨record, isRecord, isJob⟩ := ok.proven index arrival isApplied
    exact ⟨record, subset isRecord, isJob⟩
  rows := by
    intro entry isRow
    have row := ok.rows entry isRow
    exact { row with separated := kept _ _ row.separated }

theorem advance
    {endPtr : ℕ} (ok : Coordinated config state entries alive)
    (ahead : state.insertPtr ≤ endPtr) :
    Coordinated config { state with insertPtr := endPtr } entries alive := by
  refine ok.relog (fun count lsn separated => separated.advance ahead)
    (List.Subset.refl _) ?_
  intro record isRecord
  obtain ⟨counted, reached⟩ := ok.written record isRecord
  exact ⟨counted, Nat.le_trans reached ahead⟩

/-- What is being applied writes a record. -/
theorem write
    {index start endPtr : ℕ} (ok : Coordinated config state entries alive)
    (isRunning : RunningAt state.jobs index)
    (ahead : state.insertPtr ≤ start) (nonempty : start < endPtr) :
    Coordinated config
      { state with
        records := state.records ++ [⟨index, start, endPtr⟩]
        insertPtr := endPtr } entries alive := by
  have counted := isRunning.lt
  obtain ⟨arrival, isEntry⟩ := isRunning
  refine ok.relog
    (fun count lsn separated => separated.write isEntry ahead nonempty)
    (List.subset_append_left _ _) ?_
  intro record isRecord
  rcases List.mem_append.mp isRecord with isOld | isNew
  · obtain ⟨counted, reached⟩ := ok.written record isOld
    exact ⟨counted, by omega⟩
  · rw [List.mem_singleton.mp isNew]
    exact ⟨counted, Nat.le_refl _⟩

/-! ## The ends of transactions -/

theorem rowOk_end
    {job : ℕ} {outcome : Outcome} {row : Row Node} {count : ℕ}
    {workshop : Workshop} {task : Task Node}
    (rowOk : state.RowOk count row) (ended : outcome ≠ .running) :
    Applying.RowOk
      { state with
        workshop := workshop
        jobs := state.endJob job outcome
        task := task } count row where
  receiver := rowOk.receiver
  foreign := rowOk.foreign
  separated := rowOk.separated.finish ended
  earlier := by
    intro index early entry isEntry isOrigin
    obtain ⟨old, isOld, same, -⟩ := getElem?_end isEntry
    rw [same] at isOrigin ⊢
    exact rowOk.earlier index early old isOld isOrigin
  later := by
    intro index late entry isEntry isOrigin
    obtain ⟨old, isOld, same, -⟩ := getElem?_end isEntry
    rw [same] at isOrigin ⊢
    exact rowOk.later index late old isOld isOrigin

theorem proven_end
    {job : ℕ} {outcome : Outcome}
    (ok : Coordinated config state entries alive)
    (logged : outcome = .applied → ∃ record ∈ state.records, record.job = job)
    {index : ℕ} {arrival : Arrival me}
    (isApplied : (state.endJob job outcome)[index]? =
      some (arrival, .applied)) :
    ∃ record ∈ state.records, record.job = index := by
  obtain ⟨⟨old, before⟩, isOld, rfl, ⟨-, rfl⟩ | ⟨rfl, isOutcome⟩⟩ :=
    getElem?_end isApplied
  · exact ok.proven index arrival isOld
  · exact logged isOutcome.symm

/-- A transaction with an entry ends, and its entry goes. -/
theorem dismiss
    {pos : ℕ} {value : ℤ} {outcome : Outcome} {workshop : Workshop}
    {task : Task Node} (ok : Coordinated config state entries alive)
    (isEntry : (pos, value) ∈ entries) (ended : outcome ≠ .running)
    (logged : outcome = .applied →
      ∃ record ∈ state.records, record.job = state.owner pos)
    (kept : Accounted config workshop
      (entries.filter fun entry => entry.1 ≠ pos) alive)
    (holds : ∀ own, own ≠ pos → state.workshop.receiver = .holding own →
      workshop.receiver = .holding own)
    (unlisted : state.task = .transaction ∨
        (state.task = .idle ∧ state.workshop.receiver.waiting ≠ none) →
      task = .transaction ∨
        (task = .idle ∧ workshop.receiver.waiting ≠ none))
    (stage : Applying.Stage
      { state with
        workshop := workshop
        jobs := state.endJob (state.owner pos) outcome
        task := task } (entries.filter fun entry => entry.1 ≠ pos) task) :
    Coordinated config
      { state with
        workshop := workshop
        jobs := state.endJob (state.owner pos) outcome
        task := task } (entries.filter fun entry => entry.1 ≠ pos) alive where
  accounted := kept
  increasing := ok.increasing.sublist (List.filter_sublist.map _)
  owned := by
    intro entry isKept
    obtain ⟨inEntries, different⟩ := List.mem_filter.mp isKept
    have otherPos : entry.1 ≠ pos := of_decide_eq_true different
    have otherOwner : state.owner entry.1 ≠ state.owner pos := by
      intro same
      have equal := ok.owner_injective inEntries isEntry same
      rw [equal] at otherPos
      exact otherPos rfl
    rcases ok.owned entry inEntries with isRunning | ⟨isHolding, isLast⟩
    · exact Or.inl ((runningAt_end ended).mpr ⟨isRunning, otherOwner⟩)
    · refine Or.inr ⟨holds _ otherPos isHolding, ?_⟩
      simp only [Applying.endJob, List.length_modify]
      exact isLast
  held := by
    intro index isRunning
    obtain ⟨wasRunning, otherIndex⟩ := (runningAt_end ended).mp isRunning
    rcases ok.held index wasRunning with ⟨entry, inEntries, rfl⟩ | ⟨isLast, rest⟩
    · refine Or.inl ⟨entry, List.mem_filter.mpr ⟨inEntries, ?_⟩, rfl⟩
      refine decide_eq_true ?_
      intro same
      exact otherIndex (congrArg state.owner same)
    · refine Or.inr ⟨?_, unlisted rest⟩
      simp only [Applying.last, Applying.endJob, List.length_modify]
      exact isLast
  stage := stage
  written := by
    intro record isRecord
    simp only [Applying.endJob, List.length_modify]
    exact ok.written record isRecord
  proven := fun index arrival isApplied => ok.proven_end logged isApplied
  rows := fun entry isRow => rowOk_end (ok.rows entry isRow) ended

/-- What a task is about survives the end of another transaction. -/
theorem stage_end
    {pos : ℕ} {value : ℤ} {outcome : Outcome} {workshop : Workshop}
    (ok : Coordinated config state entries alive)
    (isEntry : (pos, value) ∈ entries) (ended : outcome ≠ .running)
    (sameReceiver : workshop.receiver = state.workshop.receiver) :
    Applying.Stage
      { state with
        workshop := workshop
        jobs := state.endJob (state.owner pos) outcome }
      (entries.filter fun entry => entry.1 ≠ pos) state.task := by
  have atHand : state.AtHand entries →
      Applying.AtHand
        { state with
          workshop := workshop
          jobs := state.endJob (state.owner pos) outcome }
        (entries.filter fun entry => entry.1 ≠ pos) := by
    rintro ⟨running, behind⟩
    have early := behind _ isEntry
    constructor
    · simp only [Applying.last, Applying.endJob, List.length_modify]
      exact (runningAt_end ended).mpr ⟨running, Nat.ne_of_gt early⟩
    · intro entry isKept
      simp only [Applying.last, Applying.endJob, List.length_modify]
      exact behind entry (List.mem_of_mem_filter isKept)
  have sameLength :
      (state.endJob (state.owner pos) outcome).length = state.jobs.length :=
    List.length_modify _ _ _
  have atSyncpoint : state.AtSyncpoint →
      Applying.AtSyncpoint
        { state with
          workshop := workshop
          jobs := state.endJob (state.owner pos) outcome } := by
    rintro ⟨own, isHolding, isLast⟩
    exact ⟨own, sameReceiver.trans isHolding, isLast.trans sameLength.symm⟩
  have before : ∀ origin originLsn, state.Before origin originLsn →
      Applying.Before
        { state with
          workshop := workshop
          jobs := state.endJob (state.owner pos) outcome }
        origin originLsn := by
    intro origin originLsn before job isJob isOrigin
    obtain ⟨index, isIndex⟩ := List.mem_iff_getElem?.mp isJob
    obtain ⟨old, isOld, same, -⟩ := getElem?_end isIndex
    rw [same] at isOrigin ⊢
    exact before old (List.mem_of_getElem? isOld) isOrigin
  have stage := ok.stage
  revert stage
  cases state.task with
  | idle =>
      rintro ⟨noEntries, waiting⟩
      refine ⟨?_, ?_⟩
      · rw [sameReceiver]
        exact noEntries
      · rw [sameReceiver]
        intro isWaiting
        have hand := atHand (waiting isWaiting)
        exact ⟨hand.running, hand.behind⟩
  | transaction =>
      rintro ⟨isIdle, hand⟩
      exact ⟨sameReceiver.trans isIdle, (atHand hand).running,
        (atHand hand).behind⟩
  | message =>
      rintro ⟨own, isHolding, isLast⟩
      exact ⟨own, sameReceiver.trans isHolding, isLast.trans sameLength.symm⟩
  | syncpoint origin originLsn forwarded =>
      rintro ⟨isHere, isBefore, foreign⟩
      exact ⟨atSyncpoint isHere, before _ _ isBefore, foreign⟩
  | logged origin originLsn receiverLsn =>
      rintro ⟨isHere, isBefore, foreign, separated⟩
      refine ⟨atSyncpoint isHere, before _ _ isBefore, foreign, ?_⟩
      simp only [sameLength]
      exact separated.finish ended
  | handled => exact atSyncpoint

/-! ## Arrivals -/

/-- What has no entry is at hand. -/
theorem owner_lt
    (ok : Coordinated config state entries alive)
    (noEntries : state.workshop.receiver.entries = 0) {entry : TxlEntry}
    (isEntry : entry ∈ entries) :
    RunningAt state.jobs (state.owner entry.1) := by
  rcases ok.owned entry isEntry with isRunning | ⟨isHolding, -⟩
  · exact isRunning
  · rw [isHolding] at noEntries
    cases noEntries

/-- A transaction is received. -/
theorem arrive
    {arrival : Arrival me} (ok : Coordinated config state entries alive)
    (isIdle : state.task = .idle) (noWork : state.workshop.receiver = .idle)
    (behind : state.Behind arrival) :
    Coordinated config
      { state with
        jobs := state.jobs ++ [(arrival, .running)]
        task := .transaction } entries alive := by
  have noEntries : state.workshop.receiver.entries = 0 := by
    rw [noWork]
    rfl
  have isLast : (state.jobs ++ [(arrival, Outcome.running)]).length - 1 =
      state.jobs.length := by
    rw [List.length_append, List.length_singleton, Nat.add_sub_cancel]
  constructor
  · exact ok.accounted
  · exact ok.increasing
  · intro entry isEntry
    exact Or.inl (runningAt_arrive.mpr (Or.inl (ok.owner_lt noEntries isEntry)))
  · intro index isRunning
    rcases runningAt_arrive.mp isRunning with wasRunning | rfl
    · rcases ok.held index wasRunning with listed | ⟨-, unlisted⟩
      · exact Or.inl listed
      · rw [isIdle, noWork] at unlisted
        rcases unlisted with isTransaction | ⟨-, isWaiting⟩
        · cases isTransaction
        · exact absurd rfl isWaiting
    · exact Or.inr ⟨isLast.symm, Or.inl rfl⟩
  · refine ⟨noWork, ?_, ?_⟩
    · simp only [Applying.last, isLast]
      exact runningAt_arrive.mpr (Or.inr rfl)
    · intro entry isEntry
      simp only [Applying.last, isLast]
      exact (ok.owner_lt noEntries isEntry).lt
  · intro record isRecord
    obtain ⟨counted, reached⟩ := ok.written record isRecord
    refine ⟨?_, reached⟩
    rw [List.length_append]
    omega
  · intro index other isApplied
    rcases Nat.lt_or_ge index state.jobs.length with early | late
    · rw [List.getElem?_append_left early] at isApplied
      exact ok.proven index other isApplied
    · rw [List.getElem?_append_right late, List.getElem?_singleton] at isApplied
      split at isApplied
      · cases isApplied
      · cases isApplied
  · intro entry isRow
    have row := ok.rows entry isRow
    have counted := row.separated.counted
    refine { row with
      separated := row.separated.arrive _, earlier := ?_, later := ?_ }
    · intro index early job isJob isOrigin
      rw [List.getElem?_append_left (by omega)] at isJob
      exact row.earlier index early job isJob isOrigin
    · intro index late job isJob isOrigin
      rcases Nat.lt_or_ge index state.jobs.length with old | new
      · rw [List.getElem?_append_left old] at isJob
        exact row.later index late job isJob isOrigin
      · rw [List.getElem?_append_right new, List.getElem?_singleton] at isJob
        split at isJob
        · cases isJob
          exact behind entry isRow isOrigin.symm
        · cases isJob

/-- The position that would be used belongs to no entry. -/
theorem owner_slot
    (ok : Coordinated config state entries alive) {index : ℕ}
    {entry : TxlEntry} (isEntry : entry ∈ entries) :
    Function.update state.owner state.slot index entry.1 =
      state.owner entry.1 := by
  have fresh := ok.accounted.list.list.fresh 1
  have different : entry.1 ≠ state.slot := by
    rintro same
    exact fresh (List.mem_map.mpr ⟨entry, isEntry, same⟩)
  exact Function.update_of_ne different _ _

theorem map_owner_slot
    (ok : Coordinated config state entries alive) (index : ℕ) :
    (entries.map fun entry =>
        Function.update state.owner state.slot index entry.1) =
      entries.map fun entry => state.owner entry.1 :=
  List.map_congr_left fun _ isEntry => ok.owner_slot isEntry

/-- An entry is stored behind all others. -/
theorem enter
    {index : ℕ} {value : ℤ} {workshop : Workshop} (task : Task Node)
    {others : State} (ok : Coordinated config state entries alive)
    (kept : Accounted config workshop (entries ++ [(state.slot, value)]) others)
    (noEntries : state.workshop.receiver.entries = 0)
    (behind : ∀ entry ∈ entries, state.owner entry.1 < index)
    (listed : ∀ other, RunningAt state.jobs other →
      (∃ entry ∈ entries, state.owner entry.1 = other) ∨ other = index)
    (isOwner : RunningAt state.jobs index ∨
      (workshop.receiver = .holding state.slot ∧ index = state.jobs.length))
    (stage : Applying.Stage
      { state with
        workshop := workshop
        owner := Function.update state.owner state.slot index
        task := task } (entries ++ [(state.slot, value)]) task) :
    Coordinated config
      { state with
        workshop := workshop
        owner := Function.update state.owner state.slot index
        task := task } (entries ++ [(state.slot, value)]) others where
  accounted := kept
  increasing := by
    simp only [List.map_append, ok.map_owner_slot, List.map_singleton,
      Function.update_self, List.pairwise_append]
    refine ⟨ok.increasing, List.pairwise_singleton _ _, ?_⟩
    intro owner isOld other isNew
    obtain ⟨entry, isEntry, rfl⟩ := List.mem_map.mp isOld
    rw [List.mem_singleton.mp isNew]
    exact behind entry isEntry
  owned := by
    intro entry isEntry
    rcases List.mem_append.mp isEntry with isOld | isNew
    · simp only [ok.owner_slot isOld]
      exact Or.inl (ok.owner_lt noEntries isOld)
    · rw [List.mem_singleton.mp isNew]
      simp only [Function.update_self]
      exact isOwner
  held := by
    intro other isRunning
    rcases listed other isRunning with ⟨entry, isEntry, rfl⟩ | rfl
    · exact Or.inl ⟨entry, List.mem_append_left _ isEntry,
        ok.owner_slot isEntry⟩
    · exact Or.inl ⟨(state.slot, value),
        List.mem_append_right _ List.mem_cons_self, Function.update_self _ _ _⟩
  stage := stage
  written := ok.written
  proven := ok.proven
  rows := fun entry isRow => { ok.rows entry isRow with }

/-- What is at hand is all that runs without an entry. -/
theorem listed_of_atHand
    (ok : Coordinated config state entries alive) {index : ℕ}
    (isRunning : RunningAt state.jobs index) :
    (∃ entry ∈ entries, state.owner entry.1 = index) ∨ index = state.last :=
  (ok.held index isRunning).imp_right And.left

/-- The work at hand goes to the pool. -/
theorem push
    {work : List Byte} (registered : Bool)
    (ok : Coordinated config state entries alive)
    (noEntries : state.workshop.receiver.entries = 0)
    (atHand : state.AtHand entries)
    (short : work.length < 2 ^ 31)
    (bounded : Pool.msgLen work.length ≤ state.workshop.state.queue.size) :
    ∃ entries alive, Coordinated config
      { state with
        workshop := state.workshop.tryPush config work registered
        owner := Function.update state.owner state.slot state.last
        task := .idle } entries alive := by
  unfold Workshop.tryPush
  split
  · next admits =>
      obtain ⟨others, kept⟩ := ok.accounted.push_entries registered noEntries
        short bounded admits
      refine ⟨_, others, ok.enter .idle kept noEntries atHand.behind
        (fun _ isRunning => ok.listed_of_atHand isRunning)
        (Or.inl atHand.running) ⟨rfl, fun isWaiting => ?_⟩⟩
      exact absurd rfl isWaiting
  · have account := ok.accounted.account
    have distinct := ok.accounted.distinct
    have stored := ok.accounted.stored
    have noPositions := Pool.ReceiverStage.positions_of_entries noEntries
    rw [noEntries] at account
    simp only [Workshop.owned, noPositions] at distinct stored
    refine ⟨entries, alive, ?_⟩
    constructor
    · refine { ok.accounted with
        distinct := distinct, stored := stored, account := account, work := ?_ }
      rintro other ⟨⟩
      exact ⟨short, bounded⟩
    · simp only [ok.map_owner_slot]
      exact ok.increasing
    · intro entry isEntry
      simp only [ok.owner_slot isEntry]
      exact Or.inl (ok.owner_lt noEntries isEntry)
    · intro index isRunning
      rcases ok.listed_of_atHand isRunning with ⟨entry, isEntry, rfl⟩ | rfl
      · exact Or.inl ⟨entry, isEntry, ok.owner_slot isEntry⟩
      · exact Or.inr ⟨rfl, Or.inr ⟨rfl, Option.some_ne_none _⟩⟩
    · refine ⟨rfl, fun _ => ⟨atHand.running, ?_⟩⟩
      intro entry isEntry
      simp only [ok.owner_slot isEntry]
      exact atHand.behind entry isEntry
    · exact ok.written
    · exact ok.proven
    · exact fun entry isRow => { ok.rows entry isRow with }

end Coordinated

end Syncpoint
end Multimaster
