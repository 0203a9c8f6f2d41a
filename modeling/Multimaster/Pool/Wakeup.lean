import Multimaster.Pool.Fifo
import Multimaster.Pool.Txlist

/-!
# The receiver and the workers of a pool

`BgwPoolExecute` waits for two things: room in the queue and a free slot in the
list of transactions.  It is woken by a worker that pops; `txl_remove`, which
frees the slot, wakes nobody.

The workers are background workers, and the list has `MaxBackends` slots: when
it is full, some of its transactions are still in the queue.  A worker that has
freed a slot pops one of them, unless a push that filled the queue exactly makes
the queue look empty.

The steps of the receiver are taken outside of a join of a new node.
-/

namespace Multimaster
namespace Pool

/-- The settings that bound the workers and the list. -/
structure Config where
  transSpillThreshold : ℕ
  /-- `MtmMaxWorkers`. -/
  maxWorkers : ℕ
  maxConnections : ℕ
  autovacuumMaxWorkers : ℕ
  maxWorkerProcesses : ℕ
  maxWalSenders : ℕ
  /-- `MAX_BACKENDS`. -/
  inRange : maxConnections + autovacuumMaxWorkers + 1 + maxWorkerProcesses +
    maxWalSenders ≤ 0x3FFFF

/-- `MaxBackends`. -/
def Config.maxBackends (config : Config) : ℕ :=
  config.maxConnections + config.autovacuumMaxWorkers + 1 +
    config.maxWorkerProcesses + config.maxWalSenders

/-- What the receiver does. -/
inductive ReceiverStage
  | idle
  /-- Sleeps on `overflow_cv` with work to push. -/
  | asleep (work : List Byte)
  /-- Was signalled and will try again. -/
  | woken (work : List Byte)
  /-- Has an entry of its own in the list: a syncpoint, or a message that waits
  for all work before it. -/
  | holding (pos : ℕ)
  deriving DecidableEq

/-- A pool with its receiver and workers. -/
structure Workshop where
  /-- The queue with its history. -/
  state : State
  txlist : Txlist
  producerBlocked : Bool
  receiver : ReceiverStage
  nWorkers : ℕ
  /-- Workers that are about to look at the queue. -/
  awake : ℕ
  /-- Workers that sleep on `available_cv`. -/
  asleep : ℕ
  /-- The positions of the transactions that are being applied. -/
  executing : List (BitVec 32)

/-- A message for the queue. -/
def messageAt (pos : ℕ) (work : List Byte) : Message where
  txlistPos := BitVec.ofNat 32 pos
  work := work

/-- The condition under which `BgwPoolExecute` does not wait. -/
def Workshop.Admits (workshop : Workshop) (work : List Byte) : Prop :=
  workshop.state.queue.HasRoom (messageAt 0 work) ∧
    workshop.txlist.nelems < workshop.txlist.size

instance (workshop : Workshop) (work : List Byte) :
    Decidable (workshop.Admits work) :=
  inferInstanceAs (Decidable (_ ∧ _))

/-- `BgwStartExtraWorker` starts a worker. -/
def Workshop.StartsWorker
    (config : Config) (workshop : Workshop) (registered : Bool) : Prop :=
  (workshop.nWorkers : ℤ) < (txlStore workshop.txlist 1).1.nelems ∧
    workshop.nWorkers < config.maxWorkers ∧ registered = true

instance (config : Config) (workshop : Workshop) (registered : Bool) :
    Decidable (workshop.StartsWorker config registered) :=
  inferInstanceAs (Decidable (_ ∧ _ ∧ _))

/-- The message pushed for some work. -/
def Workshop.message (workshop : Workshop) (work : List Byte) : Message :=
  messageAt (txlStore workshop.txlist 1).2 work

/-- The push: an entry in the list, perhaps one more worker, the message in the
queue, and a signal to a worker that sleeps. -/
def Workshop.push
    (config : Config) (workshop : Workshop) (work : List Byte)
    (registered : Bool) : Workshop :=
  let started := if workshop.StartsWorker config registered then 1 else 0
  { workshop with
    state := effect workshop.state (.push (workshop.message work))
    txlist := (txlStore workshop.txlist 1).1
    receiver := .idle
    nWorkers := workshop.nWorkers + started
    awake := workshop.awake + started + min 1 workshop.asleep
    asleep := workshop.asleep - 1 }

/-- A round of the loop in `BgwPoolExecute`. -/
def Workshop.tryPush
    (config : Config) (workshop : Workshop) (work : List Byte)
    (registered : Bool) : Workshop :=
  if workshop.Admits work then workshop.push config work registered
  else
    { workshop with
      producerBlocked := true
      receiver := .asleep work }

/-- `ConditionVariableSignal` on `overflow_cv`. -/
def ReceiverStage.signal : ReceiverStage → ReceiverStage
  | .asleep work => .woken work
  | stage => stage

/-- A worker pops. -/
def Workshop.pop (workshop : Workshop) : Workshop :=
  { workshop with
    state := effect workshop.state .pop
    producerBlocked := false
    receiver :=
      if workshop.producerBlocked then workshop.receiver.signal
      else workshop.receiver
    awake := workshop.awake - 1
    executing := workshop.executing ++ [workshop.state.queue.front.txlistPos] }

/-- The steps. -/
inductive Step
  /-- `BgwPoolExecute` with new work; `registered` says that a background worker
  can be registered. -/
  | execute (work : List Byte) (registered : Bool)
  /-- `BgwPoolExecute` after it was woken. -/
  | retry (registered : Bool)
  | pop
  /-- A worker finds the queue empty. -/
  | sleep
  /-- A worker has applied its transaction. -/
  | complete (pos : BitVec 32)
  /-- The receiver stores an entry of its own. -/
  | store (value : ℤ)
  /-- The receiver removes it. -/
  | remove

/-- Background workers are limited by `max_worker_processes`. -/
def Workshop.CanRegister
    (config : Config) (workshop : Workshop) (registered : Bool) : Prop :=
  registered = true → workshop.nWorkers < config.maxWorkerProcesses

/-- Whether a step can be taken. -/
def StepEnabled (config : Config) (workshop : Workshop) : Step → Prop
  | .execute work registered =>
      workshop.receiver = .idle ∧ work.length < 2 ^ 31 ∧
        msgLen work.length ≤ workshop.state.queue.size ∧
        workshop.CanRegister config registered
  | .retry registered =>
      (∃ work, workshop.receiver = .woken work) ∧
        workshop.CanRegister config registered
  | .pop =>
      0 < workshop.awake ∧
        workshop.state.queue.head ≠ workshop.state.queue.tail
  | .sleep =>
      0 < workshop.awake ∧
        workshop.state.queue.head = workshop.state.queue.tail
  | .complete pos => pos ∈ workshop.executing
  | .store _ => workshop.receiver = .idle
  | .remove =>
      ∃ pos : ℕ, workshop.receiver = .holding pos ∧ workshop.txlist.head = pos

/-- The state after a step. -/
def stepEffect (config : Config) (workshop : Workshop) : Step → Workshop
  | .execute work registered => workshop.tryPush config work registered
  | .retry registered =>
      match workshop.receiver with
      | .woken work => workshop.tryPush config work registered
      | _ => workshop
  | .pop => workshop.pop
  | .sleep =>
      { workshop with
        awake := workshop.awake - 1
        asleep := workshop.asleep + 1 }
  | .complete pos =>
      { workshop with
        txlist := (txlRemove workshop.txlist pos.toInt).1
        awake := workshop.awake + 1
        executing := workshop.executing.erase pos }
  | .store value =>
      { workshop with
        txlist := (txlStore workshop.txlist value).1
        receiver := .holding (txlStore workshop.txlist value).2 }
  | .remove =>
      match workshop.receiver with
      | .holding pos =>
          { workshop with
            txlist := (txlRemove workshop.txlist pos).1
            receiver := .idle }
      | _ => workshop

/-- `BgwPoolStart`. -/
def workshopMachine (config : Config) (memory : Memory) :
    Machine Workshop Step where
  init :=
    { state := (machine config.transSpillThreshold memory).init
      txlist := txlClear config.maxBackends
      producerBlocked := false
      receiver := .idle
      nWorkers := 0
      awake := 0
      asleep := 0
      executing := [] }
  Enabled := StepEnabled config
  effect := stepEffect config

/-- The work a step would push. -/
def Workshop.offered (workshop : Workshop) : Step → Option (List Byte)
  | .execute work _ => some work
  | .retry _ =>
      match workshop.receiver with
      | .woken work => some work
      | _ => none
  | _ => none

/-- The side condition on runs: no push fills the queue exactly. -/
def PushesLeaveGap (workshop : Workshop) (step : Step) : Prop :=
  ∀ work ∈ workshop.offered step, workshop.Admits work →
    ¬ workshop.state.queue.FillsExactly (workshop.message work)

/-- The receiver does not sleep on `overflow_cv`. -/
def Workshop.Signalled (workshop : Workshop) : Prop :=
  ∀ work, workshop.receiver ≠ .asleep work

/-! ## When the receiver is woken -/

variable {config : Config} {memory : Memory} {workshop : Workshop}

/-- The steps that can be taken while the receiver sleeps. -/
theorem step_while_asleep
    {work : List Byte} (isAsleep : workshop.receiver = .asleep work)
    {step : Step} (enabled : StepEnabled config workshop step) :
    (step = .pop ∧ workshop.state.queue.head ≠ workshop.state.queue.tail) ∨
      (step = .sleep ∧
        workshop.state.queue.head = workshop.state.queue.tail) ∨
      ∃ pos ∈ workshop.executing, step = .complete pos := by
  cases step with
  | execute work registered =>
      have isIdle := enabled.1
      rw [isAsleep] at isIdle
      cases isIdle
  | retry registered =>
      obtain ⟨⟨_, isWoken⟩, _⟩ := enabled
      rw [isAsleep] at isWoken
      cases isWoken
  | pop => exact Or.inl ⟨rfl, enabled.2⟩
  | sleep => exact Or.inr (Or.inl ⟨rfl, enabled.2⟩)
  | complete pos => exact Or.inr (Or.inr ⟨pos, enabled, rfl⟩)
  | store value =>
      have isIdle : workshop.receiver = .idle := enabled
      rw [isAsleep] at isIdle
      cases isIdle
  | remove =>
      obtain ⟨_, isHolding, _⟩ := enabled
      rw [isAsleep] at isHolding
      cases isHolding

/-- The receiver sleeps, and the queue is found empty. -/
def Workshop.Stalled (work : List Byte) (workshop : Workshop) : Prop :=
  workshop.receiver = .asleep work ∧
    workshop.state.queue.head = workshop.state.queue.tail

/-- The receiver sleeps, and a worker is about to pop. -/
structure Workshop.Progresses
    (work : List Byte) (workshop : Workshop) : Prop where
  isAsleep : workshop.receiver = .asleep work
  isBlocked : workshop.producerBlocked = true
  nonempty : workshop.state.queue.head ≠ workshop.state.queue.tail
  someAwake : 0 < workshop.awake

/-- A receiver that sleeps while the queue is found empty is never woken. -/
theorem Workshop.Stalled.not_signalled
    {work : List Byte} (stalled : workshop.Stalled work) :
    ¬ (workshopMachine config memory).Inevitably Workshop.Signalled
      workshop := by
  refine Machine.not_inevitably ?_ ?_ stalled
  · rintro current ⟨isAsleep, _⟩ signalled
    exact signalled work isAsleep
  · rintro current step ⟨isAsleep, isEmpty⟩ enabled
    rcases step_while_asleep isAsleep enabled with
      ⟨rfl, notEmpty⟩ | ⟨rfl, _⟩ | ⟨pos, _, rfl⟩
    · exact absurd isEmpty notEmpty
    · exact ⟨isAsleep, isEmpty⟩
    · exact ⟨isAsleep, isEmpty⟩

/-- A worker that pops wakes the receiver. -/
theorem Workshop.signalled_pop
    {work : List Byte} (isAsleep : workshop.receiver = .asleep work)
    (isBlocked : workshop.producerBlocked = true) :
    workshop.pop.Signalled := by
  intro other
  simp [Workshop.pop, isBlocked, isAsleep, ReceiverStage.signal]

/-- With a worker about to look at a queue that is not empty, the receiver is
woken: other workers may finish before, but one pops. -/
theorem Workshop.Progresses.signalled
    {work : List Byte} (progresses : workshop.Progresses work) :
    (workshopMachine config memory).Inevitably Workshop.Signalled
      workshop := by
  refine Machine.Inevitably.of_measure
    (fun current => current.executing.length) ?_ ?_ progresses
  · intro current progresses
    exact ⟨.pop, progresses.someAwake, progresses.nonempty⟩
  · rintro current step ⟨isAsleep, isBlocked, nonempty, someAwake⟩ enabled
    rcases step_while_asleep isAsleep enabled with
      ⟨rfl, _⟩ | ⟨rfl, isEmpty⟩ | ⟨pos, isExecuting, rfl⟩
    · exact Or.inl (Workshop.signalled_pop isAsleep isBlocked)
    · exact absurd isEmpty nonempty
    · refine Or.inr ⟨⟨isAsleep, isBlocked, nonempty, Nat.succ_pos _⟩, ?_⟩
      have someExecuting := List.length_pos_of_mem isExecuting
      simp only [workshopMachine, stepEffect,
        List.length_erase_of_mem isExecuting]
      omega

/-- A step that makes room for the sleeping receiver gets it woken exactly when
the queue is not found empty before. -/
theorem signalled_iff_nonempty
    {work : List Byte} (isAsleep : workshop.receiver = .asleep work)
    (isBlocked : workshop.producerBlocked = true)
    {step : Step} (enabled : StepEnabled config workshop step)
    (refused : ¬ workshop.Admits work)
    (admits : (stepEffect config workshop step).Admits work) :
    (workshopMachine config memory).Inevitably Workshop.Signalled
        (stepEffect config workshop step) ↔
      workshop.state.queue.head ≠ workshop.state.queue.tail := by
  rcases step_while_asleep isAsleep enabled with
    ⟨rfl, nonempty⟩ | ⟨rfl, _⟩ | ⟨pos, _, rfl⟩
  · refine ⟨fun _ => nonempty, fun _ => Machine.Inevitably.here ?_⟩
    exact Workshop.signalled_pop isAsleep isBlocked
  · exact absurd admits refused
  · constructor
    · intro inevitable isEmpty
      have stalled : (stepEffect config workshop (.complete pos)).Stalled work :=
        ⟨isAsleep, isEmpty⟩
      exact stalled.not_signalled inevitable
    · intro nonempty
      have progresses :
          (stepEffect config workshop (.complete pos)).Progresses work :=
        ⟨isAsleep, isBlocked, nonempty, Nat.succ_pos _⟩
      exact progresses.signalled

/-! ## The account of the list -/

/-- The entries of the receiver itself. -/
def ReceiverStage.entries : ReceiverStage → ℕ
  | .holding _ => 1
  | _ => 0

/-- The work the receiver waits with. -/
def ReceiverStage.waiting : ReceiverStage → Option (List Byte)
  | .asleep work => some work
  | .woken work => some work
  | _ => none

/-- The invariant: every entry of the list belongs to a message in the queue, to
a worker or to the receiver. -/
structure WorkshopOk (config : Config) (workshop : Workshop) : Prop where
  queue : Invariant workshop.state
  size : workshop.txlist.size = config.maxBackends
  pending : ∀ entry ∈ workshop.state.pending, entry.2.txlistPos.toInt ≠ -1
  executing : ∀ pos ∈ workshop.executing, pos.toInt ≠ -1
  account : workshop.txlist.nelems =
    (workshop.state.pending.length + workshop.executing.length +
      workshop.receiver.entries : ℕ)
  workers : workshop.awake + workshop.asleep + workshop.executing.length =
    workshop.nWorkers
  processes : workshop.nWorkers ≤ config.maxWorkerProcesses
  work : ∀ work ∈ workshop.receiver.waiting, work.length < 2 ^ 31 ∧
    msgLen work.length ≤ workshop.state.queue.size

theorem WorkshopOk.initially (config : Config) (memory : Memory) :
    WorkshopOk config (workshopMachine config memory).init where
  queue := Invariant.initially config.transSpillThreshold memory
  size := rfl
  pending := fun _ isEntry => by cases isEntry
  executing := fun _ isPos => by cases isPos
  account := rfl
  workers := rfl
  processes := Nat.zero_le _
  work := fun _ isWork => by cases isWork

/-- A position in the list is not taken for none. -/
theorem messageAt_toInt
    {config : Config} {pos : ℕ} (bound : pos ≤ config.maxBackends)
    (work : List Byte) : (messageAt pos work).txlistPos.toInt ≠ -1 := by
  have inRange := config.inRange
  have small : pos < 2 ^ 31 := by
    unfold Config.maxBackends at bound
    omega
  have isPos : (messageAt pos work).txlistPos.toInt = pos := by
    simp only [messageAt]
    rw [BitVec.toInt_eq_toNat_of_lt]
    · simp only [BitVec.toNat_ofNat]
      omega
    · simp only [BitVec.toNat_ofNat]
      omega
  omega

theorem WorkshopOk.push
    (ok : WorkshopOk config workshop) {work : List Byte} {registered : Bool}
    (noEntries : workshop.receiver.entries = 0)
    (enabled : Enabled workshop.state (.push (workshop.message work)))
    (canRegister : workshop.CanRegister config registered)
    (gap : ¬ workshop.state.queue.FillsExactly (workshop.message work)) :
    WorkshopOk config (workshop.push config work registered) := by
  have nowPending := ok.queue.pending_push (workshop.message work)
  constructor
  · exact ok.queue.push enabled gap
  · exact ok.size
  · simp only [Workshop.push, nowPending]
    intro entry isEntry
    rcases List.mem_append.mp isEntry with old | new
    · exact ok.pending entry old
    · rw [List.mem_singleton.mp new]
      have bound := txlStore_pos_le workshop.txlist 1
      rw [ok.size] at bound
      exact messageAt_toInt bound work
  · exact ok.executing
  · have account := ok.account
    rw [noEntries] at account
    simp only [Workshop.push, nowPending, txlStore_nelems, List.length_append,
      List.length_singleton, ReceiverStage.entries]
    omega
  · have workers := ok.workers
    simp only [Workshop.push]
    omega
  · have processes := ok.processes
    simp only [Workshop.push]
    split
    · next starts =>
        have room := canRegister starts.2.2
        omega
    · exact processes
  · intro other isWaiting
    cases isWaiting

theorem WorkshopOk.tryPush
    (ok : WorkshopOk config workshop) {work : List Byte} {registered : Bool}
    (noEntries : workshop.receiver.entries = 0)
    (short : work.length < 2 ^ 31)
    (bounded : msgLen work.length ≤ workshop.state.queue.size)
    (canRegister : workshop.CanRegister config registered)
    (gap : workshop.Admits work →
      ¬ workshop.state.queue.FillsExactly (workshop.message work)) :
    WorkshopOk config (workshop.tryPush config work registered) := by
  unfold Workshop.tryPush
  split
  · next admits =>
      have enabled : Enabled workshop.state (.push (workshop.message work)) :=
        ⟨short, bounded, admits.1⟩
      exact ok.push noEntries enabled canRegister (gap admits)
  · have account := ok.account
    rw [noEntries] at account
    refine { ok with account := account, work := ?_ }
    rintro other ⟨⟩
    exact ⟨short, bounded⟩

@[simp] theorem Workshop.entries_pop (workshop : Workshop) :
    workshop.pop.receiver.entries = workshop.receiver.entries := by
  simp only [Workshop.pop]
  split
  · cases workshop.receiver <;> rfl
  · rfl

@[simp] theorem Workshop.waiting_pop (workshop : Workshop) :
    workshop.pop.receiver.waiting = workshop.receiver.waiting := by
  simp only [Workshop.pop]
  split
  · cases workshop.receiver <;> rfl
  · rfl

/-- The message a worker pops is the first one of those in the queue. -/
theorem WorkshopOk.pending_eq
    (ok : WorkshopOk config workshop)
    (nonempty : workshop.state.queue.head ≠ workshop.state.queue.tail) :
    ∃ entry, entry.2 = workshop.state.queue.front ∧
      workshop.state.pending = entry :: workshop.pop.state.pending := by
  have rest := pending_pop workshop.state
  have chain := ok.queue.chain
  cases pending : workshop.state.pending with
  | nil => exact absurd pending (ok.queue.pending_ne_nil nonempty)
  | cons entry others =>
      rw [pending] at rest chain
      refine ⟨entry, ?_, ?_⟩
      · obtain ⟨place, message⟩ := entry
        obtain ⟨isHead, _, short, _, stored, _⟩ := chain
        cases isHead
        exact (Queue.front_of_stored stored short).symm
      · rw [Workshop.pop, rest, List.tail_cons]

/-- The first message of the queue goes to a worker. -/
theorem WorkshopOk.pop
    (ok : WorkshopOk config workshop) (someAwake : 0 < workshop.awake)
    (nonempty : workshop.state.queue.head ≠ workshop.state.queue.tail) :
    WorkshopOk config workshop.pop := by
  obtain ⟨entry, isFront, pending⟩ := ok.pending_eq nonempty
  have positions := ok.pending
  have account := ok.account
  have workers := ok.workers
  rw [pending] at positions account
  constructor
  · exact ok.queue.pop nonempty
  · exact ok.size
  · exact fun other isOther => positions other (List.mem_cons_of_mem _ isOther)
  · intro pos isPos
    rcases List.mem_append.mp isPos with old | new
    · exact ok.executing pos old
    · rw [List.mem_singleton.mp new, ← isFront]
      exact positions entry List.mem_cons_self
  · have nowExecuting : workshop.pop.executing.length =
        workshop.executing.length + 1 :=
      List.length_append
    have sameList : workshop.pop.txlist = workshop.txlist := rfl
    rw [Workshop.entries_pop, nowExecuting, sameList, account,
      List.length_cons]
    omega
  · simp only [Workshop.pop, List.length_append, List.length_singleton]
    omega
  · exact ok.processes
  · intro work isWaiting
    rw [Workshop.waiting_pop] at isWaiting
    simp only [Workshop.pop, effect_pop, Queue.pop_size]
    exact ok.work work isWaiting

theorem WorkshopOk.complete
    (ok : WorkshopOk config workshop) {pos : BitVec 32}
    (isExecuting : pos ∈ workshop.executing) :
    WorkshopOk config (stepEffect config workshop (.complete pos)) := by
  have someExecuting := List.length_pos_of_mem isExecuting
  have account := ok.account
  have workers := ok.workers
  constructor
  · exact ok.queue
  · simp only [stepEffect, txlRemove_size]
    exact ok.size
  · exact ok.pending
  · exact fun other isOther => ok.executing other (List.mem_of_mem_erase isOther)
  · simp only [stepEffect, txlRemove_nelems _ (ok.executing pos isExecuting),
      List.length_erase_of_mem isExecuting]
    omega
  · simp only [stepEffect, List.length_erase_of_mem isExecuting]
    omega
  · exact ok.processes
  · exact ok.work

theorem WorkshopOk.step
    (ok : WorkshopOk config workshop) {step : Step}
    (enabled : StepEnabled config workshop step)
    (gap : PushesLeaveGap workshop step) :
    WorkshopOk config (stepEffect config workshop step) := by
  cases step with
  | execute work registered =>
      obtain ⟨isIdle, short, bounded, canRegister⟩ := enabled
      exact ok.tryPush (by rw [isIdle]; rfl) short bounded canRegister
        (gap work rfl)
  | retry registered =>
      obtain ⟨⟨work, isWoken⟩, canRegister⟩ := enabled
      obtain ⟨short, bounded⟩ := ok.work work (by rw [isWoken]; rfl)
      have offered : work ∈ workshop.offered (.retry registered) := by
        simp [Workshop.offered, isWoken]
      simp only [stepEffect, isWoken]
      exact ok.tryPush (by rw [isWoken]; rfl) short bounded canRegister
        (gap work offered)
  | pop => exact ok.pop enabled.1 enabled.2
  | sleep =>
      have workers := ok.workers
      have someAwake := enabled.1
      refine { ok with workers := ?_ }
      simp only [stepEffect]
      omega
  | complete pos => exact ok.complete enabled
  | store value =>
      have isIdle : workshop.receiver = .idle := enabled
      have account := ok.account
      rw [isIdle] at account
      refine { ok with account := ?_, work := ?_ }
      · simp only [stepEffect, txlStore_nelems, account,
          ReceiverStage.entries]
        omega
      · intro work isWaiting
        cases isWaiting
  | remove =>
      obtain ⟨pos, isHolding, _⟩ := enabled
      have account := ok.account
      rw [isHolding] at account
      have isPosition : (pos : ℤ) ≠ -1 := by omega
      simp only [stepEffect, isHolding]
      refine { ok with size := ?_, account := ?_, work := ?_ }
      · rw [txlRemove_size]
        exact ok.size
      · simp only [txlRemove_nelems _ isPosition, account,
          ReceiverStage.entries]
        omega
      · intro work isWaiting
        cases isWaiting

theorem workshopOk_of_reachable
    (reachable : (workshopMachine config memory).Reachable PushesLeaveGap
      workshop) :
    WorkshopOk config workshop := by
  refine Machine.Reachable.invariant (WorkshopOk.initially config memory) ?_
    reachable
  intro current step ok enabled gap
  exact ok.step enabled gap

/-- The workers alone cannot fill the list. -/
theorem WorkshopOk.nonempty_of_full
    (ok : WorkshopOk config workshop)
    (noEntries : workshop.receiver.entries = 0)
    (full : ¬ workshop.txlist.nelems < workshop.txlist.size) :
    workshop.state.queue.head ≠ workshop.state.queue.tail := by
  have account := ok.account
  have workers := ok.workers
  have processes := ok.processes
  rw [ok.size, Config.maxBackends] at full
  apply ok.queue.head_ne_tail
  intro isNil
  rw [isNil, noEntries] at account
  simp only [List.length_nil] at account
  omega

/-- In a run in which no push fills the queue exactly, a receiver that sleeps on
`overflow_cv` is woken after every step that lets it push. -/
theorem blocked_producer_woken
    (reachable : (workshopMachine config memory).Reachable PushesLeaveGap
      workshop)
    {work : List Byte} (isAsleep : workshop.receiver = .asleep work)
    (isBlocked : workshop.producerBlocked = true)
    {step : Step} (enabled : StepEnabled config workshop step)
    (refused : ¬ workshop.Admits work)
    (admits : (stepEffect config workshop step).Admits work) :
    (workshopMachine config memory).Inevitably Workshop.Signalled
      (stepEffect config workshop step) := by
  have ok := workshopOk_of_reachable reachable
  rw [signalled_iff_nonempty isAsleep isBlocked enabled refused admits]
  rcases step_while_asleep isAsleep enabled with
    ⟨rfl, nonempty⟩ | ⟨rfl, _⟩ | ⟨pos, _, rfl⟩
  · exact nonempty
  · exact absurd admits refused
  · -- the queue is as before, so it was the list that had no room
    have full : ¬ workshop.txlist.nelems < workshop.txlist.size := by
      intro notFull
      exact refused ⟨admits.1, notFull⟩
    exact ok.nonempty_of_full (by rw [isAsleep]; rfl) full

/-! ## Schedules -/

section Schedules

instance (workshop : Workshop) (registered : Bool) :
    Decidable (workshop.CanRegister config registered) :=
  inferInstanceAs (Decidable (_ → _))

instance (workshop : Workshop) :
    Decidable (∃ work, workshop.receiver = .woken work) :=
  match workshop.receiver with
  | .woken work => isTrue ⟨work, rfl⟩
  | .idle => isFalse (by rintro ⟨_, ⟨⟩⟩)
  | .asleep _ => isFalse (by rintro ⟨_, ⟨⟩⟩)
  | .holding _ => isFalse (by rintro ⟨_, ⟨⟩⟩)

instance (workshop : Workshop) :
    Decidable (∃ pos : ℕ, workshop.receiver = .holding pos ∧
      workshop.txlist.head = pos) :=
  match workshop.receiver with
  | .holding pos => decidable_of_iff (workshop.txlist.head = pos) (by simp)
  | .idle => isFalse (by rintro ⟨_, ⟨⟩, _⟩)
  | .asleep _ => isFalse (by rintro ⟨_, ⟨⟩, _⟩)
  | .woken _ => isFalse (by rintro ⟨_, ⟨⟩, _⟩)

instance (workshop : Workshop) (step : Step) :
    Decidable (StepEnabled config workshop step) :=
  match step with
  | .execute _ _ => inferInstanceAs (Decidable (_ ∧ _ ∧ _ ∧ _))
  | .retry _ => inferInstanceAs (Decidable (_ ∧ _))
  | .pop => inferInstanceAs (Decidable (_ ∧ _))
  | .sleep => inferInstanceAs (Decidable (_ ∧ _))
  | .complete _ => inferInstanceAs (Decidable (_ ∈ _))
  | .store _ => inferInstanceAs (Decidable (_ = _))
  | .remove => inferInstanceAs (Decidable (∃ _ : ℕ, _ ∧ _))

instance (workshop : Workshop) (step : Step) :
    Decidable ((workshopMachine config memory).Enabled workshop step) :=
  inferInstanceAs (Decidable (StepEnabled config workshop step))

instance (workshop : Workshop) (step : Step) :
    Decidable (PushesLeaveGap workshop step) :=
  inferInstanceAs (Decidable (∀ work ∈ workshop.offered step, _ → ¬ _))

end Schedules

/-- Twenty backends, and a queue of two kilobytes. -/
def smallConfig : Config where
  transSpillThreshold := 1
  maxWorkers := 100
  maxConnections := 3
  autovacuumMaxWorkers := 3
  maxWorkerProcesses := 8
  maxWalSenders := 5
  inRange := by decide

/-- Some work of a length. -/
def someWork (length : ℕ) : List Byte :=
  List.replicate length 7

/-- The queue has no room for a third transaction until one is popped. -/
def waitForRoom : List Step :=
  [.execute (someWork 1016) true, .execute (someWork 1000) false,
    .execute (someWork 1016) false]

theorem waitForRoom_completes :
    ((workshopMachine smallConfig fun _ => 0).execute PushesLeaveGap
      (workshopMachine smallConfig fun _ => 0).init
      waitForRoom).isSome = true := by
  decide +kernel

theorem blocked_producer_woken_waitForRoom :
    let workshop := ((workshopMachine smallConfig fun _ => 0).execute
      PushesLeaveGap (workshopMachine smallConfig fun _ => 0).init
      waitForRoom).get waitForRoom_completes
    workshop.receiver = .asleep (someWork 1016) ∧
      (workshopMachine smallConfig fun _ => 0).Inevitably Workshop.Signalled
        (stepEffect smallConfig workshop .pop) := by
  intro workshop
  have isAsleep : workshop.receiver = .asleep (someWork 1016) := by
    decide +kernel
  refine ⟨isAsleep, ?_⟩
  have isBlocked : workshop.producerBlocked = true := by decide +kernel
  have enabled : StepEnabled smallConfig workshop .pop := by decide +kernel
  have refused : ¬ workshop.Admits (someWork 1016) := by decide +kernel
  have admits : (stepEffect smallConfig workshop .pop).Admits
      (someWork 1016) := by
    decide +kernel
  exact blocked_producer_woken
    (Machine.reachable_of_execute waitForRoom waitForRoom_completes) isAsleep
    isBlocked enabled refused admits

/-- One transaction is being applied, nineteen others fill the queue exactly,
and the list is full when the next one comes. -/
def fillExactly : List Step :=
  [.execute (someWork 8) true, .pop] ++
    List.replicate 18 (.execute (someWork 8) false) ++
    [.execute (someWork 1752) false, .execute (someWork 8) false]

theorem fillExactly_completes :
    ((workshopMachine smallConfig fun _ => 0).execute Machine.Always
      (workshopMachine smallConfig fun _ => 0).init
      fillExactly).isSome = true := by
  decide +kernel

/-- The transaction is applied and leaves a free slot, but the queue looks
empty: the receiver sleeps on. -/
theorem blocked_producer_sleeps_on :
    ∃ workshop, (workshopMachine smallConfig fun _ => 0).Reachable
        Machine.Always workshop ∧
      workshop.receiver = .asleep (someWork 8) ∧
      workshop.producerBlocked = true ∧
      StepEnabled smallConfig workshop (.complete 0) ∧
      ¬ workshop.Admits (someWork 8) ∧
      (stepEffect smallConfig workshop (.complete 0)).Admits (someWork 8) ∧
      ¬ (workshopMachine smallConfig fun _ => 0).Inevitably
        Workshop.Signalled (stepEffect smallConfig workshop (.complete 0)) := by
  refine ⟨_, Machine.reachable_of_execute fillExactly fillExactly_completes,
    by decide +kernel, by decide +kernel, by decide +kernel,
    by decide +kernel, by decide +kernel, ?_⟩
  have stalled : (stepEffect smallConfig
      (((workshopMachine smallConfig fun _ => 0).execute Machine.Always
        (workshopMachine smallConfig fun _ => 0).init fillExactly).get
        fillExactly_completes) (.complete 0)).Stalled (someWork 8) :=
    ⟨by decide +kernel, by decide +kernel⟩
  exact stalled.not_signalled

end Pool
end Multimaster
