import Multimaster.Pool.Capacity
import Multimaster.Syncpoint.Horizon

/-!
# The receiver at a syncpoint

A transaction goes to the workers of the pool, with an entry in the list of
transactions, or is applied by the receiver itself.  At a syncpoint the receiver
stores an entry of its own, waits until it is the head of the list, logs a message
and registers a row.  Meanwhile the workers write into the WAL whenever they
like.
-/

namespace Multimaster
namespace Syncpoint

open Pool (LeavesSlot StepEnabled Workshop stepEffect txlStore
  workshopMachine)

/-! ## What is received and applied -/

/-- A transaction from the stream, with its place in the WAL of its origin.
`MtmFilterTransaction` lets none of the node itself through. -/
structure Arrival {Node : Type} (me : Node) where
  origin : Node
  start : ℕ
  endLsn : ℕ
  foreign : origin ≠ me
  nonempty : start < endLsn

/-- How far a transaction is. -/
inductive Outcome
  | running
  /-- It has a record of its end in the WAL: `PREPARE` or `COMMIT`. -/
  | applied
  /-- `MtmExecutor` returned and left nothing of it. -/
  | void
  /-- The worker has exited in the middle of it. -/
  | lost
  deriving DecidableEq

/-- A record in the WAL, with the number of the transaction that wrote it. -/
structure Logged where
  job : ℕ
  start : ℕ
  endPtr : ℕ

/-- What the receiver does with the last thing it received. -/
inductive Task (Node : Type)
  | idle
  /-- It applies a transaction itself. -/
  | transaction
  /-- It has a message that waits for all work before it. -/
  | message
  /-- `process_syncpoint` before the wait; `forwarded` says that the text begins
  with `F`. -/
  | syncpoint (origin : Node) (originLsn : ℕ) (forwarded : Bool)
  /-- `process_syncpoint` with `receiver_lsn` known. -/
  | logged (origin : Node) (originLsn receiverLsn : ℕ)
  /-- `process_syncpoint` has returned. -/
  | handled
  deriving DecidableEq

/-- `process_syncpoint` waits. -/
def Task.IsSyncpoint {Node : Type} : Task Node → Prop
  | .syncpoint _ _ _ => True
  | _ => False

/-- `process_syncpoint` has got `receiver_lsn`. -/
def Task.IsLogged {Node : Type} : Task Node → Prop
  | .logged _ _ _ => True
  | _ => False

/-- A receiver with its pool, the WAL of the node and the rows it registered,
each with the number of transactions received before. -/
structure Applying {Node : Type} (me : Node) where
  workshop : Workshop
  jobs : List (Arrival me × Outcome)
  /-- The number of the transaction that has an entry of the list. -/
  owner : ℕ → ℕ
  task : Task Node
  /-- `GetXLogInsertRecPtr`. -/
  insertPtr : ℕ
  records : List Logged
  rows : List (ℕ × Row Node)

/-- The steps. -/
inductive ApplyStep {Node : Type} (me : Node)
  /-- `BgwPoolExecute` with a new transaction. -/
  | deliver (arrival : Arrival me) (work : List Byte) (registered : Bool)
  | retry (registered : Bool)
  | pop
  | sleep
  /-- A worker writes a record of its transaction. -/
  | write (pos : BitVec 32) (start endPtr : ℕ)
  /-- A worker returns from `MtmExecutor`. -/
  | finish (pos : BitVec 32) (outcome : Outcome)
  /-- A worker exits; `BgwPoolBeforeShmemExit` removes the entry before it kills
  the receiver. -/
  | exit (pos : BitVec 32)
  /-- The receiver begins to apply a transaction itself. -/
  | begin (arrival : Arrival me)
  /-- It stores the entry of a message. -/
  | beginMessage (arrival : Arrival me)
  /-- It writes a record of what it applies. -/
  | writeOwn (start endPtr : ℕ)
  /-- It returns from `MtmExecutor`. -/
  | finishOwn (outcome : Outcome)
  /-- It stores the entry of a syncpoint. -/
  | syncpoint (origin : Node) (originLsn : ℕ) (forwarded : Bool)
  /-- It finds the entry at the head and determines `receiver_lsn`; a message
  that it logs ends here. -/
  | log (endPtr : ℕ)
  /-- `SyncpointRegister`, with the end of what it writes. -/
  | register (endPtr : ℕ)
  /-- It removes the entry. -/
  | leave
  /-- Others write into the WAL. -/
  | advance (endPtr : ℕ)

section Steps

variable {Node : Type} [DecidableEq Node] {me : Node}

/-- The position at which an entry would be stored. -/
def Applying.slot (state : Applying me) : ℕ :=
  (txlStore state.workshop.txlist 1).2

/-- The receiver's entry is the head of the list: `txl_wait_sphead` and
`txl_wait_txhead` return. -/
def Applying.AtHead (state : Applying me) : Prop :=
  ∃ pos ∈ state.workshop.receiver.positions, state.workshop.txlist.head = pos

instance (state : Applying me) : Decidable state.AtHead :=
  inferInstanceAs (Decidable (∃ _ ∈ _, _))

/-- A transaction ends as applied only with a record. -/
def Applying.CanEnd
    (state : Applying me) (job : ℕ) (outcome : Outcome) : Prop :=
  outcome = .void ∨
    (outcome = .applied ∧ ∃ record ∈ state.records, record.job = job)

instance (state : Applying me) (job : ℕ) (outcome : Outcome) :
    Decidable (state.CanEnd job outcome) :=
  inferInstanceAs (Decidable (_ ∨ (_ ∧ ∃ _ ∈ _, _)))

/-- The number of the last transaction. -/
def Applying.last (state : Applying me) : ℕ :=
  state.jobs.length - 1

/-- The transaction is over. -/
def Applying.endJob
    (state : Applying me) (job : ℕ) (outcome : Outcome) :
    List (Arrival me × Outcome) :=
  state.jobs.modify job fun entry => (entry.1, outcome)

/-- `process_syncpoint` behind the wait: the position it notes, none for a
syncpoint of the node itself. -/
def Applying.noteSyncpoint
    (state : Applying me) (endPtr : ℕ) : Task Node → Applying me
  | .syncpoint origin originLsn true =>
      if origin = me then { state with task := .handled }
      else { state with task := .logged origin originLsn state.insertPtr }
  | .syncpoint origin originLsn false =>
      { state with
        task := .logged origin originLsn endPtr
        insertPtr := endPtr }
  | _ => state

/-- A row is inserted unless there is one for the syncpoint. -/
def Applying.insertRow (state : Applying me) (row : Row Node) :
    List (ℕ × Row Node) :=
  if ∃ other ∈ state.rows, other.2.receiver = row.receiver ∧
      other.2.origin = row.origin ∧ other.2.originLsn = row.originLsn
  then state.rows
  else state.rows ++ [(state.jobs.length, row)]

/-- Whether a step can be taken. -/
def ApplyEnabled (config : Pool.Config) (state : Applying me) :
    ApplyStep me → Prop
  | .deliver _ work registered =>
      state.task = .idle ∧
        StepEnabled config state.workshop (.execute work registered)
  | .retry registered => StepEnabled config state.workshop (.retry registered)
  | .pop => StepEnabled config state.workshop .pop
  | .sleep => StepEnabled config state.workshop .sleep
  | .write pos start endPtr =>
      pos ∈ state.workshop.executing ∧ state.insertPtr ≤ start ∧ start < endPtr
  | .finish pos outcome =>
      pos ∈ state.workshop.executing ∧
        state.CanEnd (state.owner pos.toNat) outcome
  | .exit pos => pos ∈ state.workshop.executing
  | .begin _ => state.task = .idle ∧ state.workshop.receiver = .idle
  | .beginMessage _ => state.task = .idle ∧ state.workshop.receiver = .idle
  | .writeOwn start endPtr =>
      (state.task = .transaction ∨ (state.task = .message ∧ state.AtHead)) ∧
        state.insertPtr ≤ start ∧ start < endPtr
  | .finishOwn outcome =>
      (state.task = .transaction ∨ (state.task = .message ∧ state.AtHead)) ∧
        state.CanEnd state.last outcome
  | .syncpoint origin _ forwarded =>
      state.task = .idle ∧ state.workshop.receiver = .idle ∧
        (forwarded = false → origin ≠ me)
  | .log endPtr =>
      state.task.IsSyncpoint ∧ state.AtHead ∧ state.insertPtr < endPtr
  | .register endPtr => state.task.IsLogged ∧ state.insertPtr ≤ endPtr
  | .leave => state.task = .handled
  | .advance endPtr => state.insertPtr ≤ endPtr

/-- The receiver leaves the list, if it is in it. -/
def Applying.leaveList (config : Pool.Config) (state : Applying me) :
    Workshop :=
  stepEffect config state.workshop .remove

/-- The state after a step. -/
def applyEffect (config : Pool.Config) (state : Applying me) :
    ApplyStep me → Applying me
  | .deliver arrival work registered =>
      { state with
        workshop := stepEffect config state.workshop (.execute work registered)
        jobs := state.jobs ++ [(arrival, .running)]
        owner := Function.update state.owner state.slot state.jobs.length }
  | .retry registered =>
      { state with
        workshop := stepEffect config state.workshop (.retry registered)
        owner := Function.update state.owner state.slot state.last }
  | .pop => { state with workshop := stepEffect config state.workshop .pop }
  | .sleep => { state with workshop := stepEffect config state.workshop .sleep }
  | .write pos start endPtr =>
      { state with
        records := state.records ++ [⟨state.owner pos.toNat, start, endPtr⟩]
        insertPtr := endPtr }
  | .finish pos outcome =>
      { state with
        workshop := stepEffect config state.workshop (.complete pos)
        jobs := state.endJob (state.owner pos.toNat) outcome }
  | .exit pos =>
      { state with
        workshop :=
          { stepEffect config state.workshop (.complete pos) with
            awake := state.workshop.awake }
        jobs := state.endJob (state.owner pos.toNat) .lost }
  | .begin arrival =>
      { state with
        jobs := state.jobs ++ [(arrival, .running)]
        task := .transaction }
  | .beginMessage arrival =>
      { state with
        workshop := stepEffect config state.workshop (.store 1)
        jobs := state.jobs ++ [(arrival, .running)]
        owner := Function.update state.owner state.slot state.jobs.length
        task := .message }
  | .writeOwn start endPtr =>
      { state with
        records := state.records ++ [⟨state.last, start, endPtr⟩]
        insertPtr := endPtr }
  | .finishOwn outcome =>
      { state with
        workshop := state.leaveList config
        jobs := state.endJob state.last outcome
        task := .idle }
  | .syncpoint origin originLsn forwarded =>
      { state with
        workshop := stepEffect config state.workshop (.store 2)
        owner := Function.update state.owner state.slot state.jobs.length
        task := .syncpoint origin originLsn forwarded }
  | .log endPtr => state.noteSyncpoint endPtr state.task
  | .register endPtr =>
      match state.task with
      | .logged origin originLsn receiverLsn =>
          { state with
            rows := state.insertRow ⟨me, origin, originLsn, receiverLsn⟩
            insertPtr := endPtr
            task := .handled }
      | _ => state
  | .leave =>
      { state with
        workshop := state.leaveList config
        task := .idle }
  | .advance endPtr => { state with insertPtr := endPtr }

/-- A receiver from its start on. -/
def applyMachine
    (me : Node) (config : Pool.Config) (memory : Memory) (insertPtr : ℕ) :
    Machine (Applying me) (ApplyStep me) where
  init :=
    { workshop := (workshopMachine config memory).init
      jobs := []
      owner := fun _ => 0
      task := .idle
      insertPtr := insertPtr
      records := []
      rows := [] }
  Enabled := ApplyEnabled config
  effect := applyEffect config

/-- A transaction begins behind every syncpoint of its origin that was registered
before. -/
def Applying.Behind (state : Applying me) (arrival : Arrival me) : Prop :=
  ∀ row ∈ state.rows, row.2.origin = arrival.origin →
    row.2.originLsn ≤ arrival.start

/-- The transactions of an origin that were received end before a syncpoint of
it. -/
def Applying.Before
    (state : Applying me) (origin : Node) (originLsn : ℕ) : Prop :=
  ∀ job ∈ state.jobs, job.1.origin = origin → job.1.endLsn ≤ originLsn

/-- What is received is in the order of the WAL of its origin. -/
def InOrder (state : Applying me) : ApplyStep me → Prop
  | .deliver arrival _ _ | .begin arrival | .beginMessage arrival =>
      state.Behind arrival
  | .syncpoint origin originLsn _ => state.Before origin originLsn
  | _ => True

/-- The receiver finds a free slot for an entry of its own. -/
def SlotLeft (config : Pool.Config) (state : Applying me) :
    ApplyStep me → Prop
  | .beginMessage _ => LeavesSlot config state.workshop (.store 1)
  | .syncpoint _ _ _ => LeavesSlot config state.workshop (.store 2)
  | _ => True

/-- The side condition on runs. -/
def Orderly (config : Pool.Config) (state : Applying me)
    (step : ApplyStep me) : Prop :=
  InOrder state step ∧ SlotLeft config state step

end Steps

/-! ## The WALs -/

section Logs

variable {Node : Type} {me : Node}

/-- The change of a transaction. -/
def Arrival.change (arrival : Arrival me) : Change Node where
  origin := arrival.origin
  start := arrival.start
  endLsn := arrival.endLsn

/-- A record of the node; of a transaction without effect it carries
nothing. -/
def Applying.localRecord (state : Applying me) (record : Logged) :
    Option (WalRecord Node) :=
  state.jobs[record.job]?.map fun job =>
    { start := record.start
      endPtr := record.endPtr
      change := if job.2 = .void then none else some job.1.change }

variable [DecidableEq Node]

/-- The record of a transaction in the WAL of its origin. -/
def sentRecord (node : Node) (job : Arrival me × Outcome) :
    Option (WalRecord Node) :=
  if job.1.origin = node ∧ job.2 ≠ .void then
    some ⟨job.1.start, job.1.endLsn, some job.1.change⟩
  else none

/-- The WALs as far as the receiver has seen them: its own, and those of the
origins without the transactions that left nothing. -/
def Applying.walRecords (state : Applying me) (node : Node) :
    List (WalRecord Node) :=
  if node = me then state.records.filterMap state.localRecord
  else state.jobs.filterMap (sentRecord node)

end Logs

end Syncpoint
end Multimaster
