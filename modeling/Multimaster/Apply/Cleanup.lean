import Multimaster.Apply.Executor
import Multimaster.Gtx.Exclusion

/-!
# What a failed apply leaves behind

Whatever step of a transaction raises an error, the handler finds the barrier,
the gtx and the session in one of few states, and gives back what is there.
-/

namespace Multimaster
namespace Apply

open Gtx

variable {Gid Process : Type*}

/-- The process between two transactions, in normal mode, when `GlobalTxAcquire`
need not wait for the transaction. -/
structure Ready
    (identity : Identity Process) (applier : Applier Gid Process) (gid : Gid) :
    Prop where
  mode : identity.mode = .normal
  barrier : applier.barrier = none
  gtx : applier.gtx = none
  holding : applier.table.holding identity.me = none
  session : applier.sessionIsSetUp = false
  tableOk : TableOk applier.table
  unlocked : ∀ slot, applier.table.hash gid = some slot →
    (applier.table.slots slot).acquiredBy = none

/-- Nothing of the process is left: no barrier, no gtx, no session, and the
entry in the list is removed once. -/
structure NothingLeft
    (identity : Identity Process) (start final : Applier Gid Process) :
    Prop where
  barrier : final.barrier = none
  counters : final.counters = start.counters
  gtx : final.gtx = none
  holding : final.table.holding identity.me = none
  sessionOrigin : final.sessionOrigin = none
  sessionIsSetUp : final.sessionIsSetUp = false
  txlist : final.txlist = (Pool.txlRemove start.txlist start.txlistPos).1
  txlistPos : final.txlistPos = -1

/-- The table has no entry for the transaction, unless some other transaction is
prepared under the same identifier. -/
def NoUnprepared (table : Gtx.Table Gid Process) (gid : Gid) : Prop :=
  ∀ slot, table.hash gid = some slot → (table.slots slot).prepared = true

/-- The error is raised by a step after the transaction has become known and
before its `PREPARE` record is written. -/
structure Failure.InTransaction
    (failure : Failure) (transaction : Transaction Gid) (sender : ℕ) :
    Prop where
  begun : .setXid transaction.xid ∈
    (transaction.ops sender).take failure.position
  unwritten : .writePrepare transaction.gid ∉
    (transaction.ops sender).take failure.position

/-- The error is raised by `replorigin_session_setup`. -/
def Failure.InSessionSetup
    (failure : Failure) (transaction : Transaction Gid) (sender : ℕ) : Prop :=
  failure.inside = true ∧
    ∃ origin, (transaction.ops sender)[failure.position]? =
      some (.beginSession origin)

/-! ## The state when an error is raised -/

section Handler

variable [DecidableEq Gid] [DecidableEq Process]
variable {identity : Identity Process} {start applier : Applier Gid Process}
variable {transaction : Transaction Gid}

/-- What the handler relies on; the session apart. -/
structure Handled
    (identity : Identity Process) (start : Applier Gid Process)
    (transaction : Transaction Gid) (applier : Applier Gid Process) :
    Prop where
  originXid : applier.originXid = some transaction.xid
  bdrLike : applier.bdrLike = false
  counters : applier.counters.release applier.barrier = start.counters
  released : NoUnprepared (applier.releaseGtx identity).table transaction.gid
  holding : (applier.releaseGtx identity).table.holding identity.me = none
  txlist : applier.txlist = start.txlist
  txlistPos : applier.txlistPos = start.txlistPos
  replies : applier.replies = start.replies

/-- The session is set up exactly when its origin is set. -/
def Applier.SessionOk (applier : Applier Gid Process) : Prop :=
  applier.sessionIsSetUp = applier.sessionOrigin.isSome

/-- What is released at the beginning of the handler. -/
theorem releasePB_releaseGtx
    (identity : Identity Process) (applier : Applier Gid Process) :
    applier.releasePB.releaseGtx identity =
      { applier with
        barrier := none
        counters := applier.counters.release applier.barrier
        gtx := none
        table := (applier.releaseGtx identity).table } := by
  unfold Applier.releaseGtx Applier.releasePB
  cases isGtx : applier.gtx with
  | none => rfl
  | some slot => rfl

/-- The state in which the handler lets the executor return. -/
def Applier.cleanedUp
    (identity : Identity Process) (applier : Applier Gid Process)
    (xid : ℕ) (edata : ErrorData) : Applier Gid Process :=
  { applier with
    ddlApplyInProgress := .nothing
    barrier := none
    counters := applier.counters.release applier.barrier
    gtx := none
    table := (applier.releaseGtx identity).table
    sessionOrigin := none
    sessionIsSetUp := false
    txlist := (Pool.txlRemove applier.txlist applier.txlistPos).1
    txlistPos := -1
    replies := applier.replies ++
      [prepareReply identity xid false (some edata)] }

theorem endSession_eq
    (identity : Identity Process) (session : applier.SessionOk) :
    perform identity applier .endSession =
      { applier with
        sessionOrigin := none
        sessionIsSetUp := false } := by
  unfold Applier.SessionOk at session
  cases isOrigin : applier.sessionOrigin with
  | none =>
      have notSetUp : applier.sessionIsSetUp = false := by
        simpa [isOrigin] using session
      simp only [perform, isOrigin]
      rw [← isOrigin, ← notSetUp]
  | some origin => simp only [perform, isOrigin]

/-- The handler returns when the session is as its origin says. -/
theorem catchError_eq
    {xid : ℕ} (normal : identity.mode = .normal)
    (originXid : applier.originXid = some xid)
    (bdrLike : applier.bdrLike = false) (session : applier.SessionOk)
    (edata : ErrorData) :
    (catchError identity applier edata).finish =
      .returned (applier.cleanedUp identity xid edata) := by
  have notDie : ¬ applier.MustDie identity := by
    simp [Applier.MustDie, normal, originXid, bdrLike]
  have setUp : ¬ (applier.sessionOrigin ≠ none ∧
      applier.sessionIsSetUp = false) := by
    rintro ⟨isSet, isNotSetUp⟩
    rw [session] at isNotSetUp
    exact isSet (Option.isNone_iff_eq_none.mp (by simpa using isNotSetUp))
  have releasedSession :
      (applier.releasePB.releaseGtx identity).SessionOk := by
    rw [releasePB_releaseGtx]
    exact session
  unfold catchError
  rw [if_neg notDie]
  simp only
  rw [endSession_eq identity releasedSession]
  simp only [releasePB_releaseGtx]
  rw [if_neg setUp]
  simp [Outcome.finish, Applier.finishCleanup, Applier.removeEntry,
    Applier.reply, normal, originXid, Applier.cleanedUp, Pool.txlRemove]

theorem Handled.nothingLeft
    (handled : Handled identity start transaction applier) (xid : ℕ)
    (edata : ErrorData) :
    NothingLeft identity start (applier.cleanedUp identity xid edata) where
  barrier := rfl
  counters := handled.counters
  gtx := rfl
  holding := handled.holding
  sessionOrigin := rfl
  sessionIsSetUp := rfl
  txlist := by
    rw [← handled.txlist, ← handled.txlistPos]
    rfl
  txlistPos := rfl

end Handler

/-! ## The steps before the `PREPARE` record -/

/-- A step that touches neither the barrier nor the gtx. -/
def Op.Plain : Op Gid → Prop
  | .work => True
  | .beginSession _ => True
  | .endSession => True
  | .setDdl _ => True
  | _ => False

/-- The steps between `BEGIN` and the barrier. -/
def Transaction.plainOps
    (transaction : Transaction Gid) (sender : ℕ) : List (Op Gid) :=
  .work :: transaction.changes.flatMap (Change.ops sender) ++
    transaction.sessionOps

/-- The steps before the `PREPARE` record. -/
def Transaction.earlyOps
    (transaction : Transaction Gid) (sender : ℕ) : List (Op Gid) :=
  [.work, .setXid transaction.xid] ++
    (transaction.plainOps sender ++ transaction.lockOps)

theorem Transaction.ops_eq (transaction : Transaction Gid) (sender : ℕ) :
    transaction.ops sender =
      transaction.earlyOps sender ++ transaction.prepareOps := by
  simp [Transaction.ops, Transaction.openOps, Transaction.beginOps,
    Transaction.earlyOps, Transaction.plainOps]

theorem Change.ops_plain
    (change : Change) (sender : ℕ) {op : Op Gid}
    (isOp : op ∈ change.ops sender) : op.Plain := by
  cases change with
  | ddl =>
      simp only [Change.ops, List.mem_cons, List.not_mem_nil, or_false] at isOp
      rcases isOp with rfl | rfl | rfl | rfl | rfl | rfl <;> trivial
  | relation | insert | update | delete | openSpillFile | readChunk | endChunk
  | sequence | truncate =>
      cases List.mem_singleton.mp isOp
      trivial

theorem Transaction.plainOps_plain
    (transaction : Transaction Gid) (sender : ℕ) {op : Op Gid}
    (isOp : op ∈ transaction.plainOps sender) : op.Plain := by
  rcases List.mem_append.mp isOp with early | session
  · rcases List.mem_cons.mp early with rfl | inChange
    · trivial
    · obtain ⟨change, -, isOp⟩ := List.mem_flatMap.mp inChange
      exact change.ops_plain sender isOp
  · simp only [Transaction.sessionOps, List.mem_cons, List.not_mem_nil,
      or_false] at session
    rcases session with rfl | rfl <;> trivial

/-- How far a transaction has got when an error is raised in it. -/
theorem Failure.InTransaction.take_eq
    {failure : Failure} {transaction : Transaction Gid} {sender : ℕ}
    (inTransaction : failure.InTransaction transaction sender) :
    (transaction.ops sender).take failure.position =
      [.work, .setXid transaction.xid] ++
        ((transaction.plainOps sender).take (failure.position - 2) ++
          transaction.lockOps.take (failure.position - 2 -
            (transaction.plainOps sender).length)) := by
  obtain ⟨begun, unwritten⟩ := inTransaction
  rw [Transaction.ops_eq] at begun unwritten ⊢
  have atLeast : 2 ≤ failure.position := by
    by_contra early
    have isFirst : failure.position = 0 ∨ failure.position = 1 := by omega
    rcases isFirst with isZero | isOne
    · rw [isZero] at begun
      simp at begun
    · rw [isOne] at begun
      simp [Transaction.earlyOps] at begun
  have atMost : failure.position ≤ (transaction.earlyOps sender).length := by
    by_contra late
    apply unwritten
    obtain ⟨more, isMore⟩ : ∃ more, failure.position -
        (transaction.earlyOps sender).length = more + 1 :=
      ⟨failure.position - (transaction.earlyOps sender).length - 1, by omega⟩
    rw [List.take_append, isMore]
    simp [Transaction.prepareOps]
  rw [List.take_append_of_le_length atMost, Transaction.earlyOps,
    List.take_append, List.take_append]
  congr 1
  exact List.take_of_length_le atLeast

section Steps

variable [DecidableEq Gid] [DecidableEq Process]
variable {identity : Identity Process} {start applier : Applier Gid Process}
variable {transaction : Transaction Gid}

/-- What all steps before the `PREPARE` record leave alone. -/
structure Underway
    (start : Applier Gid Process) (transaction : Transaction Gid)
    (applier : Applier Gid Process) : Prop where
  originXid : applier.originXid = some transaction.xid
  bdrLike : applier.bdrLike = false
  counters : applier.counters.release applier.barrier = start.counters
  session : applier.SessionOk
  txlist : applier.txlist = start.txlist
  txlistPos : applier.txlistPos = start.txlistPos
  replies : applier.replies = start.replies

/-- The state before the gtx is acquired. -/
structure WithoutGtx
    (start : Applier Gid Process) (transaction : Transaction Gid)
    (applier : Applier Gid Process) : Prop
    extends Underway start transaction applier where
  gtx : applier.gtx = none
  table : applier.table = start.table

/-- The state with the gtx. -/
structure WithGtx
    (identity : Identity Process) (start : Applier Gid Process)
    (transaction : Transaction Gid) (applier : Applier Gid Process)
    (slot : ℕ) : Prop
    extends Underway start transaction applier where
  gtx : applier.gtx = some slot
  holding : applier.table.holding identity.me = some (transaction.gid, slot)
  hash : applier.table.hash transaction.gid = some slot
  named : (applier.table.slots slot).prepared = false →
    (applier.table.slots slot).gid = transaction.gid

/-- The state before the barrier is acquired. -/
structure Opened
    (start : Applier Gid Process) (transaction : Transaction Gid)
    (applier : Applier Gid Process) : Prop
    extends WithoutGtx start transaction applier where
  barrier : applier.barrier = none

theorem Opened.step
    (identity : Identity Process) (opened : Opened start transaction applier)
    {op : Op Gid} (plain : op.Plain) :
    Opened start transaction (perform identity applier op) := by
  cases op with
  | work => exact opened
  | beginSession origin => exact { opened with session := rfl }
  | endSession =>
      rw [endSession_eq identity opened.session]
      exact { opened with session := rfl }
  | setDdl progress => exact { opened with }
  | setXid | acquirePB | releasePB | acquireGtx | describeGtx | writePrepare
  | markPrepared | releaseGtx | replyPrepared | clearXid => exact plain.elim

theorem Opened.steps
    (identity : Identity Process) (opened : Opened start transaction applier)
    {ops : List (Op Gid)} (plain : ∀ op ∈ ops, op.Plain) :
    Opened start transaction (performAll identity applier ops) := by
  induction ops generalizing applier with
  | nil => exact opened
  | cons op rest inductionHypothesis =>
      refine inductionHypothesis
        (opened.step identity (plain op List.mem_cons_self)) ?_
      exact fun other isOther => plain other (List.mem_cons_of_mem _ isOther)

theorem Opened.acquirePB
    (identity : Identity Process) (opened : Opened start transaction applier) :
    WithoutGtx start transaction (perform identity applier .acquirePB) := by
  refine { opened with counters := ?_ }
  have counters := opened.counters
  rw [opened.barrier] at counters
  rw [← counters]
  exact Barrier.Counters.release_add applier.counters
    (Barrier.preparerMode false)

/-- The gtx is a new one, or one that somebody has prepared under the same
identifier. -/
theorem WithoutGtx.acquireGtx
    (without : WithoutGtx start transaction applier)
    (ready : Ready identity start transaction.gid) :
    ∃ slot, WithGtx identity start transaction
      (perform identity applier (.acquireGtx transaction.gid)) slot := by
  cases inHash : start.table.hash transaction.gid with
  | none =>
      have acquired : perform identity applier (.acquireGtx transaction.gid) =
          { applier with
            gtx := some identity.freeSlot
            table :=
              { (start.table.modify identity.freeSlot fun entry =>
                  entry.create transaction.gid identity.me).hold identity.me
                  transaction.gid identity.freeSlot with
                hash := Function.update start.table.hash transaction.gid
                  (some identity.freeSlot) } } := by
        simp [perform, without.table, globalTxAcquire, inHash]
      rw [acquired]
      exact ⟨identity.freeSlot, {
        without with
        gtx := rfl
        holding := Function.update_self ..
        hash := Function.update_self ..
        named := fun _ => by
          simp [Gtx.Table.hold, Gtx.Table.modify, Entry.create] }⟩
  | some slot =>
      have isFree := ready.unlocked slot inHash
      have acquired : perform identity applier (.acquireGtx transaction.gid) =
          { applier with
            gtx := some slot
            table := (start.table.modify slot fun entry =>
              { entry with acquiredBy := some identity.me }).hold identity.me
              transaction.gid slot } := by
        simp [perform, without.table, globalTxAcquire, inHash, isFree,
          Gtx.Table.hold, Gtx.Table.modify]
      rw [acquired]
      exact ⟨slot, {
        without with
        gtx := rfl
        holding := Function.update_self ..
        hash := inHash
        named := fun _ => by
          simpa [Gtx.Table.hold, Gtx.Table.modify] using
            ready.tableOk.named transaction.gid slot inHash }⟩

theorem WithGtx.describeGtx
    {slot : ℕ} (withGtx : WithGtx identity start transaction applier slot)
    (coordinator : ℕ) :
    WithGtx identity start transaction
      (perform identity applier (.describeGtx coordinator)) slot := by
  have described : perform identity applier (.describeGtx coordinator) =
      { applier with
        table := applier.table.modify slot fun entry =>
          { entry with coordinator := coordinator } } := by
    simp [perform, Gtx.Table.write, withGtx.holding]
  rw [described]
  refine { withGtx with named := ?_ }
  simpa [Gtx.Table.modify] using withGtx.named

/-- Without a gtx the table is as at the start. -/
theorem WithoutGtx.handled
    (without : WithoutGtx start transaction applier)
    (ready : Ready identity start transaction.gid) :
    Handled identity start transaction applier where
  originXid := without.originXid
  bdrLike := without.bdrLike
  counters := without.counters
  released := by
    intro slot isEntry
    simp only [Applier.releaseGtx, without.gtx, without.table] at isEntry ⊢
    exact (ready.tableOk.unlocked transaction.gid slot isEntry
      (ready.unlocked slot isEntry)).1
  holding := by
    simp only [Applier.releaseGtx, without.gtx, without.table]
    exact ready.holding
  txlist := without.txlist
  txlistPos := without.txlistPos
  replies := without.replies

/-- An entry that was never prepared is removed when it is released. -/
theorem noUnprepared_release
    {table : Gtx.Table Gid Process} {me : Process} {gid : Gid} {slot : ℕ}
    (inHash : table.hash gid = some slot)
    (named : (table.slots slot).prepared = false →
      (table.slots slot).gid = gid) :
    NoUnprepared (globalTxRelease table me slot) gid := by
  intro other isEntry
  unfold globalTxRelease at isEntry ⊢
  simp only at isEntry ⊢
  cases isPrepared : (table.slots slot).prepared with
  | false =>
      simp [isPrepared, named isPrepared] at isEntry
  | true =>
      have wasEntry : table.hash gid = some other := by
        split at isEntry
        · by_cases same : gid = (table.slots slot).gid
          · rw [same] at isEntry
            simp at isEntry
          · simpa [Function.update_of_ne same] using isEntry
        · exact isEntry
      have sameSlot : other = slot :=
        Option.some_injective _ (wasEntry.symm.trans inHash)
      subst sameSlot
      split <;> simp [Gtx.Table.modify, isPrepared]

theorem WithGtx.handled
    {slot : ℕ} (withGtx : WithGtx identity start transaction applier slot) :
    Handled identity start transaction applier where
  originXid := withGtx.originXid
  bdrLike := withGtx.bdrLike
  counters := withGtx.counters
  released := by
    simp only [Applier.releaseGtx, withGtx.gtx]
    exact noUnprepared_release withGtx.hash withGtx.named
  holding := by
    simp only [Applier.releaseGtx, withGtx.gtx, globalTxRelease]
    split <;> simp
  txlist := withGtx.txlist
  txlistPos := withGtx.txlistPos
  replies := withGtx.replies

/-- The steps from the barrier to the gtx, as far as they get. -/
theorem Opened.locks
    (opened : Opened start transaction applier)
    (ready : Ready identity start transaction.gid) (reached : ℕ) :
    Handled identity start transaction
        (performAll identity applier (transaction.lockOps.take reached)) ∧
      (performAll identity applier
        (transaction.lockOps.take reached)).SessionOk := by
  have without := opened.acquirePB identity
  obtain ⟨slot, withGtx⟩ := without.acquireGtx ready
  have described := withGtx.describeGtx transaction.coordinator
  match reached with
  | 0 => exact ⟨opened.toWithoutGtx.handled ready, opened.session⟩
  | 1 => exact ⟨without.handled ready, without.session⟩
  | 2 => exact ⟨without.handled ready, without.session⟩
  | 3 => exact ⟨without.handled ready, without.session⟩
  | 4 => exact ⟨withGtx.handled, withGtx.session⟩
  | 5 => exact ⟨described.handled, described.session⟩
  | _ + 6 =>
      have all : ∀ more, transaction.lockOps.take (more + 6) =
          transaction.lockOps := by
        intro more
        exact List.take_of_length_le (by simp [Transaction.lockOps])
      rw [all]
      exact ⟨described.handled, described.session⟩

/-- The state after `BEGIN`. -/
theorem Ready.opened
    (ready : Ready identity start transaction.gid) :
    Opened start transaction
      (performAll identity start.called [.work, .setXid transaction.xid]) where
  originXid := rfl
  bdrLike := rfl
  barrier := ready.barrier
  counters := by
    simp [performAll, perform, Applier.called, ready.barrier,
      Barrier.Counters.release]
  gtx := ready.gtx
  table := rfl
  session := ready.session
  txlist := rfl
  txlistPos := rfl
  replies := rfl

/-- The state in which an error finds the transaction. -/
theorem Failure.InTransaction.reached
    {failure : Failure}
    (inTransaction :
      failure.InTransaction transaction identity.senderNodeId)
    (ready : Ready identity start transaction.gid) :
    Handled identity start transaction
        (performAll identity start.called
          ((transaction.ops identity.senderNodeId).take failure.position)) ∧
      (performAll identity start.called
        ((transaction.ops identity.senderNodeId).take
          failure.position)).SessionOk := by
  rw [inTransaction.take_eq]
  simp only [performAll, List.foldl_append]
  have plain : ∀ op ∈ (transaction.plainOps identity.senderNodeId).take
      (failure.position - 2), op.Plain :=
    fun op isOp => transaction.plainOps_plain _ (List.mem_of_mem_take isOp)
  exact (ready.opened.steps identity plain).locks ready _

end Steps

/-! ## The executor -/

/-- The session is as its origin says, or it is about to be set up. -/
theorem Applier.SessionOk.raise
    {applier : Applier Gid Process} (session : applier.SessionOk)
    (op : Op Gid) (inside : Bool) :
    (applier.raise op inside).SessionOk ∨
      ((inside = true ∧ ∃ origin, op = .beginSession origin) ∧
        (applier.raise op inside).sessionOrigin ≠ none ∧
        (applier.raise op inside).sessionIsSetUp = false) := by
  cases inside with
  | false => exact Or.inl session
  | true =>
      cases op with
      | beginSession origin =>
          cases isSetUp : applier.sessionIsSetUp with
          | true => exact Or.inl isSetUp
          | false =>
              exact Or.inr ⟨⟨rfl, origin, rfl⟩, Option.some_ne_none _, isSetUp⟩
      | work | setXid | endSession | setDdl | acquirePB | releasePB
      | acquireGtx | describeGtx | writePrepare | markPrepared | releaseGtx
      | replyPrepared | clearXid => exact Or.inl session

section Executor

variable [DecidableEq Gid] [DecidableEq Process]
variable {identity : Identity Process} {start applier : Applier Gid Process}
variable {transaction : Transaction Gid}

theorem releaseGtx_setOrigin
    (identity : Identity Process) (applier : Applier Gid Process)
    (origin : ℕ) :
    ({ applier with sessionOrigin := some origin }.releaseGtx identity).table =
      (applier.releaseGtx identity).table := by
  unfold Applier.releaseGtx
  cases applier.gtx with
  | none => rfl
  | some slot => rfl

/-- An error in the middle of a step touches the session at most. -/
theorem Handled.raise
    (handled : Handled identity start transaction applier) (op : Op Gid)
    (inside : Bool) :
    Handled identity start transaction (applier.raise op inside) := by
  cases inside with
  | false => exact handled
  | true =>
      cases op with
      | beginSession origin =>
          have sameTable := releaseGtx_setOrigin identity applier origin
          refine { handled with released := ?_, holding := ?_ }
          · exact sameTable ▸ handled.released
          · exact sameTable ▸ handled.holding
      | work | setXid | endSession | setDdl | acquirePB | releasePB
      | acquireGtx | describeGtx | writePrepare | markPrepared | releaseGtx
      | replyPrepared | clearXid => exact handled

/-- The handler does not return from an error of `replorigin_session_setup`. -/
theorem catchError_exited
    (isSet : applier.sessionOrigin ≠ none)
    (notSetUp : applier.sessionIsSetUp = false) (edata : ErrorData) :
    (catchError identity applier edata).finish = .exited := by
  unfold catchError
  split
  · rfl
  · simp only [releasePB_releaseGtx]
    rw [if_pos ⟨isSet, notSetUp⟩]
    rfl

/-- The state in which the handler is entered. -/
theorem Failure.InTransaction.raised
    {failure : Failure}
    (inTransaction :
      failure.InTransaction transaction identity.senderNodeId)
    (ready : Ready identity start transaction.gid) :
    ∃ raised,
      mtmExecutor identity start transaction (some failure) =
        (catchError identity raised failure.edata).finish ∧
      Handled identity start transaction raised ∧
      (raised.SessionOk ∨
        (failure.InSessionSetup transaction identity.senderNodeId ∧
          raised.sessionOrigin ≠ none ∧ raised.sessionIsSetUp = false)) := by
  obtain ⟨handled, session⟩ := inTransaction.reached ready
  cases isOp : (transaction.ops identity.senderNodeId)[failure.position]? with
  | none =>
      refine ⟨_, ?_, handled, Or.inl session⟩
      simp only [mtmExecutor, isOp]
  | some op =>
      refine ⟨_, ?_, handled.raise op failure.inside, ?_⟩
      · simp only [mtmExecutor, isOp]
      · rcases session.raise op failure.inside with stillOk | ⟨inSetup, bad⟩
        · exact Or.inl stillOk
        · obtain ⟨isInside, origin, rfl⟩ := inSetup
          exact Or.inr ⟨⟨isInside, origin, isOp⟩, bad⟩

/-- The state after the `PREPARE` record is written and all is given back. -/
def Applier.afterPrepare
    (identity : Identity Process) (applier : Applier Gid Process)
    (xid slot : ℕ) : Applier Gid Process :=
  { applier with
    originXid := none
    barrier := none
    counters := applier.counters.release applier.barrier
    gtx := none
    table := globalTxRelease
      (tableEffect (tableEffect applier.table (.logPrepare identity.me))
        (.markPrepared identity.me)) identity.me slot
    sessionOrigin := none
    sessionIsSetUp := false
    replies := applier.replies ++ [prepareReply identity xid true none] }

theorem WithGtx.performAll_prepareOps
    {slot : ℕ} (withGtx : WithGtx identity start transaction applier slot)
    (normal : identity.mode = .normal) :
    performAll identity applier transaction.prepareOps =
      applier.afterPrepare identity transaction.xid slot := by
  have replied : performAll identity applier
      [.writePrepare transaction.gid, .releasePB, .markPrepared, .releaseGtx,
        .replyPrepared, .clearXid] =
      { applier.afterPrepare identity transaction.xid slot with
        sessionOrigin := applier.sessionOrigin
        sessionIsSetUp := applier.sessionIsSetUp } := by
    simp [performAll, perform, Applier.releasePB, Applier.releaseGtx,
      Applier.reply, withGtx.gtx, normal, withGtx.originXid,
      Applier.afterPrepare]
  have ended : performAll identity applier transaction.prepareOps =
      perform identity (performAll identity applier
        [.writePrepare transaction.gid, .releasePB, .markPrepared,
          .releaseGtx, .replyPrepared, .clearXid]) .endSession := rfl
  rw [ended, replied]
  exact endSession_eq identity withGtx.session

/-- The state after a transaction without an error. -/
theorem WithGtx.prepared
    {slot : ℕ} (withGtx : WithGtx identity start transaction applier slot)
    (normal : identity.mode = .normal) :
    NothingLeft identity start
        (performAll identity applier transaction.prepareOps).removeEntry ∧
      (performAll identity applier transaction.prepareOps).removeEntry.replies =
        start.replies ++ [prepareReply identity transaction.xid true none] := by
  rw [withGtx.performAll_prepareOps normal]
  refine ⟨?_, ?_⟩
  · exact {
      barrier := rfl
      counters := withGtx.counters
      gtx := rfl
      holding := by
        simp only [Applier.removeEntry, Applier.afterPrepare, globalTxRelease]
        split <;> simp
      sessionOrigin := rfl
      sessionIsSetUp := rfl
      txlist := by
        rw [← withGtx.txlist, ← withGtx.txlistPos]
        rfl
      txlistPos := rfl }
  · rw [← withGtx.replies]
    rfl

/-- All steps of a transaction before the `PREPARE` record. -/
theorem Ready.withGtx
    (ready : Ready identity start transaction.gid) :
    ∃ slot, WithGtx identity start transaction
      (performAll identity start.called
        (transaction.earlyOps identity.senderNodeId)) slot := by
  have opened := ready.opened.steps identity
    fun op isOp => transaction.plainOps_plain identity.senderNodeId isOp
  obtain ⟨slot, withGtx⟩ := (opened.acquirePB identity).acquireGtx ready
  refine ⟨slot, ?_⟩
  have described := withGtx.describeGtx transaction.coordinator
  simp only [Transaction.earlyOps, performAll, List.foldl_append]
  exact described

/-- For every transaction applied in normal mode: if a step raises an error
before the `PREPARE` record is written, then after the executor has returned
nothing is left and one refusal was sent; without an error one confirmation is
sent.  The executor returns unless the error comes from the setup of the
session. -/
theorem apply_leaves_nothing_behind
    (identity : Identity Process) (start : Applier Gid Process)
    (transaction : Transaction Gid)
    (ready : Ready identity start transaction.gid) :
    (∀ failure : Failure,
      failure.InTransaction transaction identity.senderNodeId →
      (∀ final,
        mtmExecutor identity start transaction (some failure) =
          .returned final →
        NothingLeft identity start final ∧
        NoUnprepared final.table transaction.gid ∧
        final.replies = start.replies ++
          [prepareReply identity transaction.xid false
            (some failure.edata)]) ∧
      (¬ failure.InSessionSetup transaction identity.senderNodeId →
        ∃ final, mtmExecutor identity start transaction (some failure) =
          .returned final)) ∧
    ∃ final,
      mtmExecutor identity start transaction none = .returned final ∧
      NothingLeft identity start final ∧
      final.replies = start.replies ++
        [prepareReply identity transaction.xid true none] := by
  constructor
  · intro failure inTransaction
    obtain ⟨raised, isOutcome, handled, session⟩ := inTransaction.raised ready
    rw [isOutcome]
    rcases session with session | ⟨inSetup, isSet, notSetUp⟩
    · rw [catchError_eq ready.mode handled.originXid handled.bdrLike session]
      refine ⟨?_, fun _ => ⟨_, rfl⟩⟩
      rintro final ⟨⟩
      refine ⟨handled.nothingLeft transaction.xid failure.edata,
        handled.released, ?_⟩
      rw [← handled.replies]
      rfl
    · rw [catchError_exited isSet notSetUp]
      constructor
      · intro final isReturned
        cases isReturned
      · intro notInSetup
        exact absurd inSetup notInSetup
  · obtain ⟨slot, withGtx⟩ := ready.withGtx
    refine ⟨_, ?_, withGtx.prepared ready.mode⟩
    rw [mtmExecutor, Transaction.ops_eq, performAll, List.foldl_append]
    rfl

end Executor

/-! ## A transaction whose `PREPARE` fails -/

/-- A worker for node two, on node one. -/
def workerIdentity : Identity (Fin 1) where
  me := 0
  myNodeId := 1
  senderNodeId := 2
  mode := .normal
  freeSlot := 0

/-- The worker has popped a transaction. -/
def workerStart : Applier (Fin 1) (Fin 1) where
  originXid := none
  bdrLike := false
  ddlApplyInProgress := .nothing
  barrier := none
  counters := Barrier.Counters.zero
  gtx := none
  table := tableMachine.init
  sessionOrigin := none
  sessionIsSetUp := false
  txlistPos := 0
  txlist := (Pool.txlStore (Pool.txlClear 20) 1).1
  replies := []

/-- A table is created and filled. -/
def createAndFill : Transaction (Fin 1) where
  xid := 700
  changes := [.ddl, .relation, .insert]
  originNode := 2
  gid := 0
  coordinator := 2

theorem workerStart_ready :
    Ready workerIdentity workerStart createAndFill.gid where
  mode := rfl
  barrier := rfl
  gtx := rfl
  holding := rfl
  session := rfl
  tableOk := {
    named := fun _ _ isEntry => by cases isEntry
    held := fun _ _ _ isHeld => by cases isHeld
    unlocked := fun _ _ isEntry => by cases isEntry
    unprepared := fun _ _ isEntry => by cases isEntry
    pxacts := fun _ isPxact => by cases isPxact }
  unlocked := fun _ isEntry => by cases isEntry

/-- The error is raised when the `PREPARE` record is to be written. -/
def prepareFails : Failure where
  position := 19
  inside := false
  edata := { sqlerrcode := 16777252, message := "out of memory" }

theorem apply_leaves_nothing_behind_prepareFails :
    (∃ final,
      mtmExecutor workerIdentity workerStart createAndFill
        (some prepareFails) = .returned final ∧
      NothingLeft workerIdentity workerStart final ∧
      final.replies = [prepareReply workerIdentity 700 false
        (some prepareFails.edata)]) ∧
    ∃ final,
      mtmExecutor workerIdentity workerStart createAndFill none =
        .returned final ∧
      final.replies = [prepareReply workerIdentity 700 true none] := by
  obtain ⟨failed, final, isReturned, -, replies⟩ :=
    apply_leaves_nothing_behind workerIdentity workerStart createAndFill
      workerStart_ready
  refine ⟨?_, final, isReturned, replies⟩
  obtain ⟨cleaned, returns⟩ := failed prepareFails
    ⟨by decide, by decide⟩
  obtain ⟨final, isReturned⟩ := returns (by
    rintro ⟨isInside, -⟩
    cases isInside)
  obtain ⟨nothingLeft, -, replies⟩ := cleaned final isReturned
  exact ⟨final, isReturned, nothingLeft, replies⟩

end Apply
end Multimaster
