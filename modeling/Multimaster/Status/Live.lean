import Multimaster.Gtx.Table
import Multimaster.Status.Requests
import Mathlib.Tactic.Common

/-!
# The replier and the backends of its node

`handle_1a` and `handle_2a` call `GlobalTxAcquire` with `nowait_own_live`, so as
not to wait for a backend of this node that is still at work on its transaction.
A transaction counts as live there only while it is not marked as orphaned, but
`MtmTwoPhaseCommit` and `MtmExplicitPrepare` mark theirs right after they have
acquired it.
-/

namespace Multimaster
namespace Status

open Gtx

variable {Gid Process : Type*}

/-- The two functions in which a backend holds its transaction. -/
inductive CommitSequence
  | twoPhaseCommit
  | explicitPrepare
  deriving DecidableEq

/-- Where a process is. -/
inductive Stage
  /-- In neither of the two functions, or before `GlobalTxAcquire`. -/
  | outside
  /-- `GlobalTxAcquire` has returned the transaction. -/
  | acquired (sequence : CommitSequence)
  /-- The transaction is marked as orphaned. -/
  | marked (sequence : CommitSequence)
  deriving DecidableEq

/-- The processes of a node and the table they share. -/
structure Backends (Gid Process : Type*) where
  table : Table Gid Process
  stage : Process → Stage

/-- The steps of the processes. -/
inductive BackendAction (Gid Process : Type*)
  /-- A round of `GlobalTxAcquire` in one of the two functions. -/
  | acquire (me : Process) (sequence : CommitSequence) (gid : Gid) (free : ℕ)
  /-- `orphaned` and `xinfo` of the transaction are set. -/
  | mark (me : Process)
  /-- A step of the table: further steps of these backends, and those of all
  other processes. -/
  | table (action : TableAction Gid Process)

/-- The transaction is prepared already: in `MtmExplicitPrepare` the identifier
is in use, and the backend gives the transaction back. -/
def Backends.Collides
    (backends : Backends Gid Process) (me : Process) : Prop :=
  backends.stage me = .acquired .explicitPrepare ∧
    backends.table.Holds me fun _ entry => entry.prepared = true

/-- Which steps of the table are left to a process: a backend that has not
marked its transaction can only give it back, and other processes write to
`xinfo` of a new transaction but not to `orphaned`. -/
def Backends.Permits
    (backends : Backends Gid Process) : TableAction Gid Process → Prop
  | .acquire me _ _ _ _ _ => backends.stage me = .outside
  | .describe me _ orphaned =>
      backends.stage me = .outside ∧
        backends.table.Holds me fun _ entry => entry.orphaned = orphaned
  | .logPrepare me => ∀ sequence, backends.stage me ≠ .acquired sequence
  | .markPrepared me => ∀ sequence, backends.stage me ≠ .acquired sequence
  | .setState me _ => ∀ sequence, backends.stage me ≠ .acquired sequence
  | .logFinish me => ∀ sequence, backends.stage me ≠ .acquired sequence
  | .markFinished me _ => ∀ sequence, backends.stage me ≠ .acquired sequence
  | _ => True

section Steps

variable [DecidableEq Gid] [DecidableEq Process]

/-- The stages after a step of the table. -/
def Backends.stageAfter
    (backends : Backends Gid Process) :
    TableAction Gid Process → Process → Stage
  | .release me => Function.update backends.stage me .outside
  | .shmemReset => fun _ => .outside
  | _ => backends.stage

/-- Whether a step can be taken. -/
def BackendEnabled
    (backends : Backends Gid Process) : BackendAction Gid Process → Prop
  | .acquire me _ gid free =>
      backends.stage me = .outside ∧
        TableEnabled backends.table (.acquire me gid true false false free)
  | .mark me =>
      (∃ sequence, backends.stage me = .acquired sequence) ∧
        ¬ backends.Collides me
  | .table action => TableEnabled backends.table action ∧ backends.Permits action

/-- The state after a step, on a node with this identifier. -/
def backendEffect
    (myNodeId : ℕ) (backends : Backends Gid Process) :
    BackendAction Gid Process → Backends Gid Process
  | .acquire me sequence gid free =>
      match globalTxAcquire backends.table me gid true false false free with
      | .acquired table =>
          { table := table
            stage := Function.update backends.stage me (.acquired sequence) }
      | _ => backends
  | .mark me =>
      match backends.stage me with
      | .acquired sequence =>
          { table := backends.table.write me fun entry =>
              { entry with coordinator := myNodeId, orphaned := true }
            stage := Function.update backends.stage me (.marked sequence) }
      | _ => backends
  | .table action =>
      { table := tableEffect backends.table action
        stage := backends.stageAfter action }

/-- The processes of a node. -/
def backendMachine [Inhabited Gid] (myNodeId : ℕ) :
    Machine (Backends Gid Process) (BackendAction Gid Process) where
  init :=
    { table := tableMachine.init
      stage := fun _ => .outside }
  Enabled := BackendEnabled
  effect := backendEffect myNodeId

/-! ## The replier -/

/-- What a round of `GlobalTxAcquire` returns; `none` goes to sleep. -/
def Attempt.returned (gid : Gid) : Attempt Gid Process → Option Acquired
  | .acquired table =>
      (table.hash gid).map fun slot => .gtx (table.slots slot).state
  | .missing => some .missing
  | .busy => some .busy
  | .wait => none

/-- The surroundings of a replier to which `GlobalTxAcquire` returns this. -/
def Surroundings.returning
    (around : Surroundings Gid) (acquired : Acquired) : Surroundings Gid :=
  { around with acquireNowait := fun _ => acquired }

/-- The effects of `handle_1a` if its first `GlobalTxAcquire` does not wait. -/
def handle1aAtOnce
    (around : Surroundings Gid) (backends : Backends Gid Process)
    (replier : Process) (sender : ℕ) (request : TxRequest Gid)
    (free fuel : ℕ) : Option (List (Effect Gid)) :=
  (Attempt.returned request.gid
    (globalTxAcquire backends.table replier request.gid false true
      (decide (request.coordinator = around.myNodeId)) free)).bind
    fun acquired =>
      (handle1a (around.returning acquired) {request.gid} fuel
        { effects := [], nowait := 0, waiting := 0, scanned := none }
        (TxsetEntry.ofRequest around sender request)).map Handling.effects

/-- The effects of `handle_2a` if its `GlobalTxAcquire` does not wait;
`parseNodeId` is `MtmGidParseNodeId`, without a result for the identifiers of
explicit transactions. -/
def handle2aAtOnce
    (around : Surroundings Gid) (parseNodeId : Gid → Option ℕ)
    (backends : Backends Gid Process) (replier : Process) (sender : ℕ)
    (request : TxRequest Gid) (free : ℕ) : Option (List (Effect Gid)) :=
  (Attempt.returned request.gid
    (globalTxAcquire backends.table replier request.gid false true
      (decide (parseNodeId request.gid = some around.myNodeId)) free)).map
    fun acquired =>
      (handle2a (around.returning acquired)
        { effects := [], nowait := 0, waiting := 0, scanned := none }
        request (around.destId sender)).effects

/-- `handle_1a` answers with an empty status and does not wait. -/
def AnswersEmpty1a
    (around : Surroundings Gid) (backends : Backends Gid Process)
    (replier : Process) (sender : ℕ) (request : TxRequest Gid) (free : ℕ) :
    Prop :=
  ∃ fuel, handle1aAtOnce around backends replier sender request free fuel =
    some [.statusResponse (around.destId sender)
      { nodeId := around.myNodeId
        state := GTxState.empty
        gid := request.gid }]

/-- `handle_2a` answers with an empty status and does not wait. -/
def AnswersEmpty2a
    (around : Surroundings Gid) (parseNodeId : Gid → Option ℕ)
    (backends : Backends Gid Process) (replier : Process) (sender : ℕ)
    (request : TxRequest Gid) (free : ℕ) : Prop :=
  handle2aAtOnce around parseNodeId backends replier sender request free =
    some [.response2A (around.destId sender)
      (Response2A.empty around request.gid)]

end Steps

/-- A backend in one of the two functions holds a transaction. -/
def Backends.HoldsGtx
    (backends : Backends Gid Process) (me : Process) (gid : Gid) (slot : ℕ) :
    Prop :=
  backends.stage me ≠ .outside ∧
    backends.table.holding me = some (gid, slot) ∧
    backends.table.hash gid = some slot ∧
    (backends.table.slots slot).acquiredBy = some me

/-- The backend has not marked the transaction yet, nor has anybody else. -/
def Backends.NotYetMarked
    (backends : Backends Gid Process) (me : Process) (slot : ℕ) : Prop :=
  (∃ sequence, backends.stage me = .acquired sequence) ∧
    (backends.table.slots slot).orphaned = false

/-! ## A marked transaction stays marked -/

/-- As long as the process holds the entry, its mark stays. -/
def KeptFor (me : Process) (before after : Entry Gid Process) : Prop :=
  after.acquiredBy = some me →
    before.acquiredBy = some me ∧
      (before.orphaned = true → after.orphaned = true)

/-- The process keeps its pointer, and the mark of what it holds. -/
structure Keeps (me : Process) (before after : Table Gid Process) : Prop where
  holding : after.holding me = before.holding me
  entries : ∀ slot, KeptFor me (before.slots slot) (after.slots slot)

theorem KeptFor.refl (me : Process) (entry : Entry Gid Process) :
    KeptFor me entry entry :=
  fun isMine => ⟨isMine, id⟩

theorem KeptFor.of_other
    {me other : Process} {before after : Entry Gid Process}
    (different : other ≠ me) (isOther : after.acquiredBy = some other) :
    KeptFor me before after := by
  intro isMine
  rw [isOther] at isMine
  exact absurd (Option.some_injective _ isMine) different

theorem KeptFor.of_free
    {me : Process} {before after : Entry Gid Process}
    (free : after.acquiredBy = none) : KeptFor me before after := by
  intro isMine
  rw [free] at isMine
  cases isMine

theorem KeptFor.trans
    {me : Process} {first middle last : Entry Gid Process}
    (left : KeptFor me first middle) (right : KeptFor me middle last) :
    KeptFor me first last := by
  intro isMine
  obtain ⟨wasMine, kept⟩ := right isMine
  obtain ⟨wasMineFirst, keptFirst⟩ := left wasMine
  exact ⟨wasMineFirst, fun marked => kept (keptFirst marked)⟩

theorem Keeps.refl (me : Process) (table : Table Gid Process) :
    Keeps me table table where
  holding := rfl
  entries := fun slot => KeptFor.refl me (table.slots slot)

theorem Keeps.trans
    {me : Process} {first middle last : Table Gid Process}
    (left : Keeps me first middle) (right : Keeps me middle last) :
    Keeps me first last where
  holding := right.holding.trans left.holding
  entries := fun slot => (left.entries slot).trans (right.entries slot)

/-- A write to one slot. -/
theorem keptFor_update
    {me : Process} {slots : ℕ → Entry Gid Process} {slot : ℕ}
    {entry : Entry Gid Process} (kept : KeptFor me (slots slot) entry)
    (other : ℕ) :
    KeptFor me (slots other) (Function.update slots slot entry other) := by
  by_cases same : other = slot
  · subst same
    simpa using kept
  · simpa [Function.update_of_ne same] using KeptFor.refl me (slots other)

/-- A write through the pointer of some process. -/
theorem keeps_write
    {me writer : Process} {table : Table Gid Process}
    {change : Entry Gid Process → Entry Gid Process}
    (kept : ∀ gid slot, table.holding writer = some (gid, slot) →
      KeptFor me (table.slots slot) (change (table.slots slot))) :
    Keeps me table (table.write writer change) := by
  unfold Table.write
  split
  · next gid slot isHeld => exact ⟨rfl, keptFor_update (kept gid slot isHeld)⟩
  · exact Keeps.refl me table

/-- The loop of `GlobalTxLoadAll` leaves the entries it writes unlocked. -/
theorem keeps_load
    [DecidableEq Gid] (me : Process) (pxacts : List (Gid × Option XState))
    (slots : List ℕ) (table : Table Gid Process) :
    Keeps me table (table.load pxacts slots) := by
  induction pxacts generalizing table slots with
  | nil => exact Keeps.refl me table
  | cons pxact rest inductionHypothesis =>
      obtain ⟨gid, xstate⟩ := pxact
      cases slots with
      | nil => exact Keeps.refl me table
      | cons slot slots =>
          have entered : Keeps me table (table.enter gid slot xstate) := by
            cases xstate with
            | none =>
                refine ⟨rfl, keptFor_update ?_⟩
                exact KeptFor.of_free rfl
            | some xstate =>
                refine ⟨rfl, keptFor_update ?_⟩
                exact KeptFor.of_free rfl
          exact entered.trans
            (inductionHypothesis slots (table.enter gid slot xstate))

/-- The transaction of a backend that is past the mark is orphaned. -/
def MarkedOk (backends : Backends Gid Process) : Prop :=
  ∀ me sequence gid slot, backends.stage me = .marked sequence →
    backends.table.holding me = some (gid, slot) →
    (backends.table.slots slot).acquiredBy = some me →
    (backends.table.slots slot).orphaned = true

theorem MarkedOk.keep
    {backends : Backends Gid Process} (ok : MarkedOk backends)
    {table : Table Gid Process} {me : Process} {sequence : CommitSequence}
    (isMarked : backends.stage me = .marked sequence)
    (keeps : Keeps me backends.table table)
    {gid : Gid} {slot : ℕ} (isHeld : table.holding me = some (gid, slot))
    (isMine : (table.slots slot).acquiredBy = some me) :
    (table.slots slot).orphaned = true := by
  obtain ⟨wasMine, kept⟩ := keeps.entries slot isMine
  exact kept (ok me sequence gid slot isMarked
    (keeps.holding.symm.trans isHeld) wasMine)

/-- No step of the table leads to the mark. -/
theorem Backends.stageAfter_marked
    [DecidableEq Process] {backends : Backends Gid Process} {me : Process}
    {sequence : CommitSequence} {action : TableAction Gid Process}
    (isMarked : backends.stageAfter action me = .marked sequence) :
    backends.stage me = .marked sequence := by
  cases action with
  | release other =>
      by_cases same : me = other
      · subst same
        simp [Backends.stageAfter] at isMarked
      · simpa [Backends.stageAfter, Function.update_of_ne same] using isMarked
  | shmemReset => cases isMarked
  | acquire | describe | logPrepare | markPrepared | setState | logFinish
  | markFinished | markOrphaned | stamp | prepareForeign | loadAll =>
      exact isMarked

section Marked

variable [DecidableEq Gid] [DecidableEq Process]

/-- Another process takes a transaction. -/
theorem keeps_acquire
    {me other : Process} (different : other ≠ me)
    {table acquired : Table Gid Process} {gid : Gid}
    {create nowaitOwnLive own : Bool} {free : ℕ}
    (attempt : globalTxAcquire table other gid create nowaitOwnLive own free =
      .acquired acquired) :
    Keeps me table acquired := by
  unfold globalTxAcquire at attempt
  split at attempt
  · split at attempt
    · cases attempt
      refine ⟨Function.update_of_ne (Ne.symm different) _ _, ?_⟩
      refine keptFor_update ?_
      exact KeptFor.of_other different rfl
    · cases attempt
  · split at attempt
    · cases attempt
      refine ⟨Function.update_of_ne (Ne.symm different) _ _, ?_⟩
      refine keptFor_update ?_
      exact KeptFor.of_other different rfl
    · split at attempt <;> cases attempt

/-- Another process gives a transaction back. -/
theorem keeps_release
    {me other : Process} (different : other ≠ me)
    (table : Table Gid Process) (slot : ℕ) :
    Keeps me table (globalTxRelease table other slot) := by
  unfold globalTxRelease
  simp only
  split
  · refine ⟨Function.update_of_ne (Ne.symm different) _ _, keptFor_update ?_⟩
    exact KeptFor.of_free rfl
  · refine ⟨Function.update_of_ne (Ne.symm different) _ _, keptFor_update ?_⟩
    exact KeptFor.of_free rfl

/-- Steps of the table keep the mark of a backend that is past it. -/
theorem keeps_tableEffect
    {backends : Backends Gid Process} {me : Process}
    {sequence : CommitSequence} {action : TableAction Gid Process}
    (permitted : backends.Permits action)
    (isMarked : backends.stageAfter action me = .marked sequence) :
    Keeps me backends.table (tableEffect backends.table action) := by
  have unchanged := Keeps.refl me backends.table
  cases action with
  | acquire other gid create nowaitOwnLive own free =>
      have different : other ≠ me := by
        rintro rfl
        have isOutside : backends.stage other = .outside := permitted
        simp [Backends.stageAfter, isOutside] at isMarked
      simp only [tableEffect]
      split
      · next acquired attempt => exact keeps_acquire different attempt
      · exact unchanged
  | describe other coordinator orphaned =>
      refine keeps_write ?_
      intro gid slot isHeld isMine
      refine ⟨isMine, fun wasMarked => ?_⟩
      obtain ⟨-, ⟨gid', slot'⟩, isHeld', same⟩ := permitted
      have samePointer : (gid, slot) = (gid', slot') :=
        Option.some_injective _ (isHeld.symm.trans isHeld')
      cases samePointer
      exact same.symm.trans wasMarked
  | logPrepare other =>
      simp only [tableEffect]
      split
      · exact ⟨rfl, fun slot => KeptFor.refl me _⟩
      · exact unchanged
  | markPrepared other =>
      exact keeps_write fun _ _ _ isMine => ⟨isMine, id⟩
  | setState other state =>
      simp only [tableEffect]
      split
      · exact ⟨rfl, keptFor_update fun isMine => ⟨isMine, id⟩⟩
      · exact unchanged
  | logFinish other =>
      simp only [tableEffect]
      split
      · exact ⟨rfl, fun slot => KeptFor.refl me _⟩
      · exact unchanged
  | markFinished other commit =>
      exact keeps_write fun _ _ _ isMine => ⟨isMine, id⟩
  | release other =>
      have different : other ≠ me := by
        rintro rfl
        simp [Backends.stageAfter] at isMarked
      simp only [tableEffect]
      split
      · next slot _ => exact keeps_release different backends.table slot
      · exact unchanged
  | markOrphaned node =>
      refine ⟨rfl, fun slot => ?_⟩
      simp only [tableEffect, globalTxMarkOrphaned]
      split
      · exact fun isMine => ⟨isMine, fun _ => rfl⟩
      · exact KeptFor.refl me _
  | stamp gid term =>
      simp only [tableEffect]
      split
      · exact ⟨rfl, keptFor_update fun isMine => ⟨isMine, id⟩⟩
      · exact unchanged
  | prepareForeign gid => exact ⟨rfl, fun slot => KeptFor.refl me _⟩
  | loadAll slots =>
      have loaded := keeps_load me backends.table.pxacts slots
        { backends.table with hash := fun _ => none }
      exact ⟨loaded.holding, loaded.entries⟩
  | shmemReset => cases isMarked

theorem MarkedOk.step
    {backends : Backends Gid Process} (ok : MarkedOk backends)
    {myNodeId : ℕ} {action : BackendAction Gid Process}
    (enabled : BackendEnabled backends action) :
    MarkedOk (backendEffect myNodeId backends action) := by
  intro me sequence gid slot isMarked isHeld isMine
  cases action with
  | acquire other taken acquiredGid free =>
      simp only [backendEffect] at isMarked isHeld isMine ⊢
      generalize isAttempt : globalTxAcquire backends.table other acquiredGid
        true false false free = attempt at isMarked isHeld isMine ⊢
      cases attempt with
      | acquired table =>
          simp only at isMarked isHeld isMine ⊢
          have different : me ≠ other := by
            rintro rfl
            simp at isMarked
          rw [Function.update_of_ne different] at isMarked
          exact ok.keep isMarked
            (keeps_acquire (Ne.symm different) isAttempt) isHeld isMine
      | missing | busy | wait =>
          exact ok me sequence gid slot isMarked isHeld isMine
  | mark other =>
      obtain ⟨⟨taken, isAcquired⟩, -⟩ := enabled
      simp only [backendEffect, isAcquired] at isMarked isHeld isMine ⊢
      have keeps : ∀ other, Keeps me backends.table
          (backends.table.write other fun entry =>
            { entry with coordinator := myNodeId, orphaned := true }) :=
        fun other => keeps_write fun _ _ _ isMine => ⟨isMine, fun _ => rfl⟩
      by_cases same : me = other
      · subst same
        have wasHeld : backends.table.holding me = some (gid, slot) :=
          (keeps me).holding.symm.trans isHeld
        simp [Table.write, wasHeld, Table.modify]
      · rw [Function.update_of_ne same] at isMarked
        exact ok.keep isMarked (keeps other) isHeld isMine
  | table action =>
      exact ok.keep (Backends.stageAfter_marked isMarked)
        (keeps_tableEffect enabled.2 isMarked) isHeld isMine

/-! ## When the replier does not wait -/

/-- A round of `GlobalTxAcquire` in the replier for a transaction that a backend
holds. -/
theorem globalTxAcquire_held
    {backends : Backends Gid Process} {me : Process} {gid : Gid} {slot : ℕ}
    (held : backends.HoldsGtx me gid slot) (replier : Process) (own : Bool)
    (free : ℕ) :
    globalTxAcquire backends.table replier gid false true own free =
      if own = true ∧ (backends.table.slots slot).orphaned = false then .busy
      else .wait := by
  obtain ⟨-, -, isEntry, isLocked⟩ := held
  simp [globalTxAcquire, isEntry, isLocked]

theorem answersEmpty1a_iff
    {backends : Backends Gid Process} {me : Process} {slot : ℕ}
    {request : TxRequest Gid} (held : backends.HoldsGtx me request.gid slot)
    (around : Surroundings Gid) (replier : Process) (sender free : ℕ) :
    AnswersEmpty1a around backends replier sender request free ↔
      request.coordinator = around.myNodeId ∧
        (backends.table.slots slot).orphaned = false := by
  unfold AnswersEmpty1a handle1aAtOnce
  rw [globalTxAcquire_held held]
  by_cases live : request.coordinator = around.myNodeId ∧
      (backends.table.slots slot).orphaned = false
  · simp [live, Attempt.returned, handle1a, Surroundings.returning,
      Handling.reply1a, Handling.current, TxsetEntry.ofRequest]
  · simp [live, Attempt.returned]

theorem answersEmpty2a_iff
    {backends : Backends Gid Process} {me : Process} {slot : ℕ}
    {request : TxRequest Gid} (held : backends.HoldsGtx me request.gid slot)
    (around : Surroundings Gid) (parseNodeId : Gid → Option ℕ)
    (replier : Process) (sender free : ℕ) :
    AnswersEmpty2a around parseNodeId backends replier sender request free ↔
      parseNodeId request.gid = some around.myNodeId ∧
        (backends.table.slots slot).orphaned = false := by
  unfold AnswersEmpty2a handle2aAtOnce
  rw [globalTxAcquire_held held]
  by_cases live : parseNodeId request.gid = some around.myNodeId ∧
      (backends.table.slots slot).orphaned = false
  · simp [live, Attempt.returned, handle2a, Surroundings.returning, respond2a,
      Response2A.empty]
  · simp [live, Attempt.returned]

variable [Inhabited Gid]

theorem reachable_markedOk
    {myNodeId : ℕ} {backends : Backends Gid Process}
    (reachable : (backendMachine myNodeId).Reachable Machine.Always backends) :
    MarkedOk backends := by
  refine Machine.Reachable.invariant ?_ ?_ reachable
  · intro me sequence gid slot isMarked
    cases isMarked
  · intro current action ok enabled _
    exact ok.step enabled

/-- In a reachable state, a transaction that is not orphaned belongs to a
backend that is not past the mark. -/
theorem notYetMarked_iff
    {myNodeId : ℕ} {backends : Backends Gid Process}
    (reachable : (backendMachine myNodeId).Reachable Machine.Always backends)
    {me : Process} {gid : Gid} {slot : ℕ}
    (held : backends.HoldsGtx me gid slot) :
    (backends.table.slots slot).orphaned = false ↔
      backends.NotYetMarked me slot := by
  constructor
  · intro notOrphaned
    obtain ⟨isInside, isHeld, -, isMine⟩ := held
    refine ⟨?_, notOrphaned⟩
    cases isStage : backends.stage me with
    | outside => exact absurd isStage isInside
    | acquired sequence => exact ⟨sequence, rfl⟩
    | marked sequence =>
        have orphaned := reachable_markedOk reachable me sequence gid slot
          isStage isHeld isMine
        rw [notOrphaned] at orphaned
        cases orphaned
  · intro notYet
    exact notYet.2

/-- While a backend of this node holds a transaction in `MtmTwoPhaseCommit` or
`MtmExplicitPrepare`, the replier answers a request about it with an empty
status and without waiting exactly when the request names this node as the
coordinator and the transaction is not marked as orphaned yet. -/
theorem replier_does_not_wait_iff
    (around : Surroundings Gid) (parseNodeId : Gid → Option ℕ)
    {backends : Backends Gid Process}
    (reachable : (backendMachine around.myNodeId).Reachable Machine.Always
      backends)
    {me : Process} {slot : ℕ} {request : TxRequest Gid}
    (held : backends.HoldsGtx me request.gid slot)
    (replier : Process) (sender free : ℕ) :
    (AnswersEmpty1a around backends replier sender request free ↔
      request.coordinator = around.myNodeId ∧
        backends.NotYetMarked me slot) ∧
    (AnswersEmpty2a around parseNodeId backends replier sender request free ↔
      parseNodeId request.gid = some around.myNodeId ∧
        backends.NotYetMarked me slot) := by
  rw [← notYetMarked_iff reachable held]
  exact ⟨answersEmpty1a_iff held around replier sender free,
    answersEmpty2a_iff held around parseNodeId replier sender free⟩

end Marked

/-! ## A backend in `MtmTwoPhaseCommit` -/

/-- Process zero of node one has acquired transaction zero. -/
def justAcquired : Backends (Fin 1) (Fin 2) :=
  backendEffect 1 (backendMachine 1).init (.acquire 0 .twoPhaseCommit 0 0)

/-- The same backend after the next statements. -/
def afterMark : Backends (Fin 1) (Fin 2) :=
  backendEffect 1 justAcquired (.mark 0)

theorem justAcquired_reachable :
    (backendMachine 1).Reachable Machine.Always justAcquired := by
  have enabled : (backendMachine 1).Enabled (backendMachine 1).init
      (.acquire (0 : Fin 2) .twoPhaseCommit (0 : Fin 1) 0) :=
    ⟨rfl, rfl, fun gid inHash => by cases inHash⟩
  exact Machine.Run.step (Machine.Run.refl _) enabled trivial

theorem afterMark_reachable :
    (backendMachine 1).Reachable Machine.Always afterMark := by
  have enabled : (backendMachine 1).Enabled justAcquired (.mark 0) := by
    refine ⟨⟨.twoPhaseCommit, rfl⟩, ?_⟩
    rintro ⟨isExplicit, -⟩
    cases isExplicit
  exact Machine.Run.step justAcquired_reachable enabled trivial

/-- A WAL with one record. -/
def quietLog : Wal.Log (Fin 1) where
  geometry := .standard
  records := [⟨16777256, 16777400, .other⟩]
  flush := 16777400
  redo := 16777256
  removed := 0

/-- A node with a replier and nothing else to know. -/
def aroundIdle : Surroundings (Fin 1) where
  myNodeId := 1
  destId := fun sender => sender
  isExplicit2PC := fun _ => false
  acquireNowait := fun _ => .missing
  acquireWaiting := fun _ => none
  lastOnlineIn := 0
  wal := quietLog
  readError := none
  order := id
  order_perm := fun _ => List.Perm.refl _

/-- A request of node two about the transaction. -/
def resolverRequest : TxRequest (Fin 1) where
  type := .status
  term := { ballot := 5, nodeId := 2 }
  gid := 0
  coordinator := 1
  genNum := 3

theorem replier_does_not_wait_justAcquired :
    AnswersEmpty1a aroundIdle justAcquired 1 2 resolverRequest 1 ∧
      AnswersEmpty2a aroundIdle (fun _ => some 1) justAcquired 1 2
        resolverRequest 1 := by
  have held : justAcquired.HoldsGtx 0 resolverRequest.gid 0 :=
    ⟨by decide, rfl, rfl, rfl⟩
  have notYet : justAcquired.NotYetMarked 0 0 := ⟨⟨.twoPhaseCommit, rfl⟩, rfl⟩
  have answers := replier_does_not_wait_iff aroundIdle (fun _ => some 1)
    justAcquired_reachable held 1 2 1
  exact ⟨answers.1.mpr ⟨rfl, notYet⟩, answers.2.mpr ⟨rfl, notYet⟩⟩

/-- The backend is at work on its transaction, and the replier waits for it. -/
theorem replier_waits_for_backend :
    (backendMachine 1).Reachable Machine.Always afterMark ∧
      afterMark.HoldsGtx 0 resolverRequest.gid 0 ∧
      ¬ AnswersEmpty1a aroundIdle afterMark 1 2 resolverRequest 1 ∧
      ¬ AnswersEmpty2a aroundIdle (fun _ => some 1) afterMark 1 2
        resolverRequest 1 := by
  have held : afterMark.HoldsGtx 0 resolverRequest.gid 0 :=
    ⟨by decide, rfl, rfl, rfl⟩
  refine ⟨afterMark_reachable, held, ?_, ?_⟩
  · rw [answersEmpty1a_iff held]
    decide
  · rw [answersEmpty2a_iff held]
    decide

end Status
end Multimaster
