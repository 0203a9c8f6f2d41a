import Multimaster.Gtx.Basic
import Multimaster.Lib.Machine
import Mathlib.Data.Fintype.Basic

/-!
# The table of global transactions

The hash `gid2gtx` in shared memory and the functions that lock its entries.
An entry lies in a slot of the shared memory; processes hold pointers to slots,
and a removed entry leaves its slot to be used again.

All sections under `gtx_shared->lock` are single actions.  What a process does
with the entry it holds is given by the writes of its callers: to the entry
itself and to `state_3pc` of the prepared transaction.
-/

namespace Multimaster
namespace Gtx

/-- `GlobalTx` without the arrays of votes. -/
structure Entry (Gid Process : Type*) where
  gid : Gid
  /-- `xinfo.coordinator`. -/
  coordinator : ℕ
  /-- `acquired_by`; `none` is `InvalidBackendId`. -/
  acquiredBy : Option Process
  state : GTxState
  prepared : Bool
  orphaned : Bool
  resolverStage : GlobalTxResolvingStage

/-- The parsed `state_3pc` of a prepared transaction. -/
structure XState where
  coordinator : ℕ
  state : GTxState

/-- The table, the processes that use it and the prepared transactions. -/
structure Table (Gid Process : Type*) where
  slots : ℕ → Entry Gid Process
  /-- `gid2gtx`. -/
  hash : Gid → Option ℕ
  /-- The transaction each process has acquired and not released yet, with its
  pointer. -/
  holding : Process → Option (Gid × ℕ)
  /-- The prepared transactions of Postgres, with their `state_3pc` if it can be
  deparsed. -/
  pxacts : List (Gid × Option XState)

variable {Gid Process : Type*} [DecidableEq Gid] [DecidableEq Process]

/-- The status is final. -/
def GlobalTxStatus.Final (status : GlobalTxStatus) : Prop :=
  status = .committed ∨ status = .aborted

instance (status : GlobalTxStatus) : Decidable status.Final :=
  inferInstanceAs (Decidable (_ ∨ _))

/-- Write to a slot. -/
def Table.modify
    (table : Table Gid Process) (slot : ℕ)
    (change : Entry Gid Process → Entry Gid Process) :
    Table Gid Process :=
  { table with
    slots := Function.update table.slots slot (change (table.slots slot)) }

/-- The slot is not used by the hash. -/
def Table.Unused (table : Table Gid Process) (slot : ℕ) : Prop :=
  ∀ gid, table.hash gid ≠ some slot

/-! ## Acquire and release -/

/-- The outcome of one round of the loop in `GlobalTxAcquire`. -/
inductive Attempt (Gid Process : Type*)
  | acquired (table : Table Gid Process)
  /-- `NULL`: there is no such transaction. -/
  | missing
  /-- `NULL` with `*busy`: the backend is still working on it. -/
  | busy
  /-- Sleep and try again. -/
  | wait

/-- A new entry; `xinfo` is left to the caller. -/
def Entry.create
    (entry : Entry Gid Process) (gid : Gid) (me : Process) :
    Entry Gid Process :=
  { entry with
    gid := gid
    acquiredBy := some me
    state := GTxState.created
    prepared := false
    orphaned := false
    resolverStage := .awaitStatus }

/-- The process holds the entry in this slot. -/
def Table.hold
    (table : Table Gid Process) (me : Process) (gid : Gid) (slot : ℕ) :
    Table Gid Process :=
  { table with
    holding := Function.update table.holding me (some (gid, slot)) }

/-- One round of the loop in `GlobalTxAcquire`, with the slot `HASH_ENTER` would
take.  `own` says that this node is the coordinator passed. -/
def globalTxAcquire
    (table : Table Gid Process) (me : Process) (gid : Gid)
    (create nowaitOwnLive own : Bool) (free : ℕ) : Attempt Gid Process :=
  match table.hash gid with
  | none =>
      if create then
        .acquired
          { (table.modify free fun entry => entry.create gid me).hold
              me gid free with
            hash := Function.update table.hash gid (some free) }
      else .missing
  | some slot =>
      if (table.slots slot).acquiredBy = none then
        .acquired ((table.modify slot fun entry =>
          { entry with acquiredBy := some me }).hold me gid slot)
      else if nowaitOwnLive ∧ own ∧ (table.slots slot).orphaned = false then
        .busy
      else .wait

/-- `GlobalTxRelease`: unlock, and remove the entry if it is finished or was
never prepared. -/
def globalTxRelease
    (table : Table Gid Process) (me : Process) (slot : ℕ) :
    Table Gid Process :=
  let released :=
    { table.modify slot fun entry => { entry with acquiredBy := none } with
      holding := Function.update table.holding me none }
  if (table.slots slot).state.status.Final ∨
      (table.slots slot).prepared = false then
    { released with
      hash := Function.update table.hash (table.slots slot).gid none }
  else released

/-! ## Sections over the whole table -/

/-- `GlobalTxMarkOrphaned`. -/
def globalTxMarkOrphaned
    (table : Table Gid Process) (node : ℕ) : Table Gid Process :=
  { table with
    slots := fun slot =>
      let entry := table.slots slot
      if table.hash entry.gid = some slot ∧ entry.coordinator = node then
        { entry with orphaned := true }
      else entry }

/-- The entry of a prepared transaction after `GlobalTxLoadAll`. -/
def Entry.load
    (entry : Entry Gid Process) (gid : Gid) (xstate : XState) :
    Entry Gid Process :=
  { entry with
    gid := gid
    coordinator := xstate.coordinator
    acquiredBy := none
    state := xstate.state
    prepared := true
    orphaned := true
    resolverStage := .awaitStatus }

/-- `HASH_ENTER` of a prepared transaction; without a state that can be deparsed
the entry is removed again. -/
def Table.enter
    (table : Table Gid Process) (gid : Gid) (slot : ℕ) :
    Option XState → Table Gid Process
  | some xstate =>
      { table.modify slot fun entry => entry.load gid xstate with
        hash := Function.update table.hash gid (some slot) }
  | none =>
      table.modify slot fun entry =>
        { entry with gid := gid, acquiredBy := none }

/-- The loop of `GlobalTxLoadAll` over the prepared transactions, with the slots
taken one after another. -/
def Table.load
    (table : Table Gid Process) :
    List (Gid × Option XState) → List ℕ → Table Gid Process
  | (gid, xstate) :: rest, slot :: slots =>
      (table.enter gid slot xstate).load rest slots
  | _, _ => table

/-- `GlobalTxLoadAll`: remove all entries, then enter one for every prepared
transaction. -/
def globalTxLoadAll
    (table : Table Gid Process) (slots : List ℕ) : Table Gid Process :=
  { table with hash := fun _ => none }.load table.pxacts slots

/-! ## The machine -/

/-- The actions of the processes of a node. -/
inductive TableAction (Gid Process : Type*)
  /-- A round of `GlobalTxAcquire`. -/
  | acquire (me : Process) (gid : Gid)
      (create nowaitOwnLive own : Bool) (free : ℕ)
  /-- The holder fills in `xinfo` and `orphaned` of a new entry. -/
  | describe (me : Process) (coordinator : ℕ) (orphaned : Bool)
  /-- `PREPARE` with the state of the entry. -/
  | logPrepare (me : Process)
  /-- The holder sets `prepared`. -/
  | markPrepared (me : Process)
  /-- `SetPreparedTransactionState` and the same state in the entry. -/
  | setState (me : Process) (state : GTxState)
  /-- `FinishPreparedTransaction`. -/
  | logFinish (me : Process)
  /-- The holder sets the final status. -/
  | markFinished (me : Process) (commit : Bool)
  /-- `GlobalTxRelease`, also by `GlobalTxAtExit`. -/
  | release (me : Process)
  | markOrphaned (node : ℕ)
  /-- `scatter_status_requests` stamps a term on an entry nobody holds. -/
  | stamp (gid : Gid) (term : GlobalTxTerm)
  /-- A prepared transaction of Postgres that multimaster does not know. -/
  | prepareForeign (gid : Gid)
  /-- `GlobalTxLoadAll` by a monitor that starts. -/
  | loadAll (slots : List ℕ)
  /-- All processes are gone and the shared memory is set up again. -/
  | shmemReset

/-- The process holds an entry that satisfies a property. -/
def Table.Holds
    (table : Table Gid Process) (me : Process)
    (property : Gid → Entry Gid Process → Prop) : Prop :=
  ∃ held ∈ table.holding me, property held.1 (table.slots held.2)

/-- The transaction is prepared in Postgres. -/
def Table.IsPxact (table : Table Gid Process) (gid : Gid) : Prop :=
  gid ∈ table.pxacts.map Prod.fst

/-- Whether an action can be taken. -/
def TableEnabled (table : Table Gid Process) :
    TableAction Gid Process → Prop
  | .acquire me _ _ _ _ free =>
      table.holding me = none ∧ table.Unused free
  | .describe me _ _ =>
      table.Holds me fun _ entry => entry.prepared = false
  | .logPrepare me =>
      table.Holds me fun gid entry =>
        entry.prepared = false ∧ ¬ table.IsPxact gid
  | .markPrepared me =>
      table.Holds me fun gid entry =>
        entry.prepared = false ∧ table.IsPxact gid
  | .setState me state =>
      ¬ state.status.Final ∧
        table.Holds me fun gid entry =>
          entry.prepared = true ∧ table.IsPxact gid
  | .logFinish me =>
      table.Holds me fun gid entry =>
        entry.prepared = true ∧ table.IsPxact gid
  | .markFinished me _ =>
      table.Holds me fun gid entry =>
        entry.prepared = true ∧ ¬ table.IsPxact gid
  | .release me => table.Holds me fun _ _ => True
  | .markOrphaned _ => True
  | .stamp gid _ =>
      ∃ slot ∈ table.hash gid, (table.slots slot).acquiredBy = none ∧
        (table.slots slot).orphaned = true
  | .prepareForeign gid => ¬ table.IsPxact gid
  | .loadAll slots =>
      slots.Nodup ∧ slots.length = table.pxacts.length
  | .shmemReset => True

/-- Write to the entry the process holds. -/
def Table.write
    (table : Table Gid Process) (me : Process)
    (change : Entry Gid Process → Entry Gid Process) :
    Table Gid Process :=
  match table.holding me with
  | some (_, slot) => table.modify slot change
  | none => table

/-- Write `state_3pc` of a transaction. -/
def setXState
    (pxacts : List (Gid × Option XState)) (gid : Gid) (state : GTxState) :
    List (Gid × Option XState) :=
  pxacts.map fun pxact =>
    if pxact.1 = gid then
      (gid, pxact.2.map fun xstate => { xstate with state := state })
    else pxact

/-- The state after an action. -/
def tableEffect (table : Table Gid Process) :
    TableAction Gid Process → Table Gid Process
  | .acquire me gid create nowaitOwnLive own free =>
      match globalTxAcquire table me gid create nowaitOwnLive own free with
      | .acquired acquired => acquired
      | _ => table
  | .describe me coordinator orphaned =>
      table.write me fun entry =>
        { entry with coordinator := coordinator, orphaned := orphaned }
  | .logPrepare me =>
      match table.holding me with
      | some (gid, slot) =>
          { table with
            pxacts := (gid, some
              { coordinator := (table.slots slot).coordinator
                state := (table.slots slot).state }) :: table.pxacts }
      | none => table
  | .markPrepared me =>
      table.write me fun entry => { entry with prepared := true }
  | .setState me state =>
      match table.holding me with
      | some (gid, slot) =>
          { table.modify slot fun entry => { entry with state := state } with
            pxacts := setXState table.pxacts gid state }
      | none => table
  | .logFinish me =>
      match table.holding me with
      | some (gid, _) =>
          { table with
            pxacts := table.pxacts.filter fun pxact => pxact.1 ≠ gid }
      | none => table
  | .markFinished me commit =>
      table.write me fun entry =>
        { entry with
          state :=
            { entry.state with
              status := if commit then .committed else .aborted } }
  | .release me =>
      match table.holding me with
      | some (_, slot) => globalTxRelease table me slot
      | none => table
  | .markOrphaned node => globalTxMarkOrphaned table node
  | .stamp gid term =>
      match table.hash gid with
      | some slot =>
          let state := { (table.slots slot).state with proposal := term }
          { table.modify slot fun entry =>
              { entry with
                state := state
                resolverStage := .awaitStatus } with
            pxacts := setXState table.pxacts gid state }
      | none => table
  | .prepareForeign gid =>
      { table with pxacts := (gid, none) :: table.pxacts }
  | .loadAll slots => globalTxLoadAll table slots
  | .shmemReset =>
      { table with hash := fun _ => none, holding := fun _ => none }

/-- The machine of the table on a node without prepared transactions. -/
def tableMachine [Inhabited Gid] :
    Machine (Table Gid Process) (TableAction Gid Process) where
  init :=
    { slots := fun _ =>
        { gid := default
          coordinator := 0
          acquiredBy := none
          state := GTxState.empty
          prepared := false
          orphaned := false
          resolverStage := .awaitStatus }
      hash := fun _ => none
      holding := fun _ => none
      pxacts := [] }
  Enabled := TableEnabled
  effect := tableEffect

/-- The side condition on runs: `GlobalTxLoadAll` runs only when no process
holds an entry. -/
def LoadsUnheld (table : Table Gid Process) :
    TableAction Gid Process → Prop
  | .loadAll _ => ∀ me, table.holding me = none
  | _ => True

end Gtx
end Multimaster
