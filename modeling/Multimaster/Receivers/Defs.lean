import Multimaster.Lib.Machine
import Multimaster.Lib.Count

/-!
# Registration of the logical receivers

Every receiver process reads the mode it should work in, and registers under
`Mtm->lock` unless a receiver works that must exclude it.  A receiver in recovery
applies by itself, one in normal mode through the workers of its pool.  On any
error, and when the mode changes, the process ends through
`pglogical_receiver_at_exit`, which waits for the workers before it takes itself
out of the counters.  The monitor starts a receiver again only when the old
process has stopped.
-/

namespace Multimaster
namespace Receivers

/-- `MtmReplicationMode`; `REPLMODE_DISABLED` is `none`. -/
inductive Mode
  | recovery
  | normal
  deriving DecidableEq

/-- `receive_mode` of the node; a donor tells to recover from it. -/
inductive ReceiveMode (Sender : Type*)
  | disabled
  | normal
  | donor (sender : Sender)
  deriving DecidableEq

/-- `MtmGetReceiverMode` -/
def ReceiveMode.mtmGetReceiverMode
    {Sender : Type*} [DecidableEq Sender] (receiveMode : ReceiveMode Sender)
    (sender : Sender) : Option Mode :=
  match receiveMode with
  | .disabled => none
  | .normal => some .normal
  | .donor node => if node = sender then some .recovery else none

/-- Where a receiver process is. -/
inductive Pc
  | notStarted
  /-- The exit hook is registered. -/
  | started
  /-- The pool is there; at the top of the registration loop. -/
  | looping
  /-- The mode was read, `Mtm->lock` is not yet taken. -/
  | modeRead (mode : Option Mode)
  | working
  /-- In `pglogical_receiver_at_exit`. -/
  | exiting
  /-- `BgwPoolCancel` has returned. -/
  | poolCancelled
  | gone
  deriving DecidableEq

/-- A receiver process; `mode` is `rctx->w.mode`. -/
structure Receiver where
  pc : Pc
  mode : Option Mode
  deriving DecidableEq

/-- The live workers of a pool: those with a handle in `bgwhandles`, and those
whose handle is lost. -/
structure Pool where
  tracked : ℕ
  orphaned : ℕ
  deriving DecidableEq

/-- The receivers of a node. -/
structure State (Process Sender : Type*) where
  receiveMode : ReceiveMode Sender
  nreceiversRecovery : ℤ
  nreceiversNormal : ℤ
  receiver : Process → Receiver
  pool : Sender → Pool

/-- The steps of the receivers and of what is around them. -/
inductive Action (Process Sender : Type*)
  /-- A generation switch sets `receive_mode`. -/
  | setReceiveMode (mode : ReceiveMode Sender)
  /-- The monitor starts the receiver. -/
  | start (process : Process)
  | bgwPoolStart (process : Process)
  | readMode (process : Process)
  /-- The section under `Mtm->lock` in the registration loop. -/
  | register (process : Process)
  | bgwStartExtraWorker (process : Process)
  /-- A worker of the pool ends, by itself or by a signal. -/
  | workerExit (sender : Sender)
  | orphanExit (sender : Sender)
  /-- An error or an exit at any point of the process. -/
  | fail (process : Process)
  /-- `BgwPoolCancel` has waited for the workers. -/
  | bgwPoolCancel (process : Process)
  /-- The section under `Mtm->lock` in the exit hook. -/
  | checkOut (process : Process)

section Machine

variable {Process Sender : Type*} [DecidableEq Process] [DecidableEq Sender]

/-- The process stopped or was not started. -/
def Receiver.Stopped (receiver : Receiver) : Prop :=
  receiver.pc = .notStarted ∨ receiver.pc = .gone

instance (receiver : Receiver) : Decidable receiver.Stopped :=
  inferInstanceAs (Decidable (_ ∨ _))

/-- A process that is not in its exit hook. -/
def Receiver.Running (receiver : Receiver) : Prop :=
  ¬receiver.Stopped ∧ receiver.pc ≠ .exiting ∧ receiver.pc ≠ .poolCancelled

instance (receiver : Receiver) : Decidable receiver.Running :=
  inferInstanceAs (Decidable (_ ∧ _))

/-- The condition under which a receiver may register in the mode. -/
def State.Free (state : State Process Sender) : Mode → Prop
  | .recovery => state.nreceiversRecovery = 0 ∧ state.nreceiversNormal = 0
  | .normal => state.nreceiversRecovery = 0

instance (state : State Process Sender) (mode : Mode) :
    Decidable (state.Free mode) :=
  match mode with
  | .recovery => inferInstanceAs (Decidable (_ ∧ _))
  | .normal => inferInstanceAs (Decidable (_ = _))

/-- Add to the counter of a mode. -/
def State.count (state : State Process Sender) (amount : ℤ) :
    Mode → State Process Sender
  | .recovery => { state with
      nreceiversRecovery := state.nreceiversRecovery + amount }
  | .normal => { state with nreceiversNormal := state.nreceiversNormal + amount }

/-- Replace a process. -/
def State.set
    (state : State Process Sender) (process : Process) (receiver : Receiver) :
    State Process Sender :=
  { state with receiver := Function.update state.receiver process receiver }

/-- Replace a pool. -/
def State.setPool
    (state : State Process Sender) (sender : Sender) (pool : Pool) :
    State Process Sender :=
  { state with pool := Function.update state.pool sender pool }

omit [DecidableEq Process] in
@[simp] theorem State.setPool_pool
    (state : State Process Sender) (sender : Sender) (pool : Pool) :
    (state.setPool sender pool).pool = Function.update state.pool sender pool :=
      rfl

variable (senderOf : Process → Sender)

/-- The guards. -/
def Enabled (state : State Process Sender) : Action Process Sender → Prop
  | .setReceiveMode _ => True
  | .start process =>
    (state.receiver process).pc = .notStarted ∧
      ∀ other, senderOf other = senderOf process → (state.receiver other).Stopped
  | .bgwPoolStart process => (state.receiver process).pc = .started
  | .readMode process => (state.receiver process).pc = .looping
  | .register process => ∃ mode, (state.receiver process).pc = .modeRead mode
  | .bgwStartExtraWorker process =>
    (state.receiver process).pc = .working ∧
      (state.receiver process).mode = some .normal
  | .workerExit sender => 0 < (state.pool sender).tracked
  | .orphanExit sender => 0 < (state.pool sender).orphaned
  | .fail process => (state.receiver process).Running
  | .bgwPoolCancel process =>
    (state.receiver process).pc = .exiting ∧
      (state.pool (senderOf process)).tracked = 0
  | .checkOut process => (state.receiver process).pc = .poolCancelled

/-- The registration of a process that read the mode. -/
def State.register
    (state : State Process Sender) (process : Process) (mode : Option Mode) :
    State Process Sender :=
  match mode with
  | none => state.set process { pc := .looping, mode := none }
  | some mode =>
    if state.Free mode then
      (state.count 1 mode).set process { pc := .working, mode := some mode }
    else
      state.set process { pc := .looping, mode := none }

/-- The counters after the exit hook. -/
def State.checkOut (state : State Process Sender) (process : Process) :
    State Process Sender :=
  match (state.receiver process).mode with
  | some mode =>
    (state.count (-1) mode).set process { pc := .gone, mode := some mode }
  | none => state.set process { pc := .gone, mode := none }

/-- The effects. -/
def effect (state : State Process Sender) :
    Action Process Sender → State Process Sender
  | .setReceiveMode mode => { state with receiveMode := mode }
  | .start process => state.set process { pc := .started, mode := none }
  | .bgwPoolStart process =>
    let pool := state.pool (senderOf process)
    (state.setPool (senderOf process)
        { tracked := 0, orphaned := pool.orphaned + pool.tracked }).set process
      { (state.receiver process) with pc := .looping }
  | .readMode process =>
    state.set process
      { (state.receiver process) with
        pc := .modeRead
          (state.receiveMode.mtmGetReceiverMode (senderOf process)) }
  | .register process =>
    match (state.receiver process).pc with
    | .modeRead mode => state.register process mode
    | _ => state
  | .bgwStartExtraWorker process =>
    let pool := state.pool (senderOf process)
    state.setPool (senderOf process) { pool with tracked := pool.tracked + 1 }
  | .workerExit sender =>
    state.setPool sender
      { (state.pool sender) with tracked := (state.pool sender).tracked - 1 }
  | .orphanExit sender =>
    state.setPool sender
      { (state.pool sender) with orphaned := (state.pool sender).orphaned - 1 }
  | .fail process =>
    state.set process { (state.receiver process) with pc := .exiting }
  | .bgwPoolCancel process =>
    state.set process { (state.receiver process) with pc := .poolCancelled }
  | .checkOut process => state.checkOut process

/-- The receivers of a node after its start. -/
def machine : Machine (State Process Sender) (Action Process Sender) where
  init :=
    { receiveMode := .disabled
      nreceiversRecovery := 0
      nreceiversNormal := 0
      receiver := fun _ => { pc := .notStarted, mode := none }
      pool := fun _ => { tracked := 0, orphaned := 0 } }
  Enabled := Enabled senderOf
  effect := effect senderOf

end Machine

end Receivers
end Multimaster
