import Multimaster.Lib.Machine
import Multimaster.Lib.Count

/-!
# The prepare barrier

Preparers are let in unless a holder excludes them.  A holder registers first,
so that no new preparer comes in, and then waits for those inside to leave.  The
counters are changed under `cb_lock`; each critical section is one step here.
-/

namespace Multimaster
namespace Barrier

/-- `PrepareBarrierMode`; `PB_NONE` is `none`. -/
inductive Mode
  /-- An applier who prepares. -/
  | applyPreparer
  /-- A backend who prepares. -/
  | backendPreparer
  /-- Blocks only backends from preparing. -/
  | backendHolder
  /-- Blocks everyone from preparing. -/
  | fullHolder
  deriving DecidableEq

/-- The mode `AcquirePBByPreparer` asks for. -/
def preparerMode (backend : Bool) : Mode :=
  if backend then .backendPreparer else .applyPreparer

/-- The mode `AcquirePBByHolder` asks for. -/
def holderMode (full : Bool) : Mode :=
  if full then .fullHolder else .backendHolder

/-- The counters in `MtmState`. -/
structure Counters where
  nApplyPreparers : ℤ
  nBackendPreparers : ℤ
  nBackendHolders : ℤ
  nFullHolders : ℤ
  deriving DecidableEq

namespace Counters

/-- The counters after `MtmStateShmemStartup`. -/
def zero : Counters where
  nApplyPreparers := 0
  nBackendPreparers := 0
  nBackendHolders := 0
  nFullHolders := 0

/-- The counter of a mode. -/
def of (counters : Counters) : Mode → ℤ
  | .applyPreparer => counters.nApplyPreparers
  | .backendPreparer => counters.nBackendPreparers
  | .backendHolder => counters.nBackendHolders
  | .fullHolder => counters.nFullHolders

/-- Add to the counter of a mode. -/
def add (counters : Counters) (amount : ℤ) : Mode → Counters
  | .applyPreparer =>
      { counters with nApplyPreparers := counters.nApplyPreparers + amount }
  | .backendPreparer =>
      { counters with
        nBackendPreparers := counters.nBackendPreparers + amount }
  | .backendHolder =>
      { counters with nBackendHolders := counters.nBackendHolders + amount }
  | .fullHolder =>
      { counters with nFullHolders := counters.nFullHolders + amount }

/-- No holder keeps the preparer out. -/
def Admits (counters : Counters) (backend : Bool) : Prop :=
  if backend then counters.nBackendHolders = 0 ∧ counters.nFullHolders = 0
  else counters.nFullHolders = 0

instance (counters : Counters) (backend : Bool) :
    Decidable (counters.Admits backend) :=
  inferInstanceAs (Decidable (if backend then _ else _))

/-- No preparer is left that the holder excludes. -/
def Drained (counters : Counters) (full : Bool) : Prop :=
  counters.nBackendPreparers = 0 ∧
    (full = false ∨ counters.nApplyPreparers = 0)

instance (counters : Counters) (full : Bool) :
    Decidable (counters.Drained full) :=
  inferInstanceAs (Decidable (_ ∧ _))

/-- The counters after the locked part of `ReleasePB`. -/
def release (counters : Counters) (acquired : Option Mode) : Counters :=
  match acquired with
  | none => counters
  | some mode => counters.add (-1) mode

theorem of_add
    (counters : Counters) (amount : ℤ) (changed mode : Mode) :
    (counters.add amount changed).of mode =
      counters.of mode + amount * share (some changed) mode := by
  cases changed <;> cases mode <;> simp [add, of, share]

theorem of_release
    (counters : Counters) (acquired : Option Mode) (mode : Mode) :
    (counters.release acquired).of mode =
      counters.of mode - share acquired mode := by
  cases acquired with
  | none => simp [release]
  | some changed =>
      rw [release, of_add]
      omega

/-- A registration is given back. -/
theorem release_add (counters : Counters) (mode : Mode) :
    (counters.add 1 mode).release (some mode) = counters := by
  cases mode <;> simp only [release, add, Int.add_neg_cancel_right]

end Counters

/-- Where a process is. -/
inductive Pc
  /-- In none of the three functions, and nothing is acquired. -/
  | outside
  /-- At the check of `AcquirePBByPreparer`. -/
  | admission (backend : Bool)
  /-- In the sleep of `AcquirePBByPreparer`. -/
  | admissionSleep (backend : Bool)
  /-- Past `AcquirePBByPreparer`. -/
  | preparing (backend : Bool)
  /-- At the registration of `AcquirePBByHolder`. -/
  | registration (full : Bool)
  /-- At the check of `AcquirePBByHolder`. -/
  | drain (full : Bool)
  /-- In the sleep of `AcquirePBByHolder`. -/
  | drainSleep (full : Bool)
  /-- Past `AcquirePBByHolder`. -/
  | holding (full : Bool)
  /-- In `ReleasePB`, after the counter is lowered. -/
  | releasing
  deriving DecidableEq

/-- A process with its static variables. -/
structure Proc where
  pc : Pc
  /-- `pb_acquired_in_mode`. -/
  acquired : Option Mode
  /-- `pb_hook_registred`. -/
  hookRegistered : Bool
  deriving DecidableEq

/-- A process that has just been started. -/
def Proc.fresh : Proc where
  pc := .outside
  acquired := none
  hookRegistered := false

/-- The mode a process is counted in: the acquired one, until `ReleasePB` gives
the registration back. -/
def Proc.mode (process : Proc) : Option Mode :=
  if process.pc = .releasing then none else process.acquired

/-- The shared counters and the processes. -/
structure State (Process : Type*) where
  counters : Counters
  proc : Process → Proc

/-- The steps of a process. -/
inductive Action (Process : Type*)
  /-- Call `AcquirePBByPreparer`. -/
  | callPreparer (process : Process) (backend : Bool)
  /-- The locked section of `AcquirePBByPreparer`. -/
  | pass (process : Process)
  /-- Call `AcquirePBByHolder`. -/
  | callHolder (process : Process) (full : Bool)
  /-- The first locked section of `AcquirePBByHolder`. -/
  | register (process : Process)
  /-- The locked section in the loop of `AcquirePBByHolder`. -/
  | drain (process : Process)
  /-- `ConditionVariableSleep` returns. -/
  | wake (process : Process)
  /-- `ConditionVariableSleep` throws. -/
  | throw (process : Process)
  /-- The locked section of `ReleasePB`, or its early return. -/
  | release (process : Process)
  /-- The rest of `ReleasePB`. -/
  | finishRelease (process : Process)
  /-- The process exits, with `PBOnExit` if it is registered. -/
  | exit (process : Process)
  deriving DecidableEq

variable {Process : Type*} [DecidableEq Process]

/-- Replace one process. -/
def State.set
    (state : State Process) (process : Process) (proc : Proc) :
    State Process :=
  { state with proc := Function.update state.proc process proc }

/-- The locked section of `ReleasePB` for a process that goes on at `pc`. -/
def State.releasePB
    (state : State Process) (process : Process) (proc : Proc) :
    State Process where
  counters := state.counters.release (state.proc process).acquired
  proc := Function.update state.proc process proc

/-- Which steps a process can take.  Interrupts are not served inside
`ReleasePB`. -/
def Enabled (state : State Process) : Action Process → Prop
  | .callPreparer process _ => (state.proc process).pc = .outside
  | .callHolder process _ => (state.proc process).pc = .outside
  | .pass process => ∃ backend, (state.proc process).pc = .admission backend
  | .register process => ∃ full, (state.proc process).pc = .registration full
  | .drain process => ∃ full, (state.proc process).pc = .drain full
  | .wake process | .throw process =>
      (∃ backend, (state.proc process).pc = .admissionSleep backend) ∨
        ∃ full, (state.proc process).pc = .drainSleep full
  | .release process =>
      (state.proc process).pc = .outside ∨
        (∃ backend, (state.proc process).pc = .preparing backend) ∨
          ∃ full, (state.proc process).pc = .holding full
  | .finishRelease process => (state.proc process).pc = .releasing
  | .exit process => (state.proc process).pc ≠ .releasing

/-- The state after a step. -/
def effect (state : State Process) : Action Process → State Process
  | .callPreparer process backend =>
      state.set process
        { state.proc process with
          pc := .admission backend
          hookRegistered := true }
  | .callHolder process full =>
      state.set process
        { state.proc process with
          pc := .registration full
          hookRegistered := true }
  | .pass process =>
      match (state.proc process).pc with
      | .admission backend =>
          if state.counters.Admits backend then
            { counters := state.counters.add 1 (preparerMode backend)
              proc := Function.update state.proc process
                { state.proc process with
                  pc := .preparing backend
                  acquired := some (preparerMode backend) } }
          else
            state.set process
              { state.proc process with pc := .admissionSleep backend }
      | _ => state
  | .register process =>
      match (state.proc process).pc with
      | .registration full =>
          { counters := state.counters.add 1 (holderMode full)
            proc := Function.update state.proc process
              { state.proc process with
                pc := .drain full
                acquired := some (holderMode full) } }
      | _ => state
  | .drain process =>
      match (state.proc process).pc with
      | .drain full =>
          if state.counters.Drained full then
            state.set process { state.proc process with pc := .holding full }
          else
            state.set process
              { state.proc process with pc := .drainSleep full }
      | _ => state
  | .wake process =>
      match (state.proc process).pc with
      | .admissionSleep backend =>
          state.set process
            { state.proc process with pc := .admission backend }
      | .drainSleep full =>
          state.set process { state.proc process with pc := .drain full }
      | _ => state
  | .throw process =>
      match (state.proc process).pc with
      | .admissionSleep _ =>
          state.set process { state.proc process with pc := .outside }
      | .drainSleep _ =>
          -- `PG_CATCH` releases the barrier before it throws again
          state.releasePB process
            { state.proc process with pc := .releasing }
      | _ => state
  | .release process =>
      if (state.proc process).acquired = none then state
      else
        state.releasePB process { state.proc process with pc := .releasing }
  | .finishRelease process =>
      state.set process
        { state.proc process with
          pc := .outside
          acquired := none }
  | .exit process =>
      if (state.proc process).hookRegistered then
        state.releasePB process .fresh
      else state.set process .fresh

/-- The barrier with its processes. -/
def machine (Process : Type*) [DecidableEq Process] :
    Machine (State Process) (Action Process) where
  init := { counters := .zero, proc := fun _ => .fresh }
  Enabled := Enabled
  effect := effect

end Barrier
end Multimaster
