import Multimaster.Lib.Machine
import Mathlib.Data.Fintype.Basic

/-!
# Who waits for whom on a node

The processes of a node that take the prepare barrier, lock entries of the gtx
table, gather answers or switch generations, with the points where each of them
may wait.  Admission to the barrier and the drain of it are stated over the
processes inside; that the counters of the barrier count exactly these is shown
in `Multimaster.Barrier`.
-/

namespace Multimaster
namespace Waits

/-- What a process is running. -/
inductive Job (Gid : Type*)
  /-- `MtmTwoPhaseCommit` -/
  | twoPhaseCommit (gid : Gid)
  /-- `MtmExplicitPrepare`, with a gid chosen by the user. -/
  | explicitPrepare (gid : Gid)
  /-- `MtmExplicitFinishPrepared` -/
  | explicitFinishPrepared (gid : Gid)
  /-- `process_remote_commit` of a `PREPARE`. -/
  | applyPrepare (gid : Gid)
  /-- `process_remote_commit` of the other records, the handlers of the replier
  and those of the resolver: lock the entry, work on it, release it. -/
  | handle (gid : Gid)
  /-- `ResolveForRefereeWinner` -/
  | resolveForRefereeWinner
  /-- `MtmConsiderGenSwitch`, also under `MtmHandleParallelSafe`. -/
  | genSwitch
  deriving DecidableEq

/-- How far it got. -/
inductive Stage (Gid : Type*)
  /-- In `AcquirePBByPreparer`. -/
  | admission
  /-- Past it, before the entry is asked for. -/
  | barrier
  /-- In `GlobalTxAcquire`. -/
  | acquire (gid : Gid)
  /-- Past it. -/
  | locked (gid : Gid)
  /-- The barrier is released and the entry is not yet. -/
  | unlocking (gid : Gid)
  /-- In `gather` with the entry held, and whether a peer it waits for has left
  the generation. -/
  | gather (gid : Gid) (left : Bool)
  /-- In `gather` after the entry is released. -/
  | gatherFree (left : Bool)
  /-- In `AcquirePBByHolder`, registered. -/
  | registered
  /-- Past it. -/
  | holding
  deriving DecidableEq

variable {Gid : Type*} [DecidableEq Gid]

/-- A process at work. -/
structure Proc (Gid : Type*) where
  job : Job Gid
  stage : Stage Gid
  /-- The generation `gather` is called with. -/
  gen : ℕ
  deriving DecidableEq

/-- The job takes the barrier as a preparer. -/
def Job.prepares : Job Gid → Bool
  | .twoPhaseCommit _ => true
  | .explicitPrepare _ => true
  | .applyPrepare _ => true
  | .resolveForRefereeWinner => true
  | _ => false

/-- The job keeps its entry while it gathers. -/
def Job.coordinates : Job Gid → Bool
  | .twoPhaseCommit _ => true
  | .explicitPrepare _ => true
  | _ => false

/-- The job creates a missing entry. -/
def Job.creates : Job Gid → Bool
  | .twoPhaseCommit _ => true
  | .explicitPrepare _ => true
  | .applyPrepare _ => true
  | _ => false

/-- Where the job starts. -/
def Job.start : Job Gid → Stage Gid
  | .explicitFinishPrepared gid => .acquire gid
  | .handle gid => .acquire gid
  | .genSwitch => .registered
  | _ => .admission

/-- The entries a preparer asks for under the barrier.  The referee winner goes
over all orphaned ones, in a generation without peers. -/
def Job.mayReach (job : Job Gid) (peers : Bool) (gid : Gid) : Bool :=
  match job with
  | .twoPhaseCommit own => own = gid
  | .explicitPrepare own => own = gid
  | .applyPrepare own => own = gid
  | .resolveForRefereeWinner => !peers
  | _ => false

namespace Proc

/-- The process has the barrier as a preparer. -/
def underBarrier (proc : Proc Gid) : Bool :=
  proc.job.prepares &&
    match proc.stage with
    | .barrier => true
    | .acquire _ => true
    | .locked _ => true
    | _ => false

/-- The process is in `AcquirePBByHolder` or past it. -/
def switching (proc : Proc Gid) : Bool :=
  match proc.stage with
  | .registered => true
  | .holding => true
  | _ => false

/-- The entry the process waits for. -/
def wanted (proc : Proc Gid) : Option Gid :=
  match proc.stage with
  | .acquire gid => some gid
  | _ => none

/-- The entry the process holds. -/
def held (proc : Proc Gid) : Option Gid :=
  match proc.stage with
  | .locked gid => some gid
  | .unlocking gid => some gid
  | .gather gid _ => some gid
  | _ => none

/-- The process gathers in the current generation, which has peers, and one of
them has left: only a switch of this node ends the wait. -/
def stuck (current : ℕ) (peers : Bool) (proc : Proc Gid) : Bool :=
  peers && decide (proc.gen = current) &&
    match proc.stage with
    | .gather _ left => left
    | .gatherFree left => left
    | _ => false

end Proc

/-- The processes and the current generation of the node. -/
structure State (Gid Process : Type*) where
  proc : Process → Option (Proc Gid)
  /-- The number of the current generation. -/
  current : ℕ
  /-- Whether it has members other than this node. -/
  peers : Bool

variable {Process : Type*} [DecidableEq Process]

/-- The process is at work and has a property. -/
def State.Is
    (state : State Gid Process) (process : Process)
    (property : Proc Gid → Bool) : Prop :=
  (state.proc process).any property = true

instance (state : State Gid Process) (process : Process)
    (property : Proc Gid → Bool) : Decidable (state.Is process property) :=
  inferInstanceAs (Decidable (_ = _))

/-- The entry a process waits for. -/
def State.wanted (state : State Gid Process) (process : Process) :
    Option Gid :=
  (state.proc process).bind Proc.wanted

/-- The entry a process holds. -/
def State.held (state : State Gid Process) (process : Process) : Option Gid :=
  (state.proc process).bind Proc.held

/-- The wait-for graph. -/
inductive WaitsFor (state : State Gid Process) : Process → Process → Prop
  /-- `AcquirePBByHolder` waits for the preparers. -/
  | preparer {process other : Process}
      (waits : state.Is process fun proc => proc.stage = .registered)
      (prepares : state.Is other Proc.underBarrier) :
      WaitsFor state process other
  /-- `AcquirePBByPreparer` waits for the holders. -/
  | holder {process other : Process}
      (waits : state.Is process fun proc => proc.stage = .admission)
      (holds : state.Is other Proc.switching) :
      WaitsFor state process other
  /-- `GlobalTxAcquire` waits for the holder of the entry. -/
  | entry {process other : Process} (gid : Gid)
      (waits : state.wanted process = some gid)
      (holds : state.held other = some gid) :
      WaitsFor state process other
  /-- `gather` without hope for its peer waits for the generation switch. -/
  | switch {process other : Process}
      (waits : state.Is process (Proc.stuck state.current state.peers))
      (switches : state.Is other Proc.switching) :
      WaitsFor state process other

/-! ## Steps -/

/-- The steps of the processes. -/
inductive Action (Gid Process : Type*)
  | start (process : Process) (job : Job Gid)
  /-- `AcquirePBByPreparer` returns. -/
  | pass (process : Process)
  /-- Call `GlobalTxAcquire` under the barrier. -/
  | reach (process : Process) (gid : Gid)
  /-- `GlobalTxAcquire` returns the entry. -/
  | lock (process : Process)
  /-- `GlobalTxAcquire` returns `NULL`. -/
  | missing (process : Process)
  /-- `PREPARE` is done; release the barrier. -/
  | prepared (process : Process)
  /-- A peer of a gathering process leaves the generation. -/
  | peerLeaves (process : Process)
  /-- `GlobalTxRelease` -/
  | release (process : Process)
  /-- The job ends. -/
  | done (process : Process)
  /-- `AcquirePBByHolder` returns. -/
  | drain (process : Process)
  /-- The generation is switched. -/
  | switch (process : Process) (num : ℕ) (peers : Bool)
  /-- An error: the cleanup releases barrier and entry. -/
  | throw (process : Process)
  deriving DecidableEq

/-- Which steps can be taken. -/
def Enabled (state : State Gid Process) : Action Gid Process → Prop
  | .start process _ => state.proc process = none
  | .pass process =>
      (state.Is process fun proc => proc.stage = .admission) ∧
        ∀ other, ¬ state.Is other Proc.switching
  | .reach process gid =>
      state.Is process fun proc =>
        proc.stage = .barrier && proc.job.mayReach state.peers gid
  | .lock process =>
      state.wanted process ≠ none ∧
        ∀ other, state.held other ≠ state.wanted process
  | .missing process =>
      state.Is process fun proc =>
        proc.wanted.isSome && !proc.job.creates
  | .prepared process =>
      state.Is process fun proc =>
        proc.job.creates &&
          match proc.stage with
          | .locked _ => true
          | _ => false
  | .peerLeaves process => (state.proc process).isSome = true
  | .release process =>
      state.Is process fun proc =>
        match proc.stage with
        | .unlocking _ => true
        | .gather _ _ => true
        | .locked _ => !proc.job.creates
        | _ => false
  | .done process =>
      state.Is process fun proc =>
        match proc.stage with
        | .gatherFree _ => true
        | .holding => true
        | .barrier => true
        | _ => false
  | .drain process =>
      (state.Is process fun proc => proc.stage = .registered) ∧
        ∀ other, ¬ state.Is other Proc.underBarrier
  | .switch process num _ =>
      (state.Is process fun proc => proc.stage = .holding) ∧
        state.current < num
  | .throw process => (state.proc process).isSome = true

instance [Fintype Process] (state : State Gid Process)
    (action : Action Gid Process) : Decidable (Enabled state action) :=
  match action with
  | .start _ _ => inferInstanceAs (Decidable (_ = _))
  | .pass _ => inferInstanceAs (Decidable (_ ∧ _))
  | .reach _ _ => inferInstanceAs (Decidable (_ = _))
  | .lock _ => inferInstanceAs (Decidable (_ ∧ _))
  | .missing _ => inferInstanceAs (Decidable (_ = _))
  | .prepared _ => inferInstanceAs (Decidable (_ = _))
  | .peerLeaves _ => inferInstanceAs (Decidable (_ = _))
  | .release _ => inferInstanceAs (Decidable (_ = _))
  | .done _ => inferInstanceAs (Decidable (_ = _))
  | .drain _ => inferInstanceAs (Decidable (_ ∧ _))
  | .switch _ _ _ => inferInstanceAs (Decidable (_ ∧ _))
  | .throw _ => inferInstanceAs (Decidable (_ = _))

/-- What a step makes of its process; `current` is the current generation. -/
def nextProc (current : ℕ) (proc : Proc Gid) :
    Action Gid Process → Option (Proc Gid)
  | .pass _ => some { proc with stage := .barrier, gen := current }
  | .reach _ gid => some { proc with stage := .acquire gid }
  | .lock _ =>
      match proc.stage with
      | .acquire gid => some { proc with stage := .locked gid }
      | _ => some proc
  | .missing _ =>
      if proc.job = .resolveForRefereeWinner then
        some { proc with stage := .barrier }
      else none
  | .prepared _ =>
      match proc.stage with
      | .locked gid =>
          some { proc with
            stage :=
              if proc.job.coordinates then .gather gid false
              else .unlocking gid }
      | _ => some proc
  | .peerLeaves _ =>
      match proc.stage with
      | .gather gid _ => some { proc with stage := .gather gid true }
      | .gatherFree _ => some { proc with stage := .gatherFree true }
      | _ => some proc
  | .release _ =>
      match proc.job with
      | .twoPhaseCommit _ => some { proc with stage := .gatherFree false }
      | .explicitFinishPrepared _ =>
          some { proc with stage := .gatherFree false, gen := current }
      | .resolveForRefereeWinner =>
          match proc.stage with
          | .locked _ => some { proc with stage := .barrier }
          | _ => none
      | _ => none
  | .drain _ => some { proc with stage := .holding }
  | .switch _ _ _ => some proc
  | .start _ _ => some proc
  | .done _ => none
  | .throw _ => none

/-- The process that takes a step. -/
def Action.process : Action Gid Process → Process
  | .start process _ => process
  | .pass process => process
  | .reach process _ => process
  | .lock process => process
  | .missing process => process
  | .prepared process => process
  | .peerLeaves process => process
  | .release process => process
  | .done process => process
  | .drain process => process
  | .switch process _ _ => process
  | .throw process => process

/-- The state after a step. -/
def effect (state : State Gid Process) (action : Action Gid Process) :
    State Gid Process :=
  match action with
  | .start process job =>
      { state with
        proc := Function.update state.proc process
          (some { job := job, stage := job.start, gen := state.current }) }
  | .switch _ num peers => { state with current := num, peers := peers }
  | other =>
      { state with
        proc := Function.update state.proc other.process
          ((state.proc other.process).bind fun proc =>
            nextProc state.current proc other) }

/-- The machine of a node in a generation with peers. -/
def machine (Gid Process : Type*) [DecidableEq Gid] [DecidableEq Process] :
    Machine (State Gid Process) (Action Gid Process) where
  init := { proc := fun _ => none, current := 1, peers := true }
  Enabled := Enabled
  effect := effect

instance [Fintype Process] (state : State Gid Process)
    (action : Action Gid Process) :
    Decidable ((machine Gid Process).Enabled state action) :=
  inferInstanceAs (Decidable (Enabled state action))

/-- The gid a process is preparing: it asks for the entry under the barrier, or
holds it as a coordinator of the current generation. -/
def Proc.claim (current : ℕ) (proc : Proc Gid) : Option Gid :=
  match proc.stage with
  | .acquire gid => if proc.job.prepares then some gid else none
  | .locked gid =>
      if proc.job.coordinates ∧ proc.gen = current then some gid else none
  | .gather gid _ =>
      if proc.job.coordinates ∧ proc.gen = current then some gid else none
  | _ => none

/-- The gid a process is preparing. -/
def State.claim (state : State Gid Process) (process : Process) : Option Gid :=
  (state.proc process).bind (Proc.claim state.current)

/-- A gid is not asked for under the barrier while another process of the node
prepares it, where one of the two coordinates it. -/
def DistinctGids (state : State Gid Process) : Action Gid Process → Prop
  | .reach process gid =>
      state.peers = true → ∀ other, other ≠ process →
        state.claim other = some gid →
        (¬ state.Is process fun proc => proc.job.coordinates) ∧
          ¬ state.Is other fun proc => proc.job.coordinates
  | _ => True

instance [Fintype Process] (state : State Gid Process)
    (action : Action Gid Process) : Decidable (DistinctGids state action) :=
  match action with
  | .reach _ _ => inferInstanceAs (Decidable (_ → ∀ _, _ → _ → _))
  | .start _ _ => inferInstanceAs (Decidable True)
  | .pass _ => inferInstanceAs (Decidable True)
  | .lock _ => inferInstanceAs (Decidable True)
  | .missing _ => inferInstanceAs (Decidable True)
  | .prepared _ => inferInstanceAs (Decidable True)
  | .peerLeaves _ => inferInstanceAs (Decidable True)
  | .release _ => inferInstanceAs (Decidable True)
  | .done _ => inferInstanceAs (Decidable True)
  | .drain _ => inferInstanceAs (Decidable True)
  | .switch _ _ _ => inferInstanceAs (Decidable True)
  | .throw _ => inferInstanceAs (Decidable True)

end Waits
end Multimaster
