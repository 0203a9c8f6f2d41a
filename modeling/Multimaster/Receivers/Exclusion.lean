import Multimaster.Receivers.Defs

/-!
# Recovery excludes other receivers

The two counters are the numbers of processes that registered in a mode and have
not checked out.  At most one receiver is registered in recovery, and then none
in normal mode.  The workers of a pool belong to a registered receiver in normal
mode, since the exit hook waits for them first.
-/

namespace Multimaster
namespace Receivers

/-- The mode in which the process registered and has not checked out. -/
def Receiver.registered (receiver : Receiver) : Option Mode :=
  if receiver.pc = .gone then none else receiver.mode

/-- `rctx->w.mode` at every place of a process. -/
def Receiver.Consistent (receiver : Receiver) : Prop :=
  match receiver.pc with
  | .notStarted | .started | .looping | .modeRead _ => receiver.mode = none
  | .working => receiver.mode ≠ none
  | .exiting | .poolCancelled | .gone => True

/-- The process may have workers. -/
def Receiver.Staffs (receiver : Receiver) : Prop :=
  receiver.mode = some .normal ∧ (receiver.pc = .working ∨ receiver.pc = .exiting)

section Invariant

variable {Process Sender : Type*}

/-- The counter of a mode. -/
def State.counter (state : State Process Sender) : Mode → ℤ
  | .recovery => state.nreceiversRecovery
  | .normal => state.nreceiversNormal

/-- A receiver in recovery excludes every other one. -/
def State.Exclusive (state : State Process Sender) : Prop :=
  state.nreceiversRecovery ≤ 1 ∧
    (state.nreceiversRecovery = 1 → state.nreceiversNormal = 0)

variable [Fintype Process] (senderOf : Process → Sender)

/-- The invariant of the receivers. -/
structure Invariant (state : State Process Sender) : Prop where
  counted : ∀ mode, state.counter mode =
    countIn (fun process => (state.receiver process).registered) mode
  exclusive : state.Exclusive
  consistent : ∀ process, (state.receiver process).Consistent
  alone : ∀ process other, senderOf process = senderOf other →
    ¬(state.receiver process).Stopped → ¬(state.receiver other).Stopped →
      process = other
  staffed : ∀ sender, 0 < (state.pool sender).tracked →
    ∃ process, senderOf process = sender ∧ (state.receiver process).Staffs
  tidy : ∀ sender, (state.pool sender).orphaned = 0

variable {senderOf}

theorem Receiver.Staffs.not_stopped {receiver : Receiver}
    (staffs : receiver.Staffs) :
    ¬receiver.Stopped := by
  rintro (isNotStarted | isGone)
  · rcases staffs.2 with isWorking | isExiting
    · exact nomatch isWorking.symm.trans isNotStarted
    · exact nomatch isExiting.symm.trans isNotStarted
  · rcases staffs.2 with isWorking | isExiting
    · exact nomatch isWorking.symm.trans isGone
    · exact nomatch isExiting.symm.trans isGone

variable [DecidableEq Process]

/-- One process is replaced, and the counters move with it. -/
structure Replaces
    (senderOf : Process → Sender) (before after : State Process Sender)
    (process : Process) (receiver : Receiver) : Prop where
  receiver_eq : after.receiver = Function.update before.receiver process receiver
  pool_eq : after.pool = before.pool
  counter_eq : ∀ mode, after.counter mode =
    before.counter mode - share (before.receiver process).registered mode +
      share receiver.registered mode
  exclusive : after.Exclusive
  consistent : receiver.Consistent
  alone : ¬receiver.Stopped → ∀ other, senderOf other = senderOf process →
    ¬(before.receiver other).Stopped → other = process
  staffed : 0 < (before.pool (senderOf process)).tracked →
    (before.receiver process).Staffs → receiver.Staffs

theorem Invariant.replace
    {before after : State Process Sender} (invariant : Invariant senderOf before)
    {process : Process} {receiver : Receiver}
    (replaces : Replaces senderOf before after process receiver) :
    Invariant senderOf after where
  counted := by
    intro mode
    have modes : (fun other => (after.receiver other).registered) =
        Function.update (fun other => (before.receiver other).registered) process
          receiver.registered := by
      rw [replaces.receiver_eq]
      funext other
      rcases eq_or_ne other process with rfl | different
      · simp
      · simp [different]
    rw [replaces.counter_eq, modes, countIn_update, invariant.counted]
  exclusive := replaces.exclusive
  consistent := by
    intro other
    rw [replaces.receiver_eq]
    rcases eq_or_ne other process with rfl | different
    · rw [Function.update_self]
      exact replaces.consistent
    · rw [Function.update_of_ne different]
      exact invariant.consistent other
  alone := by
    intro left right sameSender
    rw [replaces.receiver_eq]
    rcases eq_or_ne left process with rfl | leftOther
    · rcases eq_or_ne right left with rfl | rightOther
      · exact fun _ _ => rfl
      · rw [Function.update_self, Function.update_of_ne rightOther]
        exact fun leftRuns rightRuns =>
          (replaces.alone leftRuns right sameSender.symm rightRuns).symm
    · rcases eq_or_ne right process with rfl | rightOther
      · rw [Function.update_self, Function.update_of_ne leftOther]
        exact fun leftRuns rightRuns =>
          replaces.alone rightRuns left sameSender leftRuns
      · rw [Function.update_of_ne leftOther, Function.update_of_ne rightOther]
        exact invariant.alone left right sameSender
  staffed := by
    intro sender hasWorkers
    rw [replaces.pool_eq] at hasWorkers
    obtain ⟨other, isSender, staffs⟩ := invariant.staffed sender hasWorkers
    refine ⟨other, isSender, ?_⟩
    rw [replaces.receiver_eq]
    rcases eq_or_ne other process with rfl | different
    · rw [Function.update_self]
      exact replaces.staffed (isSender ▸ hasWorkers) staffs
    · rw [Function.update_of_ne different]
      exact staffs
  tidy := by
    intro sender
    rw [replaces.pool_eq]
    exact invariant.tidy sender

/-- A step of a process that keeps what it registered as. -/
theorem Invariant.move
    {state : State Process Sender} (invariant : Invariant senderOf state)
    {process : Process} {receiver : Receiver}
    (runs : ¬(state.receiver process).Stopped)
    (consistent : receiver.Consistent)
    (sameMode : receiver.registered = (state.receiver process).registered)
    (staffed : 0 < (state.pool (senderOf process)).tracked →
      (state.receiver process).Staffs → receiver.Staffs) :
    Invariant senderOf (state.set process receiver) := by
  apply invariant.replace
  exact
    { receiver_eq := rfl
      pool_eq := rfl
      counter_eq := by
        intro mode
        rw [sameMode]
        cases mode <;> simp [State.set, State.counter]
      exclusive := invariant.exclusive
      consistent := consistent
      alone := fun _ other sameSender otherRuns =>
        invariant.alone other process sameSender otherRuns runs
      staffed := staffed }

omit [DecidableEq Process] in
/-- The workers of a pool change. -/
theorem Invariant.setPool
    {state : State Process Sender} (invariant : Invariant senderOf state)
    [DecidableEq Sender] (sender : Sender) (pool : Pool)
    (noOrphan : pool.orphaned = 0)
    (staffed : 0 < pool.tracked →
      ∃ process, senderOf process = sender ∧ (state.receiver process).Staffs) :
    Invariant senderOf (state.setPool sender pool) where
  counted := invariant.counted
  exclusive := invariant.exclusive
  consistent := invariant.consistent
  alone := invariant.alone
  staffed := by
    intro other hasWorkers
    rw [State.setPool_pool] at hasWorkers
    rcases eq_or_ne other sender with rfl | different
    · rw [Function.update_self] at hasWorkers
      exact staffed hasWorkers
    · rw [Function.update_of_ne different] at hasWorkers
      exact invariant.staffed other hasWorkers
  tidy := by
    intro other
    rw [State.setPool_pool]
    rcases eq_or_ne other sender with rfl | different
    · rw [Function.update_self]
      exact noOrphan
    · rw [Function.update_of_ne different]
      exact invariant.tidy other

/-! ## The steps -/

theorem not_stopped_of_pc
    {receiver : Receiver} {pc : Pc} (isPc : receiver.pc = pc)
    (runs : pc ≠ .notStarted ∧ pc ≠ .gone) :
    ¬receiver.Stopped := by
  rintro (isNotStarted | isGone)
  · exact runs.1 (isPc.symm.trans isNotStarted)
  · exact runs.2 (isPc.symm.trans isGone)

theorem not_staffs_of_pc
    {receiver : Receiver} {pc : Pc} (isPc : receiver.pc = pc)
    (notStaff : pc ≠ .working ∧ pc ≠ .exiting) :
    ¬receiver.Staffs := by
  rintro ⟨-, isWorking | isExiting⟩
  · exact notStaff.1 (isPc.symm.trans isWorking)
  · exact notStaff.2 (isPc.symm.trans isExiting)

omit [DecidableEq Process] in
/-- A process whose mode is still disabled is not registered. -/
theorem Invariant.mode_eq_none
    {state : State Process Sender} (invariant : Invariant senderOf state)
    {process : Process} {pc : Pc} (isPc : (state.receiver process).pc = pc)
    (isEarly : pc = .notStarted ∨ pc = .started ∨ pc = .looping ∨
      ∃ mode, pc = .modeRead mode) :
    (state.receiver process).mode = none := by
  have consistent := invariant.consistent process
  rw [Receiver.Consistent, isPc] at consistent
  rcases isEarly with rfl | rfl | rfl | ⟨mode, rfl⟩
  all_goals exact consistent

/-- The monitor starts a process when no other one of its sender runs. -/
theorem Invariant.start
    {state : State Process Sender} (invariant : Invariant senderOf state)
    {process : Process} (isNotStarted : (state.receiver process).pc = .notStarted)
    (othersStopped : ∀ other, senderOf other = senderOf process →
      (state.receiver other).Stopped) :
    Invariant senderOf (state.set process { pc := .started, mode := none }) := by
  have noMode := invariant.mode_eq_none isNotStarted (Or.inl rfl)
  have replaces : Replaces senderOf state
      (state.set process { pc := .started, mode := none }) process
      { pc := .started, mode := none } :=
    { receiver_eq := rfl
      pool_eq := rfl
      counter_eq := by
        intro mode
        have before : (state.receiver process).registered = none := by
          rw [Receiver.registered, noMode, ite_self]
        rw [before]
        cases mode <;> simp [State.set, State.counter, Receiver.registered]
      exclusive := invariant.exclusive
      consistent := rfl
      alone := fun _ other sameSender otherRuns =>
        absurd (othersStopped other sameSender) otherRuns
      staffed := fun _ staffs =>
        absurd staffs (not_staffs_of_pc isNotStarted ⟨nofun, nofun⟩) }
  exact invariant.replace replaces

/-- A process registers if nobody excludes it. -/
theorem Invariant.enroll
    {state : State Process Sender} (invariant : Invariant senderOf state)
    {process : Process} {read : Option Mode}
    (isRead : (state.receiver process).pc = .modeRead read)
    {mode : Mode} (isFree : state.Free mode) :
    Invariant senderOf
      ((state.count 1 mode).set process
        { pc := .working, mode := some mode }) := by
  have noMode :=
    invariant.mode_eq_none isRead (Or.inr (Or.inr (Or.inr ⟨read, rfl⟩)))
  have before : (state.receiver process).registered = none := by
    rw [Receiver.registered, noMode, ite_self]
  have replaces : Replaces senderOf state
      ((state.count 1 mode).set process { pc := .working, mode := some mode })
        process
      { pc := .working, mode := some mode } :=
    { receiver_eq := by cases mode <;> rfl
      pool_eq := by cases mode <;> rfl
      counter_eq := by
        intro other
        rw [before]
        cases mode <;> cases other <;>
          simp [State.set, State.count, State.counter, Receiver.registered, share]
      exclusive := by
        have exclusive := invariant.exclusive
        cases mode with
        | recovery =>
          obtain ⟨noRecovery, noNormal⟩ := isFree
          constructor
          · simp [State.set, State.count, noRecovery]
          · exact fun _ => noNormal
        | normal =>
          have noRecovery : state.nreceiversRecovery = 0 := isFree
          constructor
          · exact exclusive.1
          · intro isOne
            exact absurd (noRecovery.symm.trans isOne) (by decide)
      consistent := Option.some_ne_none mode
      alone := fun _ other sameSender otherRuns =>
        invariant.alone other process sameSender otherRuns
          (not_stopped_of_pc isRead ⟨nofun, nofun⟩)
      staffed :=
        fun _ staffs => absurd staffs (not_staffs_of_pc isRead ⟨nofun, nofun⟩) }
  exact invariant.replace replaces

/-- A process checks out of the mode it registered in. -/
theorem Invariant.leave
    {state : State Process Sender} (invariant : Invariant senderOf state)
    {process : Process}
    (isCancelled : (state.receiver process).pc = .poolCancelled)
    {mode : Mode} (isMode : (state.receiver process).mode = some mode) :
    Invariant senderOf
      ((state.count (-1) mode).set process
        { pc := .gone, mode := some mode }) := by
  have before : (state.receiver process).registered = some mode := by
    rw [Receiver.registered, if_neg (by rw [isCancelled]; decide), isMode]
  have positive : 0 < state.counter mode := by
    rw [invariant.counted]
    exact Int.natCast_pos.mpr (countIn_pos before)
  have replaces : Replaces senderOf state
      ((state.count (-1) mode).set process { pc := .gone, mode := some mode })
        process
      { pc := .gone, mode := some mode } :=
    { receiver_eq := by cases mode <;> rfl
      pool_eq := by cases mode <;> rfl
      counter_eq := by
        intro other
        rw [before]
        cases mode <;> cases other <;>
          simp [State.set, State.count, State.counter, Receiver.registered, share,
            Int.sub_eq_add_neg]
      exclusive := by
        have exclusive := invariant.exclusive
        cases mode with
        | recovery =>
          have isOne : state.nreceiversRecovery = 1 := by
            have atLeast : 0 < state.nreceiversRecovery := positive
            have atMost := exclusive.1
            omega
          constructor
          · simp [State.set, State.count, isOne]
          · intro isOne'
            have isZero : state.nreceiversRecovery + -1 = 1 := isOne'
            omega
        | normal =>
          constructor
          · exact exclusive.1
          · intro isOne
            have noNormal := exclusive.2 isOne
            have atLeast : 0 < state.nreceiversNormal := positive
            omega
      consistent := trivial
      alone := fun runs => absurd (Or.inr rfl) runs
      staffed := fun _ staffs =>
        absurd staffs (not_staffs_of_pc isCancelled ⟨nofun, nofun⟩) }
  exact invariant.replace replaces

theorem Invariant.register
    {state : State Process Sender} (invariant : Invariant senderOf state)
    {process : Process} {read : Option Mode}
    (isRead : (state.receiver process).pc = .modeRead read) :
    Invariant senderOf (state.register process read) := by
  have noMode :=
    invariant.mode_eq_none isRead (Or.inr (Or.inr (Or.inr ⟨read, rfl⟩)))
  have back :
      Invariant senderOf
      (state.set process { pc := .looping, mode := none }) := by
    apply invariant.move (not_stopped_of_pc isRead ⟨nofun, nofun⟩)
    · rfl
    · rw [Receiver.registered, Receiver.registered, noMode, ite_self, ite_self]
    · exact fun _ staffs => absurd staffs (not_staffs_of_pc isRead ⟨nofun, nofun⟩)
  cases read with
  | none => exact back
  | some mode =>
    rw [State.register]
    split_ifs with isFree
    · exact invariant.enroll isRead isFree
    · exact back

theorem Invariant.checkOut
    {state : State Process Sender} (invariant : Invariant senderOf state)
    {process : Process}
    (isCancelled : (state.receiver process).pc = .poolCancelled) :
    Invariant senderOf (state.checkOut process) := by
  rw [State.checkOut]
  cases isMode : (state.receiver process).mode with
  | some mode => exact invariant.leave isCancelled isMode
  | none =>
    apply invariant.move (not_stopped_of_pc isCancelled ⟨nofun, nofun⟩)
    · trivial
    · rw [Receiver.registered, Receiver.registered, isMode, ite_self, ite_self]
    · exact fun _ staffs =>
        absurd staffs (not_staffs_of_pc isCancelled ⟨nofun, nofun⟩)

omit [DecidableEq Process] in
/-- Between its start and its registration a process has no workers. -/
theorem Invariant.tracked_eq_zero
    {state : State Process Sender} (invariant : Invariant senderOf state)
    {process : Process} {pc : Pc} (isPc : (state.receiver process).pc = pc)
    (runs : pc ≠ .notStarted ∧ pc ≠ .gone)
    (notStaff : pc ≠ .working ∧ pc ≠ .exiting) :
    (state.pool (senderOf process)).tracked = 0 := by
  by_contra hasWorkers
  obtain ⟨other, sameSender, staffs⟩ :=
    invariant.staffed (senderOf process) (Nat.pos_of_ne_zero hasWorkers)
  have same := invariant.alone other process sameSender staffs.not_stopped
    (not_stopped_of_pc isPc runs)
  exact not_staffs_of_pc isPc notStaff (same ▸ staffs)

variable [DecidableEq Sender]

/-- Every step keeps the invariant. -/
theorem Invariant.step
    {state : State Process Sender} (invariant : Invariant senderOf state)
    {action : Action Process Sender} (enabled : Enabled senderOf state action) :
    Invariant senderOf (effect senderOf state action) := by
  cases action with
  | setReceiveMode mode =>
    exact ⟨invariant.counted, invariant.exclusive, invariant.consistent,
      invariant.alone,
      invariant.staffed, invariant.tidy⟩
  | start process => exact invariant.start enabled.1 enabled.2
  | bgwPoolStart process =>
    have isStarted : (state.receiver process).pc = .started := enabled
    have noWorkers :=
      invariant.tracked_eq_zero isStarted ⟨nofun, nofun⟩ ⟨nofun, nofun⟩
    have noOrphan := invariant.tidy (senderOf process)
    have noMode := invariant.mode_eq_none isStarted (Or.inr (Or.inl rfl))
    have pooled := invariant.setPool (senderOf process)
      { tracked := 0, orphaned := (state.pool (senderOf process)).orphaned +
        (state.pool (senderOf process)).tracked }
      (by rw [noOrphan, noWorkers])
        (fun positive => absurd positive (lt_irrefl 0))
    apply pooled.move (not_stopped_of_pc isStarted ⟨nofun, nofun⟩)
    · exact noMode
    · rw [Receiver.registered, Receiver.registered, if_neg nofun, if_neg]
      · rfl
      · exact fun isGone => nomatch isStarted.symm.trans isGone
    · exact fun _ staffs =>
        absurd staffs (not_staffs_of_pc isStarted ⟨nofun, nofun⟩)
  | readMode process =>
    have isLooping : (state.receiver process).pc = .looping := enabled
    have noMode := invariant.mode_eq_none isLooping (Or.inr (Or.inr (Or.inl rfl)))
    apply invariant.move (not_stopped_of_pc isLooping ⟨nofun, nofun⟩)
    · exact noMode
    · rw [Receiver.registered, Receiver.registered, if_neg nofun, if_neg]
      exact fun isGone => nomatch isLooping.symm.trans isGone
    · exact fun _ staffs =>
        absurd staffs (not_staffs_of_pc isLooping ⟨nofun, nofun⟩)
  | register process =>
    obtain ⟨read, isRead⟩ := enabled
    have registered := invariant.register isRead
    rwa [effect, isRead]
  | bgwStartExtraWorker process =>
    apply invariant.setPool
    · exact invariant.tidy (senderOf process)
    · exact fun _ => ⟨process, rfl, enabled.2, Or.inl enabled.1⟩
  | workerExit sender =>
    apply invariant.setPool
    · exact invariant.tidy sender
    · exact fun _ => invariant.staffed sender enabled
  | orphanExit sender =>
    apply invariant.setPool
    · rw [invariant.tidy sender]
    · exact invariant.staffed sender
  | fail process =>
    have runs : ¬(state.receiver process).Stopped := enabled.1
    apply invariant.move runs
    · trivial
    · rw [Receiver.registered, Receiver.registered, if_neg nofun, if_neg]
      exact fun isGone => runs (Or.inr isGone)
    · exact fun _ staffs => ⟨staffs.1, Or.inr rfl⟩
  | bgwPoolCancel process =>
    obtain ⟨isExiting, noWorkers⟩ := enabled
    apply invariant.move (not_stopped_of_pc isExiting ⟨nofun, nofun⟩)
    · trivial
    · rw [Receiver.registered, Receiver.registered, if_neg nofun, if_neg]
      exact fun isGone => nomatch isExiting.symm.trans isGone
    · exact fun positive => absurd noWorkers positive.ne'
  | checkOut process => exact invariant.checkOut enabled

theorem Invariant.initially :
    Invariant senderOf (machine senderOf).init where
  counted := by
    intro mode
    have nobody : countIn
        (fun process => ((machine senderOf).init.receiver process).registered)
          mode = 0 := by
      rw [countIn_eq_zero]
      exact fun process isMode => nomatch isMode
    rw [nobody]
    cases mode <;> rfl
  exclusive := ⟨Int.zero_le_ofNat 1, fun isOne => nomatch isOne⟩
  consistent := fun _ => rfl
  alone := fun process _ _ runs => absurd (Or.inl rfl) runs
  staffed := fun _ positive => absurd positive (lt_irrefl 0)
  tidy := fun _ => rfl

end Invariant

section Exclusion

variable {Process Sender : Type*} [Fintype Process] [DecidableEq Process]
  [DecidableEq Sender]

/-- The counters are the numbers of registered receivers, at most one receiver is
in recovery, then none is in normal mode, and no pool has a worker while a
receiver in recovery works. -/
theorem recovery_excludes_receivers
    (senderOf : Process → Sender) {state : State Process Sender}
    (reachable : (machine senderOf).Reachable Machine.Always state) :
    state.nreceiversRecovery =
        countIn (fun process => (state.receiver process).registered) .recovery ∧
      state.nreceiversNormal =
        countIn (fun process => (state.receiver process).registered) .normal ∧
      state.nreceiversRecovery ≤ 1 ∧
      (state.nreceiversRecovery = 1 → state.nreceiversNormal = 0) ∧
      ∀ process, (state.receiver process).pc = .working →
        (state.receiver process).mode = some .recovery →
          ∀ sender, (state.pool sender).tracked = 0 ∧
            (state.pool sender).orphaned = 0 := by
  have invariant : Invariant senderOf state :=
    reachable.invariant Invariant.initially
      fun _ _ invariant enabled _ => invariant.step enabled
  refine ⟨invariant.counted .recovery, invariant.counted .normal,
    invariant.exclusive.1,
    invariant.exclusive.2, ?_⟩
  intro process isWorking inRecovery sender
  refine ⟨?_, invariant.tidy sender⟩
  by_contra hasWorkers
  obtain ⟨other, -, staffs⟩ :=
    invariant.staffed sender (Nat.pos_of_ne_zero hasWorkers)
  have recovers : (state.receiver process).registered = some .recovery := by
    rw [Receiver.registered, if_neg (by rw [isWorking]; decide), inRecovery]
  have notGone : (state.receiver other).pc ≠ .gone :=
    fun isGone => staffs.not_stopped (Or.inr isGone)
  have worksNormally : (state.receiver other).registered = some .normal := by
    rw [Receiver.registered, if_neg notGone, staffs.1]
  have someRecovery : 0 < state.nreceiversRecovery := by
    rw [show state.nreceiversRecovery = _ from invariant.counted .recovery]
    exact Int.natCast_pos.mpr (countIn_pos recovers)
  have someNormal : 0 < state.nreceiversNormal := by
    rw [show state.nreceiversNormal = _ from invariant.counted .normal]
    exact Int.natCast_pos.mpr (countIn_pos worksNormally)
  have atMost := invariant.exclusive.1
  have noNormal := invariant.exclusive.2 (by omega)
  omega

instance (pc : Pc) : Decidable (∃ mode, pc = .modeRead mode) :=
  match pc with
  | .modeRead mode => isTrue ⟨mode, rfl⟩
  | .notStarted | .started | .looping | .working | .exiting |
      .poolCancelled | .gone =>
    isFalse nofun

instance (senderOf : Process → Sender) (state : State Process Sender)
    (action : Action Process Sender) :
    Decidable ((machine senderOf).Enabled state action) :=
  match action with
  | .setReceiveMode _ => inferInstanceAs (Decidable True)
  | .start _ => inferInstanceAs (Decidable (_ ∧ ∀ _, _ → _))
  | .bgwPoolStart _ => inferInstanceAs (Decidable (_ = _))
  | .readMode _ => inferInstanceAs (Decidable (_ = _))
  | .register process =>
    inferInstanceAs
      (Decidable (∃ mode, (state.receiver process).pc = .modeRead mode))
  | .bgwStartExtraWorker _ => inferInstanceAs (Decidable (_ ∧ _))
  | .workerExit _ => inferInstanceAs (Decidable (0 < _))
  | .orphanExit _ => inferInstanceAs (Decidable (0 < _))
  | .fail process => inferInstanceAs (Decidable (state.receiver process).Running)
  | .bgwPoolCancel _ => inferInstanceAs (Decidable (_ ∧ _))
  | .checkOut _ => inferInstanceAs (Decidable (_ = _))

end Exclusion

/-- The senders of three processes: the last one is started in place of the
second. -/
def sendersOfThree : Fin 3 → Bool
  | 0 => false
  | 1 => true
  | 2 => true

/-- The second receiver works normally when the node starts to recover from the
first sender; it exits and is started again while the first receiver recovers. -/
def recoverAfterNormal : List (Action (Fin 3) Bool) :=
  [.setReceiveMode .normal, .start 0, .start 1, .bgwPoolStart 0, .bgwPoolStart 1,
    .readMode 1, .register 1, .bgwStartExtraWorker 1,
      .setReceiveMode (.donor false),
    .readMode 0, .register 0, .fail 1, .workerExit true,
      .bgwPoolCancel 1, .checkOut 1,
    .readMode 0, .register 0, .start 2, .bgwPoolStart 2, .readMode 2, .register 2]

theorem recoverAfterNormal_completes :
    ((machine sendersOfThree).execute Machine.Always (machine sendersOfThree).init
      recoverAfterNormal).isSome = true := by
  decide +kernel

theorem recovery_excludes_receivers_recoverAfterNormal :
    let state := ((machine sendersOfThree).execute Machine.Always
      (machine sendersOfThree).init recoverAfterNormal).get
        recoverAfterNormal_completes
    state.nreceiversRecovery = 1 ∧ state.nreceiversNormal = 0 ∧
      (state.receiver 0).pc = .working ∧ (state.pool true).tracked = 0 := by
  intro state
  obtain ⟨-, -, -, excludes, noWorkers⟩ :=
    recovery_excludes_receivers sendersOfThree
    (Machine.reachable_of_execute recoverAfterNormal recoverAfterNormal_completes)
  have isOne : state.nreceiversRecovery = 1 := by decide +kernel
  have isWorking : (state.receiver 0).pc = .working := by decide +kernel
  have inRecovery : (state.receiver 0).mode = some .recovery := by decide +kernel
  exact ⟨isOne, excludes isOne, isWorking,
    (noWorkers 0 isWorking inRecovery true).1⟩

end Receivers
end Multimaster
