import Multimaster.Barrier.Defs

/-!
# Exclusion by the prepare barrier

The counters always equal the numbers of processes in their modes, and no
preparer is past the barrier together with a holder that excludes it.
-/

namespace Multimaster
namespace Barrier

variable {Process : Type*} [DecidableEq Process] [Fintype Process]

/-- What `pb_acquired_in_mode` is at every place of a process, and that the exit
hook is registered inside. -/
def Proc.Consistent (process : Proc) : Prop :=
  (process.pc ≠ .outside → process.hookRegistered = true) ∧
    match process.pc with
    | .outside | .admission _ | .admissionSleep _ | .registration _ =>
        process.acquired = none
    | .preparing backend => process.acquired = some (preparerMode backend)
    | .drain full | .drainSleep full | .holding full =>
        process.acquired = some (holderMode full)
    | .releasing => process.acquired ≠ none

/-- A holder of this kind keeps a preparer of that kind out. -/
def Excludes (full backend : Bool) : Prop :=
  full = true ∨ backend = true

/-- The invariant of the barrier. -/
structure Invariant (state : State Process) : Prop where
  consistent : ∀ process, (state.proc process).Consistent
  counted : ∀ mode, state.counters.of mode =
    countIn (fun process => (state.proc process).mode) mode
  excluded : ∀ holder preparer full backend,
    (state.proc holder).pc = .holding full →
    (state.proc preparer).pc = .preparing backend →
    ¬ Excludes full backend

theorem Invariant.initially : Invariant (machine Process).init where
  consistent _ := by simp [machine, Proc.fresh, Proc.Consistent]
  counted mode := by
    have none : countIn
        (fun process => ((machine Process).init.proc process).mode) mode =
          0 := by
      rw [countIn_eq_zero]
      simp [machine, Proc.fresh, Proc.mode]
    rw [none]
    cases mode <;> rfl
  excluded holder preparer full backend isHolder := by cases isHolder

/-- The invariant after one process was replaced: its counters moved with it, it
is consistent, and it stands against no other process. -/
theorem Invariant.replace
    {state : State Process} (invariant : Invariant state)
    {process : Process} {proc : Proc} {counters : Counters}
    (consistent : proc.Consistent)
    (counted : ∀ mode, counters.of mode =
      state.counters.of mode - share (state.proc process).mode mode +
        share proc.mode mode)
    (asHolder : ∀ full, proc.pc = .holding full →
      ∀ preparer backend, (state.proc preparer).pc = .preparing backend →
        ¬ Excludes full backend)
    (asPreparer : ∀ backend, proc.pc = .preparing backend →
      ∀ holder full, (state.proc holder).pc = .holding full →
        ¬ Excludes full backend) :
    Invariant
      { counters := counters
        proc := Function.update state.proc process proc } where
  consistent other := by
    by_cases same : other = process
    · subst same
      simpa using consistent
    · simpa [same] using invariant.consistent other
  counted mode := by
    have modes :
        (fun other => (Function.update state.proc process proc other).mode) =
          Function.update (fun other => (state.proc other).mode) process
            proc.mode := by
      funext other
      by_cases same : other = process
      · subst same
        simp
      · simp [same]
    rw [counted, modes, countIn_update, invariant.counted]
  excluded holder preparer full backend isHolder isPreparer := by
    dsimp only at isHolder isPreparer
    by_cases holds : holder = process
    · subst holds
      rw [Function.update_self] at isHolder
      by_cases same : preparer = holder
      · subst same
        rw [Function.update_self, isHolder] at isPreparer
        cases isPreparer
      · rw [Function.update_of_ne same] at isPreparer
        exact asHolder full isHolder preparer backend isPreparer
    · rw [Function.update_of_ne holds] at isHolder
      by_cases same : preparer = process
      · subst same
        rw [Function.update_self] at isPreparer
        exact asPreparer backend isPreparer holder full isHolder
      · rw [Function.update_of_ne same] at isPreparer
        exact invariant.excluded holder preparer full backend isHolder
          isPreparer

/-- The invariant after a step that leaves the process in its mode and does not
take it past the barrier. -/
theorem Invariant.move
    {state : State Process} (invariant : Invariant state)
    {process : Process} {proc : Proc}
    (consistent : proc.Consistent)
    (mode : proc.mode = (state.proc process).mode)
    (notHolding : ∀ full, proc.pc ≠ .holding full)
    (notPreparing : ∀ backend, proc.pc ≠ .preparing backend) :
    Invariant (state.set process proc) := by
  apply invariant.replace consistent
  · intro other
    rw [mode]
    omega
  · intro full isHolding
    exact absurd isHolding (notHolding full)
  · intro backend isPreparing
    exact absurd isPreparing (notPreparing backend)

/-- The invariant after the locked section of `ReleasePB`. -/
theorem Invariant.releasePB
    {state : State Process} (invariant : Invariant state)
    {process : Process} {proc : Proc}
    (notReleasing : (state.proc process).pc ≠ .releasing)
    (consistent : proc.Consistent)
    (mode : proc.mode = none)
    (notHolding : ∀ full, proc.pc ≠ .holding full)
    (notPreparing : ∀ backend, proc.pc ≠ .preparing backend) :
    Invariant (state.releasePB process proc) := by
  apply invariant.replace consistent
  · intro other
    rw [mode, Counters.of_release, Proc.mode, if_neg notReleasing, share_none]
    omega
  · intro full isHolding
    exact absurd isHolding (notHolding full)
  · intro backend isPreparing
    exact absurd isPreparing (notPreparing backend)

/-! ## What the checks tell -/

section Checks

omit [DecidableEq Process]

/-- No process is in a mode whose counter is zero. -/
theorem Invariant.nobody
    {state : State Process} (invariant : Invariant state) {mode : Mode}
    (isZero : state.counters.of mode = 0) (process : Process) :
    (state.proc process).mode ≠ some mode := by
  rw [invariant.counted] at isZero
  exact countIn_eq_zero.mp (Int.natCast_eq_zero.mp isZero) process

theorem Invariant.mode_of_holding
    {state : State Process} (invariant : Invariant state)
    {process : Process} {full : Bool}
    (isHolding : (state.proc process).pc = .holding full) :
    (state.proc process).mode = some (holderMode full) := by
  have consistent := (invariant.consistent process).2
  rw [isHolding] at consistent
  rw [Proc.mode, isHolding, consistent]
  rfl

theorem Invariant.mode_of_preparing
    {state : State Process} (invariant : Invariant state)
    {process : Process} {backend : Bool}
    (isPreparing : (state.proc process).pc = .preparing backend) :
    (state.proc process).mode = some (preparerMode backend) := by
  have consistent := (invariant.consistent process).2
  rw [isPreparing] at consistent
  rw [Proc.mode, isPreparing, consistent]
  rfl

/-- A preparer is admitted only when no holder past the barrier excludes it. -/
theorem Invariant.not_excluded_of_admits
    {state : State Process} (invariant : Invariant state) {backend : Bool}
    (admits : state.counters.Admits backend)
    {holder : Process} {full : Bool}
    (isHolding : (state.proc holder).pc = .holding full) :
    ¬ Excludes full backend := by
  intro excludes
  have mode := invariant.mode_of_holding isHolding
  cases full with
  | true =>
      have isZero : state.counters.of .fullHolder = 0 := by
        cases backend with
        | true => exact admits.2
        | false => exact admits
      exact invariant.nobody isZero holder mode
  | false =>
      cases backend with
      | true =>
          have isZero : state.counters.of .backendHolder = 0 := admits.1
          exact invariant.nobody isZero holder mode
      | false => simp [Excludes] at excludes

/-- A holder goes on only when no preparer it excludes is past the barrier. -/
theorem Invariant.not_excluded_of_drained
    {state : State Process} (invariant : Invariant state) {full : Bool}
    (drained : state.counters.Drained full)
    {preparer : Process} {backend : Bool}
    (isPreparing : (state.proc preparer).pc = .preparing backend) :
    ¬ Excludes full backend := by
  intro excludes
  have mode := invariant.mode_of_preparing isPreparing
  cases backend with
  | true =>
      have isZero : state.counters.of .backendPreparer = 0 := drained.1
      exact invariant.nobody isZero preparer mode
  | false =>
      have isFull : full = true := by simpa [Excludes] using excludes
      have isZero : state.counters.of .applyPreparer = 0 :=
        drained.2.resolve_left (by simp [isFull])
      exact invariant.nobody isZero preparer mode

end Checks

/-! ## Every step keeps the invariant -/

theorem Invariant.callPreparer
    {state : State Process} (invariant : Invariant state)
    {process : Process} (isOutside : (state.proc process).pc = .outside)
    (backend : Bool) :
    Invariant (effect state (.callPreparer process backend)) := by
  have consistent := (invariant.consistent process).2
  rw [isOutside] at consistent
  apply invariant.move
  · simp [Proc.Consistent, consistent]
  · simp [Proc.mode, isOutside]
  · simp
  · simp

theorem Invariant.callHolder
    {state : State Process} (invariant : Invariant state)
    {process : Process} (isOutside : (state.proc process).pc = .outside)
    (full : Bool) :
    Invariant (effect state (.callHolder process full)) := by
  have consistent := (invariant.consistent process).2
  rw [isOutside] at consistent
  apply invariant.move
  · simp [Proc.Consistent, consistent]
  · simp [Proc.mode, isOutside]
  · simp
  · simp

theorem Invariant.pass
    {state : State Process} (invariant : Invariant state)
    {process : Process} {backend : Bool}
    (isAdmission : (state.proc process).pc = .admission backend) :
    Invariant (effect state (.pass process)) := by
  obtain ⟨hook, acquired⟩ := invariant.consistent process
  rw [isAdmission] at acquired
  simp only [effect, isAdmission]
  split
  · next admits =>
      apply invariant.replace
      · simpa [Proc.Consistent, isAdmission] using hook
      · intro mode
        simp only [Counters.of_add, Proc.mode, isAdmission, acquired]
        simp
      · simp
      · intro _ isPreparing holder full isHolding
        cases isPreparing
        exact invariant.not_excluded_of_admits admits isHolding
  · apply invariant.move
    · simpa [Proc.Consistent, acquired, isAdmission] using hook
    · simp [Proc.mode, isAdmission]
    · simp
    · simp

theorem Invariant.register
    {state : State Process} (invariant : Invariant state)
    {process : Process} {full : Bool}
    (isRegistration : (state.proc process).pc = .registration full) :
    Invariant (effect state (.register process)) := by
  obtain ⟨hook, acquired⟩ := invariant.consistent process
  rw [isRegistration] at acquired
  simp only [effect, isRegistration]
  apply invariant.replace
  · simpa [Proc.Consistent, isRegistration] using hook
  · intro mode
    simp only [Counters.of_add, Proc.mode, isRegistration, acquired]
    simp
  · simp
  · simp

theorem Invariant.drain
    {state : State Process} (invariant : Invariant state)
    {process : Process} {full : Bool}
    (isDrain : (state.proc process).pc = .drain full) :
    Invariant (effect state (.drain process)) := by
  obtain ⟨hook, acquired⟩ := invariant.consistent process
  rw [isDrain] at acquired
  simp only [effect, isDrain]
  split
  · next drained =>
      apply invariant.replace
      · simpa [Proc.Consistent, acquired, isDrain] using hook
      · intro mode
        simp [Proc.mode, isDrain]
      · intro _ isHolding preparer backend isPreparing
        cases isHolding
        exact invariant.not_excluded_of_drained drained isPreparing
      · simp
  · apply invariant.move
    · simpa [Proc.Consistent, acquired, isDrain] using hook
    · simp [Proc.mode, isDrain]
    · simp
    · simp

theorem Invariant.wake
    {state : State Process} (invariant : Invariant state)
    {process : Process} (enabled : Enabled state (.wake process)) :
    Invariant (effect state (.wake process)) := by
  obtain ⟨hook, acquired⟩ := invariant.consistent process
  obtain ⟨backend, isSleeping⟩ | ⟨full, isSleeping⟩ := enabled
  all_goals
    rw [isSleeping] at acquired
    simp only [effect, isSleeping]
    apply invariant.move
    · simpa [Proc.Consistent, acquired, isSleeping] using hook
    · simp [Proc.mode, isSleeping]
    · simp
    · simp

/-- The barrier is released on the way out of the sleep. -/
theorem Invariant.throw
    {state : State Process} (invariant : Invariant state)
    {process : Process} (enabled : Enabled state (.throw process)) :
    Invariant (effect state (.throw process)) := by
  obtain ⟨hook, acquired⟩ := invariant.consistent process
  obtain ⟨backend, isSleeping⟩ | ⟨full, isSleeping⟩ := enabled
  · rw [isSleeping] at acquired
    simp only [effect, isSleeping]
    apply invariant.move
    · simp [Proc.Consistent, acquired]
    · simp [Proc.mode, isSleeping]
    · simp
    · simp
  · rw [isSleeping] at acquired
    simp only [effect, isSleeping]
    apply invariant.releasePB
    · simp [isSleeping]
    · simpa [Proc.Consistent, acquired, isSleeping] using hook
    · simp [Proc.mode]
    · simp
    · simp

theorem Invariant.release
    {state : State Process} (invariant : Invariant state)
    {process : Process} (enabled : Enabled state (.release process)) :
    Invariant (effect state (.release process)) := by
  obtain ⟨hook, acquired⟩ := invariant.consistent process
  simp only [effect]
  split
  · exact invariant
  · next isAcquired =>
      have notOutside : (state.proc process).pc ≠ .outside := by
        intro isOutside
        rw [isOutside] at acquired
        exact isAcquired acquired
      have notReleasing : (state.proc process).pc ≠ .releasing := by
        rcases enabled with isOutside | ⟨_, isPreparing⟩ | ⟨_, isHolding⟩
        · exact absurd isOutside notOutside
        · simp [isPreparing]
        · simp [isHolding]
      apply invariant.releasePB notReleasing
      · simpa [Proc.Consistent, isAcquired] using hook notOutside
      · simp [Proc.mode]
      · simp
      · simp

theorem Invariant.finishRelease
    {state : State Process} (invariant : Invariant state)
    {process : Process} (isReleasing : (state.proc process).pc = .releasing) :
    Invariant (effect state (.finishRelease process)) := by
  apply invariant.move
  · simp [Proc.Consistent]
  · simp [Proc.mode, isReleasing]
  · simp
  · simp

/-- A process that exits has either nothing acquired or its hook registered. -/
theorem Invariant.exit
    {state : State Process} (invariant : Invariant state)
    {process : Process}
    (notReleasing : (state.proc process).pc ≠ .releasing) :
    Invariant (effect state (.exit process)) := by
  obtain ⟨hook, acquired⟩ := invariant.consistent process
  simp only [effect]
  split
  · apply invariant.releasePB notReleasing
    · simp [Proc.Consistent, Proc.fresh]
    · simp [Proc.mode, Proc.fresh]
    · simp [Proc.fresh]
    · simp [Proc.fresh]
  · next notRegistered =>
      have isOutside : (state.proc process).pc = .outside := by
        by_contra notOutside
        exact notRegistered (hook notOutside)
      rw [isOutside] at acquired
      apply invariant.move
      · simp [Proc.Consistent, Proc.fresh]
      · simp [Proc.mode, Proc.fresh, acquired]
      · simp [Proc.fresh]
      · simp [Proc.fresh]

theorem Invariant.preserved
    {state : State Process} (invariant : Invariant state)
    {action : Action Process} (enabled : Enabled state action) :
    Invariant (effect state action) := by
  cases action with
  | callPreparer process backend =>
      exact invariant.callPreparer enabled backend
  | callHolder process full => exact invariant.callHolder enabled full
  | pass process =>
      obtain ⟨_, isAdmission⟩ := enabled
      exact invariant.pass isAdmission
  | register process =>
      obtain ⟨_, isRegistration⟩ := enabled
      exact invariant.register isRegistration
  | drain process =>
      obtain ⟨_, isDrain⟩ := enabled
      exact invariant.drain isDrain
  | wake process => exact invariant.wake enabled
  | throw process => exact invariant.throw enabled
  | release process => exact invariant.release enabled
  | finishRelease process => exact invariant.finishRelease enabled
  | exit process => exact invariant.exit enabled

theorem Invariant.reachable
    {state : State Process}
    (reachable : (machine Process).Reachable Machine.Always state) :
    Invariant state :=
  Machine.Reachable.invariant Invariant.initially
    (fun _ _ invariant enabled _ => invariant.preserved enabled) reachable

/-- In every reachable state the counters are the numbers of processes in their
modes, a full holder past the barrier excludes all preparers, and a backend-only
holder past the barrier excludes backends. -/
theorem barrier_exclusive
    {state : State Process}
    (reachable : (machine Process).Reachable Machine.Always state) :
    (∀ mode,
      state.counters.of mode =
          countIn (fun process => (state.proc process).mode) mode ∧
        0 ≤ state.counters.of mode) ∧
      (∀ holder, (state.proc holder).pc = .holding true →
        ∀ preparer backend,
          (state.proc preparer).pc ≠ .preparing backend) ∧
      (∀ holder, (state.proc holder).pc = .holding false →
        ∀ preparer, (state.proc preparer).pc ≠ .preparing true) := by
  have invariant := Invariant.reachable reachable
  refine ⟨fun mode => ⟨invariant.counted mode, ?_⟩, ?_, ?_⟩
  · rw [invariant.counted]
    exact Int.natCast_nonneg _
  · intro holder isHolding preparer backend isPreparing
    exact invariant.excluded holder preparer true backend isHolding isPreparing
      (Or.inl rfl)
  · intro holder isHolding preparer isPreparing
    exact invariant.excluded holder preparer false true isHolding isPreparing
      (Or.inr rfl)

instance (state : State Process) (action : Action Process) :
    Decidable ((machine Process).Enabled state action) :=
  match action with
  | .callPreparer _ _ | .callHolder _ _ => inferInstanceAs (Decidable (_ = _))
  | .pass _ | .register _ | .drain _ =>
      inferInstanceAs (Decidable (∃ _ : Bool, _))
  | .wake _ | .throw _ => inferInstanceAs (Decidable (_ ∨ _))
  | .release _ => inferInstanceAs (Decidable (_ ∨ _ ∨ _))
  | .finishRelease _ => inferInstanceAs (Decidable (_ = _))
  | .exit _ => inferInstanceAs (Decidable (_ ≠ _))

/-- A holder waits for a preparer, one of two later preparers gives up and the
other exits, and the holder goes on when the first one has left. -/
def holderAfterPreparer : List (Action (Fin 4)) :=
  [.callPreparer 0 false, .pass 0, .callHolder 1 true, .register 1, .drain 1,
    .callPreparer 2 true, .pass 2, .throw 2, .callPreparer 3 false, .pass 3,
    .exit 3, .release 0, .finishRelease 0, .wake 1, .drain 1,
    .callPreparer 2 true, .pass 2]

theorem holderAfterPreparer_completes :
    ((machine (Fin 4)).execute Machine.Always (machine (Fin 4)).init
      holderAfterPreparer).isSome = true := by
  decide +kernel

theorem barrier_exclusive_holderAfterPreparer :
    let state := ((machine (Fin 4)).execute Machine.Always
      (machine (Fin 4)).init holderAfterPreparer).get
        holderAfterPreparer_completes
    (state.proc 1).pc = .holding true ∧
      (∀ preparer backend,
        (state.proc preparer).pc ≠ .preparing backend) ∧
      state.counters.of .fullHolder =
        countIn (fun process => (state.proc process).mode) .fullHolder := by
  intro state
  obtain ⟨counted, full, _⟩ := barrier_exclusive
    (Machine.reachable_of_execute holderAfterPreparer
      holderAfterPreparer_completes)
  have isHolding : (state.proc 1).pc = .holding true := by decide +kernel
  exact ⟨isHolding, full 1 isHolding, (counted .fullHolder).1⟩

end Barrier
end Multimaster
