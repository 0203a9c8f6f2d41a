import Mathlib.Logic.Basic

/-!
# Routines that may be stopped

A routine reads and changes a state, and either returns a value or is stopped on
the way. A specification says what holds before it, what holds of the value and
the state when it returns, and what holds of the state it leaves when it is
stopped.
-/

namespace Multimaster

universe u

/-- A routine with its stops. -/
abbrev Routine (State Stop Value : Type u) := ExceptT Stop (StateM State) Value

namespace Routine

variable {State Stop Value Other : Type u}

/-- The value or the stop of a routine, and the state it leaves. -/
def exec (routine : Routine State Stop Value) (state : State) :
    Except Stop Value × State :=
  (ExceptT.run routine).run state

/-- When the stop is a caught one, run the handler and stop again. -/
def protect
    (caught : Stop → Bool) (body : Routine State Stop Value)
    (handler : Routine State Stop PUnit) : Routine State Stop Value :=
  tryCatch body fun stop =>
    if caught stop then do
      handler
      throw stop
    else throw stop

/-! ## Execution -/

@[simp] theorem exec_get (state : State) :
    exec (get : Routine State Stop State) state = (.ok state, state) := rfl

theorem exec_bind
    (routine : Routine State Stop Value) (rest : Value → Routine State Stop Other)
    (state : State) :
    exec (routine >>= rest) state =
      match exec routine state with
      | (.ok value, middle) => exec (rest value) middle
      | (.error stop, last) => (.error stop, last) := by
  simp only [exec, ExceptT.run_bind, StateT.run_bind]
  rcases StateT.run (ExceptT.run routine) state with ⟨value | stop, last⟩
  · rfl
  · rfl

theorem exec_protect
    (caught : Stop → Bool) (body : Routine State Stop Value)
    (handler : Routine State Stop PUnit) (state : State) :
    exec (protect caught body handler) state =
      match exec body state with
      | (.ok value, last) => (.ok value, last)
      | (.error stop, middle) =>
          if caught stop then
            match exec handler middle with
            | (.ok _, last) => (.error stop, last)
            | (.error later, last) => (.error later, last)
          else (.error stop, middle) := by
  have unfolded : exec (protect caught body handler) state =
      match exec body state with
      | (.ok value, last) => (.ok value, last)
      | (.error stop, middle) =>
          exec (if caught stop then handler >>= fun _ => throw stop
            else throw stop)
            middle := by
    unfold exec protect ExceptT.run StateT.run
    simp only [tryCatch, tryCatchThe, MonadExceptOf.tryCatch, ExceptT.tryCatch,
      ExceptT.mk, bind, StateT.bind]
    rcases body state with ⟨stop | value, middle⟩
    · rfl
    · rfl
  rw [unfolded]
  rcases exec body state with ⟨stop | value, middle⟩
  · dsimp only
    split
    · rw [exec_bind]
      rcases exec handler middle with ⟨later | value, last⟩ <;> rfl
    · rfl
  · rfl

/-! ## Specifications -/

/-- From a state with `before` the routine returns with `after` or is stopped with
`stopped`. -/
def Ensures
    (before : State → Prop) (routine : Routine State Stop Value)
    (after : Value → State → Prop) (stopped : Stop → State → Prop) : Prop :=
  ∀ state, before state →
    match exec routine state with
    | (.ok value, last) => after value last
    | (.error stop, last) => stopped stop last

section Rules

variable {before : State → Prop} {routine : Routine State Stop Value}
variable {after : Value → State → Prop} {stopped : Stop → State → Prop}

theorem Ensures.weaken
    {weakAfter : Value → State → Prop} {weakStopped : Stop → State → Prop}
    (ensures : Ensures before routine after stopped)
    (returns : ∀ value state, after value state → weakAfter value state)
    (stops : ∀ stop state, stopped stop state → weakStopped stop state) :
    Ensures before routine weakAfter weakStopped := by
  intro state holds
  have outcome := ensures state holds
  revert outcome
  rcases exec routine state with ⟨stop | value, last⟩ <;> intro outcome
  · exact stops stop last outcome
  · exact returns value last outcome

theorem ensures_pure {value : Value}
    (holds : ∀ state, before state → after value state) :
    Ensures before (pure value) after stopped :=
  holds

theorem ensures_throw {stop : Stop}
    (holds : ∀ state, before state → stopped stop state) :
    Ensures before (throw stop : Routine State Stop Value) after stopped :=
  holds

theorem ensures_modify
    {change : State → State} {after : PUnit → State → Prop}
    (holds : ∀ state, before state → after ⟨⟩ (change state)) :
    Ensures before (modify change) after stopped :=
  holds

theorem Ensures.bind
    {middle : Value → State → Prop} {rest : Value → Routine State Stop Other}
    {after : Other → State → Prop}
    (first : Ensures before routine middle stopped)
    (then_ : ∀ value, Ensures (middle value) (rest value) after stopped) :
    Ensures before (routine >>= rest) after stopped := by
  intro state holds
  have outcome := first state holds
  rw [exec_bind]
  revert outcome
  rcases exec routine state with ⟨stop | value, last⟩ <;> intro outcome
  · exact outcome
  · exact then_ value last outcome

/-- What is read is the state at this point. -/
theorem ensures_get_bind
    {rest : State → Routine State Stop Value}
    (then_ : ∀ read, before read → Ensures before (rest read) after stopped) :
    Ensures before (get >>= rest) after stopped := by
  intro state holds
  rw [exec_bind]
  exact then_ state holds state holds

theorem ensures_ite
    {condition : Prop} [Decidable condition]
    {yes no : Routine State Stop Value}
    (whenTrue : condition → Ensures before yes after stopped)
    (whenFalse : ¬ condition → Ensures before no after stopped) :
    Ensures before (if condition then yes else no) after stopped := by
  split
  · next holds => exact whenTrue holds
  · next fails => exact whenFalse fails

/-- The handler answers for the caught stops, the body for the others. -/
theorem Ensures.protect
    {caught : Stop → Bool} {handler : Routine State Stop PUnit}
    {inside : Stop → State → Prop}
    (body : Ensures before routine after inside)
    (handles : ∀ stop, caught stop = true →
      Ensures (inside stop) handler (fun _ => stopped stop) stopped)
    (passes : ∀ stop state, caught stop = false → inside stop state →
      stopped stop state) :
    Ensures before (protect caught routine handler) after stopped := by
  intro state holds
  have outcome := body state holds
  rw [exec_protect]
  revert outcome
  rcases exec routine state with ⟨stop | value, middle⟩ <;> intro outcome
  · dsimp only at outcome ⊢
    cases isCaught : caught stop with
    | false =>
        simp only [Bool.false_eq_true, if_false]
        exact passes stop middle isCaught outcome
    | true =>
        simp only [if_true]
        have handled := handles stop isCaught middle outcome
        revert handled
        rcases exec handler middle with ⟨later | value, last⟩ <;> intro handled
        · exact handled
        · exact handled
  · exact outcome

end Rules

end Routine
end Multimaster
