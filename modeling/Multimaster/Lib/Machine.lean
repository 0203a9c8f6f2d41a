import Mathlib.Logic.Relation
import Mathlib.Data.List.Basic
import Mathlib.Algebra.GroupWithZero.Nat

/-!
# Guarded-command machines

A machine has one initial state, a guard and an effect for every action.  Runs
are taken under a side condition on their steps, so that one development can
speak both of every run and of the runs that avoid a given kind of step.

The three rules used throughout are the invariant rule, the rule for relations
that every step extends, and the projection of the runs of a machine onto a
machine below it.  A machine may be made to record the events of its steps.
-/

namespace Multimaster

/-- A machine given by guarded actions. -/
structure Machine (State : Type*) (Action : Type*) where
  /-- The single initial state. -/
  init : State
  /-- The guard of an action. -/
  Enabled : State → Action → Prop
  /-- The state after an action, meaningful where its guard holds. -/
  effect : State → Action → State

namespace Machine

variable {State : Type*} {Action : Type*}

/-- The side condition that every step meets. -/
def Always (_ : State) (_ : Action) : Prop := True

/-- `Run machine allowed s t`: some finite sequence of enabled and allowed
actions leads from `s` to `t`. -/
inductive Run
    (machine : Machine State Action)
    (allowed : State → Action → Prop) : State → State → Prop
  | refl (state : State) : Run machine allowed state state
  | step {first last : State} {action : Action}
      (prior : Run machine allowed first last)
      (enabled : machine.Enabled last action)
      (permitted : allowed last action) :
      Run machine allowed first (machine.effect last action)

/-- A state reached from the initial one by allowed steps. -/
def Reachable
    (machine : Machine State Action)
    (allowed : State → Action → Prop)
    (state : State) : Prop :=
  machine.Run allowed machine.init state

variable {machine : Machine State Action}
variable {allowed : State → Action → Prop}

theorem Run.trans
    {first middle last : State}
    (left : machine.Run allowed first middle)
    (right : machine.Run allowed middle last) :
    machine.Run allowed first last := by
  induction right with
  | refl => exact left
  | step _ enabled permitted inductionHypothesis =>
      exact inductionHypothesis.step enabled permitted

/-- The invariant rule from an arbitrary first state. -/
theorem Run.invariant
    {Invariant : State → Prop}
    (preserved : ∀ state action, Invariant state →
      machine.Enabled state action → allowed state action →
      Invariant (machine.effect state action))
    {first last : State}
    (run : machine.Run allowed first last)
    (atFirst : Invariant first) :
    Invariant last := by
  induction run with
  | refl => exact atFirst
  | step _ enabled permitted inductionHypothesis =>
      exact preserved _ _ inductionHypothesis enabled permitted

/-- The invariant rule: what holds initially and is kept by every allowed step
holds in every state reached by allowed steps. -/
theorem Reachable.invariant
    {Invariant : State → Prop}
    (initially : Invariant machine.init)
    (preserved : ∀ state action, Invariant state →
      machine.Enabled state action → allowed state action →
      Invariant (machine.effect state action))
    {state : State}
    (reachable : machine.Reachable allowed state) :
    Invariant state :=
  Run.invariant preserved reachable initially

/-- A reflexive and transitive relation that holds across every step taken from
a state with the invariant holds across whole runs. -/
theorem Run.relation
    {Invariant : State → Prop}
    {Relation : State → State → Prop}
    (reflexive : ∀ state, Relation state state)
    (transitive : ∀ first middle last,
      Relation first middle → Relation middle last → Relation first last)
    (preserved : ∀ state action, Invariant state →
      machine.Enabled state action → allowed state action →
      Invariant (machine.effect state action))
    (extended : ∀ state action, Invariant state →
      machine.Enabled state action → allowed state action →
      Relation state (machine.effect state action))
    {first last : State}
    (run : machine.Run allowed first last)
    (atFirst : Invariant first) :
    Relation first last := by
  induction run with
  | refl => exact reflexive _
  | step prior enabled permitted inductionHypothesis =>
      have atLast := Run.invariant preserved prior atFirst
      exact transitive _ _ _ inductionHypothesis
        (extended _ _ atLast enabled permitted)

theorem Reachable.run
    {first last : State}
    (reachable : machine.Reachable allowed first)
    (run : machine.Run allowed first last) :
    machine.Reachable allowed last :=
  Run.trans reachable run

theorem Reachable.step
    {state : State}
    {action : Action}
    (reachable : machine.Reachable allowed state)
    (enabled : machine.Enabled state action)
    (permitted : allowed state action) :
    machine.Reachable allowed (machine.effect state action) :=
  Run.step reachable enabled permitted

/-! ## What is certain to happen -/

/-- Whatever steps are taken from a state, one with the goal is reached. -/
inductive Inevitably
    (machine : Machine State Action) (goal : State → Prop) : State → Prop
  | here {state : State} (reached : goal state) : Inevitably machine goal state
  | later {state : State} {action : Action}
      (enabled : machine.Enabled state action)
      (next : ∀ action, machine.Enabled state action →
        Inevitably machine goal (machine.effect state action)) :
      Inevitably machine goal state

/-- What is inevitable where a property holds: some step can be taken, and every
step leads to the goal, or keeps the property and lowers the measure. -/
theorem Inevitably.of_measure
    {goal property : State → Prop} (measure : State → ℕ)
    (live : ∀ state, property state → ∃ action, machine.Enabled state action)
    (progress : ∀ state action, property state →
      machine.Enabled state action →
      goal (machine.effect state action) ∨
        (property (machine.effect state action) ∧
          measure (machine.effect state action) < measure state))
    {state : State} (holds : property state) :
    machine.Inevitably goal state := by
  induction bound : measure state using Nat.strongRecOn
    generalizing state with
  | ind size inductionHypothesis =>
      obtain ⟨first, enabled⟩ := live state holds
      refine Inevitably.later enabled ?_
      intro action enabled
      rcases progress state action holds enabled with reached | ⟨kept, lower⟩
      · exact Inevitably.here reached
      · rw [bound] at lower
        exact inductionHypothesis _ lower kept rfl

/-- What every step from a property keeps away from the goal is not
inevitable. -/
theorem not_inevitably
    {goal property : State → Prop}
    (away : ∀ state, property state → ¬ goal state)
    (kept : ∀ state action, property state → machine.Enabled state action →
      property (machine.effect state action))
    {state : State} (holds : property state) :
    ¬ machine.Inevitably goal state := by
  intro inevitable
  induction inevitable with
  | here reached => exact away _ holds reached
  | later enabled _ inductionHypothesis =>
      exact inductionHypothesis _ enabled (kept _ _ holds enabled)

/-! ## Execution of concrete schedules -/

/-- Few processes, for the numerals in schedules. -/
instance (priority := 2000) neZero_one : NeZero 1 := ⟨Nat.succ_ne_zero 0⟩

instance (priority := 2000) neZero_two : NeZero 2 := ⟨Nat.succ_ne_zero 1⟩

instance (priority := 2000) neZero_three : NeZero 3 := ⟨Nat.succ_ne_zero 2⟩

/-- Perform a schedule, stopping at the first action whose guard or side
condition fails. -/
def execute
    (machine : Machine State Action)
    (allowed : State → Action → Prop)
    [∀ state action, Decidable (machine.Enabled state action)]
    [∀ state action, Decidable (allowed state action)] :
    State → List Action → Option State
  | state, [] => some state
  | state, action :: rest =>
      if machine.Enabled state action ∧ allowed state action then
        machine.execute allowed (machine.effect state action) rest
      else none

instance (state : State) (action : Action) :
    Decidable (Always state action) :=
  inferInstanceAs (Decidable True)

/-- A schedule that executes to its end is a run. -/
theorem run_of_execute
    [∀ state action, Decidable (machine.Enabled state action)]
    [∀ state action, Decidable (allowed state action)]
    (schedule : List Action)
    {first last : State}
    (executes : machine.execute allowed first schedule = some last) :
    machine.Run allowed first last := by
  induction schedule generalizing first with
  | nil =>
      simp only [execute, Option.some.injEq] at executes
      subst executes
      exact Run.refl _
  | cons action rest inductionHypothesis =>
      rw [execute] at executes
      split at executes
      · next guard =>
          have head : machine.Run allowed first (machine.effect first action) :=
            (Run.refl first).step guard.1 guard.2
          exact head.trans (inductionHypothesis executes)
      · cases executes

/-- The last state of a schedule that executes, given that it does. -/
theorem reachable_of_execute
    [∀ state action, Decidable (machine.Enabled state action)]
    [∀ state action, Decidable (allowed state action)]
    (schedule : List Action)
    (completes : (machine.execute allowed machine.init schedule).isSome) :
    machine.Reachable allowed
      ((machine.execute allowed machine.init schedule).get completes) :=
  run_of_execute schedule (Option.some_get completes).symm

/-! ## Projection onto a lower machine -/

/-- A view of every state and action of the upper machine as one of the lower
machine; an action without a view leaves the viewed state alone. -/
structure Projection
    {LowerState : Type*} {LowerAction : Type*}
    (upper : Machine State Action)
    (lower : Machine LowerState LowerAction) where
  /-- The lower part of a state. -/
  state : State → LowerState
  /-- The lower action performed by an upper one, if any. -/
  action : State → Action → Option LowerAction
  init : state upper.init = lower.init
  enabled : ∀ current upperAction lowerAction,
    upper.Enabled current upperAction →
    action current upperAction = some lowerAction →
    lower.Enabled (state current) lowerAction
  effect : ∀ current upperAction lowerAction,
    upper.Enabled current upperAction →
    action current upperAction = some lowerAction →
    state (upper.effect current upperAction) =
      lower.effect (state current) lowerAction
  stutter : ∀ current upperAction,
    upper.Enabled current upperAction →
    action current upperAction = none →
    state (upper.effect current upperAction) = state current

namespace Projection

variable {LowerState : Type*} {LowerAction : Type*}
variable {lower : Machine LowerState LowerAction}

/-- The view of a run is a run, under any side condition that follows for the
actions that are viewed. -/
theorem run
    (projection : Projection machine lower)
    {lowerAllowed : LowerState → LowerAction → Prop}
    (permitted : ∀ current upperAction lowerAction,
      machine.Enabled current upperAction → allowed current upperAction →
      projection.action current upperAction = some lowerAction →
      lowerAllowed (projection.state current) lowerAction)
    {first last : State}
    (run : machine.Run allowed first last) :
    lower.Run lowerAllowed
      (projection.state first) (projection.state last) := by
  induction run with
  | refl => exact Run.refl _
  | step prior enabled allowedHere inductionHypothesis =>
      next middle action =>
      cases viewed : projection.action middle action with
      | none =>
          rw [projection.stutter _ _ enabled viewed]
          exact inductionHypothesis
      | some lowerAction =>
          rw [projection.effect _ _ _ enabled viewed]
          exact inductionHypothesis.step
            (projection.enabled _ _ _ enabled viewed)
            (permitted _ _ _ enabled allowedHere viewed)

/-- Views of reachable states are reachable. -/
theorem reachable
    (projection : Projection machine lower)
    {state : State}
    (reachable : machine.Reachable allowed state) :
    lower.Reachable Always (projection.state state) := by
  have viewed : lower.Run Always
      (projection.state machine.init) (projection.state state) :=
    projection.run (fun _ _ _ _ _ _ => trivial) reachable
  rw [projection.init] at viewed
  exact viewed

end Projection

/-! ## Recording the events of a run -/

/-- A state with the events of every party so far, the oldest first. -/
structure Recorded (State Party Event : Type*) where
  state : State
  events : Party → List Event

section Recording

variable {Party : Type*} {Event : Type*}

/-- The machine that also records the events of its steps. -/
def recording
    (machine : Machine State Action)
    (emitted : State → Action → Party → List Event) :
    Machine (Recorded State Party Event) Action where
  init := ⟨machine.init, fun _ => []⟩
  Enabled recorded := machine.Enabled recorded.state
  effect recorded action :=
    ⟨machine.effect recorded.state action,
      fun party => recorded.events party ++ emitted recorded.state action party⟩

/-- The rule for recordings: an invariant of the machine, and a property of the
events of every party that is kept where the invariant holds. -/
theorem recording_invariant
    {emitted : State → Action → Party → List Event}
    {allowed : Recorded State Party Event → Action → Prop}
    {Invariant : State → Prop}
    {Orderly : State → Party → List Event → Prop}
    (initially : Invariant machine.init)
    (orderly : ∀ party, Orderly machine.init party [])
    (preserved : ∀ state action, Invariant state →
      machine.Enabled state action → Invariant (machine.effect state action))
    (extended : ∀ recorded action party, Invariant recorded.state →
      machine.Enabled recorded.state action → allowed recorded action →
      Orderly recorded.state party (recorded.events party) →
      Orderly (machine.effect recorded.state action) party
        (recorded.events party ++ emitted recorded.state action party))
    {recorded : Recorded State Party Event}
    (reachable : (machine.recording emitted).Reachable allowed recorded) :
    Invariant recorded.state ∧
      ∀ party, Orderly recorded.state party (recorded.events party) := by
  apply Run.invariant ?_ reachable
  · exact ⟨initially, orderly⟩
  intro recorded action holds enabled permitted
  refine ⟨preserved _ _ holds.1 enabled, ?_⟩
  intro party
  exact extended _ _ _ holds.1 enabled permitted (holds.2 party)

end Recording

end Machine

end Multimaster
