import Mathlib.Data.List.Basic

/-!
# Straight-line programs in a concurrent environment

A program is a list of statements, each with an effect on the state.  Between
two statements the environment may change the state along a rely relation.
`Secure` says that an invariant survives every statement of the program under
any such interference, and that a final condition holds once the program ends.
-/

namespace Multimaster

variable {State : Type*} {Statement : Type*}

/-- Every statement keeps the invariant under interference, and the end of the
program meets the final condition. -/
def Secure
    (rely : State → State → Prop)
    (Invariant Final : State → Prop)
    (exec : Statement → State → State) :
    List Statement → State → Prop
  | [], state =>
      ∀ later, rely state later → Invariant later → Final later
  | statement :: rest, state =>
      ∀ later, rely state later → Invariant later →
        Invariant (exec statement later) ∧
        Secure rely Invariant Final exec rest (exec statement later)

namespace Secure

variable {rely : State → State → Prop}
variable {Invariant Final : State → Prop}
variable {exec : Statement → State → State}

/-- Interference does not disturb the rest of the program. -/
theorem stable
    (transitive : ∀ first middle last,
      rely first middle → rely middle last → rely first last)
    {program : List Statement}
    {state later : State}
    (secure : Secure rely Invariant Final exec program state)
    (interference : rely state later) :
    Secure rely Invariant Final exec program later := by
  cases program with
  | nil =>
      intro last further invariant
      exact secure last (transitive _ _ _ interference further) invariant
  | cons statement rest =>
      intro last further invariant
      exact secure last (transitive _ _ _ interference further) invariant

/-- Execute one statement. -/
theorem step
    (reflexive : ∀ state, rely state state)
    {statement : Statement}
    {rest : List Statement}
    {state : State}
    (secure : Secure rely Invariant Final exec (statement :: rest) state)
    (invariant : Invariant state) :
    Invariant (exec statement state) ∧
      Secure rely Invariant Final exec rest (exec statement state) :=
  secure state (reflexive state) invariant

/-- The end of the program. -/
theorem final
    (reflexive : ∀ state, rely state state)
    {state : State}
    (secure : Secure rely Invariant Final exec [] state)
    (invariant : Invariant state) :
    Final state :=
  secure state (reflexive state) invariant

end Secure

end Multimaster
