import Mathlib.Data.Prod.Lex
import Mathlib.Order.BoundedOrder.Basic

/-!
# Voting terms and states of a global transaction

`GlobalTxTerm` with the order of `term_cmp`, and `GTxState`, the part of a
global transaction that is kept in the state of the prepared transaction.
-/

namespace Multimaster
namespace Gtx

/-- `GlobalTxTerm`. -/
structure GlobalTxTerm where
  ballot : ℕ
  nodeId : ℕ
  deriving DecidableEq

/-- The pair compared by `term_cmp`: ballots first, then node identifiers. -/
def GlobalTxTerm.key (term : GlobalTxTerm) : ℕ ×ₗ ℕ :=
  toLex (term.ballot, term.nodeId)

theorem GlobalTxTerm.key_injective : Function.Injective GlobalTxTerm.key := by
  intro first second same
  have pair : (first.ballot, first.nodeId) = (second.ballot, second.nodeId) :=
    toLex.injective same
  cases first
  cases second
  simpa using pair

instance : LinearOrder GlobalTxTerm :=
  LinearOrder.lift' GlobalTxTerm.key GlobalTxTerm.key_injective

/-- `InvalidGTxTerm`. -/
def invalidGTxTerm : GlobalTxTerm := { ballot := 0, nodeId := 0 }

/-- `InitialGTxTerm`, used by the coordinator itself. -/
def initialGTxTerm : GlobalTxTerm := { ballot := 1, nodeId := 0 }

instance : OrderBot GlobalTxTerm where
  bot := invalidGTxTerm
  bot_le := by
    intro term
    change GlobalTxTerm.key invalidGTxTerm ≤ GlobalTxTerm.key term
    rw [Prod.Lex.le_iff]
    by_cases zero : term.ballot = 0
    · exact Or.inr ⟨zero.symm, Nat.zero_le _⟩
    · exact Or.inl (Nat.pos_of_ne_zero zero)

theorem GlobalTxTerm.lt_iff {first second : GlobalTxTerm} :
    first < second ↔ first.ballot < second.ballot ∨
      (first.ballot = second.ballot ∧ first.nodeId < second.nodeId) :=
  Prod.Lex.lt_iff

/-- `GlobalTxStatus`. -/
inductive GlobalTxStatus
  /-- Never gave a vote. -/
  | invalid
  /-- Voted for commit. -/
  | preCommitted
  /-- Voted for abort. -/
  | preAborted
  | committed
  | aborted
  deriving DecidableEq

/-- `GTxState`. -/
structure GTxState where
  proposal : GlobalTxTerm
  accepted : GlobalTxTerm
  status : GlobalTxStatus
  deriving DecidableEq

/-- The zeroed state: an empty entry of the vote arrays, or a refusal. -/
def GTxState.empty : GTxState where
  proposal := invalidGTxTerm
  accepted := invalidGTxTerm
  status := .invalid

/-- The state a global transaction is created with. -/
def GTxState.created : GTxState where
  proposal := initialGTxTerm
  accepted := invalidGTxTerm
  status := .invalid

/-- `GlobalTxResolvingStage`. -/
inductive GlobalTxResolvingStage
  /-- 1a sent, wait for 1b. -/
  | awaitStatus
  /-- 2a sent, wait for 2b. -/
  | awaitAcks
  deriving DecidableEq

end Gtx
end Multimaster
