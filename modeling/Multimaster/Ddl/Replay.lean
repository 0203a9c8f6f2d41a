import Multimaster.Ddl.Capture

/-!
# What the receiver makes of it

The receiver executes the statements as texts and applies the rows, and ends up
with the tables of the sender.  Positions of sequences are no part of the tables:
a rollback does not take them back.
-/

namespace Multimaster
namespace Ddl

variable {Row Tables : Type} {process : Process}

/-! ## Meanings -/

/-- What the things in a transaction do to the tables and the schema. -/
structure Semantics (Row Tables : Type) where
  row : Row → Tables → Tables
  /-- What a statement does behind what stands inside it. -/
  own : Call → Tables → Tables

/-- What a part of a transaction does on the sender. -/
def Acts.effect
    (process : Process) (semantics : Semantics Row Tables) :
    Acts Row → Tables → Tables
  | .done, tables => tables
  | .row written rest, tables =>
      rest.effect process semantics (semantics.row written tables)
  | .nextval _ _ rest, tables => rest.effect process semantics tables
  | .utility call inner _ rest, tables =>
      rest.effect process semantics
        (semantics.own call (inner.effect process semantics tables))
  | .query _ inner _ rest, tables =>
      rest.effect process semantics (inner.effect process semantics tables)
  | .subtransaction inner rolledBack rest, tables =>
      rest.effect process semantics
        (if inner.succeeds process && !rolledBack then
          inner.effect process semantics tables
        else tables)

/-- What a stream does on the receiver. -/
def receive
    (semantics : Semantics Row Tables) (execute : String → Tables → Tables) :
    List (Sent Row) → Tables → Tables
  | [], tables => tables
  | .row written :: rest, tables =>
      receive semantics execute rest (semantics.row written tables)
  | .ddl text :: rest, tables =>
      receive semantics execute rest (execute text tables)
  | .nextval _ _ :: rest, tables => receive semantics execute rest tables

/-- The texts do on the receiver what the statements did on the sender, and a
statement that is not sent does nothing behind what stands inside it. -/
def Acts.Replays
    (process : Process) (semantics : Semantics Row Tables)
    (execute : String → Tables → Tables) : Acts Row → Prop
  | .done => True
  | .row _ rest => rest.Replays process semantics execute
  | .nextval _ _ rest => rest.Replays process semantics execute
  | .utility call inner _ rest =>
      (call.Replicates process → ∀ tables, execute call.message tables =
        semantics.own call (inner.effect process semantics tables)) ∧
      (¬ call.Replicates process →
        (∀ tables, semantics.own call tables = tables) ∧
          inner.Replays process semantics execute) ∧
      rest.Replays process semantics execute
  | .query asked inner _ rest =>
      (asked.remote = true → ∀ tables, execute asked.message tables =
        inner.effect process semantics tables) ∧
      (asked.remote = false → inner.Replays process semantics execute) ∧
      rest.Replays process semantics execute
  | .subtransaction inner rolledBack rest =>
      (inner.succeeds process = true → rolledBack = false →
        inner.Replays process semantics execute) ∧
      rest.Replays process semantics execute

theorem receive_append
    (semantics : Semantics Row Tables) (execute : String → Tables → Tables)
    (first second : List (Sent Row)) (tables : Tables) :
    receive semantics execute (first ++ second) tables =
      receive semantics execute second
        (receive semantics execute first tables) := by
  induction first generalizing tables with
  | nil => rfl
  | cons item rest inductionHypothesis =>
      cases item with
      | row written => exact inductionHypothesis _
      | ddl text => exact inductionHypothesis _
      | nextval seqid next => exact inductionHypothesis _

/-- What should be sent has the effect of the transaction. -/
theorem Acts.receive_sent
    (acts : Acts Row) {semantics : Semantics Row Tables}
    {execute : String → Tables → Tables}
    (replays : acts.Replays process semantics execute) (tables : Tables) :
    receive semantics execute (acts.sent process) tables =
      acts.effect process semantics tables := by
  induction acts generalizing tables with
  | done => rfl
  | row written rest rest_ih => exact rest_ih replays _
  | nextval seqid next rest rest_ih =>
      rw [Acts.sent, receive_append, rest_ih replays, Acts.effect]
      cases process.monotonicSequences with
      | true => rfl
      | false => rfl
  | utility call inner fails rest inner_ih rest_ih =>
      obtain ⟨replicated, skipped, restReplays⟩ := replays
      rw [Acts.sent, receive_append, rest_ih restReplays, Acts.effect]
      by_cases replicates : call.Replicates process
      · rw [if_pos replicates]
        simp only [receive, replicated replicates]
      · obtain ⟨nothing, innerReplays⟩ := skipped replicates
        rw [if_neg replicates, inner_ih innerReplays, nothing]
  | query asked inner fails rest inner_ih rest_ih =>
      obtain ⟨replicated, skipped, restReplays⟩ := replays
      rw [Acts.sent, receive_append, rest_ih restReplays, Acts.effect]
      cases isRemote : asked.remote with
      | true =>
          rw [if_pos rfl]
          simp only [receive, replicated isRemote]
      | false =>
          rw [if_neg Bool.false_ne_true, inner_ih (skipped isRemote)]
  | subtransaction inner rolledBack rest inner_ih rest_ih =>
      obtain ⟨kept, restReplays⟩ := replays
      rw [Acts.sent, receive_append, rest_ih restReplays, Acts.effect]
      congr 1
      split
      · next isKept =>
          rw [Bool.and_eq_true, Bool.not_eq_true'] at isKept
          exact inner_ih (kept isKept.1 isKept.2) tables
      · rfl

/-- A backend outside of a transaction block. -/
def someBackend : Process where
  isLogicalReceiver := false
  isTransactionBlock := false
  monotonicSequences := true

/-- `CREATE TABLE AS`: a statement with a query that writes two rows. -/
def createTableAs (fails : Bool) (rest : Acts ℕ) : Acts ℕ :=
  .utility ⟨.other, "create table t as select 1", "reset role;", true, 16⟩
    (.query ⟨"create table t as select 1", "", false, 32⟩
      (.row 1 (.row 2 .done)) false .done) fails rest

/-- A table is created and a row is inserted; an insert is rolled back with a
position of a sequence. -/
def someTransaction : Acts ℕ :=
  createTableAs false
    (.row 3 (.subtransaction (.nextval 5 1 (.row 4 .done)) true .done))

end Ddl
end Multimaster
