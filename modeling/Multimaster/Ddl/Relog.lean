import Multimaster.Ddl.Replay

/-!
# Forwarding to a recovering node

What a node logs for a transaction that it applies is decoded to the statements
it received and to the rows it wrote for the rows it received.
-/

namespace Multimaster
namespace Ddl

variable {Row : Type} {process : Process}

/-- Rows and statements; positions of sequences are left out. -/
def Sent.isChange : Sent Row → Bool
  | .row _ => true
  | .ddl _ => true
  | .nextval _ _ => false

/-- What those who recover from the node should get: a statement as its text, with
nothing of what it did here, and a row as what was written for it, with what the
triggers on it wrote. -/
def Applied.forwarded (process : Process) : Applied Row → List (Sent Row)
  | .row _ acts => acts.written process
  | .ddl text _ => [.ddl text]
  | .nextval _ _ positions =>
      if process.monotonicSequences then
        positions.map fun position => .nextval position.1 position.2
      else []

/-- A row is written as it was received, and no trigger writes another one. -/
def Applied.Untouched : Applied Row → Prop
  | .row written acts => acts = .row written .done
  | .ddl _ _ => True
  | .nextval _ _ _ => True

/-- On a receiver nothing is sent by what it applies. -/
theorem Acts.run_receiver
    (acts : Acts Row) (isReceiver : process.isLogicalReceiver = true) :
    (acts.run process none).Quiet none (acts.written process) :=
  acts.run_quiet process (Or.inl isReceiver)
    fun address absurdity => by cases absurdity

theorem decode_adjustSequence
    (positions : List (ℕ × ℕ)) (tail : List (Logged Row)) :
    decode false ((positions.flatMap fun position =>
        mtmSeqNextvalHook process position.1 position.2) ++ tail) =
      (if process.monotonicSequences then
        positions.map fun position => .nextval position.1 position.2
      else []) ++ decode false tail := by
  induction positions with
  | nil =>
      rw [List.map_nil, ite_self]
      rfl
  | cons position rest inductionHypothesis =>
      rw [List.flatMap_cons, List.append_assoc, decode_nextval,
        inductionHypothesis]
      cases process.monotonicSequences with
      | true => rfl
      | false => rfl

/-- One thing that was received is decoded again. -/
theorem Applied.decode_log
    {item : Applied Row} {log : List (Logged Row)}
    (isReceiver : process.isLogicalReceiver = true)
    (isLog : item.log process = some log) (tail : List (Logged Row)) :
    decode false (log ++ tail) =
      item.forwarded process ++ decode false tail := by
  cases item with
  | row written acts =>
      simp only [Applied.log] at isLog
      split at isLog
      · next isOk =>
          cases isLog
          exact (acts.run_receiver isReceiver).decoded isOk tail
      · cases isLog
  | ddl text acts =>
      simp only [Applied.log, mtmApplyDDLMessage] at isLog
      split at isLog
      · cases isLog
        exact decode_statement (acts.run_receiver isReceiver).plain false text
          tail
      · cases isLog
  | nextval seqid next positions =>
      cases isLog
      exact decode_adjustSequence positions tail

/-- What goes on is what should be forwarded, in the order of the transaction. -/
theorem decode_relog
    {stream : List (Applied Row)} {log : List (Logged Row)}
    (isReceiver : process.isLogicalReceiver = true)
    (applied : relog process stream = some log) :
    decode false log = stream.flatMap (Applied.forwarded process) := by
  induction stream generalizing log with
  | nil =>
      cases applied
      rfl
  | cons item rest inductionHypothesis =>
      obtain ⟨first, isFirst, behind⟩ := Option.bind_eq_some_iff.mp applied
      obtain ⟨later, isLater, same⟩ := Option.bind_eq_some_iff.mp behind
      cases same
      rw [item.decode_log isReceiver isFirst, inductionHypothesis isLater,
        List.flatMap_cons]

variable (process) in
/-- Without such triggers a row goes on as it came. -/
theorem Applied.filter_forwarded
    {item : Applied Row} (untouched : item.Untouched) :
    (item.forwarded process).filter Sent.isChange =
      [item.received].filter Sent.isChange := by
  cases item with
  | row written acts =>
      cases untouched
      rfl
  | ddl text acts => rfl
  | nextval seqid next positions =>
      simp only [Applied.forwarded]
      split
      · refine List.filter_eq_nil_iff.mpr fun sent isSent => ?_
        obtain ⟨position, -, rfl⟩ := List.mem_map.mp isSent
        exact Bool.false_ne_true
      · rfl

/-- A replica with a trigger on statements, and monotonic sequences. -/
def someReceiver : Process where
  isLogicalReceiver := true
  isTransactionBlock := false
  monotonicSequences := true

/-- A row on which a trigger writes another one, a statement and a position. -/
def someStream : List (Applied ℕ) :=
  [.row 3 (.row 3 (.row 30 .done)),
    .ddl "create table t as select 1"
      (createTableAs false (.nextval 5 6 .done)),
    .nextval 5 7 [(5, 7)]]

end Ddl
end Multimaster
