import Mathlib.Data.List.Basic

/-!
# Capturing schema changes

A backend sends its utility statements as texts (`MtmProcessUtilitySender`), and
so it does with queries that call a remote function (`MtmExecutorStart`).  What
such a statement writes itself is kept from the stream by a pair of messages
around it, and a statement inside another one is not sent again.

The apply processes log what they apply, for those who recover from the node
(`MtmApplyDDLMessage`), with the rows of the triggers that are fired there.
-/

namespace Multimaster
namespace Ddl

/-! ## Which statements are sent -/

/-- The kinds of `VariableSetStmt`. -/
inductive VariableSetKind
  | setValue
  | setDefault
  | setCurrent
  | setMulti
  | reset
  | resetAll
  deriving DecidableEq

/-- The targets of `DISCARD`. -/
inductive DiscardTarget
  | all
  | plans
  | sequences
  | temp
  deriving DecidableEq

/-- The statements that are passed over without a look. -/
inductive PassedTag
  /-- Those that do not end the transaction. -/
  | transactionStmt
  | plannedStmt
  | fetchStmt
  | doStmt
  | callStmt
  | commentStmt
  | prepareStmt
  | executeStmt
  | deallocateStmt
  | notifyStmt
  | listenStmt
  | unlistenStmt
  | loadStmt
  | clusterStmt
  | variableShowStmt
  | reassignOwnedStmt
  | lockStmt
  | checkPointStmt
  | reindexStmt
  | alterSystemStmt
  | createdbStmt
  | dropdbStmt
  | declareCursorStmt
  | closePortalStmt
  | vacuumStmt
  deriving DecidableEq

/-- A utility statement, as far as `MtmProcessUtilitySender` looks at it. -/
inductive Statement
  | passed (tag : PassedTag)
  | createSeqStmt
  | createTableSpaceStmt
  | dropTableSpaceStmt
  /-- `createTableAs` says that a `CREATE TABLE AS` is explained. -/
  | explainStmt (createTableAs : Bool) (options : List String)
  | discardStmt (target : DiscardTarget)
  /-- `RESET ALL` has no name. -/
  | variableSetStmt (kind : VariableSetKind) (name : Option String)
  | indexStmt (concurrent : Bool)
  | dropStmt (removesIndex concurrent : Bool)
  | copyStmt
  | other
  deriving DecidableEq

/-- What is done with a statement before it is executed. -/
inductive Decision
  /-- `skipCommand` is not set. -/
  | replicate
  | skip
  /-- It goes out as a message of its own with this label, and is skipped. -/
  | standalone (label : Char)
  /-- An error is raised. -/
  | refuse
  /-- `strcmp` is called without a name. -/
  | undefined
  deriving DecidableEq

/-- The first switch of `MtmProcessUtilitySender`. -/
def Statement.decide
    (isTransactionBlock isTopLevel : Bool) : Statement → Decision
  | .passed _ => .skip
  | .createSeqStmt => .replicate
  | .createTableSpaceStmt => .standalone 'C'
  | .dropTableSpaceStmt => .standalone 'C'
  | .explainStmt createTableAs options =>
      if createTableAs && options.contains "analyze" then .replicate else .skip
  | .discardStmt target =>
      if !isTransactionBlock && target = .all then .skip
      else if target ≠ .temp then .skip
      else .replicate
  | .variableSetStmt kind name =>
      if kind = .setMulti then .skip
      else
        match name with
        | none => .undefined
        | some name =>
            if name = "application_name" || !isTransactionBlock then .skip
            else .replicate
  | .indexStmt concurrent =>
      if concurrent && isTopLevel then .refuse else .replicate
  | .dropStmt removesIndex concurrent =>
      if removesIndex && concurrent && isTopLevel then .refuse else .replicate
  | .copyStmt => .skip
  | .other => .replicate

/-! ## A transaction of a backend -/

/-- A utility statement that is executed.  The address is that of
`stmt_string`. -/
structure Call where
  statement : Statement
  text : String
  /-- What `MtmGucSerialize` returns at that time. -/
  gucCtx : String
  isTopLevel : Bool
  address : ℕ
  deriving DecidableEq

/-- A query that is executed; the address is that of its `QueryDesc`. -/
structure Query where
  sourceText : String
  gucCtx : String
  /-- A target list names a remote function. -/
  remote : Bool
  address : ℕ
  deriving DecidableEq

/-- What happens in a transaction, in order.  What a statement does itself stands
inside it, and `fails` says that it raises an error behind that. -/
inductive Acts (Row : Type)
  | done
  | row (row : Row) (rest : Acts Row)
  | nextval (seqid next : ℕ) (rest : Acts Row)
  | utility (call : Call) (inner : Acts Row) (fails : Bool) (rest : Acts Row)
  | query (query : Query) (inner : Acts Row) (fails : Bool) (rest : Acts Row)
  /-- A subtransaction; it may be rolled back also when nothing fails. -/
  | subtransaction (inner : Acts Row) (rolledBack : Bool) (rest : Acts Row)

/-- What a transaction leaves in the WAL for the decoder. -/
inductive Logged (Row : Type)
  | row (row : Row)
  /-- `D` -/
  | ddl (text : String)
  /-- `E` -/
  | ddlEnd
  /-- `N` -/
  | nextval (seqid next : ℕ)
  deriving DecidableEq

/-- The process and its settings. -/
structure Process where
  /-- `MtmIsLogicalReceiver`. -/
  isLogicalReceiver : Bool
  isTransactionBlock : Bool
  /-- `MtmMonotonicSequences`. -/
  monotonicSequences : Bool

/-- What a part of a transaction did. -/
structure Result (Row : Type) where
  log : List (Logged Row)
  /-- `MtmDDLStatement`, as an address. -/
  ddlStatement : Option ℕ
  /-- `MtmTx.contains_ddl` was set. -/
  containsDdl : Bool
  /-- No error was raised. -/
  ok : Bool

variable {Row : Type}

/-- What comes behind, if nothing was raised. -/
def Result.andThen
    (result : Result Row) (rest : Option ℕ → Result Row) : Result Row :=
  if result.ok then
    let later := rest result.ddlStatement
    { later with
      log := result.log ++ later.log
      containsDdl := result.containsDdl || later.containsDdl }
  else result

/-- A statement may raise an error itself. -/
def Result.failing (result : Result Row) (fails : Bool) : Result Row :=
  { result with ok := result.ok && !fails }

/-- Something is logged before. -/
def Result.logFirst (result : Result Row) (logged : List (Logged Row)) :
    Result Row :=
  { result with log := logged ++ result.log }

/-- `MtmProcessDDLCommand` for a transactional statement. -/
def mtmProcessDDLCommand (gucCtx queryString : String) : List (Logged Row) :=
  [.ddl (gucCtx ++ " " ++ queryString)]

/-- `MtmFinishDDLCommand` with the end of `MtmProcessUtilitySender`, for a
statement that was sent. -/
def Result.finishUtility (result : Result Row) : Result Row :=
  if result.ok then
    { result with
      log := result.log ++ [.ddlEnd]
      ddlStatement := none
      containsDdl := true }
  else result

/-- The end of `MtmExecutorStart`, for a query that is sent. -/
def Result.startQuery (result : Result Row) (gucCtx sourceText : String) :
    Result Row :=
  { result with
    log := mtmProcessDDLCommand gucCtx sourceText ++ result.log
    containsDdl := true }

/-- The end of `MtmExecutorFinish`. -/
def Result.finishQuery (result : Result Row) (address : ℕ) : Result Row :=
  if result.ok && result.ddlStatement = some address then
    { result with
      log := result.log ++ [.ddlEnd]
      ddlStatement := none }
  else result

/-- The end of a subtransaction: what was rolled back is not decoded, and an
error has been caught.  The variables of the process stay. -/
def Result.finishSubtransaction (result : Result Row) (rolledBack : Bool) :
    Result Row :=
  { result with
    log := if result.ok && !rolledBack then result.log else []
    ok := true }

/-- `MtmProcessUtility` around a statement, with what the statement itself
does. -/
def Call.run
    (process : Process) (call : Call)
    (inner : Option ℕ → Result Row) (fails : Bool)
    (ddlStatement : Option ℕ) : Result Row :=
  if process.isLogicalReceiver then
    (inner ddlStatement).failing fails
  else
    match call.statement.decide process.isTransactionBlock call.isTopLevel with
    | .refuse | .undefined => ⟨[], ddlStatement, false, false⟩
    | .replicate =>
        if ddlStatement = none then
          (((inner (some call.address)).failing fails).logFirst
            (mtmProcessDDLCommand call.gucCtx call.text)).finishUtility
        else (inner ddlStatement).failing fails
    | .skip | .standalone _ => (inner ddlStatement).failing fails

/-- `MtmExecutorStart` and `MtmExecutorFinish` around a query. -/
def Query.run
    (process : Process) (query : Query)
    (inner : Option ℕ → Result Row) (fails : Bool)
    (ddlStatement : Option ℕ) : Result Row :=
  if !process.isLogicalReceiver && ddlStatement = none && query.remote then
    (((inner (some query.address)).failing fails).startQuery query.gucCtx
      query.sourceText).finishQuery query.address
  else
    ((inner ddlStatement).failing fails).finishQuery query.address

/-- `MtmSeqNextvalHook`. -/
def mtmSeqNextvalHook (process : Process) (seqid next : ℕ) :
    List (Logged Row) :=
  if process.monotonicSequences then [.nextval seqid next] else []

/-- Execute a part of a transaction. -/
def Acts.run (process : Process) : Acts Row → Option ℕ → Result Row
  | .done, ddlStatement => ⟨[], ddlStatement, false, true⟩
  | .row written rest, ddlStatement =>
      (rest.run process ddlStatement).logFirst [.row written]
  | .nextval seqid next rest, ddlStatement =>
      (rest.run process ddlStatement).logFirst
        (mtmSeqNextvalHook process seqid next)
  | .utility call inner fails rest, ddlStatement =>
      (call.run process (inner.run process) fails ddlStatement).andThen
        (rest.run process)
  | .query asked inner fails rest, ddlStatement =>
      (asked.run process (inner.run process) fails ddlStatement).andThen
        (rest.run process)
  | .subtransaction inner rolledBack rest, ddlStatement =>
      ((inner.run process ddlStatement).finishSubtransaction
        rolledBack).andThen (rest.run process)

/-- A transaction begins with `MtmDDLResetStatement`. -/
def Acts.transaction (process : Process) (acts : Acts Row) : Result Row :=
  acts.run process none

/-! ## The decoder -/

/-- What the receiver gets. -/
inductive Sent (Row : Type)
  | row (row : Row)
  | ddl (text : String)
  | nextval (seqid next : ℕ)
  deriving DecidableEq

/-- What the output plugin writes for a transaction; the flag is
`DDLInProgress`. -/
def decode : Bool → List (Logged Row) → List (Sent Row)
  | _, [] => []
  | ddlInProgress, .row row :: rest =>
      (if ddlInProgress then [] else [.row row]) ++ decode ddlInProgress rest
  | _, .ddl text :: rest => .ddl text :: decode true rest
  | _, .ddlEnd :: rest => decode false rest
  | ddlInProgress, .nextval seqid next :: rest =>
      (if ddlInProgress then [] else [.nextval seqid next]) ++
        decode ddlInProgress rest

/-! ## The receiver -/

/-- Something that a node received, with what it does to apply it. -/
inductive Applied (Row : Type)
  /-- The row is written as the triggers leave it, between what the triggers that
  are fired do. -/
  | row (row : Row) (acts : Acts Row)
  /-- `acts` is what the text does there. -/
  | ddl (text : String) (acts : Acts Row)
  /-- The positions are those that `AdjustSequence` reports to the hook. -/
  | nextval (seqid next : ℕ) (positions : List (ℕ × ℕ))

/-- What was received. -/
def Applied.received : Applied Row → Sent Row
  | .row written _ => .row written
  | .ddl text _ => .ddl text
  | .nextval seqid next _ => .nextval seqid next

/-- `MtmApplyDDLMessage` for a transactional message; none when the statement
raises an error. -/
def mtmApplyDDLMessage
    (process : Process) (text : String) (acts : Acts Row) :
    Option (List (Logged Row)) :=
  let result := acts.run process none
  if result.ok then some (.ddl text :: result.log ++ [.ddlEnd]) else none

/-- What is left in the WAL for something that was received. -/
def Applied.log (process : Process) :
    Applied Row → Option (List (Logged Row))
  | .row _ acts =>
      let result := acts.run process none
      if result.ok then some result.log else none
  | .ddl text acts => mtmApplyDDLMessage process text acts
  | .nextval _ _ positions => some (positions.flatMap fun position =>
      mtmSeqNextvalHook process position.1 position.2)

/-- What `MtmExecutor` leaves in the WAL for what it receives. -/
def relog (process : Process) :
    List (Applied Row) → Option (List (Logged Row))
  | [] => some []
  | item :: rest => do
      let first ← item.log process
      let later ← relog process rest
      some (first ++ later)

end Ddl
end Multimaster
