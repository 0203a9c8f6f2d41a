import Multimaster.Rows.Records
import Multimaster.Stream.Rows

/-!
# What the sender writes

The callbacks inside a transaction that changes the table, takes positions of
sequences, runs statements and broadcasts the table, with the records they write.
A header is written when the sender thinks that the relation is not open.
-/

namespace Multimaster
namespace Rows

open Multimaster.Tuple (DeformedTuple writeTuple)
open Multimaster.Stream (Oid Sender invalidOid)

variable {Value : Type}

/-! ## Headers -/

/-- A relation of the sender. -/
structure Header where
  relid : Oid
  isOid : relid < 2 ^ 32
  valid : relid ≠ invalidOid
  nspname : Name
  relname : Name

namespace Header

/-- The relation as the sender's variables see it. -/
def relation (header : Header) : Stream.Relation where
  relid := header.relid
  name :=
    { nspname := String.ofList (Events.decode header.nspname.text.bytes)
      relname := String.ofList (Events.decode header.relname.text.bytes) }

/-- The bytes of a header, with the names or without. -/
def bytes (header : Header) : Stream.Record → List UInt8
  | .relation relid names =>
      82 :: pglogicalWriteRel relid
        (names.map fun _ => (header.nspname, header.relname))
  | _ => []

/-- `pglogical_write_rel`. -/
def write (header : Header) (sender : Sender) : Sender × List (List UInt8) :=
  let output := Stream.pglogicalWriteRel header.relation sender
  (output.1, output.2.map header.bytes)

section Cases

variable {header : Header} {sender : Sender}

theorem write_of_inside (inside : sender.ddlInProgress = true) :
    header.write sender = (sender, []) := by
  simp [write, Stream.pglogicalWriteRel, inside]

theorem write_of_open
    (outside : sender.ddlInProgress = false)
    (isOpen : header.relid = sender.mtmLastRelId) :
    header.write sender = (sender, []) := by
  simp [write, Stream.pglogicalWriteRel, relation, outside, isOpen]

theorem write_of_named
    (outside : sender.ddlInProgress = false)
    (notOpen : header.relid ≠ sender.mtmLastRelId)
    (isNamed : sender.relidMap header.relid = sender.mtmSenderTid) :
    header.write sender =
      ({ sender with mtmLastRelId := header.relid },
        [82 :: pglogicalWriteRel header.relid none]) := by
  simp [write, Stream.pglogicalWriteRel, relation, bytes, outside, notOpen,
    isNamed]

theorem write_of_unnamed
    (outside : sender.ddlInProgress = false)
    (notOpen : header.relid ≠ sender.mtmLastRelId)
    (notNamed : sender.relidMap header.relid ≠ sender.mtmSenderTid) :
    header.write sender =
      ({ sender with
          mtmLastRelId := header.relid
          relidMap :=
            Function.update sender.relidMap header.relid sender.mtmSenderTid },
        [82 :: pglogicalWriteRel header.relid
          (some (header.nspname, header.relname))]) := by
  simp [write, Stream.pglogicalWriteRel, relation, bytes, outside, notOpen,
    notNamed]

end Cases

end Header

/-! ## Callbacks -/

/-- The callbacks inside a transaction, for one table. -/
inductive Callback (Value : Type)
  | change (change : RowChange Value)
  /-- `B` -/
  | plain (endLsn : UInt64) (message : List UInt8)
  /-- `D` -/
  | ddl (endLsn : UInt64) (message : List UInt8)
  /-- `E` -/
  | ddlEnd
  /-- `N` -/
  | nextval (sequence : Header) (next : UInt64)
  /-- `T`, with whether the receiver is among its targets and the rows of the
  table. -/
  | copyTable (targeted : Bool) (rows : List (DeformedTuple Value))

/-- The tuples of `pglogical_broadcast_table`. -/
def writeTuples (ddlInProgress wantBinary : Bool) :
    List (DeformedTuple Value) → Option (List (List UInt8))
  | [] => some []
  | row :: rest => do
      let tuple ← writeTuple ddlInProgress wantBinary row
      let tuples ← writeTuples ddlInProgress wantBinary rest
      pure ((73 :: tuple) :: tuples)

/-- The beginning of `pglogical_write_message`. -/
def forgetRel (sender : Sender) : Sender :=
  { sender with mtmLastRelId := invalidOid }

/-- `pg_decode_change`, `pglogical_write_message` and
`pglogical_broadcast_table`: the records they write. -/
def Callback.write (wantBinary : Bool) (table : Header) :
    Callback Value → Sender → Option (Sender × List (List UInt8))
  | .change row, sender => do
      let header := table.write sender
      let written ← row.write header.1.ddlInProgress wantBinary
      pure (header.1, header.2 ++ if written.isEmpty then [] else [written])
  | .plain endLsn message, sender =>
      some (forgetRel sender,
        [Events.pglogicalWriteMessage 66 endLsn message])
  | .ddl endLsn message, sender =>
      some ({ forgetRel sender with ddlInProgress := true },
        [Events.pglogicalWriteMessage 68 endLsn message])
  | .ddlEnd, sender =>
      some ({ forgetRel sender with ddlInProgress := false }, [])
  | .nextval sequence next, sender =>
      if sender.ddlInProgress then some (forgetRel sender, [])
      else
        let header := sequence.write (forgetRel sender)
        some (header.1, header.2 ++ [78 :: Message.sendInt64 next])
  | .copyTable targeted rows, sender =>
      if targeted then do
        let header := table.write (forgetRel sender)
        let tuples ← writeTuples sender.ddlInProgress wantBinary rows
        pure (header.1, header.2 ++ [48] :: tuples)
      else some (forgetRel sender, [])

/-- The callbacks one after the other. -/
def writeAll (wantBinary : Bool) (table : Header) :
    List (Callback Value) → Sender → Option (Sender × List (List UInt8))
  | [], sender => some (sender, [])
  | callback :: rest, sender => do
      let first ← callback.write wantBinary table sender
      let later ← writeAll wantBinary table rest first.1
      pure (later.1, first.2 ++ later.2)

theorem writeAll_append
    {wantBinary : Bool} {table : Header} {first second : List (Callback Value)}
    {sender middle last : Sender} {sent later : List (List UInt8)}
    (writesFirst : writeAll wantBinary table first sender = some (middle, sent))
    (writesSecond :
      writeAll wantBinary table second middle = some (last, later)) :
    writeAll wantBinary table (first ++ second) sender =
      some (last, sent ++ later) := by
  induction first generalizing sender sent with
  | nil =>
      cases writesFirst
      exact writesSecond
  | cons callback rest inductionHypothesis =>
      simp only [writeAll, Option.bind_eq_bind, Option.bind_eq_some_iff,
        Option.pure_def, Option.some.injEq, Prod.mk.injEq] at writesFirst
      obtain ⟨one, isOne, others, areOthers, rfl, rfl⟩ := writesFirst
      have all := inductionHypothesis areOthers
      simp only [List.cons_append, writeAll, isOne, all, Option.bind_eq_bind,
        Option.bind_some, Option.pure_def, List.append_assoc]

/-- Between `D` and `E` rows and positions are not sent. -/
inductive Callback.IsQuiet : Callback Value → Prop
  | change (change : RowChange Value) : IsQuiet (.change change)
  | nextval (sequence : Header) (next : UInt64) :
      IsQuiet (.nextval sequence next)

theorem RowChange.write_inside
    (wantBinary : Bool) (change : RowChange Value) :
    change.write true wantBinary = some [] := by
  cases change with
  | insert newtuple => rfl
  | update oldtuple newtuple => rfl
  | delete oldtuple => cases oldtuple <;> rfl

theorem writeAll_inside
    (wantBinary : Bool) (table : Header) {inside : List (Callback Value)}
    (quiet : ∀ callback ∈ inside, callback.IsQuiet) {sender : Sender}
    (inProgress : sender.ddlInProgress = true)
    (forgotten : sender.mtmLastRelId = invalidOid) :
    writeAll wantBinary table inside sender = some (sender, []) := by
  induction inside with
  | nil => rfl
  | cons callback rest inductionHypothesis =>
      have others := inductionHypothesis fun other isOther =>
        quiet other (List.mem_cons_of_mem _ isOther)
      have one : callback.write wantBinary table sender =
          some (sender, []) := by
        cases quiet callback List.mem_cons_self with
        | change change =>
            have header : table.write sender = (sender, []) :=
              Header.write_of_inside inProgress
            simp [Callback.write, header, inProgress, change.write_inside]
        | nextval sequence next =>
            have same : forgetRel sender = sender := by
              rw [forgetRel, ← forgotten]
            rw [Callback.write, if_pos inProgress, same]
      simp [writeAll, one, others]

/-! ## The map -/

/-- The map of the sender has no identifiers of later transactions. -/
structure Regular (sender : Sender) : Prop where
  bounded : ∀ relid, sender.relidMap relid ≤ sender.mtmSenderTid
  small : sender.mtmSenderTid < 2 ^ 32

section Regular

variable {sender : Sender}

theorem Regular.forget (regular : Regular sender) :
    Regular (forgetRel sender) :=
  ⟨regular.bounded, regular.small⟩

theorem Regular.header (regular : Regular sender) (header : Header) :
    Regular (header.write sender).1 := by
  have tid := Stream.pglogicalWriteRel_tid header.relation sender
  refine ⟨fun relid => ?_, ?_⟩
  · rw [Header.write, tid]
    rcases Stream.pglogicalWriteRel_entries header.relation sender relid with
      same | ⟨isTid, -⟩
    · rw [same]
      exact regular.bounded relid
    · rw [isTid]
  · rw [Header.write, tid]
    exact regular.small

theorem Regular.write
    (regular : Regular sender) {callback : Callback Value}
    {wantBinary : Bool} {table : Header} {output : Sender × List (List UInt8)}
    (written : callback.write wantBinary table sender = some output) :
    Regular output.1 := by
  have forgotten := regular.forget
  cases callback with
  | change row =>
      simp only [Callback.write, Option.bind_eq_bind, Option.bind_eq_some_iff,
        Option.pure_def, Option.some.injEq] at written
      obtain ⟨-, -, rfl⟩ := written
      exact regular.header table
  | plain endLsn message =>
      cases written
      exact forgotten
  | ddl endLsn message =>
      cases written
      exact ⟨forgotten.bounded, forgotten.small⟩
  | ddlEnd =>
      cases written
      exact ⟨forgotten.bounded, forgotten.small⟩
  | nextval sequence next =>
      rw [Callback.write] at written
      split at written
      · cases written
        exact forgotten
      · cases written
        exact forgotten.header sequence
  | copyTable targeted rows =>
      rw [Callback.write] at written
      split at written
      · simp only [Option.bind_eq_bind, Option.bind_eq_some_iff,
          Option.pure_def, Option.some.injEq] at written
        obtain ⟨-, -, rfl⟩ := written
        exact forgotten.header table
      · cases written
        exact forgotten

theorem Regular.all
    (regular : Regular sender) {callbacks : List (Callback Value)}
    {wantBinary : Bool} {table : Header} {output : Sender × List (List UInt8)}
    (written : writeAll wantBinary table callbacks sender = some output) :
    Regular output.1 := by
  induction callbacks generalizing sender output with
  | nil =>
      cases written
      exact regular
  | cons callback rest inductionHypothesis =>
      simp only [writeAll, Option.bind_eq_bind, Option.bind_eq_some_iff,
        Option.pure_def, Option.some.injEq] at written
      obtain ⟨first, isFirst, later, isLater, rfl⟩ := written
      have kept : Regular later.1 :=
        inductionHypothesis (regular.write isFirst) isLater
      exact kept

end Regular

end Rows
end Multimaster
