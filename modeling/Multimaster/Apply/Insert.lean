import Mathlib.Data.Finset.Basic
import Mathlib.Data.List.Basic
import Mathlib.Tactic.Common

/-!
# Applying inserts

`process_remote_insert`: a record that is followed by another insert opens a
bulk insert, which takes records until one of two limits is reached; a record
that stands alone goes through `ExecSimpleRelationInsert`.

A run is a list of the tuples of consecutive `I` records.  AFTER triggers are
queued with their rows and run when the call is over, after each record or after
each batch.
-/

namespace Multimaster
namespace Apply

/-- What triggers see and change: the rows of the table, and all the rest. -/
structure Contents (Row World : Type*) where
  rows : List Row
  elsewhere : World
  deriving DecidableEq

/-- A BEFORE ROW INSERT trigger that is fired in replica role.  It gives the row
that goes on, or none. -/
structure BeforeTrigger (Row World Err : Type*) where
  name : String
  body : Contents Row World → Row →
    Except Err (Contents Row World × Option Row)

/-- An AFTER ROW INSERT trigger that is fired in replica role, and not deferred
to the end of the transaction. -/
structure AfterTrigger (Row World Err : Type*) where
  name : String
  body : Contents Row World → Row → Except Err (Contents Row World)

/-- An error by what raised it. -/
inductive InsertError (Err : Type*)
  | before (error : Err)
  | constraint (error : Err)
  | index (error : Err)
  | after (error : Err)
  deriving DecidableEq

/-- A trigger was fired for a row. -/
inductive Firing (Row : Type*)
  | before (name : String) (row : Row)
  | after (name : String) (row : Row)
  deriving DecidableEq

/-- A relation as the apply process opens it. -/
structure Relation (Row World Err : Type*) where
  before : List (BeforeTrigger Row World Err)
  /-- `ExecConstraints`. -/
  constraints : Row → Option Err
  /-- What every index finds against a row, given the rows it has. -/
  indexes : List (List Row → Row → Option Err)
  after : List (AfterTrigger Row World Err)
  /-- `t_len` of the formed tuple. -/
  tLen : Row → ℕ
  /-- The relation is `mtm.local_tables`. -/
  localTables : Bool
  /-- `RangeVarGetRelid` of the names in the first two columns. -/
  relid : Row → Option ℕ
  index_nil : ∀ index ∈ indexes, ∀ row, index [] row = none
  /-- The primary key of `mtm.local_tables` has both columns. -/
  localTables_unique : localTables = true →
    ∃ index ∈ indexes, ∀ rows row, row ∈ rows → index rows row ≠ none

/-- The database and what else an insert changes.  The hash of local tables is
in shared memory: what is registered there stays when the transaction aborts. -/
structure Table (Row World : Type*) where
  contents : Contents Row World
  firings : List (Firing Row)
  registered : Finset ℕ

variable {Row World Err : Type*}

/-- Rows are added. -/
def Table.store (table : Table Row World) (rows : List Row) :
    Table Row World :=
  { table with
    contents :=
      { table.contents with rows := table.contents.rows ++ rows } }

/-- The result of an insert: the table, and the error that was raised. -/
abbrev Inserted (Row World Err : Type*) :=
  Table Row World × Option (InsertError Err)

/-- Go on if there was no error. -/
def Inserted.andThen
    (first : Inserted Row World Err)
    (second : Table Row World → Inserted Row World Err) :
    Inserted Row World Err :=
  match first with
  | (table, none) => second table
  | (table, some error) => (table, some error)

/-- `ExecBRInsertTriggers`: a trigger sees the row as the triggers before it
left it, and one that returns nothing ends the insert. -/
def execBRInsertTriggers :
    Contents Row World → List (BeforeTrigger Row World Err) → Row →
      List (Firing Row) × Except Err (Contents Row World × Option Row)
  | contents, [], row => ([], .ok (contents, some row))
  | contents, trigger :: rest, row =>
      match trigger.body contents row with
      | .ok (changed, some newRow) =>
          let (fired, result) := execBRInsertTriggers changed rest newRow
          (.before trigger.name row :: fired, result)
      | .ok (changed, none) =>
          ([.before trigger.name row], .ok (changed, none))
      | .error error => ([.before trigger.name row], .error error)

/-- The first objection of an index. -/
def Relation.indexError
    (rel : Relation Row World Err) (rows : List Row) (row : Row) :
    Option Err :=
  rel.indexes.findSome? fun index => index rows row

/-- AFTER triggers with the rows they are to be fired for. -/
abbrev Queue (Row World Err : Type*) :=
  List (AfterTrigger Row World Err × Row)

/-- `ExecARInsertTriggers`. -/
def Relation.execARInsertTriggers
    (rel : Relation Row World Err) (row : Row) : Queue Row World Err :=
  rel.after.map fun trigger => (trigger, row)

/-- `AfterTriggerEndQuery`. -/
def afterTriggerEndQuery :
    Queue Row World Err → Table Row World → Inserted Row World Err
  | [], table => (table, none)
  | (trigger, row) :: rest, table =>
      let fired :=
        { table with
          firings := table.firings ++ [.after trigger.name row] }
      match trigger.body table.contents row with
      | .ok contents =>
          afterTriggerEndQuery rest { fired with contents := contents }
      | .error error => (fired, some (.after error))

/-- `ExecSimpleRelationInsert`, with the AFTER triggers it queues. -/
def Relation.execSimpleRelationInsert
    (rel : Relation Row World Err) (table : Table Row World) (row : Row) :
    Inserted Row World Err × Queue Row World Err :=
  let (fired, result) := execBRInsertTriggers table.contents rel.before row
  let table := { table with firings := table.firings ++ fired }
  match result with
  | .error error => ((table, some (.before error)), [])
  | .ok (contents, none) => (({ table with contents := contents }, none), [])
  | .ok (contents, some row) =>
      let table := { table with contents := contents }
      match rel.constraints row with
      | some error => ((table, some (.constraint error)), [])
      | none =>
          match rel.indexError contents.rows row with
          | some error => ((table.store [row], some (.index error)), [])
          | none =>
              ((table.store [row], none), rel.execARInsertTriggers row)

/-- `MtmMakeTableLocal`, when the relation is `mtm.local_tables`. -/
def Relation.makeTableLocal
    (rel : Relation Row World Err) (table : Table Row World) (row : Row) :
    Table Row World :=
  if rel.localTables then
    match rel.relid row with
    | some relid =>
        { table with registered := insert relid table.registered }
    | none => table
  else table

/-- The end of `process_remote_insert`. -/
def Relation.finishInsert
    (rel : Relation Row World Err) (inserted : Inserted Row World Err)
    (queue : Queue Row World Err) (last : Row) : Inserted Row World Err :=
  inserted.andThen fun table =>
    (afterTriggerEndQuery queue table).andThen fun table =>
      (rel.makeTableLocal table last, none)

/-- `process_remote_insert` of a record that is not followed by another. -/
def Relation.insertSingle
    (rel : Relation Row World Err) (table : Table Row World) (row : Row) :
    Inserted Row World Err :=
  let (inserted, queue) := rel.execSimpleRelationInsert table row
  rel.finishInsert inserted queue row

/-- The loop over the slots after `heap_multi_insert`: the indexes, and the
AFTER triggers of every row are queued. -/
def Relation.indexSlots (rel : Relation Row World Err) :
    List Row → List Row → Queue Row World Err × Option (InsertError Err)
  | _, [] => ([], none)
  | indexed, row :: rest =>
      if 0 < rel.indexes.length then
        match rel.indexError indexed row with
        | some error => ([], some (.index error))
        | none =>
            let (queued, error) := rel.indexSlots (indexed ++ [row]) rest
            (rel.execARInsertTriggers row ++ queued, error)
      else if 0 < rel.after.length then
        let (queued, error) := rel.indexSlots (indexed ++ [row]) rest
        (rel.execARInsertTriggers row ++ queued, error)
      else rel.indexSlots (indexed ++ [row]) rest

/-- The bulk insert of a batch.  `MtmMakeTableLocal` is called with the tuple
that was read last. -/
def Relation.insertBulk
    (rel : Relation Row World Err) (table : Table Row World) (first : Row)
    (others : List Row) : Inserted Row World Err :=
  let (queue, error) := rel.indexSlots table.contents.rows (first :: others)
  rel.finishInsert (table.store (first :: others), error) queue
    (others.getLastD first)

/-- `MAX_BUFFERED_TUPLES`. -/
def maxBufferedTuples : ℕ := 1024

/-- `MAX_BUFFERED_TUPLES_SIZE`. -/
def maxBufferedTuplesSize : ℕ := 0x10000

/-- The loop that takes records into the buffer; the second part is left in the
input. -/
def Relation.bufferTuples (rel : Relation Row World Err) :
    ℕ → ℕ → List Row → List Row × List Row
  | _, _, [] => ([], [])
  | count, size, row :: rest =>
      if count < maxBufferedTuples ∧ size < maxBufferedTuplesSize then
        let (taken, left) :=
          rel.bufferTuples (count + 1) (size + rel.tLen row) rest
        (row :: taken, left)
      else ([], row :: rest)

/-- `process_remote_insert` at a record with the records behind it. -/
def Relation.processRemoteInsert
    (rel : Relation Row World Err) (table : Table Row World) (row : Row) :
    List Row → Inserted Row World Err × List Row
  | [] => (rel.insertSingle table row, [])
  | next :: rest =>
      let (taken, left) := rel.bufferTuples 1 (rel.tLen row) (next :: rest)
      (rel.insertBulk table row taken, left)

/-- The executor at a run of inserts.  A call takes at least one record, so that
the length of the run is fuel enough. -/
def Relation.applyRecords (rel : Relation Row World Err) :
    ℕ → Table Row World → List Row → Inserted Row World Err
  | _, table, [] => (table, none)
  | 0, table, _ => (table, none)
  | fuel + 1, table, row :: rest =>
      let (inserted, left) := rel.processRemoteInsert table row rest
      inserted.andThen fun table => rel.applyRecords fuel table left

/-- The executor at a run of inserts. -/
def Relation.applyRun
    (rel : Relation Row World Err) (table : Table Row World) (run : List Row) :
    Inserted Row World Err :=
  rel.applyRecords run.length table run

/-- Every record alone. -/
def Relation.insertEach (rel : Relation Row World Err) :
    Table Row World → List Row → Inserted Row World Err
  | table, [] => (table, none)
  | table, row :: rest =>
      (rel.insertSingle table row).andThen fun table =>
        rel.insertEach table rest

/-- What is left of an insert: an error takes back the rows and what the
triggers did. -/
def observe :
    Inserted Row World Err →
      Finset ℕ ×
        Except (InsertError Err) (Contents Row World × List (Firing Row))
  | (table, none) => (table.registered, .ok (table.contents, table.firings))
  | (table, some error) => (table.registered, .error error)

end Apply
end Multimaster
