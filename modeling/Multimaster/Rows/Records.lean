import Multimaster.Events.Agreement
import Multimaster.Output.Packets
import Multimaster.Rows.Defs

/-!
# The records of the sender

What the sender writes around rows, as records that the executor reads exactly:
`BEGIN`, the headers of relations, transactional messages, and the ends of
transactions.
-/

namespace Multimaster
namespace Rows

open Events (End)
open Message (CString sendInt64 reads_getInt64)
open Output (CommitRecord)
open Spill (Record)
open Multimaster.Tuple (ReadColumn TupleDesc)
open Wire

variable {Value : Type}
variable (rule : Text.EofRule) (senderNodeId : ℕ) (desc : TupleDesc Value)
variable (tLen : List ReadColumn → ℕ)

/-! ## Begin -/

/-- What `pglogical_write_begin` writes behind `B`; the numbers stand for a
snapshot and a mask. -/
def pglogicalWriteBegin (myNodeId : ℕ) (xid : UInt64) : List UInt8 :=
  List.flatten [sendInt 4 myNodeId, sendInt64 xid, sendInt64 42, sendInt64 142]

/-- `B`. -/
def actionB : UInt8 := 66

/-- The record of `BEGIN`. -/
def beginRecord (config : Events.Config) (xid : UInt64) :
    Record (tableHandlers rule senderNodeId desc tLen) where
  action := actionB
  body := pglogicalWriteBegin config.myNodeId xid
  content := .begin config.myNodeId xid
  reads := by
    have fits : config.myNodeId < 256 ^ 4 :=
      Nat.lt_of_le_of_lt config.my_le (by decide)
    exact (reads_getInt fits).field ((reads_getInt64 xid).field
      ((reads_getInt64 42).field ((reads_getInt64 142).field (Reads.pure _))))
  notFile := by decide
  notOpen := by decide
  notClose := by decide
  notCaughtup := by decide

/-! ## Headers -/

/-- A name; `NAMEDATALEN` is 64. -/
structure Name where
  text : CString
  short : text.bytes.length < 64

/-- What `pglogical_write_rel` writes behind `R`, with the names or without. -/
def pglogicalWriteRel (relid : ℕ) : Option (Name × Name) → List UInt8
  | some (nspname, relname) =>
      List.flatten
        [sendInt 4 relid,
          [UInt8.ofNat (nspname.text.bytes.length + 1)],
          Events.sendString nspname.text,
          [UInt8.ofNat (relname.text.bytes.length + 1)],
          Events.sendString relname.text]
  | none => List.flatten [sendInt 4 relid, [0], [0]]

/-- The names in a header. -/
def headerNames : Option (Name × Name) → List UInt8 × List UInt8
  | some (nspname, relname) =>
      (Events.sendString nspname.text, Events.sendString relname.text)
  | none => ([], [])

theorem reads_name
    {Result : Type} {next : List UInt8 → Reader Result} (name : Name)
    {fields : List (List UInt8)} {result : Result}
    (reads : Reads (next (Events.sendString name.text)) fields.flatten result) :
    Reads (do
      let length ← getByte
      let text ← getBytes length.toNat
      next text)
      ([UInt8.ofNat (name.text.bytes.length + 1)] ::
        Events.sendString name.text :: fields).flatten result := by
  have short := name.short
  have length : (UInt8.ofNat (name.text.bytes.length + 1)).toNat =
      (Events.sendString name.text).length := by
    rw [UInt8.toNat_ofNat', Nat.mod_eq_of_lt (by omega), Events.sendString,
      List.length_append, List.length_singleton]
  refine (reads_getByte _).field ?_
  rw [length]
  exact (reads_getBytes _).field reads

theorem reads_pglogicalWriteRel
    {relid : ℕ} (isOid : relid < 2 ^ 32) (names : Option (Name × Name)) :
    Reads readRelation (pglogicalWriteRel relid names)
      (.relation relid (headerNames names).1 (headerNames names).2) := by
  cases names with
  | none =>
      have nothing : Reads (getBytes 0) [] [] := reads_getBytes []
      have names : Reads (do
          let relnamelen ← getByte
          let relname ← getBytes relnamelen.toNat
          pure (Content.relation relid [] relname)) [[0]].flatten
          (.relation relid [] []) :=
        (reads_getByte 0).field
          (nothing.map fun relname => Content.relation relid [] relname)
      exact (reads_getInt isOid).field ((reads_getByte 0).field
        (nothing.bind names))
  | some names =>
      obtain ⟨nspname, relname⟩ := names
      exact (reads_getInt isOid).field
        (reads_name nspname (reads_name relname (Reads.pure _)))

/-- The record of a header. -/
def relationRecord
    (relid : ℕ) (isOid : relid < 2 ^ 32) (names : Option (Name × Name)) :
    Record (tableHandlers rule senderNodeId desc tLen) where
  action := 82
  body := pglogicalWriteRel relid names
  content := .relation relid (headerNames names).1 (headerNames names).2
  reads := reads_pglogicalWriteRel isOid names
  notFile := by decide
  notOpen := by decide
  notClose := by decide
  notCaughtup := by decide

/-! ## Positions -/

/-- The record of a position. -/
def nextvalRecord (next : UInt64) :
    Record (tableHandlers rule senderNodeId desc tLen) where
  action := 78
  body := sendInt64 next
  content := .nextval next
  reads := (reads_getInt64 next).map Content.nextval
  notFile := by decide
  notOpen := by decide
  notClose := by decide
  notCaughtup := by decide

/-! ## Messages -/

theorem reads_message
    (label : UInt8) (endLsn : UInt64) {message : List UInt8}
    (fits : message.length < 2 ^ 32) :
    ∃ body, Events.pglogicalWriteMessage label endLsn message = 77 :: body ∧
      Reads readMessage body (.message label endLsn message) := by
  obtain ⟨body, written, reads⟩ :=
    Events.reads_pglogicalWriteMessage label endLsn fits
  exact ⟨body, written, reads.map fun read =>
    Content.message read.1 read.2.1 read.2.2⟩

/-! ## Ends -/

/-- The record that ends a transaction that is to be applied. -/
def endRecord
    (config : Events.Config) (txn : Events.Txn) (lsn : UInt64) (kind : End)
    (xinfo : Gtx.XactInfo) (state : Message.State)
    (parses : kind = .prepare →
      Events.deserializeOrError rule txn.state3Pc = some (xinfo, state)) :
    CommitRecord (tableHandlers rule config.myNodeId desc tLen) where
  record :=
    { action := 67
      body := (Events.fixedFields config txn (kind.event txn) lsn ++
        kind.tail txn).flatten
      content := .commit (kind.remoteCommit config txn xinfo state)
      reads :=
        (Events.reads_processRemoteCommit _ lsn parses).map Content.commit
      notFile := by decide
      notOpen := by decide
      notClose := by decide
      notCaughtup := by decide }
  event := (kind.event txn).code
  fields := ((Events.fixedFields config txn (kind.event txn) lsn).tail ++
    kind.tail txn).flatten
  isCommit := rfl
  body_eq := rfl

end Rows
end Multimaster
