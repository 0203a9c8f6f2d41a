import Mathlib.Data.Finset.Lattice.Fold
import Mathlib.Data.Int.Order.Basic
import Mathlib.Logic.Function.Basic
import Mathlib.Order.Lattice.Nat

/-!
# Sequences of the nodes

`mtm.alter_sequences` of multimaster--1.0.sql gives every sequence of a node the
largest node id as its increment and moves it to the residue class of the node.
`nextval` and the two forms of `ALTER SEQUENCE` are those of the PostgreSQL
documentation, away from the bounds of the sequence.  A backend takes `CACHE`
values at a time; those it did not hand out yet are its own until it has used
them up.
-/

namespace Multimaster
namespace Sequences

/-- `pg_class.relpersistence` -/
inductive Persistence
  | permanent
  | unlogged
  | temporary
  deriving DecidableEq

/-- A sequence on a node. -/
structure Sequence where
  relname : String
  relpersistence : Persistence
  seqincrement : ℤ
  seqcache : ℕ
  /-- The smallest `CACHE` is one. -/
  seqcache_pos : 0 < seqcache
  lastValue : ℤ
  isCalled : Bool
  /-- The values that a backend has preallocated and not used. -/
  preallocated : ℕ → List ℤ

/-- The value at which the next access to the sequence starts. -/
def Sequence.nextValue (seq : Sequence) : ℤ :=
  if seq.isCalled then seq.lastValue + seq.seqincrement else seq.lastValue

/-- `nextval`, called in a backend. -/
def Sequence.nextval (backend : ℕ) (seq : Sequence) : ℤ × Sequence :=
  match seq.preallocated backend with
  | value :: rest =>
      (value,
        { seq with
          preallocated := Function.update seq.preallocated backend rest })
  | [] =>
      (seq.nextValue,
        { seq with
          lastValue := seq.nextValue + (seq.seqcache - 1 : ℕ) * seq.seqincrement
          isCalled := true
          preallocated := Function.update seq.preallocated backend
            ((List.range (seq.seqcache - 1)).map fun index =>
              seq.nextValue + (index + 1 : ℕ) * seq.seqincrement) })

/-- `ALTER SEQUENCE .. INCREMENT BY`.  Other backends keep what they
preallocated. -/
def Sequence.incrementBy (backend : ℕ) (increment : ℤ)
    (seq : Sequence) : Sequence :=
  { seq with
    seqincrement := increment
    preallocated := Function.update seq.preallocated backend [] }

/-- `ALTER SEQUENCE .. RESTART WITH` -/
def Sequence.restartWith (backend : ℕ) (start : ℤ) (seq : Sequence) : Sequence :=
  { seq with
    lastValue := start
    isCalled := false
    preallocated := Function.update seq.preallocated backend [] }

/-! ## `mtm.alter_sequences` -/

/-- The variables of the loop. -/
structure Progress where
  altered : Bool
  notices : List String
  sequences : List Sequence

/-- The loop body for one sequence. -/
def alterSequence
    (backend : ℕ) (maxNodes nodeId : ℕ) (seq : Sequence) (progress : Progress) :
    Progress :=
  let stepAltered := decide (seq.seqincrement ≠ maxNodes)
  let stepped := if stepAltered then seq.incrementBy backend maxNodes else seq
  let startAltered :=
    decide (seq.lastValue.tmod maxNodes ≠ (nodeId : ℤ).tmod maxNodes)
  let newStart := (seq.lastValue.tdiv maxNodes + 1) * maxNodes + nodeId
  { altered := progress.altered || stepAltered || startAltered
    notices := progress.notices ++
      (if stepAltered then
        ["Altering step for sequence " ++ seq.relname ++ " to " ++
          toString maxNodes ++ "."]
      else []) ++
      if startAltered then
        ["Altering start for sequence " ++ seq.relname ++ " to " ++
          toString newStart ++ "."]
      else []
    sequences := progress.sequences ++
      [if startAltered then stepped.restartWith backend newStart else stepped] }

/-- The loop; temporary sequences are not selected. -/
def alterLoop
    (backend : ℕ) (maxNodes nodeId : ℕ) : List Sequence → Progress → Progress
  | [], progress => progress
  | seq :: rest, progress =>
      alterLoop backend maxNodes nodeId rest
        (if seq.relpersistence ≠ .temporary then
          alterSequence backend maxNodes nodeId seq progress
        else { progress with sequences := progress.sequences ++ [seq] })

/-- The ids in `mtm.cluster_nodes`. -/
structure Cluster where
  ids : Finset ℕ
  positive : ∀ id ∈ ids, 0 < id

/-- `select max(id) into max_nodes` -/
def Cluster.maxNodes (cluster : Cluster) : ℕ :=
  cluster.ids.sup id

/-- `mtm.alter_sequences` in a backend of a node: the notices and the sequences
of the node after it. -/
def alterSequences
    (cluster : Cluster) (backend nodeId : ℕ) (sequences : List Sequence) :
    List String × List Sequence :=
  let progress := alterLoop backend cluster.maxNodes nodeId sequences
    { altered := false, notices := [], sequences := [] }
  (progress.notices ++
      (if progress.altered then []
        else ["All found sequences have proper params."]),
    progress.sequences)

/-! ## Later calls -/

/-- The values of later calls, each call given by its backend. -/
def Sequence.values (seq : Sequence) : List ℕ → List ℤ
  | [] => []
  | backend :: calls =>
      (seq.nextval backend).1 :: (seq.nextval backend).2.values calls

/-- The values of later calls but for those by which a backend uses up the first
`left` values that it has preallocated. -/
def Sequence.freshValues (left : ℕ → ℕ) (seq : Sequence) : List ℕ → List ℤ
  | [] => []
  | backend :: calls =>
      if 0 < left backend then
        (seq.nextval backend).2.freshValues
          (Function.update left backend (left backend - 1)) calls
      else
        (seq.nextval backend).1 :: (seq.nextval backend).2.freshValues left calls

/-- The values of later calls but for those that were preallocated already. -/
def Sequence.laterValues (seq : Sequence) (calls : List ℕ) : List ℤ :=
  seq.freshValues (fun backend => (seq.preallocated backend).length) calls

end Sequences
end Multimaster
