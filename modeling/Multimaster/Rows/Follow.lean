import Multimaster.Rows.Contents
import Multimaster.Rows.Records

/-!
# The replica follows

The sender's table is a partial function from keys to rows.  Whatever changes it
logs, the receiver that had the same contents has the same contents after it has
read the records of the changes.
-/

namespace Multimaster
namespace Rows

open Multimaster.Tuple (Attribute Datum DeformedTuple ReadColumn TupleDesc
  liveColumns SameLiveTypes TransferredAll readTupleParts writeTuple)
open Wire

variable {Value Class : Type}

/-- What a table means: its rows by their keys. -/
abbrev Contents (Value Class : Type) := Key Class → Option (LogicalRow Value)

/-! ## Finding a row -/

theorem locate_eq_none
    {found : LocalRow → Bool} {table : List LocalRow}
    (nothing : locate found table = none) :
    ∀ row ∈ table, found row = false := by
  induction table with
  | nil => simp
  | cons row rest inductionHypothesis =>
      unfold locate at nothing
      split at nothing
      · cases nothing
      · next notHere =>
          rw [Option.map_eq_none_iff] at nothing
          intro other isOther
          rcases List.mem_cons.mp isOther with rfl | isRest
          · exact Bool.eq_false_iff.mpr notHere
          · exact inductionHypothesis nothing other isRest

theorem locate_eq_some
    {found : LocalRow → Bool} {table before behind : List LocalRow}
    {row : LocalRow}
    (isLocated : locate found table = some (before, row, behind)) :
    table = before ++ row :: behind ∧ found row = true := by
  induction table generalizing before with
  | nil => cases isLocated
  | cons first rest inductionHypothesis =>
      unfold locate at isLocated
      split at isLocated
      · next here =>
          cases isLocated
          exact ⟨rfl, here⟩
      · rw [Option.map_eq_some_iff] at isLocated
        obtain ⟨⟨inner, located, later⟩, found, same⟩ := isLocated
        cases same
        obtain ⟨rfl, isFound⟩ := inductionHypothesis found
        exact ⟨rfl, isFound⟩

/-! ## Following -/

/-- The receiver's rows are those of the contents. -/
structure Follows
    (relation : Relation Value Class) (index : List Bool)
    (contents : Contents Value Class) (table : List LocalRow) : Prop where
  lengths : ∀ row ∈ table, row.length = relation.desc.attrs.length
  complete : ∀ row ∈ table, none ∉ relation.key index row
  unique : (table.map (relation.key index)).Nodup
  sound : ∀ row ∈ table, contents (relation.key index row) =
    some (meaningOf relation.desc.attrs row)
  full : ∀ key row, contents key = some row →
    ∃ other ∈ table, relation.key index other = key

section Tables

variable {relation : Relation Value Class} {index : List Bool}
variable {contents : Contents Value Class}
variable {before behind table : List LocalRow} {row : LocalRow}

variable [DecidableEq Class]

/-- A row is taken away. -/
theorem Follows.remove
    (follows : Follows relation index contents (before ++ row :: behind)) :
    Follows relation index
        (Function.update contents (relation.key index row) none)
        (before ++ behind) ∧
      ∀ other ∈ before ++ behind,
        relation.key index other ≠ relation.key index row := by
  have isPerm : (before ++ row :: behind).Perm (row :: (before ++ behind)) :=
    List.perm_middle
  have unique := (isPerm.map (relation.key index)).nodup_iff.mp follows.unique
  rw [List.map_cons, List.nodup_cons] at unique
  obtain ⟨notOther, unique⟩ := unique
  have different : ∀ other ∈ before ++ behind,
      relation.key index other ≠ relation.key index row := by
    intro other isOther same
    exact notOther (List.mem_map.mpr ⟨other, isOther, same⟩)
  have isRow : ∀ other ∈ before ++ behind, other ∈ before ++ row :: behind := by
    intro other isOther
    exact isPerm.mem_iff.mpr (List.mem_cons_of_mem _ isOther)
  refine ⟨⟨?_, ?_, unique, ?_, ?_⟩, different⟩
  · intro other isOther
    exact follows.lengths other (isRow other isOther)
  · intro other isOther
    exact follows.complete other (isRow other isOther)
  · intro other isOther
    rw [Function.update_of_ne (different other isOther)]
    exact follows.sound other (isRow other isOther)
  · intro key value isValue
    have otherKey : key ≠ relation.key index row := by
      rintro rfl
      rw [Function.update_self] at isValue
      cases isValue
    rw [Function.update_of_ne otherKey] at isValue
    obtain ⟨other, isOther, isKey⟩ := follows.full key value isValue
    rcases List.mem_cons.mp (isPerm.mem_iff.mp isOther) with rfl | isRest
    · exact absurd isKey.symm otherKey
    · exact ⟨other, isRest, isKey⟩

/-- A row with a new key is put somewhere. -/
theorem Follows.add
    (follows : Follows relation index contents (before ++ behind))
    (length : row.length = relation.desc.attrs.length)
    (complete : none ∉ relation.key index row)
    (isNew : ∀ other ∈ before ++ behind,
      relation.key index other ≠ relation.key index row) :
    Follows relation index
      (Function.update contents (relation.key index row)
        (some (meaningOf relation.desc.attrs row)))
      (before ++ row :: behind) := by
  have isPerm : (before ++ row :: behind).Perm (row :: (before ++ behind)) :=
    List.perm_middle
  refine ⟨?_, ?_, ?_, ?_, ?_⟩
  · intro other isOther
    rcases List.mem_cons.mp (isPerm.mem_iff.mp isOther) with rfl | isRest
    · exact length
    · exact follows.lengths other isRest
  · intro other isOther
    rcases List.mem_cons.mp (isPerm.mem_iff.mp isOther) with rfl | isRest
    · exact complete
    · exact follows.complete other isRest
  · refine (isPerm.map (relation.key index)).nodup_iff.mpr ?_
    rw [List.map_cons, List.nodup_cons]
    refine ⟨?_, follows.unique⟩
    intro isKey
    obtain ⟨other, isOther, same⟩ := List.mem_map.mp isKey
    exact isNew other isOther same
  · intro other isOther
    rcases List.mem_cons.mp (isPerm.mem_iff.mp isOther) with rfl | isRest
    · rw [Function.update_self]
    · rw [Function.update_of_ne (isNew other isRest)]
      exact follows.sound other isRest
  · intro key value isValue
    by_cases isKey : key = relation.key index row
    · exact ⟨row, by simp, isKey.symm⟩
    · rw [Function.update_of_ne isKey] at isValue
      obtain ⟨other, isOther, same⟩ := follows.full key value isValue
      exact ⟨other, isPerm.mem_iff.mpr (List.mem_cons_of_mem _ isOther), same⟩

/-- The row with a key is found. -/
theorem Follows.found
    (identified : Identified relation index)
    (follows : Follows relation index contents table)
    {old : LogicalRow Value} {key : Key Class}
    (isOld : contents key = some old) {search : LocalRow}
    (length : search.length = relation.desc.attrs.length)
    (isKey : relation.key index search = key) :
    ∃ before row behind,
      relation.findReplTuple search table = some (before, row, behind) ∧
        table = before ++ row :: behind ∧ relation.key index row = key ∧
        meaningOf relation.desc.attrs row = old := by
  obtain ⟨there, isThere, thereKey⟩ := follows.full key old isOld
  have matching : relation.sameKey index there search = true :=
    (sameKey_iff identified (follows.lengths there isThere) length).mpr
      ⟨by rw [thereKey, isKey], follows.complete there isThere⟩
  cases located :
      locate (fun row => relation.sameKey index row search) table with
  | none =>
      have noMatch := locate_eq_none located there isThere
      rw [matching] at noMatch
      cases noMatch
  | some result =>
      obtain ⟨before, row, behind⟩ := result
      obtain ⟨whole, isMatch⟩ := locate_eq_some located
      have isRow : row ∈ table := by
        rw [whole]
        simp
      have rowKey : relation.key index row = key := by
        rw [← isKey]
        exact ((sameKey_iff identified (follows.lengths row isRow)
          length).mp isMatch).1
      have means := follows.sound row isRow
      rw [rowKey, isOld] at means
      refine ⟨before, row, behind, ?_, whole, rowKey,
        (Option.some.inj means).symm⟩
      rw [Relation.findReplTuple, identified.isIndex]
      exact located

theorem checkUnique_of_new
    (identified : Identified relation index) {others : List LocalRow}
    (lengths : ∀ other ∈ others, other.length = relation.desc.attrs.length)
    (length : row.length = relation.desc.attrs.length)
    (isNew : ∀ other ∈ others,
      relation.key index other ≠ relation.key index row) :
    relation.checkUnique row others = .ok () := by
  have noOther : (others.any fun other =>
      relation.sameKey index other row) = false := by
    rw [List.any_eq_false]
    intro other isOther same
    exact isNew other isOther
      ((sameKey_iff identified (lengths other isOther) length).mp same).1
  rw [Relation.checkUnique, identified.isIndex]
  simp [noOther]

end Tables

/-! ## What is logged -/

/-- The sender changes its table, and the change is logged with the tuples that
logical decoding gives for it: the old tuple has the old key, and without one the
new tuple has it. -/
inductive Logged (classOf : Value → Class) (index : List Bool)
    [DecidableEq Class] :
    Contents Value Class → RowChange Value → Contents Value Class → Prop
  | insert {contents : Contents Value Class} {newtuple : DeformedTuple Value}
      (inMemory : ∀ column ∈ liveColumns newtuple.columns, column.2 ≠ .onDisk)
      (complete : none ∉ keyOf classOf index (rowOf newtuple.columns))
      (isNew : contents (keyOf classOf index (rowOf newtuple.columns)) = none) :
      Logged classOf index contents (.insert newtuple)
        (Function.update contents
          (keyOf classOf index (rowOf newtuple.columns))
          (some (rowOf newtuple.columns)))
  /-- The key is not changed. -/
  | update {contents : Contents Value Class} {newtuple : DeformedTuple Value}
      {key : Key Class} {old : LogicalRow Value}
      (isOld : contents key = some old)
      (inTuple : keyOf classOf index (rowOf newtuple.columns) = key)
      (sameKey : keyOf classOf index (rowOver newtuple.columns old) = key) :
      Logged classOf index contents (.update none newtuple)
        (Function.update contents key (some (rowOver newtuple.columns old)))
  | updateKey {contents : Contents Value Class}
      {oldtuple newtuple : DeformedTuple Value} {key : Key Class}
      {old : LogicalRow Value}
      (isOld : contents key = some old)
      (inTuple : keyOf classOf index (rowOf oldtuple.columns) = key)
      (complete :
        none ∉ keyOf classOf index (rowOver newtuple.columns old))
      (isNew : keyOf classOf index (rowOver newtuple.columns old) = key ∨
        contents (keyOf classOf index (rowOver newtuple.columns old)) = none) :
      Logged classOf index contents (.update (some oldtuple) newtuple)
        (Function.update (Function.update contents key none)
          (keyOf classOf index (rowOver newtuple.columns old))
          (some (rowOver newtuple.columns old)))
  | delete {contents : Contents Value Class} {oldtuple : DeformedTuple Value}
      {key : Key Class} {old : LogicalRow Value}
      (isOld : contents key = some old)
      (inTuple : keyOf classOf index (rowOf oldtuple.columns) = key) :
      Logged classOf index contents (.delete (some oldtuple))
        (Function.update contents key none)

/-- The tuples of a change. -/
def RowChange.tuples : RowChange Value → List (DeformedTuple Value)
  | .insert newtuple => [newtuple]
  | .update oldtuple newtuple => oldtuple.toList ++ [newtuple]
  | .delete oldtuple => oldtuple.toList

/-- The live columns of the sender have the types of those of the receiver. -/
def RowChange.SameTypes (desc : TupleDesc Value) (change : RowChange Value) :
    Prop :=
  ∀ tuple ∈ change.tuples, SameLiveTypes tuple.columns desc.attrs

/-- A tuple is written, and read with the meaning it has. -/
theorem reads_writeTuple
    (wantBinary : Bool) (tuple : DeformedTuple Value) (desc : TupleDesc Value)
    (sameTypes : SameLiveTypes tuple.columns desc.attrs) :
    ∃ bytes columns, writeTuple false wantBinary tuple = some bytes ∧
      Reads (readTupleParts desc) bytes columns ∧
      TransferredAll tuple.columns desc.attrs columns := by
  have typed : ∀ column ∈ liveColumns tuple.columns,
      column.2.Of column.1.type := by
    intro column isColumn
    obtain ⟨isMember, isLive⟩ := List.mem_filter.mp isColumn
    exact tuple.typed column isMember (by simpa using isLive)
  obtain ⟨bytes, columns, written, reads, all⟩ :=
    Tuple.reads_columns wantBinary desc.attrs (liveColumns tuple.columns)
      (Tuple.liveColumns_idem tuple.columns) typed sameTypes
  rw [← Tuple.writeColumns_liveColumns] at written
  have count : tuple.nliveatts ≤ desc.attrs.length := by
    have sameLength := length_of_transferred all
    rw [Tuple.liveColumns_idem] at sameLength
    exact Nat.le_trans (Nat.le_of_eq sameLength) (List.length_filter_le _ _)
  have fits : tuple.nliveatts < 256 ^ 2 :=
    Nat.lt_of_le_of_lt (Nat.le_trans count desc.natts_le) (by decide)
  have header : Reads (readTupleParts desc)
      ([84] :: [sendInt 2 tuple.nliveatts, bytes]).flatten columns := by
    refine (reads_getByte 84).field ?_
    rw [if_neg (fun differs => differs rfl)]
    refine (reads_getInt fits).field ?_
    rw [if_neg (Nat.not_lt.mpr count), List.flatten_singleton]
    exact reads
  refine ⟨_, columns, ?_, header, all.length_eq, all.dropped_null, ?_⟩
  · simp [writeTuple, written]
  · have live := all.live
    rwa [Tuple.liveColumns_idem] at live

/-! ## One change -/

section Changes

variable [DecidableEq Class]
variable {relation : Relation Value Class} {index : List Bool}
variable {contents next : Contents Value Class} {table : List LocalRow}

theorem follows_insert
    (identified : Identified relation index)
    (follows : Follows relation index contents table)
    {sent : List (Attribute Value × Datum)} {columns : List ReadColumn}
    (sameTypes : SameLiveTypes sent relation.desc.attrs)
    (all : TransferredAll sent relation.desc.attrs columns)
    {key : Key Class}
    (isKey : keyOf relation.classOf (liveOf relation.desc.attrs index)
      (rowOf sent) = key)
    (complete : none ∉ key) (isNew : contents key = none) :
    ∃ result, relation.processRemoteInsert columns table = .ok result ∧
      Follows relation index
        (Function.update contents key (some (rowOf sent))) result := by
  have means := meaningOf_heapFormTuple sameTypes all
  have length := length_heapFormTuple all
  have rowKey : relation.key index (heapFormTuple columns) = key := by
    rw [Relation.key, means, isKey]
  have different : ∀ other ∈ table, relation.key index other ≠
      relation.key index (heapFormTuple columns) := by
    intro other isOther same
    have present := follows.sound other isOther
    rw [same, rowKey, isNew] at present
    cases present
  refine ⟨table ++ [heapFormTuple columns], ?_, ?_⟩
  · rw [Relation.processRemoteInsert,
      checkUnique_of_new identified follows.lengths length different]
    rfl
  · have kept : Follows relation index contents (table ++ []) := by
      rwa [List.append_nil]
    have added := kept.add length (by rwa [rowKey]) (by rwa [List.append_nil])
    rwa [rowKey, means] at added

theorem follows_update
    (identified : Identified relation index)
    (follows : Follows relation index contents table)
    {searched sent : List (Attribute Value × Datum)}
    (oldTuple : Option (List ReadColumn)) {newTuple : List ReadColumn}
    (sameTypes : SameLiveTypes sent relation.desc.attrs)
    (all : TransferredAll sent relation.desc.attrs newTuple)
    (searchedTypes : SameLiveTypes searched relation.desc.attrs)
    (searchedAll : TransferredAll searched relation.desc.attrs
      (oldTuple.getD newTuple))
    {key newKey : Key Class} {old : LogicalRow Value}
    (isOld : contents key = some old)
    (inTuple : keyOf relation.classOf (liveOf relation.desc.attrs index)
      (rowOf searched) = key)
    (isKey : keyOf relation.classOf (liveOf relation.desc.attrs index)
      (rowOver sent old) = newKey)
    (complete : none ∉ newKey)
    (isNew : newKey = key ∨ contents newKey = none) :
    ∃ result,
      relation.processRemoteUpdate oldTuple newTuple table = .ok result ∧
        Follows relation index
          (Function.update (Function.update contents key none) newKey
            (some (rowOver sent old))) result := by
  have searchMeans := meaningOf_heapFormTuple searchedTypes searchedAll
  have searchKey :
      relation.key index (heapFormTuple (oldTuple.getD newTuple)) = key := by
    rw [Relation.key, searchMeans, inTuple]
  obtain ⟨before, row, behind, located, rfl, rowKey, rowMeans⟩ :=
    follows.found identified isOld (length_heapFormTuple searchedAll) searchKey
  obtain ⟨removed, different⟩ := follows.remove
  have rowLength := follows.lengths row (by simp)
  have means := meaningOf_heapModifyTuple sameTypes all rowLength
  have length := length_heapModifyTuple all rowLength
  rw [rowMeans] at means
  have modifiedKey : relation.key index (heapModifyTuple row newTuple) =
      newKey := by
    rw [Relation.key, means, isKey]
  have notOther : ∀ other ∈ before ++ behind, relation.key index other ≠
      relation.key index (heapModifyTuple row newTuple) := by
    intro other isOther same
    rw [modifiedKey] at same
    rcases isNew with rfl | isNew
    · exact different other isOther (by rw [same, rowKey])
    · have present := removed.sound other isOther
      rw [Function.update_of_ne (different other isOther), same,
        isNew] at present
      cases present
  refine ⟨before ++ heapModifyTuple row newTuple :: behind, ?_, ?_⟩
  · rw [Relation.processRemoteUpdate, located]
    simp only
    rw [checkUnique_of_new identified removed.lengths length notOther]
    rfl
  · have added := removed.add length (by rwa [modifiedKey]) notOther
    rwa [rowKey, modifiedKey, means] at added

theorem follows_delete
    (identified : Identified relation index)
    (follows : Follows relation index contents table)
    {sent : List (Attribute Value × Datum)} {columns : List ReadColumn}
    (sameTypes : SameLiveTypes sent relation.desc.attrs)
    (all : TransferredAll sent relation.desc.attrs columns)
    {key : Key Class} {old : LogicalRow Value}
    (isOld : contents key = some old)
    (inTuple : keyOf relation.classOf (liveOf relation.desc.attrs index)
      (rowOf sent) = key) :
    ∃ result, relation.processRemoteDelete columns table = .ok result ∧
      Follows relation index (Function.update contents key none) result := by
  have means := meaningOf_heapFormTuple sameTypes all
  have searchKey : relation.key index (heapFormTuple columns) = key := by
    rw [Relation.key, means, inTuple]
  obtain ⟨before, row, behind, located, rfl, rowKey, -⟩ :=
    follows.found identified isOld (length_heapFormTuple all) searchKey
  refine ⟨before ++ behind, ?_, ?_⟩
  · rw [Relation.processRemoteDelete, located]
  · have removed := follows.remove.1
    rwa [rowKey] at removed

end Changes

/-! ## The records of changes -/

section Records

variable [DecidableEq Class]
variable {replica : Replica Value Class} {index : List Bool}
variable {contents next : Contents Value Class} {applier : Applier}
variable (rule : Text.EofRule) (senderNodeId : ℕ)
variable (tLen : List ReadColumn → ℕ)

omit [DecidableEq Class] in
/-- A change of the open table succeeds when it does on the rows. -/
theorem Replica.onTable_of_opened
    {change : List LocalRow → Except Failure (List LocalRow)}
    {result : List LocalRow}
    (opened : applier.rel = some replica.relid)
    (done : change applier.table = .ok result) :
    replica.onTable change applier =
      .ok { applier with table := result } := by
  rw [Replica.onTable, opened]
  simp only [if_true, done]
  rfl

/-- The record of a change is read, and the table follows. -/
theorem follows_change
    (wantBinary : Bool) (identified : Identified replica.relation index)
    (opened : applier.rel = some replica.relid)
    (follows : Follows replica.relation index contents applier.table)
    {change : RowChange Value}
    (sameTypes : change.SameTypes replica.relation.desc)
    (logged : Logged replica.relation.classOf
      (liveOf replica.relation.desc.attrs index) contents change next) :
    ∃ action body content result,
      change.write false wantBinary = some (action :: body) ∧
        Reads ((tableHandlers rule senderNodeId replica.relation.desc
          tLen).read action) body content ∧
        replica.process content applier =
          .ok { applier with table := result } ∧
        Follows replica.relation index next result := by
  have processed {change : List LocalRow → Except Failure (List LocalRow)}
      {result : List LocalRow} (done : change applier.table = .ok result) :
      replica.onTable change applier = .ok { applier with table := result } :=
    Replica.onTable_of_opened opened done
  cases logged with
  | insert inMemory complete isNew =>
      next newtuple =>
      have newTypes := sameTypes newtuple List.mem_cons_self
      obtain ⟨bytes, columns, written, reads, all⟩ :=
        reads_writeTuple wantBinary newtuple replica.relation.desc newTypes
      obtain ⟨result, done, following⟩ := follows_insert identified follows
        newTypes all rfl complete isNew
      refine ⟨73, bytes, .insert columns, result, ?_, reads.map Content.insert,
        processed done, following⟩
      simp [RowChange.write, pglogicalWriteInsert, written]
  | update isOld inTuple sameKey =>
      next newtuple key old =>
      have newTypes := sameTypes newtuple List.mem_cons_self
      obtain ⟨bytes, columns, written, reads, all⟩ :=
        reads_writeTuple wantBinary newtuple replica.relation.desc newTypes
      obtain ⟨there, isThere, thereKey⟩ := follows.full key old isOld
      have complete : none ∉ key := by
        rw [← thereKey]
        exact follows.complete there isThere
      obtain ⟨result, done, following⟩ := follows_update identified follows
        none newTypes all newTypes all isOld inTuple sameKey
        complete (Or.inl rfl)
      rw [Function.update_idem] at following
      have update : Reads (readUpdate replica.relation.desc) ([78] ++ bytes)
          (.update none columns) := by
        refine (reads_getByte 78).bind ?_
        exact reads.map fun columns => Content.update none columns
      refine ⟨85, 78 :: bytes, .update none columns, result, ?_, update,
        processed done, following⟩
      simp [RowChange.write, pglogicalWriteUpdate, writeOldKey, written]
  | updateKey isOld inTuple complete isNew =>
      next oldtuple newtuple key old =>
      have oldTypes := sameTypes oldtuple List.mem_cons_self
      have newTypes := sameTypes newtuple (by simp [RowChange.tuples])
      obtain ⟨oldBytes, oldColumns, oldWritten, oldReads, oldAll⟩ :=
        reads_writeTuple wantBinary oldtuple replica.relation.desc oldTypes
      obtain ⟨bytes, columns, written, reads, all⟩ :=
        reads_writeTuple wantBinary newtuple replica.relation.desc newTypes
      obtain ⟨result, done, following⟩ := follows_update identified follows
        (some oldColumns) newTypes all oldTypes oldAll isOld inTuple
        rfl complete isNew
      have update : Reads (readUpdate replica.relation.desc)
          ([75] ++ (oldBytes ++ ([78] ++ bytes)))
          (.update (some oldColumns) columns) := by
        refine (reads_getByte 75).bind (oldReads.bind ?_)
        refine (reads_getByte 78).bind ?_
        exact reads.map fun columns => Content.update (some oldColumns) columns
      refine ⟨85, _, .update (some oldColumns) columns, result, ?_, update,
        processed done, following⟩
      simp [RowChange.write, pglogicalWriteUpdate, writeOldKey, written,
        oldWritten]
  | delete isOld inTuple =>
      next oldtuple key old =>
      have oldTypes := sameTypes oldtuple List.mem_cons_self
      obtain ⟨bytes, columns, written, reads, all⟩ :=
        reads_writeTuple wantBinary oldtuple replica.relation.desc oldTypes
      obtain ⟨result, done, following⟩ := follows_delete identified follows
        oldTypes all isOld inTuple
      refine ⟨68, bytes, .delete columns, result, ?_, reads.map Content.delete,
        processed done, following⟩
      simp [RowChange.write, pglogicalWriteDelete, written]

end Records

end Rows
end Multimaster
