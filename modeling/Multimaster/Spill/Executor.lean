import Multimaster.Spill.Defs

/-!
# What the executor reads

The executor goes through the records of its input one by one.  A bulk insert
takes several of them at once, and ends where a chunk does, so that the actions
are the same wherever chunks end.
-/

namespace Multimaster
namespace Spill

open Wire

variable {Content : Type}

/-- An action of a transaction, with the bytes its handler takes. -/
structure Record (handlers : Handlers Content) where
  action : UInt8
  body : List UInt8
  content : Content
  reads : Reads (handlers.read action) body content
  /-- The actions of chunks do not come from the sender. -/
  notFile : action ≠ actionF
  notOpen : action ≠ chunkOpen
  notClose : action ≠ chunkClose
  notCaughtup : action ≠ actionZ

variable {handlers : Handlers Content}

namespace Record

/-- The bytes of a record. -/
def bytes (record : Record handlers) : List UInt8 :=
  record.action :: record.body

/-- The record as the executor processes it. -/
def processed (record : Record handlers) : Processed Content :=
  (record.action, record.content)

/-- The executor goes on after the record. -/
def Continues (record : Record handlers) : Prop :=
  record.action ≠ actionC ∧
    (record.action = actionM → handlers.standalone record.content = false)

end Record

/-- The bytes of records. -/
def recordBytes (records : List (Record handlers)) : List UInt8 :=
  (records.map Record.bytes).flatten

@[simp] theorem recordBytes_nil :
    recordBytes ([] : List (Record handlers)) = [] := rfl

@[simp] theorem recordBytes_cons
    (record : Record handlers) (records : List (Record handlers)) :
    recordBytes (record :: records) =
      record.action :: (record.body ++ recordBytes records) := rfl

@[simp] theorem recordBytes_append
    (first second : List (Record handlers)) :
    recordBytes (first ++ second) = recordBytes first ++ recordBytes second := by
  simp [recordBytes]

theorem length_le_recordBytes (records : List (Record handlers)) :
    records.length ≤ (recordBytes records).length := by
  induction records with
  | nil => exact Nat.le_refl _
  | cons record records inductionHypothesis =>
      rw [recordBytes_cons, List.length_cons, List.length_cons,
        List.length_append]
      omega

/-- The handler of a record takes its bytes. -/
theorem Record.read_run
    (record : Record handlers) (rest : List UInt8) :
    (handlers.read record.action).run (record.body ++ rest) =
      some (record.content, rest) :=
  record.reads rest

/-- The next byte is an insert exactly when the next record is. -/
theorem head_recordBytes
    {tail : List UInt8} (noInsert : tail.head? ≠ some actionI)
    {records : List (Record handlers)}
    (isInsert : (recordBytes records ++ tail).head? = some actionI) :
    ∃ record later, records = record :: later ∧ record.action = actionI := by
  cases records with
  | nil => exact absurd isInsert noInsert
  | cons record later =>
      refine ⟨record, later, rfl, ?_⟩
      simpa using isInsert

/-- A bulk insert takes some of the records that follow, all of them inserts. -/
theorem moreInserts_spec
    {tail : List UInt8} (noInsert : tail.head? ≠ some actionI)
    (fuel count size : ℕ) (record : Record handlers)
    (records : List (Record handlers)) (isInsert : record.action = actionI)
    (enough : records.length < fuel) :
    ∃ taken left, record :: records = taken ++ left ∧
      (∀ other ∈ taken, other.action = actionI) ∧
      moreInserts handlers fuel count size
          (recordBytes (record :: records) ++ tail) =
        some (taken.map Record.content, recordBytes left ++ tail) := by
  induction fuel generalizing count size record records with
  | zero => omega
  | succ fuel inductionHypothesis =>
      unfold moreInserts
      split
      · have read := record.read_run (recordBytes records ++ tail)
        rw [isInsert] at read
        simp only [recordBytes_cons, List.cons_append, List.append_assoc,
          isInsert, if_true, read, Option.bind_eq_bind, Option.bind_some]
        split
        · next isNext =>
            obtain ⟨next, later, rfl, nextInsert⟩ :=
              head_recordBytes noInsert isNext
            obtain ⟨taken, left, whole, inserts, result⟩ :=
              inductionHypothesis (count + 1)
                (size + handlers.tLen record.content) next later nextInsert
                (Nat.lt_of_succ_lt_succ enough)
            refine ⟨record :: taken, left, ?_, ?_, ?_⟩
            · rw [List.cons_append, whole]
            · intro other isOther
              rcases List.mem_cons.mp isOther with rfl | later
              · exact isInsert
              · exact inserts other later
            · rw [result]
              rfl
        · refine ⟨[record], records, rfl, ?_, rfl⟩
          intro other isOther
          rw [List.mem_singleton.mp isOther]
          exact isInsert
      · exact ⟨[], record :: records, rfl, by simp, rfl⟩

/-- An insert takes its own record and some of the inserts behind it. -/
theorem processRemoteInsert_spec
    {tail : List UInt8} (noInsert : tail.head? ≠ some actionI)
    (record : Record handlers) (records : List (Record handlers))
    (isInsert : record.action = actionI) :
    ∃ taken left, records = taken ++ left ∧
      (∀ other ∈ taken, other.action = actionI) ∧
      processRemoteInsert handlers
          (record.body ++ (recordBytes records ++ tail)) =
        some (record.content :: taken.map Record.content,
          recordBytes left ++ tail) := by
  have read := record.read_run (recordBytes records ++ tail)
  rw [isInsert] at read
  unfold processRemoteInsert
  simp only [read, Option.bind_eq_bind, Option.bind_some]
  split
  · next isNext =>
      obtain ⟨next, later, rfl, nextInsert⟩ := head_recordBytes noInsert isNext
      have enough : later.length <
          (recordBytes (next :: later) ++ tail).length := by
        have bytes := length_le_recordBytes (next :: later)
        rw [List.length_append]
        rw [List.length_cons] at bytes
        omega
      obtain ⟨taken, left, whole, inserts, result⟩ :=
        moreInserts_spec noInsert _ 1 (handlers.tLen record.content) next later
          nextInsert enough
      refine ⟨taken, left, whole, inserts, ?_⟩
      rw [result]
      rfl
  · exact ⟨[], records, rfl, by simp, rfl⟩

/-! ## Steps of the executor -/

section Steps

variable {files : Files} {saved : List UInt8} {file : Option (List UInt8)}

/-- The executor gives this result whenever it has fuel enough. -/
def Executes
    (handlers : Handlers Content) (files : Files) (source : Source)
    (result : List (Processed Content) × Source) : Prop :=
  ∃ bound, ∀ fuel, bound ≤ fuel →
    execute handlers files fuel source = some result

/-- One more step in front. -/
theorem Executes.step
    {source next : Source} {result later : List (Processed Content) × Source}
    (rest : Executes handlers files next later)
    (first : ∀ fuel, execute handlers files fuel next = some later →
      execute handlers files (fuel + 1) source = some result) :
    Executes handlers files source result := by
  obtain ⟨bound, enough⟩ := rest
  refine ⟨bound + 1, ?_⟩
  intro fuel atLeast
  obtain ⟨before, rfl⟩ : ∃ before, fuel = before + 1 :=
    ⟨fuel - 1, by omega⟩
  exact first before (enough before (by omega))

/-- `F` opens a file. -/
theorem Executes.openFile
    {sender fileId : ℕ} (senderFits : sender < 2 ^ 32)
    (fileFits : fileId < 2 ^ 32) {rest : List UInt8}
    {result : List (Processed Content) × Source}
    (later : Executes handlers files ⟨rest, saved, some (files fileId)⟩
      result) :
    Executes handlers files
      ⟨actionF :: (sendInt 4 sender ++ (sendInt 4 fileId ++ rest)), saved,
        file⟩ result := by
  refine later.step ?_
  intro fuel executes
  have reads : Reads (openSpillFile files)
      (List.flatten [sendInt 4 sender, sendInt 4 fileId]) (files fileId) :=
    (reads_getInt senderFits).field ((reads_getInt fileFits).field
      (Reads.pure _))
  have read := reads rest
  simp only [List.flatten_cons, List.flatten_nil, List.append_nil,
    List.append_assoc] at read
  unfold execute
  simp only [if_true, read, Option.bind_eq_bind, Option.bind_some]
  exact executes

/-- `(` goes to the next chunk of the file. -/
theorem Executes.openChunk
    {chunk fileRest rest : List UInt8} (short : chunk.length < 2 ^ 32)
    {result : List (Processed Content) × Source}
    (later : Executes handlers files ⟨chunk, rest, some fileRest⟩ result) :
    Executes handlers files
      ⟨chunkOpen :: (sendInt 4 chunk.length ++ rest), saved,
        some (chunk ++ fileRest)⟩ result := by
  refine later.step ?_
  intro fuel executes
  have readsSize : Reads (getInt 4) (sendInt 4 chunk.length) chunk.length :=
    reads_getInt short
  have size := readsSize rest
  have bytes := reads_getBytes chunk fileRest
  unfold execute
  simp only [size, bytes, if_true, Option.bind_eq_bind, Option.bind_some]
  simpa [chunkOpen, actionF] using executes

/-- `)` goes back to the work. -/
theorem Executes.closeChunk
    {rest : List UInt8} {result : List (Processed Content) × Source}
    (later : Executes handlers files ⟨saved, saved, file⟩ result) :
    Executes handlers files ⟨chunkClose :: rest, saved, file⟩ result := by
  refine later.step ?_
  intro fuel executes
  unfold execute
  simpa [chunkOpen, actionF, chunkClose] using executes

/-- A record that is no insert. -/
theorem Executes.other
    {record : Record handlers} (notInsert : record.action ≠ actionI)
    (continues : record.Continues) {rest : List UInt8}
    {records : List (Processed Content)} {final : Source}
    (later : Executes handlers files ⟨rest, saved, file⟩ (records, final)) :
    Executes handlers files
      ⟨record.action :: (record.body ++ rest), saved, file⟩
      (record.processed :: records, final) := by
  refine later.step ?_
  intro fuel executes
  have goesOn : ¬ (record.action = actionC ∨ record.action = actionZ ∨
      record.action = actionM ∧
        handlers.standalone record.content = true) := by
    rintro (isCommit | isCaughtup | ⟨isMessage, standalone⟩)
    · exact continues.1 isCommit
    · exact record.notCaughtup isCaughtup
    · rw [continues.2 isMessage] at standalone
      cases standalone
  unfold execute
  simp only [if_neg record.notFile, if_neg record.notOpen,
    if_neg record.notClose, if_neg notInsert, record.read_run,
    Option.bind_eq_bind, Option.bind_some, if_neg goesOn, executes]
  rfl

/-- An insert with those it takes along. -/
theorem Executes.inserts
    {tail : List UInt8} (noInsert : tail.head? ≠ some actionI)
    {record : Record handlers} (isInsert : record.action = actionI)
    {others : List (Record handlers)} {later : List (Processed Content)}
    {final : Source}
    (rest : ∀ taken left, others = taken ++ left →
      ∃ more, later = taken.map Record.processed ++ more ∧
        Executes handlers files ⟨recordBytes left ++ tail, saved, file⟩
          (more, final)) :
    Executes handlers files
      ⟨recordBytes (record :: others) ++ tail, saved, file⟩
      (record.processed :: later, final) := by
  obtain ⟨taken, left, whole, inserts, result⟩ :=
    processRemoteInsert_spec noInsert record others isInsert
  obtain ⟨more, rfl, executesLeft⟩ := rest taken left whole
  refine executesLeft.step ?_
  intro fuel executes
  have contents : (record.content :: taken.map Record.content).map
        (fun content => (actionI, content)) =
      record.processed :: taken.map Record.processed := by
    rw [List.map_cons, List.map_map, Record.processed, isInsert]
    congr 1
    refine List.map_congr_left ?_
    intro other isOther
    rw [Function.comp, Record.processed, inserts other isOther]
  unfold execute
  simp only [recordBytes_cons, List.cons_append, List.append_assoc, isInsert,
    if_true, result, Option.bind_eq_bind, Option.bind_some, executes]
  rw [contents]
  rfl

/-- Records are processed one after the other, up to whatever is not an
insert. -/
theorem Executes.records
    {tail : List UInt8} (noInsert : tail.head? ≠ some actionI)
    {later : List (Processed Content)} {final : Source}
    (rest : Executes handlers files ⟨tail, saved, file⟩ (later, final))
    (records : List (Record handlers))
    (goOn : ∀ record ∈ records, record.Continues) :
    Executes handlers files ⟨recordBytes records ++ tail, saved, file⟩
      (records.map Record.processed ++ later, final) := by
  -- a bulk insert takes several records, so the induction is on their number
  induction number : records.length using Nat.strong_induction_on
    generalizing records with
  | _ number inductionHypothesis =>
      cases records with
      | nil => exact rest
      | cons record others =>
          have othersGoOn : ∀ other ∈ others, other.Continues :=
            fun other isOther => goOn other (List.mem_cons_of_mem _ isOther)
          rw [List.length_cons] at number
          by_cases isInsert : record.action = actionI
          · refine Executes.inserts noInsert isInsert ?_
            rintro taken left rfl
            refine ⟨left.map Record.processed ++ later, ?_, ?_⟩
            · rw [← List.append_assoc, ← List.map_append]
              rfl
            · refine inductionHypothesis left.length ?_ left ?_ rfl
              · rw [List.length_append] at number
                omega
              · intro other isOther
                exact othersGoOn other (List.mem_append_right _ isOther)
          · have executesOthers := inductionHypothesis others.length
              (by omega) others othersGoOn rfl
            rw [recordBytes_cons, List.cons_append, List.append_assoc]
            exact executesOthers.other isInsert (goOn record List.mem_cons_self)

/-- The commit record ends the executor. -/
theorem Executes.commit
    {record : Record handlers} (isCommit : record.action = actionC)
    (rest : List UInt8) :
    Executes handlers files
      ⟨record.action :: (record.body ++ rest), saved, file⟩
      ([record.processed], ⟨rest, saved, file⟩) := by
  refine ⟨1, ?_⟩
  intro fuel atLeast
  obtain ⟨before, rfl⟩ : ∃ before, fuel = before + 1 :=
    ⟨fuel - 1, by omega⟩
  have notInsert : record.action ≠ actionI := by
    rw [isCommit]
    decide
  unfold execute
  simp only [if_neg record.notFile, if_neg record.notOpen,
    if_neg record.notClose, if_neg notInsert, record.read_run,
    Option.bind_eq_bind, Option.bind_some, if_pos (Or.inl isCommit)]
  rfl

/-- The records of a transaction with its commit record. -/
theorem Executes.committed
    (records : List (Record handlers))
    (goOn : ∀ record ∈ records, record.Continues)
    {commit : Record handlers} (isCommit : commit.action = actionC)
    (rest : List UInt8) :
    Executes handlers files
      ⟨recordBytes (records ++ [commit]) ++ rest, saved, file⟩
      ((records ++ [commit]).map Record.processed, ⟨rest, saved, file⟩) := by
  have noInsert : (commit.action :: (commit.body ++ rest)).head? ≠
      some actionI := by
    rw [List.head?_cons, isCommit]
    decide
  have atCommit : Executes handlers files
      ⟨commit.action :: (commit.body ++ rest), saved, file⟩
      ([commit.processed], ⟨rest, saved, file⟩) :=
    Executes.commit isCommit rest
  have all := Executes.records noInsert atCommit records goOn
  simpa using all

end Steps

/-! ## Chunks -/

section Chunks

variable {files : Files}

/-- A chunk of records. -/
def chunkOf (records : List (Record handlers)) : List UInt8 :=
  recordBytes records ++ [chunkClose]

/-- The entry of a chunk in the work. -/
def chunkInfo (records : List (Record handlers)) : List UInt8 :=
  chunkOpen :: sendInt 4 (chunkOf records).length

/-- The chunks of a file, and the last one with the commit record, are processed
in order; every chunk is read. -/
theorem Executes.chunks
    (groups : List (List (Record handlers)))
    (last : List (Record handlers)) {commit : Record handlers}
    (isCommit : commit.action = actionC)
    (groupsGoOn : ∀ records ∈ groups, ∀ record ∈ records, record.Continues)
    (lastGoesOn : ∀ record ∈ last, record.Continues)
    (groupsShort : ∀ records ∈ groups, (chunkOf records).length < 2 ^ 32)
    (lastShort : (chunkOf (last ++ [commit])).length < 2 ^ 32)
    (saved : List UInt8) :
    Executes handlers files
      ⟨(groups.map chunkInfo).flatten ++ chunkInfo (last ++ [commit]), saved,
        some ((groups.map chunkOf).flatten ++ chunkOf (last ++ [commit]))⟩
      ((groups.flatten ++ (last ++ [commit])).map Record.processed,
        ⟨[chunkClose], [], some []⟩) := by
  induction groups generalizing saved with
  | nil =>
      have inChunk : Executes handlers files
          ⟨chunkOf (last ++ [commit]), [], some []⟩
          ((last ++ [commit]).map Record.processed,
            ⟨[chunkClose], [], some []⟩) :=
        Executes.committed last lastGoesOn isCommit [chunkClose]
      have fromWork : Executes handlers files
          ⟨chunkOpen :: (sendInt 4 (chunkOf (last ++ [commit])).length ++ []),
            saved, some (chunkOf (last ++ [commit]) ++ [])⟩ _ :=
        Executes.openChunk lastShort inChunk
      rw [List.append_nil, List.append_nil] at fromWork
      exact fromWork
  | cons records groups inductionHypothesis =>
      obtain ⟨recordsShort, laterShort⟩ := List.forall_mem_cons.mp groupsShort
      obtain ⟨recordsGoOn, laterGoOn⟩ := List.forall_mem_cons.mp groupsGoOn
      -- the work and the file behind this chunk
      generalize workRest : (groups.map chunkInfo).flatten ++
        chunkInfo (last ++ [commit]) = work at inductionHypothesis
      generalize fileRest : (groups.map chunkOf).flatten ++
        chunkOf (last ++ [commit]) = file at inductionHypothesis
      have later := inductionHypothesis laterGoOn laterShort work
      have inChunk : Executes handlers files
          ⟨chunkOf records, work, some file⟩ _ :=
        Executes.records (by decide) later.closeChunk records recordsGoOn
      have fromWork : Executes handlers files
          ⟨chunkOpen :: (sendInt 4 (chunkOf records).length ++ work), saved,
            some (chunkOf records ++ file)⟩ _ :=
        Executes.openChunk recordsShort inChunk
      rw [← workRest, ← fileRest] at fromWork
      simpa [chunkInfo] using fromWork

end Chunks

end Spill
end Multimaster
