import Multimaster.Spill.Executor

/-!
# What the receiver hands over

Between two messages of a transaction its records are, in order, those of the
chunks in the file and those in the buffer.  At the commit record the executor
gets work that makes it process all of them, and nothing is left for the next
transaction.
-/

namespace Multimaster
namespace Spill

open Wire

variable {Content : Type} {handlers : Handlers Content}

/-- A transaction as the sender streams it: messages of one or more records, and
the commit record in a message of its own. -/
structure Transaction (handlers : Handlers Content) where
  body : List (List (Record handlers))
  commit : Record handlers
  /-- `PGLOGICAL_EVENT` of the commit record. -/
  event : UInt8
  fields : List UInt8
  isCommit : commit.action = actionC
  commitBody : commit.body = event :: fields
  nonempty : ∀ message ∈ body, message ≠ []
  goOn : ∀ message ∈ body, ∀ record ∈ message, record.Continues
  transactional : ∀ message ∈ body,
    nonTransactional (recordBytes message) = false
  /-- The length of a message is an `int`. -/
  short : ∀ message ∈ body ++ [[commit]],
    (recordBytes message).length < 2 ^ 31

namespace Transaction

/-- The messages of the stream. -/
def messages (transaction : Transaction handlers) : List (List UInt8) :=
  transaction.body.map recordBytes ++ [recordBytes [transaction.commit]]

/-- All records in order. -/
def records (transaction : Transaction handlers) : List (Record handlers) :=
  transaction.body.flatten ++ [transaction.commit]

/-- The transaction is neither aborted at the sender nor filtered out. -/
def Applied (config : Config) (transaction : Transaction handlers) : Prop :=
  transaction.event ≠ pglogicalAbort ∧
    config.filterTransaction (recordBytes [transaction.commit]) = false

end Transaction

/-- Nothing is left of a transaction. -/
structure Receiver.Clean (receiver : Receiver) : Prop where
  buf : receiver.buf = []
  spillInfo : receiver.spillInfo = []
  spillFile : receiver.spillFile = none

/-- The file and the list of chunks are those of some groups of records. -/
def Receiver.Spilled
    (config : Config) (receiver : Receiver)
    (groups : List (List (Record handlers))) : Prop :=
  match receiver.spillFile with
  | none => groups = [] ∧ receiver.spillInfo = []
  | some fileId =>
      fileId < 2 ^ 32 ∧
        receiver.spillInfo = actionF ::
          (sendInt 4 config.sender ++
            (sendInt 4 fileId ++ (groups.map chunkInfo).flatten)) ∧
        receiver.files fileId = (groups.map chunkOf).flatten

/-- The records of a transaction so far are in chunks and in the buffer. -/
structure Receiver.Collecting
    (config : Config) (receiver : Receiver)
    (groups : List (List (Record handlers))) (rest : List (Record handlers)) :
    Prop where
  buf_eq : receiver.buf = recordBytes rest
  buf_short : (chunkOf rest).length < 2 ^ 32
  groups_short : ∀ records ∈ groups, (chunkOf records).length < 2 ^ 32
  spilled : receiver.Spilled config groups

theorem Receiver.Clean.collecting
    {receiver : Receiver} (clean : receiver.Clean) (config : Config) :
    receiver.Collecting config ([] : List (List (Record handlers))) [] where
  buf_eq := clean.buf
  buf_short := by simp [chunkOf]
  groups_short := by simp
  spilled := by
    rw [Receiver.Spilled, clean.spillFile]
    exact ⟨rfl, clean.spillInfo⟩

section Steps

variable {config : Config} {receiver : Receiver}
variable {groups : List (List (Record handlers))}
variable {rest : List (Record handlers)}

/-- The file of the transaction, created if need be, has its chunks. -/
theorem Receiver.Collecting.openFile
    (collecting : receiver.Collecting config groups rest) :
    (receiver.openFile config).1.Collecting config groups rest ∧
      (receiver.openFile config).1.spillFile =
        some (receiver.openFile config).2 := by
  have spilled := collecting.spilled
  unfold Receiver.openFile
  cases isFile : receiver.spillFile with
  | some fileId => exact ⟨collecting, isFile⟩
  | none =>
      rw [Receiver.Spilled, isFile] at spilled
      obtain ⟨rfl, noInfo⟩ := spilled
      refine ⟨⟨collecting.buf_eq, collecting.buf_short, by simp, ?_⟩, rfl⟩
      refine ⟨Nat.mod_lt _ (by decide), ?_, ?_⟩
      · simp [noInfo]
      · simp

/-- The buffer becomes the last chunk. -/
theorem Receiver.Collecting.spillChunk
    (collecting : receiver.Collecting config groups rest) {fileId : ℕ}
    (isFile : receiver.spillFile = some fileId) :
    (receiver.spillChunk fileId).Collecting config (groups ++ [rest]) [] ∧
      (receiver.spillChunk fileId).spillFile = some fileId := by
  have spilled := collecting.spilled
  rw [Receiver.Spilled, isFile] at spilled
  obtain ⟨fits, info, content⟩ := spilled
  refine ⟨⟨rfl, by simp [chunkOf], ?_, ?_⟩, isFile⟩
  · intro records isRecords
    rcases List.mem_append.mp isRecords with before | isRest
    · exact collecting.groups_short records before
    · rw [List.mem_singleton.mp isRest]
      exact collecting.buf_short
  · have chunk : receiver.buf ++ [chunkClose] = chunkOf rest := by
      rw [collecting.buf_eq, chunkOf]
    rw [Receiver.Spilled]
    simp only [Receiver.spillChunk, isFile, chunk]
    refine ⟨fits, ?_, ?_⟩
    · simp [info, chunkInfo]
    · simp [content]

/-- There is room for a message: the records are the same, perhaps in one more
chunk. -/
theorem Receiver.Collecting.makeRoom
    (collecting : receiver.Collecting config groups rest)
    (stmt : List UInt8) (short : stmt.length < 2 ^ 31) :
    ∃ (groups' : List (List (Record handlers)))
        (rest' : List (Record handlers)),
      (receiver.makeRoom config stmt).Collecting config groups' rest' ∧
        groups'.flatten ++ rest' = groups.flatten ++ rest ∧
        (receiver.makeRoom config stmt).buf.length + stmt.length + 1 <
          2 ^ 32 := by
  unfold Receiver.makeRoom
  split
  · obtain ⟨opened, isFile⟩ := collecting.openFile
    generalize receiver.openFile config = result at opened isFile
    obtain ⟨receiver', fileId⟩ := result
    obtain ⟨collected, _⟩ := opened.spillChunk isFile
    refine ⟨groups ++ [rest], [], collected, by simp, ?_⟩
    change 0 + stmt.length + 1 < 2 ^ 32
    omega
  · next fits =>
      have bound := config.threshold_le
      exact ⟨groups, rest, collecting, rfl, by omega⟩

/-- A message of the transaction joins the buffer. -/
theorem Receiver.Collecting.append
    (collecting : receiver.Collecting config groups rest)
    (message : List (Record handlers))
    (short : receiver.buf.length + (recordBytes message).length + 1 < 2 ^ 32) :
    ({ receiver with
      buf := receiver.buf ++ recordBytes message } : Receiver).Collecting
        config groups (rest ++ message) where
  buf_eq := by rw [collecting.buf_eq, recordBytes_append]
  buf_short := by
    rw [collecting.buf_eq] at short
    simp only [chunkOf, recordBytes_append, List.length_append,
      List.length_singleton]
    omega
  groups_short := collecting.groups_short
  spilled := collecting.spilled

/-- A message that is not the commit record goes to the buffer. -/
theorem Receiver.receive_message
    (config : Config) (receiver : Receiver)
    {message : List (Record handlers)} (nonempty : message ≠ [])
    (goOn : ∀ record ∈ message, record.Continues)
    (transactional : nonTransactional (recordBytes message) = false) :
    receiver.receive config (recordBytes message) =
      ({ receiver.makeRoom config (recordBytes message) with
        buf := (receiver.makeRoom config (recordBytes message)).buf ++
          recordBytes message }, []) := by
  unfold Receiver.receive
  rw [transactional]
  simp only [Bool.false_eq_true, if_false]
  split
  · next event fields isCommit =>
      cases message with
      | nil => exact absurd rfl nonempty
      | cons record records =>
          rw [recordBytes_cons, List.cons.injEq] at isCommit
          exact absurd isCommit.1 (goOn record List.mem_cons_self).1
  · rfl

/-- A message that is not the commit record is collected. -/
theorem Receiver.Collecting.receive
    (collecting : receiver.Collecting config groups rest)
    {message : List (Record handlers)} (nonempty : message ≠ [])
    (goOn : ∀ record ∈ message, record.Continues)
    (transactional : nonTransactional (recordBytes message) = false)
    (short : (recordBytes message).length < 2 ^ 31) :
    (receiver.receive config (recordBytes message)).2 = [] ∧
      ∃ (groups' : List (List (Record handlers)))
          (rest' : List (Record handlers)),
        (receiver.receive config (recordBytes message)).1.Collecting config
            groups' rest' ∧
          groups'.flatten ++ rest' = groups.flatten ++ rest ++ message := by
  obtain ⟨groups', rest', room, same, fits⟩ :=
    collecting.makeRoom (recordBytes message) short
  rw [receiver.receive_message config nonempty goOn transactional]
  refine ⟨rfl, groups', rest' ++ message, room.append message fits, ?_⟩
  rw [← List.append_assoc, same]

/-- All messages before the commit record are collected. -/
theorem Receiver.Collecting.receiveAll
    (collecting : receiver.Collecting config groups rest)
    (body : List (List (Record handlers)))
    (nonempty : ∀ message ∈ body, message ≠ [])
    (goOn : ∀ message ∈ body, ∀ record ∈ message, record.Continues)
    (transactional : ∀ message ∈ body,
      nonTransactional (recordBytes message) = false)
    (short : ∀ message ∈ body, (recordBytes message).length < 2 ^ 31) :
    (receiver.receiveAll config (body.map recordBytes)).2 = [] ∧
      ∃ (groups' : List (List (Record handlers)))
          (rest' : List (Record handlers)),
        (receiver.receiveAll config (body.map recordBytes)).1.Collecting config
            groups' rest' ∧
          groups'.flatten ++ rest' = groups.flatten ++ rest ++ body.flatten := by
  induction body generalizing receiver groups rest with
  | nil => exact ⟨rfl, groups, rest, collecting, by simp⟩
  | cons message body inductionHypothesis =>
      obtain ⟨firstNonempty, laterNonempty⟩ := List.forall_mem_cons.mp nonempty
      obtain ⟨firstGoesOn, laterGoOn⟩ := List.forall_mem_cons.mp goOn
      obtain ⟨firstTx, laterTx⟩ := List.forall_mem_cons.mp transactional
      obtain ⟨firstShort, laterShort⟩ := List.forall_mem_cons.mp short
      obtain ⟨noWork, groups₁, rest₁, received, same⟩ :=
        collecting.receive firstNonempty firstGoesOn firstTx firstShort
      obtain ⟨noLaterWork, groups₂, rest₂, all, whole⟩ :=
        inductionHypothesis received laterNonempty laterGoOn laterTx laterShort
      rw [List.map_cons, Receiver.receiveAll]
      refine ⟨?_, groups₂, rest₂, all, ?_⟩
      · simp only [noWork, noLaterWork, List.append_nil]
      · rw [whole, same, List.flatten_cons, List.append_assoc]

end Steps

theorem Receiver.receiveAll_append
    (config : Config) (receiver : Receiver) (first second : List (List UInt8)) :
    receiver.receiveAll config (first ++ second) =
      (((receiver.receiveAll config first).1.receiveAll config second).1,
        (receiver.receiveAll config first).2 ++
          ((receiver.receiveAll config first).1.receiveAll config second).2) := by
  induction first generalizing receiver with
  | nil => rfl
  | cons stmt rest inductionHypothesis =>
      simp only [List.cons_append, Receiver.receiveAll, inductionHypothesis,
        List.append_assoc]

/-- What is executed for a transaction: all of its records, in order, up to the
commit record; every chunk of the file and the whole list of chunks is read. -/
def Processes
    (handlers : Handlers Content) (files : Files) (work : Work)
    (records : List (Record handlers)) : Prop :=
  ∃ final,
    Executes handlers files (Source.ofWork work.bytes)
        (records.map Record.processed, final) ∧
      final.saved = [] ∧ (final.file = none ∨ final.file = some [])

/-- At the commit record of an applied transaction there is one work, and
nothing is left. -/
theorem Receiver.Collecting.finish
    {config : Config} {receiver : Receiver}
    {groups : List (List (Record handlers))} {rest : List (Record handlers)}
    {commit : Record handlers}
    (collecting : receiver.Collecting config groups (rest ++ [commit]))
    (isCommit : commit.action = actionC)
    (goOn : ∀ record ∈ groups.flatten ++ rest, record.Continues)
    {stmt : List UInt8} {event : UInt8}
    (applied : event ≠ pglogicalAbort ∧ config.filterTransaction stmt = false) :
    (receiver.finish config stmt event).1.Clean ∧
      ∃ work, (receiver.finish config stmt event).2 = [work] ∧
        Processes handlers (receiver.finish config stmt event).1.files work
          (groups.flatten ++ (rest ++ [commit])) := by
  have groupsGoOn : ∀ records ∈ groups, ∀ record ∈ records,
      record.Continues := by
    intro records isGroup record isRecord
    exact goOn record (List.mem_append_left _
      (List.mem_flatten.mpr ⟨records, isGroup, isRecord⟩))
  have restGoesOn : ∀ record ∈ rest, record.Continues := by
    intro record isRecord
    exact goOn record (List.mem_append_right _ isRecord)
  have spilled := collecting.spilled
  unfold Receiver.finish
  rw [if_pos applied]
  cases isFile : receiver.spillFile with
  | none =>
      rw [Receiver.Spilled, isFile] at spilled
      obtain ⟨rfl, noInfo⟩ := spilled
      refine ⟨⟨rfl, noInfo, rfl⟩, _, rfl, ⟨[], [], none⟩, ?_, rfl, .inl rfl⟩
      have executes : Executes handlers receiver.files
          (Source.ofWork (recordBytes (rest ++ [commit]) ++ [])) _ :=
        Executes.committed rest restGoesOn isCommit []
      simpa [collecting.buf_eq] using executes
  | some fileId =>
      rw [Receiver.Spilled, isFile] at spilled
      obtain ⟨fits, info, content⟩ := spilled
      refine ⟨⟨rfl, rfl, rfl⟩, _, rfl, ⟨[chunkClose], [], some []⟩, ?_, rfl,
        .inr rfl⟩
      have chunk : receiver.buf ++ [chunkClose] =
          chunkOf (rest ++ [commit]) := by
        rw [collecting.buf_eq, chunkOf]
      have inFile : (receiver.spillChunk fileId).files fileId =
          (groups.map chunkOf).flatten ++ chunkOf (rest ++ [commit]) := by
        simp [Receiver.spillChunk, content, chunk]
      have chunks : Executes handlers (receiver.spillChunk fileId).files
          ⟨(groups.map chunkInfo).flatten ++ chunkInfo (rest ++ [commit]), [],
            some ((receiver.spillChunk fileId).files fileId)⟩
          ((groups.flatten ++ (rest ++ [commit])).map Record.processed,
            ⟨[chunkClose], [], some []⟩) := by
        rw [inFile]
        exact Executes.chunks groups rest isCommit groupsGoOn restGoesOn
          collecting.groups_short collecting.buf_short []
      have executes : Executes handlers (receiver.spillChunk fileId).files
          ⟨actionF :: (sendInt 4 config.sender ++ (sendInt 4 fileId ++
            ((groups.map chunkInfo).flatten ++
              chunkInfo (rest ++ [commit])))), [], none⟩ _ :=
        Executes.openFile config.sender_lt fits chunks
      have work : (receiver.spillChunk fileId).spillInfo =
          actionF :: (sendInt 4 config.sender ++ (sendInt 4 fileId ++
            ((groups.map chunkInfo).flatten ++
              chunkInfo (rest ++ [commit])))) := by
        simp [Receiver.spillChunk, info, chunk, chunkInfo]
      rw [Source.ofWork]
      simp only [work]
      exact executes

/-- A transaction that is not applied leaves nothing. -/
theorem Receiver.Collecting.discard
    {config : Config} {receiver : Receiver}
    {groups : List (List (Record handlers))} {rest : List (Record handlers)}
    (collecting : receiver.Collecting config groups rest)
    {stmt : List UInt8} {event : UInt8}
    (notApplied : ¬ (event ≠ pglogicalAbort ∧
      config.filterTransaction stmt = false)) :
    (receiver.finish config stmt event).1.Clean ∧
      (receiver.finish config stmt event).2 = [] := by
  have spilled := collecting.spilled
  unfold Receiver.finish
  rw [if_neg notApplied]
  cases isFile : receiver.spillFile with
  | none =>
      rw [Receiver.Spilled, isFile] at spilled
      exact ⟨⟨rfl, spilled.2, rfl⟩, rfl⟩
  | some fileId => exact ⟨⟨rfl, rfl, rfl⟩, rfl⟩

/-- The receiver gets a commit record. -/
theorem Receiver.receive_commit
    (config : Config) (receiver : Receiver)
    (transaction : Transaction handlers) :
    receiver.receive config (recordBytes [transaction.commit]) =
      Receiver.finish config
        { receiver.makeRoom config (recordBytes [transaction.commit]) with
          buf := (receiver.makeRoom config
            (recordBytes [transaction.commit])).buf ++
              recordBytes [transaction.commit] }
        (recordBytes [transaction.commit]) transaction.event := by
  have bytes : recordBytes [transaction.commit] =
      67 :: transaction.event :: transaction.fields := by
    simp [transaction.isCommit, transaction.commitBody, actionC]
  rw [bytes]
  rfl

/-- The messages of a transaction, the last one apart. -/
theorem Receiver.receiveAll_messages
    (config : Config) (receiver : Receiver)
    (transaction : Transaction handlers)
    (noWork : (receiver.receiveAll config
      (transaction.body.map recordBytes)).2 = []) :
    receiver.receiveAll config transaction.messages =
      (receiver.receiveAll config
        (transaction.body.map recordBytes)).1.receive config
          (recordBytes [transaction.commit]) := by
  rw [Transaction.messages, Receiver.receiveAll_append, noWork]
  simp [Receiver.receiveAll]

/-- What the receiver does with a transaction. -/
structure Receiver.HandsOver
    (config : Config) (receiver : Receiver)
    (transaction : Transaction handlers) : Prop where
  clean : (receiver.receiveAll config transaction.messages).1.Clean
  applied : transaction.Applied config →
    ∃ work,
      (receiver.receiveAll config transaction.messages).2 = [work] ∧
        Processes handlers
          (receiver.receiveAll config transaction.messages).1.files work
          transaction.records
  discarded : ¬ transaction.Applied config →
    (receiver.receiveAll config transaction.messages).2 = []

/-- With nothing left of the one before, a transaction is handed over in one
piece. -/
theorem Receiver.Clean.handsOver
    {receiver : Receiver} (clean : receiver.Clean) (config : Config)
    (transaction : Transaction handlers) :
    receiver.HandsOver config transaction := by
  have bodyShort : ∀ message ∈ transaction.body,
      (recordBytes message).length < 2 ^ 31 := by
    intro message isMessage
    exact transaction.short message (List.mem_append_left _ isMessage)
  have commitShort : (recordBytes [transaction.commit]).length < 2 ^ 31 :=
    transaction.short _ (List.mem_append_right _ List.mem_cons_self)
  obtain ⟨noWork, groups, rest, collecting, same⟩ :=
    (clean.collecting config).receiveAll transaction.body transaction.nonempty
      transaction.goOn transaction.transactional bodyShort
  have all := receiver.receiveAll_messages config transaction noWork
  generalize (receiver.receiveAll config
    (transaction.body.map recordBytes)).1 = collected at collecting all
  obtain ⟨groups', rest', room, sameRecords, fits⟩ :=
    collecting.makeRoom (recordBytes [transaction.commit]) commitShort
  have atCommit := room.append [transaction.commit] fits
  have body : groups'.flatten ++ rest' = transaction.body.flatten := by
    rw [sameRecords, same]
    rfl
  have goOn : ∀ record ∈ groups'.flatten ++ rest', record.Continues := by
    intro record isRecord
    rw [body] at isRecord
    obtain ⟨message, isMessage, inMessage⟩ := List.mem_flatten.mp isRecord
    exact transaction.goOn message isMessage record inMessage
  have records : groups'.flatten ++ (rest' ++ [transaction.commit]) =
      transaction.records := by
    rw [← List.append_assoc, body, Transaction.records]
  rw [Receiver.receive_commit] at all
  by_cases applied : transaction.Applied config
  · obtain ⟨isClean, work, isWork, processes⟩ :=
      atCommit.finish transaction.isCommit goOn applied
    rw [records] at processes
    refine ⟨?_, fun _ => ⟨work, ?_, ?_⟩, fun notApplied =>
      absurd applied notApplied⟩
    · rw [all]
      exact isClean
    · rw [all]
      exact isWork
    · rw [all]
      exact processes
  · obtain ⟨isClean, nothing⟩ := atCommit.discard applied
    refine ⟨?_, fun isApplied => absurd isApplied applied, fun _ => ?_⟩
    · rw [all]
      exact isClean
    · rw [all]
      exact nothing

/-- The receiver at its start. -/
def Receiver.start (files : Files) : Receiver where
  buf := []
  spillInfo := []
  spillFile := none
  spillFileId := 0
  files := files

/-- The stream of some transactions. -/
def streamOf (transactions : List (Transaction handlers)) :
    List (List UInt8) :=
  (transactions.map Transaction.messages).flatten

/-- Between transactions nothing is left. -/
theorem Receiver.Clean.receiveAll
    {receiver : Receiver} (clean : receiver.Clean) (config : Config)
    (transactions : List (Transaction handlers)) :
    (receiver.receiveAll config (streamOf transactions)).1.Clean := by
  induction transactions generalizing receiver with
  | nil => exact clean
  | cons transaction transactions inductionHypothesis =>
      rw [streamOf, List.map_cons, List.flatten_cons,
        Receiver.receiveAll_append]
      exact inductionHypothesis (clean.handsOver config transaction).clean

end Spill
end Multimaster
