import Multimaster.Spill.Receiver

/-!
# Plain commits

A transaction that ends with a plain commit is executed by the receiver itself,
so that such transactions are not reordered.  The flag for it is given only
where the transaction was not spilled.
-/

namespace Multimaster
namespace Spill

open Wire

variable {Content : Type} {handlers : Handlers Content}

/-- `REPLMODE_RECOVERY` or `REPLMODE_NORMAL`. -/
inductive Mode
  | recovery
  | normal
  deriving DecidableEq

/-- Who executes a work. -/
inductive Executor
  | receiver
  | pool
  deriving DecidableEq

/-- `MtmExecute`. -/
def Work.executor (mode : Mode) (work : Work) : Executor :=
  if mode = .recovery ∨ work.noPool = true then .receiver else .pool

/-- The works of a stream with their transactions, in the order in which they
are handed over. -/
def Receiver.handOver (config : Config) :
    Receiver → List (Transaction handlers) →
      List (Transaction handlers × Work)
  | _, [] => []
  | receiver, transaction :: rest =>
      let (received, works) :=
        receiver.receiveAll config transaction.messages
      works.map (fun work => (transaction, work)) ++
        received.handOver config rest

/-- The transaction ends with a plain commit. -/
def Transaction.Plain (transaction : Transaction handlers) : Prop :=
  transaction.event = pglogicalCommit

instance (transaction : Transaction handlers) : Decidable transaction.Plain :=
  inferInstanceAs (Decidable (_ = _))

instance (config : Config) (transaction : Transaction handlers) :
    Decidable (transaction.Applied config) :=
  inferInstanceAs (Decidable (_ ∧ _))

/-- The bytes of the transaction. -/
def Transaction.size (transaction : Transaction handlers) : ℕ :=
  (transaction.messages.map List.length).sum

/-! ## Whether a transaction is spilled -/

/-- With so many bytes of a transaction received, it is spilled when these are
too many, and all in the buffer otherwise. -/
def Receiver.Holds
    (config : Config) (receiver : Receiver) (received : ℕ) : Prop :=
  (receiver.spillFile = none ∧ receiver.buf.length = received ∧
      received + 1 < config.transSpillThreshold * 1024) ∨
    (receiver.spillFile ≠ none ∧
      config.transSpillThreshold * 1024 ≤ received + 1)

theorem Receiver.openFile_spillFile
    (config : Config) (receiver : Receiver) :
    (receiver.openFile config).1.spillFile ≠ none := by
  unfold Receiver.openFile
  cases isFile : receiver.spillFile with
  | none => simp
  | some fileId => simp [isFile]

/-- A message joins those received, in the buffer or after them in the file. -/
theorem Receiver.Holds.append
    {config : Config} {receiver : Receiver} {received : ℕ}
    (holds : receiver.Holds config received) (stmt : List UInt8) :
    ({ receiver.makeRoom config stmt with
      buf := (receiver.makeRoom config stmt).buf ++ stmt } :
        Receiver).Holds config (received + stmt.length) := by
  unfold Receiver.makeRoom
  split
  · next tooLarge =>
      refine .inr ⟨receiver.openFile_spillFile config, ?_⟩
      rcases holds with ⟨_, inBuffer, _⟩ | ⟨_, enough⟩
      · omega
      · omega
  · next fits =>
      rcases holds with ⟨noFile, inBuffer, _⟩ | ⟨isFile, enough⟩
      · refine .inl ⟨noFile, ?_, by omega⟩
        rw [List.length_append, inBuffer]
      · exact .inr ⟨isFile, by omega⟩

/-- All messages before the commit record join. -/
theorem Receiver.Holds.receiveAll
    {config : Config} {receiver : Receiver} {received : ℕ}
    (holds : receiver.Holds config received)
    (body : List (List (Record handlers)))
    (nonempty : ∀ message ∈ body, message ≠ [])
    (goOn : ∀ message ∈ body, ∀ record ∈ message, record.Continues)
    (transactional : ∀ message ∈ body,
      nonTransactional (recordBytes message) = false) :
    (receiver.receiveAll config (body.map recordBytes)).2 = [] ∧
      (receiver.receiveAll config (body.map recordBytes)).1.Holds config
        (received + ((body.map recordBytes).map List.length).sum) := by
  induction body generalizing receiver received with
  | nil => exact ⟨rfl, holds⟩
  | cons message body inductionHypothesis =>
      obtain ⟨firstNonempty, laterNonempty⟩ := List.forall_mem_cons.mp nonempty
      obtain ⟨firstGoesOn, laterGoOn⟩ := List.forall_mem_cons.mp goOn
      obtain ⟨firstTx, laterTx⟩ := List.forall_mem_cons.mp transactional
      obtain ⟨noWork, all⟩ := inductionHypothesis
        (holds.append (recordBytes message)) laterNonempty laterGoOn laterTx
      rw [List.map_cons, Receiver.receiveAll,
        receiver.receive_message config firstNonempty firstGoesOn firstTx]
      refine ⟨?_, ?_⟩
      · simp only [noWork, List.append_nil]
      · rw [List.map_cons, List.sum_cons, ← Nat.add_assoc]
        exact all

/-- An applied transaction is handed over once, with the flag exactly when it
ends with a plain commit and was not spilled. -/
theorem Receiver.Clean.noPool_iff
    {receiver : Receiver} (clean : receiver.Clean) (config : Config)
    {transaction : Transaction handlers}
    (applied : transaction.Applied config) :
    ∃ work,
      (receiver.receiveAll config transaction.messages).2 = [work] ∧
        (work.noPool = true ↔ transaction.Plain ∧
          transaction.size + 1 < config.transSpillThreshold * 1024) := by
  have atStart : receiver.Holds config 0 := by
    have positive := config.threshold_pos
    exact .inl ⟨clean.spillFile, by rw [clean.buf]; rfl, by omega⟩
  obtain ⟨noWork, holdsBody⟩ := atStart.receiveAll transaction.body
    transaction.nonempty transaction.goOn transaction.transactional
  have holds := holdsBody.append (recordBytes [transaction.commit])
  have size : 0 + ((transaction.body.map recordBytes).map List.length).sum +
      (recordBytes [transaction.commit]).length = transaction.size := by
    simp [Transaction.size, Transaction.messages]
  rw [size] at holds
  rw [receiver.receiveAll_messages config transaction noWork,
    Receiver.receive_commit]
  generalize ({ (receiver.receiveAll config
    (transaction.body.map recordBytes)).1.makeRoom config
      (recordBytes [transaction.commit]) with
    buf := ((receiver.receiveAll config
      (transaction.body.map recordBytes)).1.makeRoom config
        (recordBytes [transaction.commit])).buf ++
          recordBytes [transaction.commit] } : Receiver) = received at holds ⊢
  have isApplied : transaction.event ≠ pglogicalAbort ∧
      config.filterTransaction (recordBytes [transaction.commit]) = false :=
    applied
  unfold Receiver.finish
  rw [if_pos isApplied]
  rcases holds with ⟨noFile, _, fits⟩ | ⟨isFile, tooLarge⟩
  · rw [noFile]
    refine ⟨_, rfl, ?_⟩
    simp [Transaction.Plain, fits]
  · obtain ⟨fileId, isFile⟩ := Option.ne_none_iff_exists'.mp isFile
    rw [isFile]
    refine ⟨_, rfl, ?_⟩
    simp only [Bool.false_eq_true, false_iff, not_and]
    intro _
    omega

/-! ## Streams -/

/-- The transactions with a plain commit that the receiver executes itself.  It
executes a work before it takes the next message, so they are executed in this
order. -/
def receiverExecuted
    (mode : Mode) (handed : List (Transaction handlers × Work)) :
    List (Transaction handlers) :=
  (handed.filter fun pair =>
    decide (pair.1.Plain ∧ pair.2.executor mode = .receiver)).map Prod.fst

/-- Every applied transaction with a plain commit is executed by the receiver
itself, in the order of the stream, and none by the pool. -/
structure PlainSerial
    (mode : Mode) (config : Config) (receiver : Receiver)
    (transactions : List (Transaction handlers)) : Prop where
  inOrder : receiverExecuted mode (receiver.handOver config transactions) =
    transactions.filter fun transaction =>
      decide (transaction.Plain ∧ transaction.Applied config)
  notByPool : ∀ pair ∈ receiver.handOver config transactions,
    pair.1.Plain → pair.2.executor mode ≠ .pool

/-- Every applied transaction with a plain commit is small enough for the
buffer. -/
def PlainFits
    (config : Config) (transactions : List (Transaction handlers)) : Prop :=
  ∀ transaction ∈ transactions, transaction.Plain →
    transaction.Applied config →
    transaction.size + 1 < config.transSpillThreshold * 1024

theorem plainFits_cons
    (config : Config) (transaction : Transaction handlers)
    (rest : List (Transaction handlers)) :
    PlainFits config (transaction :: rest) ↔
      (transaction.Plain → transaction.Applied config →
        transaction.size + 1 < config.transSpillThreshold * 1024) ∧
      PlainFits config rest :=
  List.forall_mem_cons

theorem Work.executor_normal (work : Work) :
    work.executor .normal =
      if work.noPool = true then .receiver else .pool := by
  simp [Work.executor]

theorem Receiver.handOver_cons
    (config : Config) (receiver : Receiver)
    (transaction : Transaction handlers)
    (rest : List (Transaction handlers)) :
    receiver.handOver config (transaction :: rest) =
      (receiver.receiveAll config transaction.messages).2.map
          (fun work => (transaction, work)) ++
        (receiver.receiveAll config transaction.messages).1.handOver config
          rest := rfl

theorem plainSerial_iff
    (mode : Mode) (config : Config) (receiver : Receiver)
    (transactions : List (Transaction handlers)) :
    PlainSerial mode config receiver transactions ↔
      receiverExecuted mode (receiver.handOver config transactions) =
          transactions.filter (fun transaction =>
            decide (transaction.Plain ∧ transaction.Applied config)) ∧
        ∀ pair ∈ receiver.handOver config transactions,
          pair.1.Plain → pair.2.executor mode ≠ .pool :=
  ⟨fun serial => ⟨serial.inOrder, serial.notByPool⟩,
    fun serial => ⟨serial.1, serial.2⟩⟩

/-- An applied transaction before others: with a plain commit it needs the
flag. -/
theorem Receiver.plainSerial_of_work
    {receiver : Receiver} {config : Config}
    {transaction : Transaction handlers} {work : Work}
    (isWork :
      (receiver.receiveAll config transaction.messages).2 = [work])
    (applied : transaction.Applied config)
    (rest : List (Transaction handlers)) :
    PlainSerial .normal config receiver (transaction :: rest) ↔
      (transaction.Plain → work.noPool = true) ∧
      PlainSerial .normal config
        (receiver.receiveAll config transaction.messages).1 rest := by
  have handed := receiver.handOver_cons config transaction rest
  rw [isWork, List.map_singleton, List.singleton_append] at handed
  rw [plainSerial_iff, plainSerial_iff, handed, List.forall_mem_cons]
  by_cases plain : transaction.Plain
  · cases flag : work.noPool with
    | true =>
        have byReceiver : work.executor .normal = .receiver := by
          rw [Work.executor_normal, if_pos flag]
        simp [receiverExecuted, plain, applied, byReceiver]
    | false =>
        have byPool : work.executor .normal = .pool := by
          rw [Work.executor_normal, flag]
          rfl
        simp [plain, byPool]
  · simp [receiverExecuted, plain]

/-- A transaction that is discarded changes nothing. -/
theorem Receiver.plainSerial_of_discarded
    {receiver : Receiver} {config : Config}
    {transaction : Transaction handlers}
    (noWork : (receiver.receiveAll config transaction.messages).2 = [])
    (discarded : ¬ transaction.Applied config)
    (rest : List (Transaction handlers)) :
    PlainSerial .normal config receiver (transaction :: rest) ↔
      PlainSerial .normal config
        (receiver.receiveAll config transaction.messages).1 rest := by
  have handed := receiver.handOver_cons config transaction rest
  rw [noWork, List.map_nil, List.nil_append] at handed
  rw [plainSerial_iff, plainSerial_iff, handed]
  simp [discarded]

/-- The first transaction of a stream, and the others. -/
theorem Receiver.Clean.plainSerial_cons
    {receiver : Receiver} (clean : receiver.Clean) (config : Config)
    (transaction : Transaction handlers)
    (rest : List (Transaction handlers)) :
    PlainSerial .normal config receiver (transaction :: rest) ↔
      (transaction.Plain → transaction.Applied config →
        transaction.size + 1 < config.transSpillThreshold * 1024) ∧
      PlainSerial .normal config
        (receiver.receiveAll config transaction.messages).1 rest := by
  by_cases applied : transaction.Applied config
  · obtain ⟨work, isWork, noPool⟩ := clean.noPool_iff config applied
    rw [Receiver.plainSerial_of_work isWork applied, noPool]
    refine and_congr_left' (forall_congr' fun plain => ?_)
    exact ⟨fun flagged _ => flagged.2, fun fits => ⟨plain, fits applied⟩⟩
  · rw [Receiver.plainSerial_of_discarded
      ((clean.handsOver config transaction).discarded applied) applied]
    exact (and_iff_right fun _ isApplied => absurd isApplied applied).symm

/-- In normal mode the transactions of a stream that end with a plain commit are
executed serially by the receiver exactly when none of them is spilled. -/
theorem plain_commits_serial_iff
    (handlers : Handlers Content) (config : Config) (files : Files)
    (transactions : List (Transaction handlers)) :
    PlainSerial .normal config (Receiver.start files) transactions ↔
      PlainFits config transactions := by
  have clean : (Receiver.start files).Clean := ⟨rfl, rfl, rfl⟩
  generalize Receiver.start files = receiver at clean
  induction transactions generalizing receiver with
  | nil =>
      refine iff_of_true ⟨rfl, ?_⟩ ?_
      · intro pair isPair
        cases isPair
      · intro transaction isTransaction
        cases isTransaction
  | cons transaction rest inductionHypothesis =>
      have others := inductionHypothesis _
        (clean.handsOver config transaction).clean
      refine (clean.plainSerial_cons config transaction rest).trans ?_
      rw [plainFits_cons]
      exact and_congr_right' others

/-! ## A spilled plain commit -/

/-- The handlers of a table with one text column. -/
def textHandlers : Handlers (List UInt8) where
  read action :=
    if action = actionI then do
      -- the tuple, its number of columns and the kind of the column
      let _ ← getBytes 4
      let length ← getInt 4
      getBytes length
    else if action = actionC then getBytes 35
    else getBytes 28
  tLen content := content.length + 24
  standalone _ := false

/-- The begin record. -/
def beginRecord : Record textHandlers where
  action := 66
  body := List.replicate 28 0
  content := List.replicate 28 0
  reads := by
    have reads := reads_getBytes (List.replicate 28 (0 : UInt8))
    rwa [List.length_replicate] at reads
  notFile := by decide
  notOpen := by decide
  notClose := by decide
  notCaughtup := by decide

/-- The insert of a text. -/
def insertRecord (text : List UInt8) (short : text.length < 2 ^ 32) :
    Record textHandlers where
  action := actionI
  body := List.flatten [[84, 0, 1, 116], sendInt 4 text.length, text]
  content := text
  reads := by
    have header : Reads (getBytes 4) [84, 0, 1, 116] [84, 0, 1, 116] :=
      reads_getBytes [84, 0, 1, 116]
    have last : Reads (getBytes text.length) (List.flatten [text]) text := by
      rw [List.flatten_singleton]
      exact reads_getBytes text
    exact header.field ((reads_getInt short).field last)
  notFile := by decide
  notOpen := by decide
  notClose := by decide
  notCaughtup := by decide

/-- The record of a plain commit. -/
def commitRecord : Record textHandlers where
  action := actionC
  body := pglogicalCommit :: List.replicate 34 0
  content := pglogicalCommit :: List.replicate 34 0
  reads := by
    have reads := reads_getBytes (pglogicalCommit :: List.replicate 34 0)
    rwa [List.length_cons, List.length_replicate] at reads
  notFile := by decide
  notOpen := by decide
  notClose := by decide
  notCaughtup := by decide

/-- The insert of a text of some length, with a plain commit. -/
def plainTransaction (length : ℕ) (short : length < 2 ^ 30) :
    Transaction textHandlers where
  body := [[beginRecord, insertRecord (List.replicate length 120)
    (by rw [List.length_replicate]; omega)]]
  commit := commitRecord
  event := pglogicalCommit
  fields := List.replicate 34 0
  isCommit := rfl
  commitBody := rfl
  nonempty := by simp
  goOn := by
    intro message isMessage record isRecord
    rw [List.mem_singleton.mp isMessage] at isRecord
    simp only [List.mem_cons, List.not_mem_nil, or_false] at isRecord
    rcases isRecord with rfl | rfl
    · exact ⟨by decide, fun _ => rfl⟩
    · exact ⟨(by decide : actionI ≠ actionC), fun _ => rfl⟩
  transactional := by
    intro message isMessage
    rw [List.mem_singleton.mp isMessage]
    rfl
  short := by
    intro message isMessage
    simp only [List.singleton_append, List.mem_cons, List.not_mem_nil,
      or_false] at isMessage
    rcases isMessage with rfl | rfl
    · simp [beginRecord, insertRecord, length_sendInt]
      omega
    · simp [commitRecord]

/-- A threshold of one kilobyte, and nothing filtered out. -/
def smallConfig : Config where
  transSpillThreshold := 1
  threshold_pos := Nat.one_pos
  threshold_le := by decide
  sender := 2
  sender_lt := by decide
  filterTransaction _ := false

theorem plainTransaction_size (length : ℕ) (short : length < 2 ^ 30) :
    (plainTransaction length short).size = length + 74 := by
  simp [Transaction.size, Transaction.messages, plainTransaction, beginRecord,
    insertRecord, commitRecord, length_sendInt]
  omega

/-- A plain commit of a little more than the threshold is given to the pool. -/
theorem plain_commit_goes_to_pool :
    (∃ work, (Receiver.start fun _ => []).handOver smallConfig
        [plainTransaction 1000 (by decide)] =
      [(plainTransaction 1000 (by decide), work)] ∧
        work.executor .normal = .pool) ∧
    ¬ PlainSerial .normal smallConfig (Receiver.start fun _ => [])
        [plainTransaction 1000 (by decide)] := by
  have clean : (Receiver.start fun _ => []).Clean := ⟨rfl, rfl, rfl⟩
  have applied : (plainTransaction 1000 (by decide)).Applied smallConfig :=
    ⟨by decide, rfl⟩
  obtain ⟨work, isWork, noPool⟩ := clean.noPool_iff smallConfig applied
  have byPool : work.executor .normal = .pool := by
    rw [Work.executor_normal, if_neg]
    intro flag
    have fits := (noPool.mp flag).2
    rw [plainTransaction_size] at fits
    exact absurd fits (by decide)
  have handed : (Receiver.start fun _ => []).handOver smallConfig
      [plainTransaction 1000 (by decide)] =
        [(plainTransaction 1000 (by decide), work)] := by
    rw [Receiver.handOver_cons, isWork]
    rfl
  refine ⟨⟨work, handed, byPool⟩, ?_⟩
  rintro ⟨_, notByPool⟩
  rw [handed] at notByPool
  exact notByPool _ List.mem_cons_self rfl byPool

end Spill
end Multimaster
