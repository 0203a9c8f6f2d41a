import Multimaster.Output.Defs
import Multimaster.Spill.Serial

/-!
# From the callbacks to the executor

However the records of a transaction are put into packets, and however the
receiver spills them, the executor processes the records that the callbacks
wrote: all of them, in order, once.
-/

namespace Multimaster
namespace Output

open Spill (Handlers Record Transaction Receiver Config Work Files recordBytes
  recordBytes_cons recordBytes_append actionC actionM nonTransactional Processes
  pglogicalAbort)

variable {Content : Type} {handlers : Handlers Content}

/-! ## What is replayed -/

/-- A record between `BEGIN` and the end of a transaction.  A message does not
stand alone, neither for the executor nor for the receiver. -/
structure Inside (record : Record handlers) : Prop where
  continues : record.Continues
  label : record.action = actionM → ∃ label rest,
    record.body = label :: rest ∧
      nonTransactional (actionM :: label :: rest) = false

theorem inside_of_action
    {record : Record handlers} (notCommit : record.action ≠ actionC)
    (notMessage : record.action ≠ actionM) : Inside record where
  continues := ⟨notCommit, fun isMessage => absurd isMessage notMessage⟩
  label isMessage := absurd isMessage notMessage

/-- The record of the end of a transaction. -/
structure CommitRecord (handlers : Handlers Content) where
  record : Record handlers
  event : UInt8
  fields : List UInt8
  isCommit : record.action = actionC
  body_eq : record.body = event :: fields

/-- The callbacks inside a transaction, with the records they write. -/
inductive Change (handlers : Handlers Content)
  /-- A row, with the verdict of the row filter; there may be no row record for a
  `DELETE`. -/
  | row (passes : Bool) (header : List (Record handlers))
      (rowRecord : Option (List (Record handlers)))
  | message (sent : List (Record handlers))
  | copy (header : List (Record handlers))
      (tuples : List (List (Record handlers)))

namespace Change

/-- The callback. -/
def run : Change handlers → Context → Option Context
  | .row passes header rowRecord, ctx =>
      ctx.pgDecodeChange passes (recordBytes header)
        (rowRecord.map recordBytes)
  | .message sent, ctx => ctx.pgDecodeMessage true (recordBytes sent)
  | .copy header tuples, ctx =>
      ctx.pgDecodeCopy (recordBytes header) (tuples.map recordBytes)

/-- The records that are written. -/
def records : Change handlers → List (Record handlers)
  | .row passes header rowRecord =>
      if passes then header ++ rowRecord.getD [] else []
  | .message sent => sent
  | .copy header tuples => header ++ tuples.flatten

end Change

/-- The callbacks one after the other. -/
def runChanges : List (Change handlers) → Context → Option Context
  | [], ctx => some ctx
  | change :: rest, ctx => do
      let ctx ← change.run ctx
      runChanges rest ctx

/-- A transaction that is replayed from its `BEGIN`. -/
structure Replay (handlers : Handlers Content) where
  forwarded : Bool
  begin : Record handlers
  changes : List (Change handlers)
  commit : CommitRecord handlers
  inside : ∀ record ∈ begin :: (changes.map Change.records).flatten,
    Inside record

/-- The records between `BEGIN`, included, and the end. -/
def Replay.body (replay : Replay handlers) : List (Record handlers) :=
  replay.begin :: (replay.changes.map Change.records).flatten

/-- What logical decoding hands to the output plugin, piece by piece. -/
inductive Piece (handlers : Handlers Content)
  | transaction (replay : Replay handlers)
  /-- The end of a prepared transaction, or a change of its persistent state,
  which may write nothing. -/
  | finish (commit : Option (CommitRecord handlers))
  /-- A message that is not transactional, which may write nothing. -/
  | message (stmt : List UInt8)
      (alone : stmt = [] ∨ nonTransactional stmt = true)
  | caughtup (isRecovery : Bool) (stmt : List UInt8)

/-- The action of `write_caughtup`. -/
def caughtupStmt (stmt : List UInt8) : List UInt8 :=
  Spill.actionZ :: stmt

/-- The callbacks for a piece. -/
def Piece.run : Piece handlers → Context → Option Context
  | .transaction replay, ctx => do
      let ctx ← ctx.pgDecodeBeginTxn replay.forwarded (recordBytes [replay.begin])
      let ctx ← runChanges replay.changes ctx
      ctx.pgDecodeEnd (recordBytes [replay.commit.record])
  | .finish commit, ctx =>
      ctx.pgDecodeEnd (recordBytes (commit.map CommitRecord.record).toList)
  | .message stmt _, ctx => ctx.pgDecodeMessage false stmt
  | .caughtup isRecovery stmt, ctx =>
      ctx.pgDecodeCaughtup isRecovery (caughtupStmt stmt)

/-- The callbacks for some pieces. -/
def runPieces : List (Piece handlers) → Context → Option Context
  | [], ctx => some ctx
  | piece :: rest, ctx => do
      let ctx ← piece.run ctx
      runPieces rest ctx

/-! ## One packet after the other -/

/-- Inside a transaction: the records written so far are, in order, those of the
packets sent since some point, and those in the buffer. -/
structure Holding
    (ctx : Context) (before : List (List UInt8))
    (written : List (Record handlers)) : Prop where
  prepared : ctx.preparedWrite = true
  short : headerLength + ctx.out.length < maxAllocSize
  split : ∃ (groups : List (List (Record handlers)))
      (pending : List (Record handlers)),
    ctx.out = recordBytes pending ∧
      ctx.packets = before ++ groups.map recordBytes ∧
      groups.flatten ++ pending = written ∧
      ∀ group ∈ groups,
        headerLength + (recordBytes group).length < maxAllocSize

section Steps

variable {ctx next : Context} {before : List (List UInt8)}
variable {written : List (Record handlers)}

/-- A packet is sent between two records. -/
theorem Holding.prepareWrite
    (holding : Holding ctx before written)
    (prepares : ctx.mtmOutputPluginPrepareWrite false = some next) :
    Holding next before written := by
  obtain ⟨prepared, short, groups, pending, out, packets, all, groupsShort⟩ :=
    holding
  unfold Context.mtmOutputPluginPrepareWrite at prepares
  rw [if_neg (by simp [prepared])] at prepares
  split at prepares
  · rw [Context.write, if_pos prepared] at prepares
    cases prepares
    refine ⟨rfl, by simp [Context.prepareWrite, headerLength, maxAllocSize],
      groups ++ [pending], [], rfl, ?_, ?_, ?_⟩
    · simp [Context.prepareWrite, packets, out]
    · simpa using all
    · intro group isGroup
      rcases List.mem_append.mp isGroup with isOld | isPending
      · exact groupsShort group isOld
      · rw [List.mem_singleton.mp isPending, ← out]
        exact short
  · cases prepares
    exact ⟨prepared, short, groups, pending, out, packets, all, groupsShort⟩

theorem Holding.append
    (holding : Holding ctx before written) {records : List (Record handlers)}
    (appends : ctx.append (recordBytes records) = some next) :
    Holding next before (written ++ records) := by
  obtain ⟨prepared, -, groups, pending, out, packets, all, groupsShort⟩ :=
    holding
  unfold Context.append at appends
  split at appends
  · next fits =>
      cases appends
      refine ⟨prepared, ?_, groups, pending ++ records, ?_, packets, ?_,
        groupsShort⟩
      · rw [List.length_append, ← Nat.add_assoc]
        exact fits
      · rw [recordBytes_append, out]
      · rw [← all, List.append_assoc]
  · cases appends

theorem Holding.emit
    (holding : Holding ctx before written) {records : List (Record handlers)}
    (emits : ctx.emit false (recordBytes records) = some next) :
    Holding next before (written ++ records) := by
  simp only [Context.emit, Option.bind_eq_bind, Option.bind_eq_some_iff,
    Context.mtmOutputPluginWrite, Bool.false_eq_true, if_false,
    Option.some.injEq] at emits
  obtain ⟨prepared, prepares, appended, appends, rfl⟩ := emits
  exact (holding.prepareWrite prepares).append appends

theorem Holding.broadcastTuples
    (holding : Holding ctx before written)
    {tuples : List (List (Record handlers))}
    (broadcasts : Context.broadcastTuples (tuples.map recordBytes) ctx =
      some next) :
    Holding next before (written ++ tuples.flatten) := by
  induction tuples generalizing ctx written with
  | nil =>
      cases broadcasts
      simpa using holding
  | cons tuple tuples inductionHypothesis =>
      simp only [List.map_cons, Context.broadcastTuples, Option.bind_eq_bind,
        Option.bind_eq_some_iff] at broadcasts
      obtain ⟨emitted, emits, broadcasts⟩ := broadcasts
      have rest := inductionHypothesis (holding.emit emits) broadcasts
      rwa [List.append_assoc] at rest

/-- A callback inside a transaction adds its records. -/
theorem Holding.change
    (holding : Holding ctx before written) {change : Change handlers}
    (runs : change.run ctx = some next) :
    Holding next before (written ++ change.records) := by
  cases change with
  | row passes header rowRecord =>
      cases passes with
      | false =>
          cases runs
          simpa [Change.records] using holding
      | true =>
          simp only [Change.run, Context.pgDecodeChange, if_true,
            Option.bind_eq_bind, Option.bind_eq_some_iff] at runs
          obtain ⟨emitted, emits, runs⟩ := runs
          have withHeader := holding.emit emits
          cases rowRecord with
          | none =>
              cases runs
              simpa [Change.records] using withHeader
          | some rowRecord =>
              have withRow := withHeader.emit runs
              simpa [Change.records] using withRow
  | message sent => exact holding.emit runs
  | copy header tuples =>
      simp only [Change.run, Context.pgDecodeCopy, Option.bind_eq_bind,
        Option.bind_eq_some_iff, Context.mtmOutputPluginWrite,
        Bool.false_eq_true, if_false, Option.some.injEq] at runs
      obtain ⟨prepared, prepares, appended, appends, copied, copies, rfl⟩ := runs
      have withHeader := (holding.prepareWrite prepares).append appends
      have withTuples := withHeader.broadcastTuples copies
      rwa [List.append_assoc] at withTuples

/-- All callbacks of a transaction add their records. -/
theorem Holding.changes
    (holding : Holding ctx before written) {changes : List (Change handlers)}
    (runs : runChanges changes ctx = some next) :
    Holding next before
      (written ++ (changes.map Change.records).flatten) := by
  induction changes generalizing ctx written with
  | nil =>
      cases runs
      simpa using holding
  | cons change changes inductionHypothesis =>
      simp only [runChanges, Option.bind_eq_bind,
        Option.bind_eq_some_iff] at runs
      obtain ⟨changed, changes, runs⟩ := runs
      have rest := inductionHypothesis (holding.change changes) runs
      rwa [List.append_assoc] at rest

/-- The end of the transaction is a packet of its own. -/
theorem Holding.finish
    (holding : Holding ctx before written) {commit : Record handlers}
    (ends : ctx.pgDecodeEnd (recordBytes [commit]) = some next) :
    next.preparedWrite = false ∧
      headerLength + (recordBytes [commit]).length < maxAllocSize ∧
      ∃ groups : List (List (Record handlers)), next.packets =
          before ++ (groups.map recordBytes ++ [recordBytes [commit]]) ∧
        groups.flatten = written ∧
        ∀ group ∈ groups,
          headerLength + (recordBytes group).length < maxAllocSize := by
  obtain ⟨prepared, short, groups, pending, out, packets, all, groupsShort⟩ :=
    holding
  simp only [Context.pgDecodeEnd, Context.emit, Option.bind_eq_bind,
    Option.bind_eq_some_iff, Context.mtmOutputPluginPrepareWrite, prepared,
    Bool.true_eq_false, if_false, true_or, if_true, Context.write,
    Option.map_some, Option.some.injEq, Context.mtmOutputPluginWrite] at ends
  obtain ⟨-, rfl, appended, appends, ends⟩ := ends
  unfold Context.append at appends
  split at appends
  · next fits =>
      cases appends
      simp only [Context.prepareWrite, if_true, Option.some.injEq] at ends
      subst ends
      refine ⟨rfl, by simpa [Context.prepareWrite] using fits,
        groups ++ [pending], ?_, ?_, ?_⟩
      · simp [packets, out]
      · simpa using all
      · intro group isGroup
        rcases List.mem_append.mp isGroup with isOld | isPending
        · exact groupsShort group isOld
        · rw [List.mem_singleton.mp isPending, ← out]
          exact short
  · cases appends

/-- Between transactions a packet is what was written. -/
theorem emit_of_quiet
    (quiet : ctx.preparedWrite = false) {bytes : List UInt8}
    (emits : ctx.emit true bytes = some next) :
    next.preparedWrite = false ∧
      headerLength + bytes.length < maxAllocSize ∧
      next.packets = ctx.packets ++ [bytes] := by
  simp only [Context.emit, Context.mtmOutputPluginPrepareWrite, quiet, if_true,
    Option.bind_eq_bind, Option.bind_some, Option.bind_eq_some_iff,
    Context.mtmOutputPluginWrite] at emits
  obtain ⟨appended, appends, sends⟩ := emits
  unfold Context.append at appends
  split at appends
  · next fits =>
      cases appends
      simp only [Context.prepareWrite, Context.write, if_true,
        Option.some.injEq] at sends
      subst sends
      exact ⟨rfl, by simpa [Context.prepareWrite] using fits, rfl⟩
  · cases appends

/-- Before the first transaction an empty packet is sent. -/
theorem startUp_of_quiet
    (quiet : ctx.preparedWrite = false) (starts : ctx.startUp = some next) :
    next.preparedWrite = false ∧
      ∃ startup, (∀ packet ∈ startup, packet = []) ∧
        next.packets = ctx.packets ++ startup := by
  unfold Context.startUp at starts
  split at starts
  · cases starts
    exact ⟨quiet, [], by simp, by simp⟩
  · simp only [Context.sendStartupMessage, Option.bind_eq_bind,
      Option.bind_eq_some_iff] at starts
    obtain ⟨emitted, emits, starts⟩ := starts
    cases starts
    obtain ⟨isQuiet, -, packets⟩ := emit_of_quiet quiet emits
    exact ⟨isQuiet, [[]], by simp, packets⟩

theorem holding_of_prepareWrite
    (ctx : Context) {begin : Record handlers}
    (appends : ctx.prepareWrite.append (recordBytes [begin]) = some next) :
    Holding next ctx.packets [begin] := by
  unfold Context.append at appends
  split at appends
  · next fits =>
      cases appends
      refine ⟨rfl, ?_, [], [begin], rfl, by simp [Context.prepareWrite], rfl,
        by simp⟩
      simpa [Context.prepareWrite] using fits
  · cases appends

theorem begin_of_quiet
    (quiet : ctx.preparedWrite = false) {forwarded : Bool}
    {begin : Record handlers}
    (begins : ctx.pgDecodeBeginTxn forwarded (recordBytes [begin]) = some next) :
    ∃ startup, (∀ packet ∈ startup, packet = []) ∧
      Holding next (ctx.packets ++ startup) [begin] := by
  simp only [Context.pgDecodeBeginTxn, Option.bind_eq_bind,
    Option.bind_eq_some_iff, Context.mtmOutputPluginWrite, Bool.false_eq_true,
    if_false, Option.some.injEq] at begins
  obtain ⟨started, starts, prepared, prepares, appended, appends, last,
    announces, rfl⟩ := begins
  obtain ⟨isQuiet, startup, empty, packets⟩ := startUp_of_quiet quiet starts
  refine ⟨startup, empty, ?_⟩
  rw [Context.mtmOutputPluginPrepareWrite, if_pos isQuiet] at prepares
  cases prepares
  have holding := holding_of_prepareWrite started appends
  rw [packets] at holding
  unfold Context.sendOrigin at announces
  split at announces
  · exact holding.prepareWrite announces
  · cases announces
    exact holding

end Steps

/-! ## The packets of a piece -/

/-- What the receiver looks at: a packet that is not empty. -/
def stmtsOf (packets : List (List UInt8)) : List (List UInt8) :=
  packets.filter fun packet => !packet.isEmpty

theorem stmtsOf_append (first second : List (List UInt8)) :
    stmtsOf (first ++ second) = stmtsOf first ++ stmtsOf second :=
  List.filter_append first second

theorem stmtsOf_of_empty
    {packets : List (List UInt8)} (empty : ∀ packet ∈ packets, packet = []) :
    stmtsOf packets = [] := by
  rw [stmtsOf, List.filter_eq_nil_iff]
  intro packet isPacket
  simp [empty packet isPacket]

theorem nonTransactional_recordBytes
    {records : List (Record handlers)}
    (inside : ∀ record ∈ records, Inside record) :
    nonTransactional (recordBytes records) = false := by
  cases records with
  | nil => rfl
  | cons record records =>
      have isInside := inside record List.mem_cons_self
      rw [recordBytes_cons]
      unfold nonTransactional
      split
      · next rest isCaughtup =>
          exact absurd (List.cons_eq_cons.mp isCaughtup).1 record.notCaughtup
      · next kind rest isMessage =>
          obtain ⟨isAction, behind⟩ := List.cons_eq_cons.mp isMessage
          obtain ⟨label, fields, body, alone⟩ := isInside.label isAction
          rw [body] at behind
          have same : label = kind := (List.cons_eq_cons.mp behind).1
          rw [same] at alone
          exact alone
      · rfl

/-- The groups of records in packets, without the empty packets. -/
def groupsOf (groups : List (List (Record handlers))) :
    List (List (Record handlers)) :=
  groups.filter fun group => !group.isEmpty

theorem isEmpty_recordBytes (records : List (Record handlers)) :
    (recordBytes records).isEmpty = records.isEmpty := by
  cases records with
  | nil => rfl
  | cons record records => rfl

theorem stmtsOf_recordBytes (groups : List (List (Record handlers))) :
    stmtsOf (groups.map recordBytes) = (groupsOf groups).map recordBytes := by
  rw [stmtsOf, groupsOf, List.filter_map]
  congr 1
  refine List.filter_congr ?_
  intro group _
  simp [isEmpty_recordBytes]

theorem flatten_groupsOf (groups : List (List (Record handlers))) :
    (groupsOf groups).flatten = groups.flatten := by
  induction groups with
  | nil => rfl
  | cons group groups inductionHypothesis =>
      cases group with
      | nil => simpa [groupsOf] using inductionHypothesis
      | cons record records =>
          simpa [groupsOf] using inductionHypothesis

/-- The transaction that the receiver gets in some packets. -/
theorem transaction_of_groups
    (commit : CommitRecord handlers) {groups : List (List (Record handlers))}
    (inside : ∀ record ∈ groups.flatten, Inside record)
    (groupsShort : ∀ group ∈ groups,
      headerLength + (recordBytes group).length < maxAllocSize)
    (commitShort :
      headerLength + (recordBytes [commit.record]).length < maxAllocSize) :
    ∃ transaction : Transaction handlers,
      transaction.commit = commit.record ∧ transaction.event = commit.event ∧
        transaction.messages =
          stmtsOf (groups.map recordBytes ++ [recordBytes [commit.record]]) ∧
        transaction.records = groups.flatten ++ [commit.record] := by
  have isGroup : ∀ group ∈ groupsOf groups, group ∈ groups := by
    intro group isGroup
    exact (List.mem_filter.mp isGroup).1
  have insideGroup : ∀ group ∈ groupsOf groups, ∀ record ∈ group,
      Inside record := by
    intro group inGroups record isRecord
    exact inside record (List.mem_flatten.mpr ⟨group, isGroup group inGroups,
      isRecord⟩)
  refine ⟨
    { body := groupsOf groups
      commit := commit.record
      event := commit.event
      fields := commit.fields
      isCommit := commit.isCommit
      commitBody := commit.body_eq
      nonempty := ?_
      goOn := fun group inGroups record isRecord =>
        (insideGroup group inGroups record isRecord).continues
      transactional := fun group inGroups =>
        nonTransactional_recordBytes (insideGroup group inGroups)
      short := ?_ }, rfl, rfl, ?_, ?_⟩
  · rintro group inGroups rfl
    have nonempty := (List.mem_filter.mp inGroups).2
    simp at nonempty
  · intro group inGroups
    have fits : headerLength + (recordBytes group).length < maxAllocSize := by
      rcases List.mem_append.mp inGroups with inBody | isCommit
      · exact groupsShort group (isGroup group inBody)
      · rw [List.mem_singleton.mp isCommit]
        exact commitShort
    unfold headerLength maxAllocSize at fits
    omega
  · rw [stmtsOf_append, stmtsOf_recordBytes, Transaction.messages]
    rfl
  · rw [Transaction.records, flatten_groupsOf]

/-- A transaction that is replayed is a transaction for the receiver. -/
theorem packets_of_replay
    {ctx next : Context} (quiet : ctx.preparedWrite = false)
    {replay : Replay handlers}
    (runs : (Piece.transaction replay).run ctx = some next) :
    next.preparedWrite = false ∧ ∃ sent, next.packets = ctx.packets ++ sent ∧
      ∃ transaction : Transaction handlers,
        transaction.commit = replay.commit.record ∧
          transaction.event = replay.commit.event ∧
          transaction.messages = stmtsOf sent ∧
          transaction.records = replay.body ++ [replay.commit.record] := by
  simp only [Piece.run, Option.bind_eq_bind, Option.bind_eq_some_iff] at runs
  obtain ⟨begun, begins, changed, changes, ends⟩ := runs
  obtain ⟨startup, empty, holding⟩ := begin_of_quiet quiet begins
  obtain ⟨isQuiet, commitShort, groups, packets, all, groupsShort⟩ :=
    (holding.changes changes).finish ends
  have body : groups.flatten = replay.body := all
  have inside : ∀ record ∈ groups.flatten, Inside record := by
    rw [body]
    exact replay.inside
  obtain ⟨transaction, isCommit, isEvent, messages, records⟩ :=
    transaction_of_groups replay.commit inside groupsShort commitShort
  refine ⟨isQuiet, startup ++ (groups.map recordBytes ++
    [recordBytes [replay.commit.record]]), ?_, transaction, isCommit, isEvent,
    ?_, ?_⟩
  · rw [packets, List.append_assoc]
  · rw [messages, stmtsOf_append startup, stmtsOf_of_empty empty,
      List.nil_append]
  · rw [records, body]

/-! ## What the receiver hands over -/

/-- The loop of `pglogical_receiver_main`: empty packets are passed over. -/
def receivePackets
    (config : Config) (receiver : Receiver) (packets : List (List UInt8)) :
    Receiver × List Work :=
  receiver.receiveAll config (stmtsOf packets)

theorem receivePackets_append
    (config : Config) (receiver : Receiver) (first second : List (List UInt8)) :
    receivePackets config receiver (first ++ second) =
      ((receivePackets config (receivePackets config receiver first).1 second).1,
        (receivePackets config receiver first).2 ++
          (receivePackets config (receivePackets config receiver first).1
            second).2) := by
  rw [receivePackets, stmtsOf_append, Receiver.receiveAll_append]
  rfl

/-- The transaction is neither aborted nor filtered out. -/
def CommitRecord.Applied
    (config : Config) (commit : CommitRecord handlers) : Prop :=
  commit.event ≠ pglogicalAbort ∧
    config.filterTransaction (recordBytes [commit.record]) = false

/-- An applied transaction is one work, which makes the executor process exactly
its records; another one is no work. -/
def Carried
    (config : Config) (commit : CommitRecord handlers)
    (body : List (Record handlers)) (result : Receiver × List Work) : Prop :=
  (commit.Applied config → ∃ work, result.2 = [work] ∧
    Processes handlers result.1.files work (body ++ [commit.record])) ∧
  (¬ commit.Applied config → result.2 = [])

/-- A message that stands alone is executed alone; only the pool executes `C`,
and only `S` is filtered. -/
def aloneWorks (config : Config) (stmt : List UInt8) : List Work :=
  if stmt = [] then []
  else if stmt.take 2 = [77, 83] ∧ config.filterTransaction stmt = true then []
  else [{ bytes := stmt, noPool := decide (stmt.take 2 ≠ [77, 67]) }]

/-- What is handed over for a piece. -/
def Piece.HandedOver
    (config : Config) (result : Receiver × List Work) :
    Piece handlers → Prop
  | .transaction replay => Carried config replay.commit replay.body result
  | .finish (some commit) => Carried config commit [] result
  | .finish none => result.2 = []
  | .message stmt _ => result.2 = aloneWorks config stmt
  | .caughtup isRecovery stmt =>
      result.2 =
        if isRecovery then [{ bytes := caughtupStmt stmt, noPool := true }]
        else []

theorem carried_of_transaction
    {config : Config} {receiver : Receiver} (clean : receiver.Clean)
    {commit : CommitRecord handlers} {body : List (Record handlers)}
    {sent : List (List UInt8)} {transaction : Transaction handlers}
    (isCommit : transaction.commit = commit.record)
    (isEvent : transaction.event = commit.event)
    (messages : transaction.messages = stmtsOf sent)
    (records : transaction.records = body ++ [commit.record]) :
    (receivePackets config receiver sent).1.Clean ∧
      Carried config commit body (receivePackets config receiver sent) := by
  obtain ⟨isClean, applied, discarded⟩ := clean.handsOver config transaction
  have same : transaction.Applied config ↔ commit.Applied config := by
    rw [Transaction.Applied, CommitRecord.Applied, isCommit, isEvent]
  rw [messages] at isClean applied discarded
  rw [records] at applied
  exact ⟨isClean, fun isApplied => applied (same.mpr isApplied),
    fun notApplied => discarded fun isApplied =>
      notApplied (same.mp isApplied)⟩

theorem receive_nonTransactional
    (config : Config) (receiver : Receiver) {stmt : List UInt8}
    (alone : nonTransactional stmt = true) :
    receiver.receive config stmt = (receiver, aloneWorks config stmt) := by
  have nonempty : stmt ≠ [] := by
    rintro rfl
    cases alone
  unfold Receiver.receive aloneWorks
  rw [if_pos alone, if_neg nonempty]
  split
  · next rest =>
      by_cases filtered : config.filterTransaction (77 :: 83 :: rest) = true
      · simp [filtered]
      · simp [filtered]
  · next rest => simp
  · next notSyncpoint notConcurrent =>
      have noS : stmt.take 2 ≠ [77, 83] := by
        intro taken
        exact notSyncpoint (stmt.drop 2)
          (by rw [← List.take_append_drop 2 stmt, taken]; rfl)
      have noC : stmt.take 2 ≠ [77, 67] := by
        intro taken
        exact notConcurrent (stmt.drop 2)
          (by rw [← List.take_append_drop 2 stmt, taken]; rfl)
      simp [noS, noC]

theorem receive_alone
    (config : Config) (receiver : Receiver) {stmt : List UInt8}
    (alone : stmt = [] ∨ nonTransactional stmt = true) :
    receivePackets config receiver [stmt] =
      (receiver, aloneWorks config stmt) := by
  rcases alone with rfl | alone
  · rfl
  · have nonempty : stmtsOf [stmt] = [stmt] := by
      cases stmt with
      | nil => cases alone
      | cons byte rest => rfl
    simp [receivePackets, nonempty, Receiver.receiveAll,
      receive_nonTransactional config receiver alone]

/-- Every piece is handed over, and leaves nothing behind. -/
theorem handedOver_of_run
    {config : Config} {receiver : Receiver} (clean : receiver.Clean)
    {ctx next : Context} (quiet : ctx.preparedWrite = false)
    {piece : Piece handlers} (runs : piece.run ctx = some next) :
    next.preparedWrite = false ∧ ∃ sent, next.packets = ctx.packets ++ sent ∧
      (receivePackets config receiver sent).1.Clean ∧
      piece.HandedOver config (receivePackets config receiver sent) := by
  cases piece with
  | transaction replay =>
      obtain ⟨isQuiet, sent, packets, transaction, isCommit, isEvent, messages,
        records⟩ := packets_of_replay quiet runs
      exact ⟨isQuiet, sent, packets,
        carried_of_transaction clean isCommit isEvent messages records⟩
  | finish commit =>
      obtain ⟨isQuiet, short, packets⟩ := emit_of_quiet quiet runs
      refine ⟨isQuiet, _, packets, ?_⟩
      cases commit with
      | none => exact ⟨clean, rfl⟩
      | some commit =>
          have noGroups : ∀ group ∈ ([] : List (List (Record handlers))),
              headerLength + (recordBytes group).length < maxAllocSize := by
            simp
          obtain ⟨transaction, isCommit, isEvent, messages, records⟩ :=
            transaction_of_groups commit (by simp) noGroups short
          exact carried_of_transaction clean isCommit isEvent messages records
  | message stmt alone =>
      obtain ⟨isQuiet, -, packets⟩ := emit_of_quiet quiet runs
      refine ⟨isQuiet, _, packets, ?_⟩
      rw [receive_alone config receiver alone]
      exact ⟨clean, rfl⟩
  | caughtup isRecovery stmt =>
      cases isRecovery with
      | false =>
          cases runs
          exact ⟨quiet, [], by simp, clean, rfl⟩
      | true =>
          obtain ⟨isQuiet, -, packets⟩ := emit_of_quiet quiet runs
          refine ⟨isQuiet, _, packets, ?_⟩
          rw [receive_alone config receiver (Or.inr rfl)]
          exact ⟨clean, rfl⟩

theorem clean_of_runPieces
    (config : Config) {receiver : Receiver} (clean : receiver.Clean)
    {ctx next : Context} (quiet : ctx.preparedWrite = false)
    {pieces : List (Piece handlers)} (runs : runPieces pieces ctx = some next) :
    next.preparedWrite = false ∧ ∃ sent, next.packets = ctx.packets ++ sent ∧
      (receivePackets config receiver sent).1.Clean := by
  induction pieces generalizing ctx receiver with
  | nil =>
      cases runs
      exact ⟨quiet, [], by simp, clean⟩
  | cons piece pieces inductionHypothesis =>
      simp only [runPieces, Option.bind_eq_bind,
        Option.bind_eq_some_iff] at runs
      obtain ⟨middle, first, rest⟩ := runs
      obtain ⟨isQuiet, sent, packets, isClean, -⟩ :=
        handedOver_of_run clean quiet first
      obtain ⟨stillQuiet, later, more, stillClean⟩ :=
        inductionHypothesis isClean isQuiet rest
      refine ⟨stillQuiet, sent ++ later, ?_, ?_⟩
      · rw [more, packets, List.append_assoc]
      · rw [receivePackets_append]
        exact stillClean

theorem twoLetters_short : ([104, 105] : List UInt8).length < 2 ^ 32 := by
  decide

theorem commitRecord_isCommit : Spill.commitRecord.action = actionC := rfl

theorem commitRecord_body :
    Spill.commitRecord.body =
      Spill.pglogicalCommit :: List.replicate 34 0 := rfl

/-- One text is inserted. -/
def insertText : Replay Spill.textHandlers where
  forwarded := false
  begin := Spill.beginRecord
  changes :=
    [.row true [] (some [Spill.insertRecord [104, 105] twoLetters_short])]
  commit :=
    { record := Spill.commitRecord
      event := Spill.pglogicalCommit
      fields := List.replicate 34 0
      isCommit := commitRecord_isCommit
      body_eq := commitRecord_body }
  inside := by
    intro record isRecord
    simp only [List.map_cons, List.map_nil, Change.records, if_true,
      List.nil_append, Option.getD_some, List.flatten_cons, List.flatten_nil,
      List.append_nil, List.mem_cons, List.not_mem_nil, or_false] at isRecord
    rcases isRecord with rfl | rfl
    · exact inside_of_action (by decide) (by decide)
    · exact inside_of_action (by decide : Spill.actionI ≠ actionC)
        (by decide : Spill.actionI ≠ actionM)

end Output
end Multimaster
