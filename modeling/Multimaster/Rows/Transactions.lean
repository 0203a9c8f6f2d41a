import Multimaster.Rows.Follow
import Multimaster.Rows.Sending

/-!
# Transactions

The sender keeps in mind which headers it has sent, and the executor which
relation it has open; they stay in step, so that the receiver takes all records
of a transaction and follows the sender.
-/

namespace Multimaster
namespace Rows

open Multimaster.Tuple (DeformedTuple ReadColumn liveColumns writeTuple)
open Multimaster.Stream (Oid Sender invalidOid)
open Wire

variable {Value Class : Type}

/-! ## The executor -/

/-- The text of a record, and what its handler takes. -/
def Takes
    (handlers : Spill.Handlers Content) (text : List UInt8)
    (content : Content) : Prop :=
  ∃ action body, text = action :: body ∧
    Reads (handlers.read action) body content

theorem Takes.unique
    {handlers : Spill.Handlers Content} {texts : List (List UInt8)}
    {records : List (Spill.Record handlers)} {contents : List Content}
    (isText : records.map Spill.Record.bytes = texts)
    (takes : List.Forall₂ (Takes handlers) texts contents) :
    records.map Spill.Record.content = contents := by
  induction takes generalizing records with
  | nil =>
      rw [List.map_eq_nil_iff] at isText
      rw [isText]
      rfl
  | cons taken rest inductionHypothesis =>
      cases records with
      | nil => cases isText
      | cons record others =>
          obtain ⟨action, body, rfl, reads⟩ := taken
          rw [List.map_cons, List.cons_eq_cons] at isText
          obtain ⟨isFirst, areOthers⟩ := isText
          obtain ⟨rfl, rfl⟩ := List.cons_eq_cons.mp isFirst
          rw [List.map_cons, record.reads.unique reads,
            inductionHypothesis areOthers]

section Executing

variable [DecidableEq Class] {replica : Replica Value Class}
variable {handlers : Spill.Handlers Content} {applier middle after : Applier}

theorem Replica.processAll_append
    {first second : List Content}
    (done : replica.processAll first applier = .ok middle) :
    replica.processAll (first ++ second) applier =
      replica.processAll second middle := by
  induction first generalizing applier with
  | nil =>
      cases done
      rfl
  | cons content rest inductionHypothesis =>
      rw [List.cons_append, Replica.processAll]
      rw [Replica.processAll] at done
      cases one : replica.process content applier with
      | error failure =>
          rw [one] at done
          cases done
      | ok next =>
          rw [one] at done
          exact inductionHypothesis done

/-- The executor takes some records without an error. -/
def Replica.Executes
    (replica : Replica Value Class) (handlers : Spill.Handlers Content)
    (texts : List (List UInt8)) (applier after : Applier) : Prop :=
  ∃ contents, List.Forall₂ (Takes handlers) texts contents ∧
    replica.processAll contents applier = .ok after

theorem Replica.Executes.nil :
    replica.Executes handlers [] applier applier :=
  ⟨[], .nil, rfl⟩

theorem Replica.Executes.append
    {first second : List (List UInt8)}
    (executesFirst : replica.Executes handlers first applier middle)
    (executesSecond : replica.Executes handlers second middle after) :
    replica.Executes handlers (first ++ second) applier after := by
  obtain ⟨contents, takes, done⟩ := executesFirst
  obtain ⟨later, takesLater, doneLater⟩ := executesSecond
  refine ⟨contents ++ later, List.rel_append takes takesLater, ?_⟩
  rw [Replica.processAll_append done, doneLater]

theorem Replica.Executes.single
    {action : UInt8} {body : List UInt8} {content : Content}
    (reads : Reads (handlers.read action) body content)
    (done : replica.process content applier = .ok after) :
    replica.Executes handlers [action :: body] applier after := by
  refine ⟨[content], .cons ⟨action, body, rfl, reads⟩ .nil, ?_⟩
  rw [Replica.processAll, done]
  rfl

end Executing

/-! ## In step -/

/-- The table and some sequences, which both nodes have. -/
structure Known (replica : Replica Value Class) where
  table : Header
  sequences : List Header
  /-- The OID that the receiver has for one of the sender's. -/
  localOf : Oid → Oid
  named : ∀ header ∈ table :: sequences,
    replica.rangeVarGetRelid header.nspname.text.bytes
      header.relname.text.bytes = some (localOf header.relid)
  opens : ∀ header ∈ table :: sequences,
    replica.opens (localOf header.relid) = true
  valid : ∀ header ∈ table :: sequences, localOf header.relid ≠ invalidOid
  isTable : localOf table.relid = replica.relid
  notTable : ∀ sequence ∈ sequences, sequence.relid ≠ table.relid

/-- The relations that are known. -/
def Known.headers {replica : Replica Value Class} (known : Known replica) :
    List Header :=
  known.table :: known.sequences

theorem Known.table_mem {replica : Replica Value Class} (known : Known replica) :
    known.table ∈ known.headers :=
  List.mem_cons_self

theorem cString_sendString (text : Message.CString) :
    cString (Events.sendString text) = text.bytes := by
  have nonzero : ∀ byte ∈ text.bytes, (byte != 0) = true := by
    intro byte isByte
    have differs : byte ≠ 0 := fun isZero => text.noZero (isZero ▸ isByte)
    simpa using differs
  rw [cString, Events.sendString, List.takeWhile_append_of_pos nonzero]
  simp

/-- What the sender supposes of the executor outside a statement. -/
structure InStep
    {replica : Replica Value Class} (known : Known replica) (sender : Sender)
    (applier : Applier) : Prop where
  outside : sender.ddlInProgress = false
  opened : sender.mtmLastRelId = known.table.relid →
    applier.rel = some replica.relid
  named : ∀ header ∈ known.headers,
    sender.relidMap header.relid = sender.mtmSenderTid →
    applier.relidMap header.relid ≠ invalidOid
  mapped : ∀ header ∈ known.headers,
    applier.relidMap header.relid = invalidOid ∨
      applier.relidMap header.relid = known.localOf header.relid

/-- The handlers while the table is open. -/
abbrev Replica.handlers
    (replica : Replica Value Class) (rule : Text.EofRule) (senderNodeId : ℕ)
    (tLen : List ReadColumn → ℕ) : Spill.Handlers Content :=
  tableHandlers rule senderNodeId replica.relation.desc tLen

section Headers

variable {replica : Replica Value Class}
variable {known : Known replica} {sender : Sender} {applier : Applier}

/-- A message makes the sender forget what is open. -/
theorem InStep.forget
    (inStep : InStep known sender applier) (rel : Option Oid) :
    InStep known (forgetRel sender) { applier with rel := rel } where
  outside := inStep.outside
  opened isTable := absurd isTable.symm known.table.valid
  named := inStep.named
  mapped := inStep.mapped

/-- A header opens its relation. -/
theorem Known.readRel
    (known : Known replica) {header : Header} (isKnown : header ∈ known.headers)
    {names : Option (Name × Name)}
    (mapped : applier.relidMap header.relid = invalidOid ∨
      applier.relidMap header.relid = known.localOf header.relid)
    (named : names = some (header.nspname, header.relname) ∨
      applier.relidMap header.relid ≠ invalidOid) :
    replica.readRel header.relid (headerNames names).1 (headerNames names).2
        applier =
      .ok { applier with
        rel := some (known.localOf header.relid)
        relidMap := Function.update applier.relidMap header.relid
          (known.localOf header.relid) } := by
  unfold Replica.readRel
  split
  · next missing =>
      have isNamed : names = some (header.nspname, header.relname) :=
        named.resolve_right fun present => present missing
      rw [isNamed]
      simp only [headerNames, cString_sendString, known.named header isKnown]
  · next present =>
      have isLocal := mapped.resolve_left present
      rw [isLocal, if_pos (known.opens header isKnown), ← isLocal,
        Function.update_eq_self]

/-- The executor after it has opened a relation, and what the sender may suppose
of it then. -/
theorem InStep.opens
    (inStep : InStep known sender applier) {header : Header}
    (isKnown : header ∈ known.headers) {last : Sender}
    (outside : last.ddlInProgress = sender.ddlInProgress)
    (isLast : last.mtmLastRelId = header.relid)
    (tid : last.mtmSenderTid = sender.mtmSenderTid)
    (entries : ∀ relid, relid ≠ header.relid →
      last.relidMap relid = sender.relidMap relid) :
    InStep known last { applier with
      rel := some (known.localOf header.relid)
      relidMap := Function.update applier.relidMap header.relid
        (known.localOf header.relid) } where
  outside := outside.trans inStep.outside
  opened isTable := by
    rw [← isLast, isTable, known.isTable]
  named other isOther isNamed := by
    dsimp only
    by_cases same : other.relid = header.relid
    · rw [same, Function.update_self]
      exact known.valid header isKnown
    · rw [Function.update_of_ne same]
      rw [entries other.relid same, tid] at isNamed
      exact inStep.named other isOther isNamed
  mapped other isOther := by
    dsimp only
    by_cases same : other.relid = header.relid
    · rw [same, Function.update_self]
      exact Or.inr rfl
    · rw [Function.update_of_ne same]
      exact inStep.mapped other isOther

variable [DecidableEq Class]
variable (rule : Text.EofRule) (senderNodeId : ℕ)
variable (tLen : List ReadColumn → ℕ)

/-- A header is written only when the relation is not open. -/
theorem InStep.header
    (inStep : InStep known sender applier) {header : Header}
    (isKnown : header ∈ known.headers)
    (opened : sender.mtmLastRelId = header.relid →
      applier.rel = some (known.localOf header.relid)) :
    ∃ relidMap,
      replica.Executes (replica.handlers rule senderNodeId tLen)
          (header.write sender).2 applier
          { applier with
            rel := some (known.localOf header.relid)
            relidMap := relidMap } ∧
        InStep known (header.write sender).1
          { applier with
            rel := some (known.localOf header.relid)
            relidMap := relidMap } ∧
        (header.write sender).1.mtmLastRelId = header.relid := by
  have mapped := inStep.mapped header isKnown
  by_cases isOpen : header.relid = sender.mtmLastRelId
  · have same : ({ applier with
        rel := some (known.localOf header.relid) } : Applier) = applier := by
      rw [← opened isOpen.symm]
    rw [Header.write_of_open inStep.outside isOpen]
    refine ⟨applier.relidMap, ?_, ?_, isOpen.symm⟩
    · rw [same]
      exact .nil
    · rw [same]
      exact inStep
  · refine ⟨Function.update applier.relidMap header.relid
      (known.localOf header.relid), ?_⟩
    by_cases isNamed : sender.relidMap header.relid = sender.mtmSenderTid
    · rw [Header.write_of_named inStep.outside isOpen isNamed]
      refine ⟨.single (reads_pglogicalWriteRel header.isOid none) ?_,
        inStep.opens isKnown rfl rfl rfl fun _ _ => rfl, rfl⟩
      exact known.readRel isKnown mapped
        (Or.inr (inStep.named header isKnown isNamed))
    · rw [Header.write_of_unnamed inStep.outside isOpen isNamed]
      refine ⟨.single (reads_pglogicalWriteRel header.isOid _) ?_,
        inStep.opens isKnown rfl rfl rfl fun relid differs =>
          Function.update_of_ne differs _ _, rfl⟩
      exact known.readRel isKnown mapped (Or.inl rfl)

end Headers

/-! ## Transactions of the sender -/

section Transactions

variable [DecidableEq Class]

/-- A scan of the table gives its rows one after the other, and none of their
columns is out of line. -/
inductive Scanned (classOf : Value → Class) (index : List Bool) :
    Contents Value Class → List (DeformedTuple Value) →
      Contents Value Class → Prop
  | nil (contents : Contents Value Class) :
      Scanned classOf index contents [] contents
  | cons {contents middle last : Contents Value Class}
      {row : DeformedTuple Value} {rows : List (DeformedTuple Value)}
      (first : Logged classOf index contents (.insert row) middle)
      (rest : Scanned classOf index middle rows last) :
      Scanned classOf index contents (row :: rows) last

/-- The positions that are taken in a transaction. -/
abbrev Positions := List (Header × UInt64)

/-- The sender changes its table again and again, and takes positions of its
sequences.  Between `D` and `E` this is the work of a statement, which has the
same effect on the rows of the receiver. -/
inductive LoggedAll
    {replica : Replica Value Class} (known : Known replica)
    (index : List Bool) :
    Contents Value Class → List (Callback Value) → Contents Value Class →
      Positions → Prop
  | nil (contents : Contents Value Class) :
      LoggedAll known index contents [] contents []
  | change {contents middle last : Contents Value Class}
      {row : RowChange Value} {rest : List (Callback Value)}
      {positions : Positions}
      (sameTypes : row.SameTypes replica.relation.desc)
      (first : Logged replica.relation.classOf
        (liveOf replica.relation.desc.attrs index) contents row middle)
      (others : LoggedAll known index middle rest last positions) :
      LoggedAll known index contents (.change row :: rest) last positions
  | plain {contents last : Contents Value Class} {endLsn : UInt64}
      {message : List UInt8} {rest : List (Callback Value)}
      {positions : Positions}
      (fits : message.length < 2 ^ 32)
      (others : LoggedAll known index contents rest last positions) :
      LoggedAll known index contents (.plain endLsn message :: rest) last
        positions
  | nextval {contents last : Contents Value Class} {sequence : Header}
      {next : UInt64} {rest : List (Callback Value)} {positions : Positions}
      (isKnown : sequence ∈ known.sequences)
      (others : LoggedAll known index contents rest last positions) :
      LoggedAll known index contents (.nextval sequence next :: rest) last
        ((sequence, next) :: positions)
  | statement {contents middle last : Contents Value Class} {endLsn : UInt64}
      {message : List UInt8} {inside rest : List (Callback Value)}
      {positions : Positions}
      (fits : message.length < 2 ^ 32)
      (quiet : ∀ callback ∈ inside, callback.IsQuiet)
      (does : ∀ table, Follows replica.relation index contents table →
        ∃ result, replica.execute message table = some result ∧
          Follows replica.relation index middle result)
      (others : LoggedAll known index middle rest last positions) :
      LoggedAll known index contents
        (.ddl endLsn message :: (inside ++ .ddlEnd :: rest)) last positions
  | copyTable {contents last : Contents Value Class} {targeted : Bool}
      {rows : List (DeformedTuple Value)} {rest : List (Callback Value)}
      {positions : Positions}
      (sameTypes : ∀ row ∈ rows,
        (RowChange.insert row).SameTypes replica.relation.desc)
      (scanned : Scanned replica.relation.classOf
        (liveOf replica.relation.desc.attrs index) (fun _ => none) rows contents)
      (others : LoggedAll known index contents rest last positions) :
      LoggedAll known index contents (.copyTable targeted rows :: rest) last
        positions

/-- The sender writes records for some callbacks, and the executor takes
them. -/
def Transfers
    {replica : Replica Value Class} (known : Known replica)
    (handlers : Spill.Handlers Content) (wantBinary : Bool)
    (callbacks : List (Callback Value)) (sender last : Sender)
    (applier after : Applier) : Prop :=
  ∃ texts,
    writeAll wantBinary known.table callbacks sender = some (last, texts) ∧
      replica.Executes handlers texts applier after

section Steps

variable {replica : Replica Value Class} {known : Known replica}
variable {handlers : Spill.Handlers Content} {wantBinary : Bool}
variable {sender last : Sender} {applier after : Applier}

theorem Transfers.nil :
    Transfers known handlers wantBinary [] sender sender applier applier :=
  ⟨[], rfl, .nil⟩

theorem Transfers.append
    {first second : List (Callback Value)} {middle : Sender}
    {between : Applier}
    (transfersFirst : Transfers known handlers wantBinary first sender middle
      applier between)
    (transfersSecond : Transfers known handlers wantBinary second middle last
      between after) :
    Transfers known handlers wantBinary (first ++ second) sender last applier
      after := by
  obtain ⟨texts, written, executes⟩ := transfersFirst
  obtain ⟨later, writtenLater, executesLater⟩ := transfersSecond
  exact ⟨texts ++ later, writeAll_append written writtenLater,
    executes.append executesLater⟩

theorem Transfers.single
    {callback : Callback Value} {texts : List (List UInt8)}
    (written : callback.write wantBinary known.table sender =
      some (last, texts))
    (executes : replica.Executes handlers texts applier after) :
    Transfers known handlers wantBinary [callback] sender last applier
      after := by
  refine ⟨texts, ?_, executes⟩
  simp [writeAll, written]

end Steps

/-- The two nodes between the callbacks of a transaction. -/
structure Abreast
    {replica : Replica Value Class} (known : Known replica)
    (index : List Bool) (sender : Sender) (contents : Contents Value Class)
    (applier : Applier) (positions : List (Oid × UInt64)) : Prop where
  inStep : InStep known sender applier
  follows : Follows replica.relation index contents applier.table
  taken : applier.positions = positions

section Callbacks

variable {replica : Replica Value Class} {known : Known replica}
variable {index : List Bool} {contents next : Contents Value Class}
variable {sender : Sender} {applier : Applier}
variable {positions : List (Oid × UInt64)}
variable (rule : Text.EofRule) (senderNodeId : ℕ)
variable (tLen : List ReadColumn → ℕ) (wantBinary : Bool)

/-- A change of the table. -/
theorem Abreast.change
    (identified : Identified replica.relation index)
    (abreast : Abreast known index sender contents applier positions)
    {row : RowChange Value}
    (sameTypes : row.SameTypes replica.relation.desc)
    (logged : Logged replica.relation.classOf
      (liveOf replica.relation.desc.attrs index) contents row next) :
    ∃ last after,
      Transfers known (replica.handlers rule senderNodeId tLen) wantBinary
          [.change row] sender last applier after ∧
        Abreast known index last next after positions := by
  obtain ⟨inStep, follows, taken⟩ := abreast
  have opened : sender.mtmLastRelId = known.table.relid →
      applier.rel = some (known.localOf known.table.relid) := by
    rw [known.isTable]
    exact inStep.opened
  obtain ⟨relidMap, executes, opens, isLast⟩ :=
    inStep.header rule senderNodeId tLen known.table_mem opened
  rw [known.isTable] at executes opens
  have isOpen : ({ applier with
      rel := some replica.relid
      relidMap := relidMap } : Applier).rel = some replica.relid := rfl
  obtain ⟨action, body, content, result, written, reads, done, following⟩ :=
    follows_change rule senderNodeId tLen wantBinary identified isOpen follows
      sameTypes logged
  refine ⟨_, _, .single ?_ (executes.append (.single reads done)),
    ⟨opens.outside, fun _ => rfl, opens.named, opens.mapped⟩, following, taken⟩
  simp [Callback.write, opens.outside, written]

/-- A message of any other kind than `D`, `E`, `N` and `T`. -/
theorem Abreast.plain
    (abreast : Abreast known index sender contents applier positions)
    (endLsn : UInt64) {message : List UInt8}
    (fits : message.length < 2 ^ 32) :
    ∃ last after,
      Transfers known (replica.handlers rule senderNodeId tLen) wantBinary
          [.plain endLsn message] sender last applier after ∧
        Abreast known index last contents after positions := by
  obtain ⟨inStep, follows, taken⟩ := abreast
  obtain ⟨body, written, reads⟩ := reads_message 66 endLsn fits
  refine ⟨_, { applier with rel := none }, .single rfl ?_,
    inStep.forget none, follows, taken⟩
  rw [written]
  exact .single reads rfl

/-- A position of a sequence. -/
theorem Abreast.nextval
    (abreast : Abreast known index sender contents applier positions)
    {sequence : Header} (isKnown : sequence ∈ known.sequences)
    (taking : UInt64) :
    ∃ last after,
      Transfers known (replica.handlers rule senderNodeId tLen) wantBinary
          [.nextval sequence taking] sender last applier after ∧
        Abreast known index last contents after
          (positions ++ [(known.localOf sequence.relid, taking)]) := by
  obtain ⟨inStep, follows, taken⟩ := abreast
  have inHeaders : sequence ∈ known.headers := List.mem_cons_of_mem _ isKnown
  have forgotten : (forgetRel sender).mtmLastRelId = sequence.relid →
      applier.rel = some (known.localOf sequence.relid) :=
    fun isLast => absurd isLast.symm sequence.valid
  obtain ⟨relidMap, executes, opens, isLast⟩ :=
    (inStep.forget applier.rel).header rule senderNodeId tLen inHeaders
      forgotten
  have reads : Reads ((replica.handlers rule senderNodeId tLen).read 78)
      (Message.sendInt64 taking) (.nextval taking) :=
    (nextvalRecord rule senderNodeId replica.relation.desc tLen taking).reads
  refine ⟨_, _, .single ?_ (executes.append (.single reads rfl)),
    ⟨opens.outside, fun isTable => ?_, opens.named, opens.mapped⟩, follows, ?_⟩
  · simp [Callback.write, inStep.outside]
  · rw [isLast] at isTable
    exact absurd isTable (known.notTable sequence isKnown)
  · rw [← taken]

/-- A statement with what is decoded of its work. -/
theorem Abreast.statement
    (abreast : Abreast known index sender contents applier positions)
    (endLsn : UInt64) {message : List UInt8} {inside : List (Callback Value)}
    (fits : message.length < 2 ^ 32)
    (quiet : ∀ callback ∈ inside, callback.IsQuiet)
    (does : ∀ table, Follows replica.relation index contents table →
      ∃ result, replica.execute message table = some result ∧
        Follows replica.relation index next result) :
    ∃ last after,
      Transfers known (replica.handlers rule senderNodeId tLen) wantBinary
          (.ddl endLsn message :: (inside ++ [.ddlEnd])) sender last applier
          after ∧
        Abreast known index last next after positions := by
  obtain ⟨inStep, follows, taken⟩ := abreast
  obtain ⟨body, written, reads⟩ := reads_message 68 endLsn fits
  obtain ⟨result, executed, following⟩ := does applier.table follows
  have done : replica.process (.message 68 endLsn message) applier =
      .ok { applier with rel := none, table := result } := by
    rw [Replica.process, Replica.processRemoteMessage,
      if_pos (Or.inr (Or.inl rfl)), executed]
  have begins : Callback.write wantBinary known.table
      (.ddl endLsn message : Callback Value) sender =
      some ({ forgetRel sender with ddlInProgress := true },
        [77 :: body]) := by
    rw [Callback.write, written]
  have works : writeAll wantBinary known.table inside
      { forgetRel sender with ddlInProgress := true } =
      some ({ forgetRel sender with ddlInProgress := true }, []) :=
    writeAll_inside wantBinary known.table quiet rfl rfl
  have ends : Transfers known (replica.handlers rule senderNodeId tLen)
      wantBinary [.ddlEnd] { forgetRel sender with ddlInProgress := true }
      { forgetRel sender with ddlInProgress := false }
      { applier with rel := none, table := result }
      { applier with rel := none, table := result } :=
    .single rfl .nil
  refine ⟨_, _, (Transfers.single begins (.single reads done)).append
    (Transfers.append ⟨[], works, .nil⟩ ends), ?_, following, taken⟩
  exact ⟨rfl, (inStep.forget none).opened, inStep.named, inStep.mapped⟩

/-- The rows of a broadcast, once the table is empty. -/
theorem executes_tuples
    (identified : Identified replica.relation index)
    (opened : applier.rel = some replica.relid)
    (follows : Follows replica.relation index contents applier.table)
    {rows : List (DeformedTuple Value)}
    (sameTypes : ∀ row ∈ rows,
      (RowChange.insert row).SameTypes replica.relation.desc)
    (scanned : Scanned replica.relation.classOf
      (liveOf replica.relation.desc.attrs index) contents rows next) :
    ∃ tuples result,
      writeTuples false wantBinary rows = some tuples ∧
        replica.Executes (replica.handlers rule senderNodeId tLen) tuples
          applier { applier with table := result } ∧
        Follows replica.relation index next result := by
  induction scanned generalizing applier with
  | nil contents => exact ⟨[], applier.table, rfl, .nil, follows⟩
  | cons first rest inductionHypothesis =>
      obtain ⟨action, body, content, middle, written, reads, done, following⟩ :=
        follows_change rule senderNodeId tLen wantBinary identified opened
          follows (sameTypes _ List.mem_cons_self) first
      simp only [RowChange.write, pglogicalWriteInsert, Bool.false_eq_true,
        if_false, Option.map_eq_some_iff] at written
      obtain ⟨tuple, isTuple, isText⟩ := written
      have after : ({ applier with table := middle } : Applier).rel =
          some replica.relid := opened
      obtain ⟨tuples, result, others, executes, followingAll⟩ :=
        inductionHypothesis after following fun row isRow =>
          sameTypes row (List.mem_cons_of_mem _ isRow)
      refine ⟨(73 :: tuple) :: tuples, result, ?_, ?_, followingAll⟩
      · simp [writeTuples, isTuple, others]
      · rw [isText]
        exact (Replica.Executes.single reads done).append executes

/-- A broadcast of the table. -/
theorem Abreast.copyTable
    (identified : Identified replica.relation index)
    (abreast : Abreast known index sender contents applier positions)
    (targeted : Bool) {rows : List (DeformedTuple Value)}
    (sameTypes : ∀ row ∈ rows,
      (RowChange.insert row).SameTypes replica.relation.desc)
    (scanned : Scanned replica.relation.classOf
      (liveOf replica.relation.desc.attrs index) (fun _ => none) rows
      contents) :
    ∃ last after,
      Transfers known (replica.handlers rule senderNodeId tLen) wantBinary
          [.copyTable targeted rows] sender last applier after ∧
        Abreast known index last contents after positions := by
  obtain ⟨inStep, follows, taken⟩ := abreast
  have forgot := inStep.forget applier.rel
  cases targeted with
  | false => exact ⟨_, applier, .single rfl .nil, forgot, follows, taken⟩
  | true =>
      have forgotten : (forgetRel sender).mtmLastRelId = known.table.relid →
          applier.rel = some (known.localOf known.table.relid) :=
        fun isLast => absurd isLast.symm known.table.valid
      obtain ⟨relidMap, executes, opens, isLast⟩ :=
        forgot.header rule senderNodeId tLen known.table_mem forgotten
      rw [known.isTable] at executes opens
      have empty : Follows replica.relation index (fun _ => none) [] :=
        ⟨by simp, by simp, by simp, by simp, by simp⟩
      have isOpen : ({ applier with
          rel := some replica.relid
          relidMap := relidMap
          table := [] } : Applier).rel = some replica.relid := rfl
      obtain ⟨tuples, result, written, inserts, following⟩ :=
        executes_tuples rule senderNodeId tLen wantBinary identified isOpen
          empty sameTypes scanned
      have truncates : replica.Executes
          (replica.handlers rule senderNodeId tLen) [[48]]
          { applier with rel := some replica.relid, relidMap := relidMap }
          { applier with
            rel := some replica.relid
            relidMap := relidMap
            table := [] } := by
        refine .single (Reads.pure Content.truncate) ?_
        rw [Replica.process, Replica.truncate]
        simp
      refine ⟨_, _, .single ?_ (executes.append (truncates.append inserts)),
        ⟨opens.outside, fun _ => rfl, opens.named, opens.mapped⟩, following,
        taken⟩
      simp [Callback.write, inStep.outside, written]

/-- The positions as the receiver gets them. -/
def Known.localPositions
    (known : Known replica) (positions : Positions) : List (Oid × UInt64) :=
  positions.map fun (sequence, next) => (known.localOf sequence.relid, next)

/-- All callbacks of a transaction. -/
theorem Abreast.all
    (identified : Identified replica.relation index)
    {callbacks : List (Callback Value)} {taken : Positions}
    (logged : LoggedAll known index contents callbacks next taken)
    (abreast : Abreast known index sender contents applier positions) :
    ∃ last after,
      Transfers known (replica.handlers rule senderNodeId tLen) wantBinary
          callbacks sender last applier after ∧
        Abreast known index last next after
          (positions ++ known.localPositions taken) := by
  induction logged generalizing sender applier positions with
  | nil contents =>
      refine ⟨sender, applier, .nil, ?_⟩
      rwa [Known.localPositions, List.map_nil, List.append_nil]
  | change sameTypes first others inductionHypothesis =>
      obtain ⟨middle, between, transfers, abreast⟩ := abreast.change rule
        senderNodeId tLen wantBinary identified sameTypes first
      obtain ⟨last, after, rest, abreast⟩ := inductionHypothesis abreast
      exact ⟨last, after, transfers.append rest, abreast⟩
  | plain fits others inductionHypothesis =>
      obtain ⟨middle, between, transfers, abreast⟩ := abreast.plain rule
        senderNodeId tLen wantBinary _ fits
      obtain ⟨last, after, rest, abreast⟩ := inductionHypothesis abreast
      exact ⟨last, after, transfers.append rest, abreast⟩
  | nextval isKnown others inductionHypothesis =>
      obtain ⟨middle, between, transfers, abreast⟩ := abreast.nextval rule
        senderNodeId tLen wantBinary isKnown _
      obtain ⟨last, after, rest, abreast⟩ := inductionHypothesis abreast
      refine ⟨last, after, transfers.append rest, ?_⟩
      rwa [List.append_assoc] at abreast
  | statement fits quiet does others inductionHypothesis =>
      obtain ⟨middle, between, transfers, abreast⟩ := abreast.statement rule
        senderNodeId tLen wantBinary _ fits quiet does
      obtain ⟨last, after, rest, abreast⟩ := inductionHypothesis abreast
      refine ⟨last, after, ?_, abreast⟩
      have all := transfers.append rest
      rwa [List.cons_append, List.append_assoc] at all
  | copyTable sameTypes scanned others inductionHypothesis =>
      obtain ⟨middle, between, transfers, abreast⟩ := abreast.copyTable rule
        senderNodeId tLen wantBinary identified _ sameTypes scanned
      obtain ⟨last, after, rest, abreast⟩ := inductionHypothesis abreast
      exact ⟨last, after, transfers.append rest, abreast⟩

end Callbacks

/-! ## From the callbacks to the rows -/

/-- An apply process between transactions. -/
structure Settled
    {replica : Replica Value Class} (known : Known replica)
    (applier : Applier) : Prop where
  closed : applier.rel = none
  mapped : ∀ header ∈ known.headers,
    applier.relidMap header.relid = invalidOid ∨
      applier.relidMap header.relid = known.localOf header.relid

/-- The end of a transaction closes the table. -/
theorem process_of_commit
    (replica : Replica Value Class) (rule : Text.EofRule) (senderNodeId : ℕ)
    (tLen : List ReadColumn → ℕ) {action : UInt8}
    (isCommit : action = Spill.actionC) {body : List UInt8} {content : Content}
    (reads : Reads ((replica.handlers rule senderNodeId tLen).read action) body
      content)
    (applier : Applier) :
    replica.process content applier = .ok { applier with rel := none } := by
  have commit : Gives (do
      let remoteCommit ← Events.processRemoteCommit rule senderNodeId
      pure (.commit remoteCommit)) fun content =>
        replica.process content applier = .ok { applier with rel := none } :=
    Gives.bind _ fun _ => Gives.pure rfl
  subst isCommit
  exact commit.of_reads reads

/-- From the callbacks of the sender to the rows of the receiver: whatever was
streamed before and wherever packets and chunks end, an applied transaction is
one work, and the receiver whose table followed that of the sender executes it
without an error, after which its table follows again and the sequences got the
positions that were taken. -/
theorem replica_follows
    {replica : Replica Value Class} {index : List Bool}
    (identified : Identified replica.relation index) (known : Known replica)
    (rule : Text.EofRule) (senderNodeId : ℕ) (tLen : List ReadColumn → ℕ)
    (wantBinary : Bool) (config : Spill.Config) (files : Spill.Files)
    (before : List (Output.Piece (replica.handlers rule senderNodeId tLen)))
    (replay : Output.Replay (replica.handlers rule senderNodeId tLen))
    {ctx ended : Output.Context}
    (ranBefore : Output.runPieces before Output.Context.start = some ctx)
    (ran : (Output.Piece.transaction replay).run ctx = some ended)
    (applied : replay.commit.Applied config)
    {sender last : Sender} (regular : Regular sender)
    {callbacks : List (Callback Value)} {texts : List (List UInt8)}
    (written : writeAll wantBinary known.table callbacks
      (Stream.pglogicalWriteBegin sender).1 = some (last, texts))
    (sendingConfig : Events.Config) (xid : UInt64)
    (isBody : replay.body.map Spill.Record.bytes =
      (actionB :: pglogicalWriteBegin sendingConfig.myNodeId xid) :: texts)
    {applier : Applier} (settled : Settled known applier)
    {contents next : Contents Value Class} {taken : Positions}
    (follows : Follows replica.relation index contents applier.table)
    (logged : LoggedAll known index contents callbacks next taken) :
    ∃ sent work after, ended.packets = ctx.packets ++ sent ∧
      (Output.receivePackets config
        (Output.receivePackets config (Spill.Receiver.start files)
          ctx.packets).1 sent).2 = [work] ∧
      Spill.Processes (replica.handlers rule senderNodeId tLen)
        (Output.receivePackets config
          (Output.receivePackets config (Spill.Receiver.start files)
            ctx.packets).1 sent).1.files work
        (replay.body ++ [replay.commit.record]) ∧
      replica.processAll
          ((replay.body ++ [replay.commit.record]).map Spill.Record.content)
          applier = .ok after ∧
      Regular last ∧ Settled known after ∧
      after.positions = applier.positions ++ known.localPositions taken ∧
      Follows replica.relation index next after.table := by
  have clean : (Spill.Receiver.start files).Clean := ⟨rfl, rfl, rfl⟩
  obtain ⟨isQuiet, sentBefore, packetsBefore, isClean⟩ :=
    Output.clean_of_runPieces config clean rfl ranBefore
  have all : ctx.packets = sentBefore := packetsBefore
  rw [← all] at isClean
  obtain ⟨-, sent, packets, -, carried, -⟩ :=
    Output.handedOver_of_run isClean isQuiet ran
  obtain ⟨work, isWork, processes⟩ := carried applied
  obtain ⟨fresh, small⟩ :=
    Stream.pglogicalWriteBegin_fresh regular.bounded regular.small
  have begun : Regular (Stream.pglogicalWriteBegin sender).1 :=
    ⟨fun relid => Nat.le_of_lt (fresh relid), small⟩
  have inStep : InStep known (Stream.pglogicalWriteBegin sender).1 applier :=
    { outside := rfl
      opened := fun isTable => absurd isTable.symm known.table.valid
      named := fun header _ isNamed =>
        absurd isNamed (Nat.ne_of_lt (fresh header.relid))
      mapped := settled.mapped }
  obtain ⟨final, after, ⟨given, wrote, contentsRead, takes, done⟩, abreast⟩ :=
    Abreast.all rule senderNodeId tLen wantBinary identified logged
      ⟨inStep, follows, rfl⟩
  rw [written, Option.some.injEq, Prod.mk.injEq] at wrote
  obtain ⟨rfl, rfl⟩ := wrote
  have begins : Takes (replica.handlers rule senderNodeId tLen)
      (actionB :: pglogicalWriteBegin sendingConfig.myNodeId xid)
      (.begin sendingConfig.myNodeId xid) :=
    ⟨_, _, rfl, (beginRecord rule senderNodeId replica.relation.desc tLen
      sendingConfig xid).reads⟩
  have bodyContent := Takes.unique isBody (.cons begins takes)
  have executed : replica.processAll
      (.begin sendingConfig.myNodeId xid :: contentsRead) applier =
      .ok after := by
    rw [Replica.processAll]
    exact done
  refine ⟨sent, work, { after with rel := none }, packets, isWork, processes,
    ?_, begun.all written, ⟨rfl, abreast.inStep.mapped⟩, abreast.taken,
    abreast.follows⟩
  rw [List.map_append, bodyContent, Replica.processAll_append executed,
    List.map_singleton, Replica.processAll, process_of_commit replica rule
      senderNodeId tLen replay.commit.isCommit replay.commit.record.reads]
  rfl

end Transactions

/-! ## A table with one column -/

/-- The identifier of `"char"`. -/
theorem charOid_valid : 18 ≠ 0 := by
  decide

/-- The primary key is the only column. -/
def letters : Relation (List UInt8) (List UInt8) where
  desc :=
    { attrs :=
        [Tuple.liveAttribute 18 charOid_valid Tuple.charType]
      natts_le := by decide }
  replicaIndex := none
  primaryKeyIndex := some [true]
  classOf value := value

theorem letters_identified : Identified letters [true] where
  isIndex := rfl
  length_eq := rfl
  live := by
    intro column isColumn _
    rw [List.mem_singleton.mp isColumn]
    rfl

/-- The receiver has the table `p.t` and the sequence `p.s`. -/
def lettersReplica : Replica (List UInt8) (List UInt8) where
  relation := letters
  relid := 20000
  rangeVarGetRelid nspname relname :=
    if nspname = [112] ∧ relname = [116] then some 20000
    else if nspname = [112] ∧ relname = [115] then some 20001
    else none
  opens oid := oid == 20000 || oid == 20001
  execute _ table := some table

/-- A name with one letter. -/
def letterName (letter : UInt8) (nonzero : 0 ∉ [letter]) : Name where
  text := ⟨[letter], nonzero⟩
  short := by
    rw [List.length_singleton]
    decide

/-- The table of the sender. -/
def lettersTable : Header where
  relid := 16385
  isOid := by decide
  valid := by decide
  nspname := letterName 112 (by decide)
  relname := letterName 116 (by decide)

/-- The sequence of the sender. -/
def lettersSequence : Header where
  relid := 16386
  isOid := by decide
  valid := by decide
  nspname := letterName 112 (by decide)
  relname := letterName 115 (by decide)

/-- Both nodes have the table and the sequence. -/
def lettersKnown : Known lettersReplica where
  table := lettersTable
  sequences := [lettersSequence]
  localOf relid := relid + 3615
  named := by
    intro header isHeader
    rcases List.mem_cons.mp isHeader with rfl | isSequence
    · rfl
    · rw [List.mem_singleton.mp isSequence]
      rfl
  opens := by
    intro header isHeader
    rcases List.mem_cons.mp isHeader with rfl | isSequence
    · simp [lettersReplica, lettersTable]
    · rw [List.mem_singleton.mp isSequence]
      simp [lettersReplica, lettersSequence]
  valid := by
    intro header _
    exact Nat.succ_ne_zero _
  isTable := rfl
  notTable := by
    intro sequence isSequence
    rw [List.mem_singleton.mp isSequence]
    decide

/-- The row `A`. -/
def rowA : DeformedTuple (List UInt8) where
  columns :=
    [(Tuple.liveAttribute 18 charOid_valid Tuple.charType, .inline [65])]
  natts_le := by decide
  typed := by
    intro column isColumn _
    rw [List.mem_singleton.mp isColumn]
    rfl

/-- Its record. -/
def insertA :
    Spill.Record (tableHandlers .beforeConversion 1 letters.desc fun _ => 0) where
  action := 73
  body := [84, 0, 1, 98, 0, 0, 0, 1, 65]
  content := .insert [{ isnull := false, changed := true, value := some [65] }]
  reads := by
    intro rest
    rfl
  notFile := by decide
  notOpen := by decide
  notClose := by decide
  notCaughtup := by decide

theorem one_le_mtmMaxNodes : 1 ≤ Events.mtmMaxNodes := by
  decide

theorem alone_nodes_pos :
    ∀ node ∈ ([] : List Events.Node), 0 < node.nodeId := by
  intro node isNode
  cases isNode

theorem alone_nodes_le :
    ∀ node ∈ ([] : List Events.Node), node.nodeId ≤ Events.mtmMaxNodes := by
  intro node isNode
  cases isNode

/-- The sender. -/
def senderConfig : Events.Config where
  myNodeId := 1
  nodes := []
  my_pos := Nat.one_pos
  my_le := one_le_mtmMaxNodes
  nodes_pos := alone_nodes_pos
  nodes_le := alone_nodes_le

/-- The transaction that inserts the row. -/
def insertTxn : Events.Txn where
  xid := 700
  originId := 0
  originLsn := 0
  endLsn := 80
  commitTime := 5
  gid := ⟨[], by decide⟩
  gid_short := by decide
  state3Pc := ⟨[], by decide⟩
  state3PcChange := false

/-- The header of a relation of the sender. -/
def headerRecord (header : Header) :
    Spill.Record (tableHandlers .beforeConversion 1 letters.desc fun _ => 0) :=
  relationRecord .beforeConversion 1 letters.desc (fun _ => 0) header.relid
    header.isOid (some (header.nspname, header.relname))

/-- Its callbacks: the row, and a position of the sequence. -/
def insertReplay :
    Output.Replay
      (tableHandlers .beforeConversion 1 letters.desc fun _ => 0) where
  forwarded := false
  begin := beginRecord .beforeConversion 1 letters.desc (fun _ => 0)
    senderConfig 700
  changes :=
    [.row true [headerRecord lettersTable] (some [insertA]),
      .message [headerRecord lettersSequence,
        nextvalRecord .beforeConversion 1 letters.desc (fun _ => 0) 7]]
  commit := endRecord .beforeConversion letters.desc (fun _ => 0) senderConfig
    insertTxn 72 .commit Events.emptyInfo Events.emptyState
    (fun isPrepare => by cases isPrepare)
  inside := by
    intro record isRecord
    simp only [List.map_cons, List.map_nil, Output.Change.records, if_true,
      Option.getD_some, List.flatten_cons, List.flatten_nil, List.append_nil,
      List.mem_cons, List.mem_append, List.not_mem_nil, or_false] at isRecord
    rcases isRecord with rfl | (rfl | rfl) | rfl | rfl
    · exact Output.inside_of_action (by decide : (66 : UInt8) ≠ Spill.actionC)
        (by decide : (66 : UInt8) ≠ Spill.actionM)
    · exact Output.inside_of_action (by decide : (82 : UInt8) ≠ Spill.actionC)
        (by decide : (82 : UInt8) ≠ Spill.actionM)
    · exact Output.inside_of_action (by decide : (73 : UInt8) ≠ Spill.actionC)
        (by decide : (73 : UInt8) ≠ Spill.actionM)
    · exact Output.inside_of_action (by decide : (82 : UInt8) ≠ Spill.actionC)
        (by decide : (82 : UInt8) ≠ Spill.actionM)
    · exact Output.inside_of_action (by decide : (78 : UInt8) ≠ Spill.actionC)
        (by decide : (78 : UInt8) ≠ Spill.actionM)

/-- The apply process of an empty table, which has seen no header. -/
def freshApplier : Applier where
  rel := none
  relidMap _ := invalidOid
  table := []
  positions := []

/-- The row arrives in the empty table, and the position at its sequence. -/
theorem replica_follows_insert :
    ∃ after,
      lettersReplica.processAll
          ((insertReplay.body ++ [insertReplay.commit.record]).map
            Spill.Record.content) freshApplier = .ok after ∧
        after.positions = [(20001, 7)] ∧
        Follows letters [true]
          (Function.update (fun _ => none) [some [65]] (some [some [65]]))
          after.table := by
  have runs : ∃ ended, (Output.Piece.transaction insertReplay).run
      Output.Context.start = some ended :=
    ⟨_, rfl⟩
  obtain ⟨ended, ran⟩ := runs
  have regular : Regular Stream.initialWorld.sender :=
    ⟨fun _ => Nat.le_refl _, Nat.two_pow_pos 32⟩
  have writes : ∃ last texts,
      writeAll true lettersTable
          [.change (.insert rowA), .nextval lettersSequence 7]
          (Stream.pglogicalWriteBegin Stream.initialWorld.sender).1 =
        some (last, texts) ∧
      insertReplay.body.map Spill.Record.bytes =
        (actionB :: pglogicalWriteBegin senderConfig.myNodeId 700) :: texts :=
    ⟨_, _, rfl, rfl⟩
  obtain ⟨last, texts, written, isBody⟩ := writes
  have settled : Settled lettersKnown freshApplier :=
    ⟨rfl, fun _ _ => Or.inl rfl⟩
  have empty : Follows letters [true] (fun _ => none) [] :=
    ⟨by simp, by simp, by simp, by simp, by simp⟩
  have sameTypes : (RowChange.insert rowA).SameTypes letters.desc := by
    intro tuple isTuple
    rw [List.mem_singleton.mp isTuple]
    rfl
  have logged : LoggedAll lettersKnown [true] (fun _ => none)
      [.change (.insert rowA), .nextval lettersSequence 7]
      (Function.update (fun _ => none) [some [65]] (some [some [65]]))
      [(lettersSequence, 7)] :=
    .change sameTypes (.insert (by simp [rowA, liveColumns]) (by decide) rfl)
      (.nextval List.mem_cons_self (.nil _))
  obtain ⟨-, -, after, -, -, -, done, -, -, positions, follows⟩ :=
    replica_follows letters_identified lettersKnown .beforeConversion 1
      (fun _ => 0) true Spill.smallConfig (fun _ => []) [] insertReplay rfl ran
      ⟨by decide, rfl⟩ regular written senderConfig 700 isBody settled empty
      logged
  exact ⟨after, done, positions, follows⟩

end Rows
end Multimaster
