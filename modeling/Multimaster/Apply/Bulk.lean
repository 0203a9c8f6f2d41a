import Multimaster.Apply.Insert

/-!
# When the bulk insert is the same as single inserts

The bulk insert fires no BEFORE ROW triggers, checks no constraints, registers
the table of the last record only, and fires the AFTER ROW triggers of a record
when the records behind it are stored.  A relation for which nothing of this
matters is filled in the same way by both; for every other relation there is a
run that shows the difference.
-/

namespace Multimaster
namespace Apply

variable {Row World Err : Type*}

/-! ## What goes on after an insert -/

theorem observe_andThen_congr
    {first second : Inserted Row World Err}
    (same : observe first = observe second)
    {nextFirst nextSecond : Table Row World → Inserted Row World Err}
    (sameNext : ∀ table,
      observe (nextFirst table) = observe (nextSecond table)) :
    observe (first.andThen nextFirst) = observe (second.andThen nextSecond) := by
  obtain ⟨⟨contents, firings, registered⟩, error⟩ := first
  obtain ⟨⟨contents', firings', registered'⟩, error'⟩ := second
  cases error with
  | none =>
      cases error' with
      | none =>
          simp only [observe, Prod.mk.injEq, Except.ok.injEq] at same
          obtain ⟨rfl, rfl, rfl⟩ := same
          exact sameNext _
      | some error' => simp [observe] at same
  | some error =>
      cases error' with
      | none => simp [observe] at same
      | some error' => exact same

theorem Inserted.andThen_assoc
    (first : Inserted Row World Err)
    (second third : Table Row World → Inserted Row World Err) :
    (first.andThen second).andThen third =
      first.andThen fun table => (second table).andThen third := by
  obtain ⟨table, error⟩ := first
  cases error <;> rfl

/-- Nothing is left to do. -/
theorem Inserted.andThen_done (first : Inserted Row World Err) :
    (first.andThen fun table => (table, none)) = first := by
  obtain ⟨table, error⟩ := first
  cases error <;> rfl

/-- An error of the first part is that of the whole. -/
theorem Inserted.andThen_error
    {first : Inserted Row World Err} {error : InsertError Err}
    (raised : first.2 = some error)
    (second : Table Row World → Inserted Row World Err) :
    (first.andThen second).2 = some error := by
  obtain ⟨table, firstError⟩ := first
  cases raised
  rfl

/-- An error comes from one of the parts. -/
theorem Inserted.error_of_andThen
    {first : Inserted Row World Err}
    {second : Table Row World → Inserted Row World Err}
    {error : InsertError Err}
    (raised : (first.andThen second).2 = some error) :
    first.2 = some error ∨ (second first.1).2 = some error := by
  obtain ⟨table, firstError⟩ := first
  cases firstError with
  | none => exact .inr raised
  | some firstError => exact .inl raised

/-- What the first part has fired is fired, if the second keeps it. -/
theorem Inserted.mem_firings_andThen
    {first : Inserted Row World Err}
    {second : Table Row World → Inserted Row World Err}
    {firing : Firing Row} (fired : firing ∈ first.1.firings)
    (keeps : ∀ table : Table Row World, firing ∈ table.firings →
      firing ∈ (second table).1.firings) :
    firing ∈ (first.andThen second).1.firings := by
  obtain ⟨table, error⟩ := first
  cases error with
  | none => exact keeps table fired
  | some error => exact fired

theorem Relation.insertEach_append
    (rel : Relation Row World Err) (table : Table Row World)
    (first second : List Row) :
    rel.insertEach table (first ++ second) =
      (rel.insertEach table first).andThen fun table =>
        rel.insertEach table second := by
  induction first generalizing table with
  | nil => rfl
  | cons row rest inductionHypothesis =>
      rw [List.cons_append, Relation.insertEach, Relation.insertEach,
        Inserted.andThen_assoc]
      congr 1
      funext table
      exact inductionHypothesis table

/-! ## The buffer -/

/-- What is taken into the buffer and what is left are the run. -/
theorem Relation.bufferTuples_append
    (rel : Relation Row World Err) (count size : ℕ) (run : List Row) :
    (rel.bufferTuples count size run).1 ++
      (rel.bufferTuples count size run).2 = run := by
  induction run generalizing count size with
  | nil => rfl
  | cons row rest inductionHypothesis =>
      rw [Relation.bufferTuples]
      split
      · simp only [List.cons_append, inductionHypothesis]
      · rfl

/-- A record with records that are taken into the same buffer. -/
def Relation.Batch
    (rel : Relation Row World Err) (first : Row) (others : List Row) : Prop :=
  (rel.bufferTuples 1 (rel.tLen first) others).2 = []

/-- A buffer that is less full takes what a fuller one takes. -/
theorem Relation.bufferTuples_mono
    (rel : Relation Row World Err) {count fewer size smaller : ℕ}
    {run : List Row} (fewerTuples : fewer ≤ count) (lessSize : smaller ≤ size)
    (whole : (rel.bufferTuples count size run).2 = []) :
    (rel.bufferTuples fewer smaller run).2 = [] := by
  induction run generalizing count fewer size smaller with
  | nil => rfl
  | cons row rest inductionHypothesis =>
      rw [Relation.bufferTuples] at whole ⊢
      split at whole
      · next goesOn =>
          rw [if_pos ⟨by omega, by omega⟩]
          exact inductionHypothesis (by omega) (by omega) whole
      · cases whole

theorem Relation.Batch.small
    {rel : Relation Row World Err} {first second : Row} {others : List Row}
    (batch : rel.Batch first (second :: others)) :
    rel.tLen first < maxBufferedTuplesSize := by
  unfold Relation.Batch at batch
  rw [Relation.bufferTuples] at batch
  split at batch
  · next goesOn => exact goesOn.2
  · cases batch

theorem Relation.Batch.tail
    {rel : Relation Row World Err} {first second : Row} {others : List Row}
    (batch : rel.Batch first (second :: others)) :
    rel.Batch second others := by
  unfold Relation.Batch at batch
  rw [Relation.bufferTuples] at batch
  split at batch
  · exact rel.bufferTuples_mono (by omega) (by omega) batch
  · cases batch

/-- What is taken into the buffer is a batch. -/
theorem Relation.batch_bufferTuples
    (rel : Relation Row World Err) (count size : ℕ) (run : List Row) :
    (rel.bufferTuples count size
      (rel.bufferTuples count size run).1).2 = [] := by
  induction run generalizing count size with
  | nil => rfl
  | cons row rest inductionHypothesis =>
      rw [Relation.bufferTuples]
      split
      · next goesOn =>
          simp only [Relation.bufferTuples, if_pos goesOn]
          exact inductionHypothesis _ _
      · rfl

/-! ## The queue of AFTER triggers -/

theorem afterTriggerEndQuery_append
    (first second : Queue Row World Err) (table : Table Row World) :
    afterTriggerEndQuery (first ++ second) table =
      (afterTriggerEndQuery first table).andThen
        (afterTriggerEndQuery second) := by
  induction first generalizing table with
  | nil => rfl
  | cons event rest inductionHypothesis =>
      obtain ⟨trigger, row⟩ := event
      simp only [List.cons_append, afterTriggerEndQuery]
      cases trigger.body table.contents row with
      | error error => rfl
      | ok contents => exact inductionHypothesis _

theorem afterTriggerEndQuery_registered
    (queue : Queue Row World Err) (table : Table Row World) :
    (afterTriggerEndQuery queue table).1.registered = table.registered := by
  induction queue generalizing table with
  | nil => rfl
  | cons event rest inductionHypothesis =>
      obtain ⟨trigger, row⟩ := event
      simp only [afterTriggerEndQuery]
      cases trigger.body table.contents row with
      | error error => rfl
      | ok contents => exact inductionHypothesis _

/-- Only AFTER triggers are fired from the queue. -/
theorem afterTriggerEndQuery_firings
    (queue : Queue Row World Err) (table : Table Row World) :
    ∃ more, (afterTriggerEndQuery queue table).1.firings =
        table.firings ++ more ∧
      ∀ name row, Firing.before name row ∉ more := by
  induction queue generalizing table with
  | nil => exact ⟨[], (List.append_nil _).symm, by simp⟩
  | cons event rest inductionHypothesis =>
      obtain ⟨trigger, row⟩ := event
      simp only [afterTriggerEndQuery]
      cases trigger.body table.contents row with
      | error error => exact ⟨[.after trigger.name row], rfl, by simp⟩
      | ok contents =>
          obtain ⟨more, firings, noBefore⟩ := inductionHypothesis
            { table with
              contents := contents
              firings := table.firings ++ [.after trigger.name row] }
          refine ⟨.after trigger.name row :: more, ?_, by simp [noBefore]⟩
          rw [firings, List.append_assoc]
          rfl

/-- An AFTER trigger raises errors of its own kind. -/
theorem afterTriggerEndQuery_error
    {queue : Queue Row World Err} {table : Table Row World}
    {error : InsertError Err}
    (raised : (afterTriggerEndQuery queue table).2 = some error) :
    ∃ found, error = .after found := by
  induction queue generalizing table with
  | nil => cases raised
  | cons event rest inductionHypothesis =>
      obtain ⟨trigger, row⟩ := event
      simp only [afterTriggerEndQuery] at raised
      cases result : trigger.body table.contents row with
      | error found =>
          rw [result] at raised
          cases raised
          exact ⟨found, rfl⟩
      | ok contents =>
          rw [result] at raised
          exact inductionHypothesis raised

/-! ## The slots of a batch -/

/-- The slots of a batch are stored and indexed, and the AFTER triggers fired
with those that were queued before. -/
def Relation.insertSlots
    (rel : Relation Row World Err) (queue : Queue Row World Err)
    (table : Table Row World) (batch : List Row) : Inserted Row World Err :=
  let (queued, error) := rel.indexSlots table.contents.rows batch
  Inserted.andThen (table.store batch, error) fun table =>
    afterTriggerEndQuery (queue ++ queued) table

theorem Table.store_nil (table : Table Row World) : table.store [] = table := by
  simp [Table.store]

theorem Table.store_store
    (table : Table Row World) (first second : List Row) :
    (table.store first).store second = table.store (first ++ second) := by
  simp [Table.store]

theorem Relation.insertSlots_nil
    (rel : Relation Row World Err) (queue : Queue Row World Err)
    (table : Table Row World) :
    rel.insertSlots queue table [] = afterTriggerEndQuery queue table := by
  simp only [Relation.insertSlots, Relation.indexSlots, Table.store_nil,
    List.append_nil]
  rfl

/-- A slot asks the indexes and queues the AFTER triggers, whether or not there
are any. -/
theorem Relation.indexSlots_cons
    (rel : Relation Row World Err) (indexed : List Row) (row : Row)
    (rest : List Row) :
    rel.indexSlots indexed (row :: rest) =
      match rel.indexError indexed row with
      | some error => ([], some (.index error))
      | none =>
          (rel.execARInsertTriggers row ++
              (rel.indexSlots (indexed ++ [row]) rest).1,
            (rel.indexSlots (indexed ++ [row]) rest).2) := by
  rw [Relation.indexSlots]
  split
  · rfl
  · next noIndex =>
      have accepted : rel.indexError indexed row = none := by
        unfold Relation.indexError
        rw [List.length_eq_zero_iff.mp (Nat.eq_zero_of_not_pos noIndex)]
        rfl
      rw [accepted]
      split
      · rfl
      · next noAfter =>
          have nothing : rel.execARInsertTriggers row = [] := by
            unfold Relation.execARInsertTriggers
            rw [List.length_eq_zero_iff.mp (Nat.eq_zero_of_not_pos noAfter)]
            rfl
          rw [nothing, List.nil_append]

/-- The slots are gone through one by one. -/
theorem Relation.insertSlots_cons
    (rel : Relation Row World Err) (queue : Queue Row World Err)
    (table : Table Row World) (row : Row) (rest : List Row) :
    observe (rel.insertSlots queue table (row :: rest)) =
      match rel.indexError table.contents.rows row with
      | some error => (table.registered, .error (.index error))
      | none =>
          observe (rel.insertSlots (queue ++ rel.execARInsertTriggers row)
            (table.store [row]) rest) := by
  simp only [Relation.insertSlots]
  rw [Relation.indexSlots_cons]
  cases rel.indexError table.contents.rows row with
  | some error => rfl
  | none =>
      rw [Table.store_store, List.singleton_append, List.append_assoc]
      rfl

theorem Relation.insertSlots_registered
    (rel : Relation Row World Err) (queue : Queue Row World Err)
    (table : Table Row World) (batch : List Row) :
    (rel.insertSlots queue table batch).1.registered = table.registered := by
  unfold Relation.insertSlots
  obtain ⟨queued, error⟩ := rel.indexSlots table.contents.rows batch
  cases error with
  | some error => rfl
  | none => exact afterTriggerEndQuery_registered _ (table.store batch)

/-- The bulk insert of a batch, by its slots. -/
theorem Relation.insertBulk_eq
    (rel : Relation Row World Err) (table : Table Row World) (first : Row)
    (others : List Row) :
    rel.insertBulk table first others =
      (rel.insertSlots [] table (first :: others)).andThen fun table =>
        (rel.makeTableLocal table (others.getLastD first), none) := by
  unfold Relation.insertBulk Relation.insertSlots Relation.finishInsert
  simp only [List.nil_append]
  rw [Inserted.andThen_assoc]

/-! ## Relations for which both are the same -/

/-- The bulk insert leaves out nothing of these: there is no BEFORE ROW trigger,
no constraint that a row can fail, and no table to register from a row that
another one may follow in the buffer. -/
structure Relation.Direct (rel : Relation Row World Err) : Prop where
  no_before : rel.before = []
  no_constraint : ∀ row, rel.constraints row = none
  no_table : rel.localTables = true →
    ∀ row, rel.tLen row < maxBufferedTuplesSize → rel.relid row = none

/-- It makes no difference to a batch, whatever is in the database, whether the
AFTER triggers of its first row are fired before or after the other rows are
stored. -/
def Relation.AfterEarly (rel : Relation Row World Err) : Prop :=
  ∀ (table : Table Row World) first others,
    rel.Batch first others →
    rel.indexError table.contents.rows first = none →
    (observe (rel.insertSlots (rel.execARInsertTriggers first)
      (table.store [first]) others)).2 =
    (observe ((afterTriggerEndQuery (rel.execARInsertTriggers first)
      (table.store [first])).andThen fun table =>
        rel.insertSlots [] table others)).2

/-- Relations for which the bulk insert is as good as single inserts. -/
structure Relation.Plain (rel : Relation Row World Err) : Prop
    extends rel.Direct where
  after_early : rel.AfterEarly

theorem observe_registered (inserted : Inserted Row World Err) :
    (observe inserted).1 = inserted.1.registered := by
  obtain ⟨table, error⟩ := inserted
  cases error <;> rfl

theorem observe_congr
    {first second : Inserted Row World Err}
    (sameRegistered : first.1.registered = second.1.registered)
    (sameResult : (observe first).2 = (observe second).2) :
    observe first = observe second := by
  refine Prod.ext ?_ sameResult
  rw [observe_registered, observe_registered]
  exact sameRegistered

theorem Inserted.andThen_registered
    {first : Inserted Row World Err}
    {second : Table Row World → Inserted Row World Err}
    (keeps : ∀ table, (second table).1.registered = table.registered) :
    (first.andThen second).1.registered = first.1.registered := by
  obtain ⟨table, error⟩ := first
  cases error with
  | none => exact keeps table
  | some error => rfl

theorem Relation.makeTableLocal_contents
    (rel : Relation Row World Err) (table : Table Row World) (row : Row) :
    (rel.makeTableLocal table row).contents = table.contents ∧
      (rel.makeTableLocal table row).firings = table.firings := by
  unfold Relation.makeTableLocal
  split
  · split <;> exact ⟨rfl, rfl⟩
  · exact ⟨rfl, rfl⟩

/-- The table of the last record is registered in both ways. -/
theorem Relation.observe_makeTableLocal
    (rel : Relation Row World Err) (inserted : Inserted Row World Err)
    (row : Row) :
    (observe (inserted.andThen fun table =>
      (rel.makeTableLocal table row, none))).2 = (observe inserted).2 := by
  obtain ⟨table, error⟩ := inserted
  cases error with
  | some error => rfl
  | none =>
      obtain ⟨sameContents, sameFirings⟩ := rel.makeTableLocal_contents table row
      simp only [Inserted.andThen, observe, sameContents, sameFirings]

/-- A single insert, and the table it registers. -/
theorem Relation.insertSingle_eq
    (rel : Relation Row World Err) (table : Table Row World) (row : Row) :
    rel.insertSingle table row =
      ((rel.execSimpleRelationInsert table row).1.andThen
        (afterTriggerEndQuery
          (rel.execSimpleRelationInsert table row).2)).andThen fun table =>
            (rel.makeTableLocal table row, none) := by
  rw [Inserted.andThen_assoc]
  rfl

namespace Relation.Direct

variable {rel : Relation Row World Err}

theorem makeTableLocal_small
    (direct : rel.Direct) (table : Table Row World) {row : Row}
    (small : rel.tLen row < maxBufferedTuplesSize) :
    rel.makeTableLocal table row = table := by
  unfold Relation.makeTableLocal
  split
  · next isLocal => rw [direct.no_table isLocal row small]
  · rfl

/-- A single insert is a batch of one record. -/
theorem observe_insertSingle
    (direct : rel.Direct) (table : Table Row World) (row : Row) :
    observe (rel.insertSingle table row) =
      observe (rel.insertBulk table row []) := by
  have slots := rel.insertSlots_cons [] table row []
  rw [Relation.insertSlots_nil, List.nil_append] at slots
  have same : observe ((rel.execSimpleRelationInsert table row).1.andThen
      (afterTriggerEndQuery (rel.execSimpleRelationInsert table row).2)) =
      observe (rel.insertSlots [] table [row]) := by
    rw [slots]
    unfold Relation.execSimpleRelationInsert
    simp only [direct.no_before, execBRInsertTriggers, direct.no_constraint,
      List.append_nil]
    cases rel.indexError table.contents.rows row <;> rfl
  rw [Relation.insertBulk_eq, Relation.insertSingle_eq]
  exact observe_andThen_congr same fun _ => rfl

/-- A single insert of a row that another one may follow. -/
theorem observe_insertSingle_small
    (direct : rel.Direct) (table : Table Row World) {row : Row}
    (small : rel.tLen row < maxBufferedTuplesSize) :
    observe (rel.insertSingle table row) =
      match rel.indexError table.contents.rows row with
      | some error => (table.registered, .error (.index error))
      | none =>
          observe (afterTriggerEndQuery (rel.execARInsertTriggers row)
            (table.store [row])) := by
  have nothing : (fun table : Table Row World =>
      ((rel.makeTableLocal table row, none) : Inserted Row World Err)) =
      fun table => (table, none) := by
    funext table
    rw [direct.makeTableLocal_small table small]
  rw [direct.observe_insertSingle, Relation.insertBulk_eq, List.getLastD_nil,
    nothing, Inserted.andThen_done, Relation.insertSlots_cons,
    Relation.insertSlots_nil, List.nil_append]

/-- A batch is its first record and the rest, if the AFTER triggers of the first
record may be fired early. -/
theorem observe_insertBulk_cons
    (direct : rel.Direct) {first second : Row} {others : List Row}
    (batch : rel.Batch first (second :: others)) (table : Table Row World)
    (early : rel.indexError table.contents.rows first = none →
      (observe (rel.insertSlots (rel.execARInsertTriggers first)
        (table.store [first]) (second :: others))).2 =
      (observe ((afterTriggerEndQuery (rel.execARInsertTriggers first)
        (table.store [first])).andThen fun table =>
          rel.insertSlots [] table (second :: others))).2) :
    observe (rel.insertBulk table first (second :: others)) =
      observe ((rel.insertSingle table first).andThen fun table =>
        rel.insertBulk table second others) := by
  have single := direct.observe_insertSingle_small table batch.small
  have slots := rel.insertSlots_cons [] table first (second :: others)
  rw [List.nil_append] at slots
  have last : ∀ table : Table Row World,
      rel.insertBulk table second others =
        (rel.insertSlots [] table (second :: others)).andThen fun table =>
          (rel.makeTableLocal table ((second :: others).getLastD first),
            none) := by
    intro table
    rw [Relation.insertBulk_eq, List.getLastD_cons]
  rw [Relation.insertBulk_eq]
  simp only [last]
  rw [← Inserted.andThen_assoc]
  refine observe_andThen_congr ?_ fun _ => rfl
  rw [slots]
  cases accepted : rel.indexError table.contents.rows first with
  | some error =>
      have refused : observe (rel.insertSingle table first) =
          observe ((table, some (.index error)) : Inserted Row World Err) := by
        rw [single, accepted]
        rfl
      exact (observe_andThen_congr refused fun _ => rfl).symm
  | none =>
      rw [accepted] at single
      have inserted := observe_andThen_congr single fun later =>
        (rfl : observe (rel.insertSlots [] later (second :: others)) = _)
      rw [inserted]
      refine observe_congr ?_ (early accepted)
      rw [rel.insertSlots_registered, Inserted.andThen_registered fun later =>
        rel.insertSlots_registered [] later _, afterTriggerEndQuery_registered]

end Relation.Direct

/-- A batch goes in the same way as its rows one by one. -/
theorem Relation.Plain.observe_insertBulk
    {rel : Relation Row World Err} (plain : rel.Plain)
    (table : Table Row World) {first : Row} {others : List Row}
    (batch : rel.Batch first others) :
    observe (rel.insertBulk table first others) =
      observe (rel.insertEach table (first :: others)) := by
  induction others generalizing table first with
  | nil =>
      rw [← plain.observe_insertSingle, Relation.insertEach]
      exact congrArg observe (Inserted.andThen_done _).symm
  | cons second others inductionHypothesis =>
      rw [plain.observe_insertBulk_cons batch table
        (plain.after_early table first (second :: others) batch),
        Relation.insertEach]
      exact observe_andThen_congr rfl fun later =>
        inductionHypothesis later batch.tail

/-- Every call of `process_remote_insert` does the same as single inserts of the
records it takes. -/
theorem Relation.Plain.observe_processRemoteInsert
    {rel : Relation Row World Err} (plain : rel.Plain)
    (table : Table Row World) (row : Row) (rest : List Row) :
    ∃ taken,
      row :: rest = taken ++ (rel.processRemoteInsert table row rest).2 ∧
        taken ≠ [] ∧
        observe (rel.processRemoteInsert table row rest).1 =
          observe (rel.insertEach table taken) := by
  cases rest with
  | nil =>
      refine ⟨[row], rfl, List.cons_ne_nil _ _, ?_⟩
      simp only [Relation.processRemoteInsert, Relation.insertEach]
      rw [Inserted.andThen_done]
  | cons next rest =>
      refine ⟨row ::
          (rel.bufferTuples 1 (rel.tLen row) (next :: rest)).1,
        ?_, List.cons_ne_nil _ _, ?_⟩
      · exact congrArg (row :: ·) (rel.bufferTuples_append 1 (rel.tLen row)
          (next :: rest)).symm
      · exact plain.observe_insertBulk table
          (rel.batch_bufferTuples 1 (rel.tLen row) (next :: rest))

/-- The run of such a relation. -/
theorem Relation.Plain.observe_applyRecords
    {rel : Relation Row World Err} (plain : rel.Plain) (fuel : ℕ)
    (table : Table Row World) (run : List Row)
    (enough : run.length ≤ fuel) :
    observe (rel.applyRecords fuel table run) =
      observe (rel.insertEach table run) := by
  induction fuel generalizing table run with
  | zero =>
      rw [List.length_eq_zero_iff.mp (Nat.le_zero.mp enough)]
      rfl
  | succ fuel inductionHypothesis =>
      cases run with
      | nil => rfl
      | cons row rest =>
          obtain ⟨taken, whole, nonempty, same⟩ :=
            plain.observe_processRemoteInsert table row rest
          have shorter : (rel.processRemoteInsert table row rest).2.length ≤
              fuel := by
            have lengths := congrArg List.length whole
            have positive := List.length_pos_of_ne_nil nonempty
            rw [List.length_append] at lengths
            omega
          rw [Relation.applyRecords, whole, Relation.insertEach_append]
          exact observe_andThen_congr same fun table =>
            inductionHypothesis table _ shorter

/-! ## Triggers that may be fired early -/

/-- A trigger that raises no error and neither reads nor changes the rows of the
table. -/
def AfterTrigger.Aside (trigger : AfterTrigger Row World Err) : Prop :=
  ∃ effect : World → Row → World, ∀ contents row,
    trigger.body contents row =
      .ok { contents with elsewhere := effect contents.elsewhere row }

/-- Such triggers do the same when more rows are stored. -/
theorem afterTriggerEndQuery_aside
    {queue : Queue Row World Err} (aside : ∀ event ∈ queue, event.1.Aside)
    (table : Table Row World) :
    ∃ later : Table Row World,
      later.contents.rows = table.contents.rows ∧
        later.registered = table.registered ∧
        ∀ rows, afterTriggerEndQuery queue (table.store rows) =
          (later.store rows, none) := by
  induction queue generalizing table with
  | nil => exact ⟨table, rfl, rfl, fun _ => rfl⟩
  | cons event rest inductionHypothesis =>
      obtain ⟨trigger, row⟩ := event
      have isAside : trigger.Aside := aside (trigger, row) List.mem_cons_self
      obtain ⟨effect, isEffect⟩ := isAside
      obtain ⟨later, sameRows, sameRegistered, fired⟩ := inductionHypothesis
        (fun other isOther => aside other (List.mem_cons_of_mem _ isOther))
        { table with
          contents :=
            { table.contents with
              elsewhere := effect table.contents.elsewhere row }
          firings := table.firings ++ [.after trigger.name row] }
      refine ⟨later, sameRows, sameRegistered, fun rows => ?_⟩
      rw [← fired rows, afterTriggerEndQuery]
      simp only [isEffect]
      rfl

theorem Relation.execARInsertTriggers_aside
    {rel : Relation Row World Err}
    (aside : ∀ trigger ∈ rel.after, trigger.Aside) (row : Row) :
    ∀ event ∈ rel.execARInsertTriggers row, event.1.Aside := by
  intro event isEvent
  obtain ⟨trigger, isTrigger, rfl⟩ := List.mem_map.mp isEvent
  exact aside trigger isTrigger

theorem Relation.insertSlots_aside
    {rel : Relation Row World Err}
    (aside : ∀ trigger ∈ rel.after, trigger.Aside)
    {queue : Queue Row World Err} (queued : ∀ event ∈ queue, event.1.Aside)
    (table : Table Row World) (batch : List Row) :
    observe (rel.insertSlots queue table batch) =
      observe ((afterTriggerEndQuery queue table).andThen fun table =>
        rel.insertSlots [] table batch) := by
  induction batch generalizing queue table with
  | nil =>
      simp only [Relation.insertSlots_nil, afterTriggerEndQuery]
      rw [Inserted.andThen_done]
  | cons row rest inductionHypothesis =>
      obtain ⟨later, sameRows, sameRegistered, fired⟩ :=
        afterTriggerEndQuery_aside queued table
      have now := fired []
      rw [Table.store_nil, Table.store_nil] at now
      rw [now, Relation.insertSlots_cons]
      simp only [Inserted.andThen]
      rw [Relation.insertSlots_cons, sameRows, sameRegistered]
      cases rel.indexError table.contents.rows row with
      | some error => rfl
      | none =>
          have rowQueued := Relation.execARInsertTriggers_aside aside row
          have bothQueued :
              ∀ event ∈ queue ++ rel.execARInsertTriggers row,
                event.1.Aside := by
            intro event isEvent
            rcases List.mem_append.mp isEvent with before | ofRow
            · exact queued event before
            · exact rowQueued event ofRow
          simp only
          rw [inductionHypothesis bothQueued, List.nil_append,
            inductionHypothesis rowQueued, afterTriggerEndQuery_append,
            fired [row]]
          rfl

/-- Triggers that keep off the rows of the table may be fired early. -/
theorem Relation.AfterEarly.of_aside
    {rel : Relation Row World Err}
    (aside : ∀ trigger ∈ rel.after, trigger.Aside) : rel.AfterEarly := by
  intro table first others _ _
  rw [Relation.insertSlots_aside aside
    (Relation.execARInsertTriggers_aside aside first)]

/-! ## Runs that show a difference -/

/-- A run has the same effect in bulk and one by one, from every state of the
table. -/
def Relation.BulkSame (rel : Relation Row World Err) : Prop :=
  ∀ table run,
    observe (rel.applyRun table run) = observe (rel.insertEach table run)

/-- A table in which nothing has been done yet. -/
def Contents.fresh (contents : Contents Row World) : Table Row World where
  contents := contents
  firings := []
  registered := ∅

/-- The same without the rows of the table. -/
def Contents.emptied (contents : Contents Row World) : Table Row World :=
  Contents.fresh { contents with rows := [] }

/-- Two rows that the indexes and the AFTER triggers let stand together, the
first small enough for the buffer to go on. -/
def Relation.HoldsTwoRows (rel : Relation Row World Err) : Prop :=
  ∃ (contents : Contents Row World) (first second : Row),
    rel.tLen first < maxBufferedTuplesSize ∧
      (rel.insertBulk contents.fresh first [second]).2 = none

theorem Relation.indexError_nil
    (rel : Relation Row World Err) (row : Row) :
    rel.indexError [] row = none := by
  unfold Relation.indexError
  rw [List.findSome?_eq_none_iff]
  intro index isIndex
  exact rel.index_nil index isIndex row

/-- A batch of two records or more. -/
theorem Relation.applyRun_batch
    {rel : Relation Row World Err} {first second : Row} {others : List Row}
    (batch : rel.Batch first (second :: others)) (table : Table Row World) :
    rel.applyRun table (first :: second :: others) =
      rel.insertBulk table first (second :: others) := by
  have whole := rel.bufferTuples_append 1 (rel.tLen first) (second :: others)
  rw [Relation.Batch] at batch
  rw [batch, List.append_nil] at whole
  simp only [Relation.applyRun, List.length_cons, Relation.applyRecords,
    Relation.processRemoteInsert, whole, batch]
  exact Inserted.andThen_done _

theorem Relation.batch_two
    {rel : Relation Row World Err} {first : Row} (second : Row)
    (small : rel.tLen first < maxBufferedTuplesSize) :
    rel.Batch first [second] := by
  have goesOn : (1 : ℕ) < maxBufferedTuples ∧
      rel.tLen first < maxBufferedTuplesSize :=
    ⟨by decide, small⟩
  simp [Relation.Batch, Relation.bufferTuples, goesOn]

/-- What was fired in an insert that raised no error. -/
theorem firings_of_observe_eq
    {first second : Inserted Row World Err}
    (same : observe first = observe second)
    (noError : first.2 = none) :
    second.2 = none ∧ second.1.firings = first.1.firings := by
  obtain ⟨table, error⟩ := first
  obtain ⟨other, otherError⟩ := second
  cases noError
  cases otherError with
  | none =>
      simp only [observe, Prod.mk.injEq, Except.ok.injEq] at same
      exact ⟨rfl, same.2.2.symm⟩
  | some otherError => simp [observe] at same

theorem observe_eq_error
    {inserted : Inserted Row World Err} {error : InsertError Err} :
    (observe inserted).2 = .error error ↔ inserted.2 = some error := by
  obtain ⟨table, raised⟩ := inserted
  cases raised <;> simp [observe]

/-- The bulk insert fires no BEFORE triggers. -/
theorem Relation.insertBulk_firings
    (rel : Relation Row World Err) (table : Table Row World) (first : Row)
    (others : List Row) :
    ∃ more, (rel.insertBulk table first others).1.firings =
        table.firings ++ more ∧
      ∀ name row, Firing.before name row ∉ more := by
  unfold Relation.insertBulk Relation.finishInsert
  obtain ⟨queue, error⟩ := rel.indexSlots table.contents.rows (first :: others)
  cases error with
  | some error => exact ⟨[], (List.append_nil _).symm, by simp⟩
  | none =>
      obtain ⟨more, firings, noBefore⟩ :=
        afterTriggerEndQuery_firings queue (table.store (first :: others))
      refine ⟨more, ?_, noBefore⟩
      simp only [Inserted.andThen]
      cases fired : afterTriggerEndQuery queue
        (table.store (first :: others)) with
      | mk later error =>
          rw [fired] at firings
          cases error with
          | some error => exact firings
          | none => exact (rel.makeTableLocal_contents later _).2.trans firings

/-- An insert adds the firings of its BEFORE triggers first. -/
theorem Relation.execSimpleRelationInsert_firings
    (rel : Relation Row World Err) (table : Table Row World) (row : Row) :
    (rel.execSimpleRelationInsert table row).1.1.firings =
      table.firings ++
        (execBRInsertTriggers table.contents rel.before row).1 := by
  unfold Relation.execSimpleRelationInsert
  obtain ⟨fired, result⟩ := execBRInsertTriggers table.contents rel.before row
  cases result with
  | error error => rfl
  | ok going =>
      obtain ⟨contents, changed⟩ := going
      cases changed with
      | none => rfl
      | some changed =>
          simp only
          cases rel.constraints changed with
          | some error => rfl
          | none =>
              simp only
              cases rel.indexError contents.rows changed <;> rfl

theorem Relation.insertSingle_firings
    (rel : Relation Row World Err) (table : Table Row World) (row : Row) :
    ∃ more, (rel.insertSingle table row).1.firings =
      table.firings ++
        (execBRInsertTriggers table.contents rel.before row).1 ++ more := by
  rw [Relation.insertSingle_eq, ← rel.execSimpleRelationInsert_firings]
  obtain ⟨⟨inserted, error⟩, queue⟩ := rel.execSimpleRelationInsert table row
  cases error with
  | some error => exact ⟨[], (List.append_nil _).symm⟩
  | none =>
      obtain ⟨more, firings, -⟩ := afterTriggerEndQuery_firings queue inserted
      refine ⟨more, ?_⟩
      rw [← firings]
      simp only [Inserted.andThen]
      obtain ⟨later, error⟩ := afterTriggerEndQuery queue inserted
      cases error with
      | some error => rfl
      | none => exact (rel.makeTableLocal_contents later row).2

/-- What was fired stays fired. -/
theorem Relation.mem_firings_insertEach
    (rel : Relation Row World Err) (table : Table Row World) (run : List Row)
    {firing : Firing Row} (wasFired : firing ∈ table.firings) :
    firing ∈ (rel.insertEach table run).1.firings := by
  induction run generalizing table with
  | nil => exact wasFired
  | cons row rest inductionHypothesis =>
      obtain ⟨more, firings⟩ := rel.insertSingle_firings table row
      have inserted : firing ∈ (rel.insertSingle table row).1.firings := by
        rw [firings, List.append_assoc]
        exact List.mem_append_left _ wasFired
      exact Inserted.mem_firings_andThen inserted inductionHypothesis

/-- The first BEFORE trigger is fired for the first record. -/
theorem Relation.before_fired
    {rel : Relation Row World Err} {trigger : BeforeTrigger Row World Err}
    {others : List (BeforeTrigger Row World Err)}
    (isFirst : rel.before = trigger :: others)
    (table : Table Row World) (row : Row) (rest : List Row) :
    .before trigger.name row ∈
      (rel.insertEach table (row :: rest)).1.firings := by
  have fired : Firing.before trigger.name row ∈
      (execBRInsertTriggers table.contents rel.before row).1 := by
    rw [isFirst, execBRInsertTriggers]
    rcases trigger.body table.contents row with error | ⟨contents, _ | newRow⟩
    · exact List.mem_cons_self
    · exact List.mem_cons_self
    · exact List.mem_cons_self
  obtain ⟨more, firings⟩ := rel.insertSingle_firings table row
  have inserted : Firing.before trigger.name row ∈
      (rel.insertSingle table row).1.firings := by
    rw [firings]
    exact List.mem_append_left _ (List.mem_append_right _ fired)
  exact Inserted.mem_firings_andThen inserted fun table wasFired =>
    rel.mem_firings_insertEach table rest wasFired

/-- A relation with a BEFORE trigger shows it at two rows that stand
together. -/
theorem Relation.BulkSame.no_before
    {rel : Relation Row World Err} (same : rel.BulkSame)
    (holdsTwo : rel.HoldsTwoRows) : rel.before = [] := by
  obtain ⟨contents, first, second, small, noError⟩ := holdsTwo
  cases isBefore : rel.before with
  | nil => rfl
  | cons trigger others =>
      have atRun := same contents.fresh [first, second]
      rw [Relation.applyRun_batch (rel.batch_two second small)] at atRun
      have fired := rel.before_fired isBefore contents.fresh first [second]
      obtain ⟨more, firings, noBefore⟩ :=
        rel.insertBulk_firings contents.fresh first [second]
      rw [(firings_of_observe_eq atRun noError).2, firings] at fired
      exact absurd fired (noBefore trigger.name first)

/-- The bulk insert raises no errors of constraints. -/
theorem Relation.indexSlots_error
    (rel : Relation Row World Err) (indexed batch : List Row)
    {error : InsertError Err}
    (raised : (rel.indexSlots indexed batch).2 = some error) :
    ∃ found, error = .index found := by
  induction batch generalizing indexed with
  | nil => cases raised
  | cons row rest inductionHypothesis =>
      rw [Relation.indexSlots_cons] at raised
      cases objection : rel.indexError indexed row with
      | some found =>
          rw [objection] at raised
          cases raised
          exact ⟨found, rfl⟩
      | none =>
          rw [objection] at raised
          exact inductionHypothesis _ raised

/-- The end of an insert raises no errors of constraints. -/
theorem Relation.finishInsert_error
    (rel : Relation Row World Err) {inserted : Inserted Row World Err}
    {queue : Queue Row World Err} {last : Row} {error : InsertError Err}
    (raised : (rel.finishInsert inserted queue last).2 = some error) :
    inserted.2 = some error ∨ ∃ found, error = .after found := by
  unfold Relation.finishInsert at raised
  rcases Inserted.error_of_andThen raised with before | later
  · exact .inl before
  · rcases Inserted.error_of_andThen later with fired | registered
    · exact .inr (afterTriggerEndQuery_error fired)
    · cases registered

theorem Relation.insertBulk_error
    (rel : Relation Row World Err) (table : Table Row World) (first : Row)
    (others : List Row) (error : Err) :
    (rel.insertBulk table first others).2 ≠ some (.constraint error) := by
  intro raised
  rcases rel.finishInsert_error raised with atSlots | ⟨found, isAfter⟩
  · obtain ⟨found, isIndex⟩ :=
      rel.indexSlots_error table.contents.rows (first :: others) atSlots
    cases isIndex
  · cases isAfter

/-- Without BEFORE triggers a row that fails a constraint is refused. -/
theorem Relation.insertSingle_of_constraint
    {rel : Relation Row World Err} (noBefore : rel.before = [])
    (table : Table Row World) {row : Row} {error : Err}
    (fails : rel.constraints row = some error) :
    (rel.insertSingle table row).2 = some (.constraint error) := by
  simp [Relation.insertSingle, Relation.execSimpleRelationInsert, noBefore,
    execBRInsertTriggers, fails, Relation.finishInsert, Inserted.andThen]

/-- Without BEFORE triggers only the constraints of a row refuse it. -/
theorem Relation.constraint_of_insertSingle
    {rel : Relation Row World Err} (noBefore : rel.before = [])
    (table : Table Row World) {row : Row} {error : Err}
    (refused : (rel.insertSingle table row).2 = some (.constraint error)) :
    rel.constraints row = some error := by
  cases fails : rel.constraints row with
  | some found =>
      rw [rel.insertSingle_of_constraint noBefore table fails] at refused
      cases refused
      rfl
  | none =>
      rcases rel.finishInsert_error refused with inserted | ⟨found, isAfter⟩
      · simp only [noBefore, execBRInsertTriggers, fails] at inserted
        cases objection : rel.indexError table.contents.rows row with
        | none => simp [objection] at inserted
        | some found => simp [objection] at inserted
      · cases isAfter

/-- Only the last record of a run can fail a constraint. -/
theorem Relation.constraint_of_applyRecords
    {rel : Relation Row World Err} (noBefore : rel.before = []) (fuel : ℕ)
    (table : Table Row World) (run : List Row) {error : Err}
    (refused : (rel.applyRecords fuel table run).2 =
      some (.constraint error)) :
    ∃ last, run.getLast? = some last ∧ rel.constraints last = some error := by
  induction fuel generalizing table run with
  | zero => cases run <;> cases refused
  | succ fuel inductionHypothesis =>
      cases run with
      | nil => cases refused
      | cons row rest =>
          rcases Inserted.error_of_andThen refused with here | later
          · cases rest with
            | nil =>
                exact ⟨row, rfl,
                  rel.constraint_of_insertSingle noBefore table here⟩
            | cons next rest =>
                exact absurd here (rel.insertBulk_error table row
                  (rel.bufferTuples 1 (rel.tLen row) (next :: rest)).1 error)
          · obtain ⟨last, isLast, fails⟩ := inductionHypothesis _ _ later
            refine ⟨last, ?_, fails⟩
            cases rest with
            | nil => cases isLast
            | cons next rest =>
                have isLast : (rel.bufferTuples 1 (rel.tLen row)
                    (next :: rest)).2.getLast? = some last := isLast
                rw [List.getLast?_cons_cons,
                  ← rel.bufferTuples_append 1 (rel.tLen row) (next :: rest),
                  List.getLast?_append, isLast]
                rfl

/-- A relation with a constraint shows it at a row that fails it. -/
theorem Relation.BulkSame.no_constraint
    {rel : Relation Row World Err} (same : rel.BulkSame)
    (holdsTwo : rel.HoldsTwoRows) (row : Row) :
    rel.constraints row = none := by
  have noBefore := same.no_before holdsTwo
  have atRun (table : Table Row World) (row last : Row) (error : Err)
      (fails : rel.constraints row = some error) :
      rel.constraints last = some error := by
    have refused : (observe (rel.insertEach table [row, last])).2 =
        .error (.constraint error) := by
      rw [observe_eq_error]
      exact Inserted.andThen_error
        (rel.insertSingle_of_constraint noBefore table fails) _
    rw [← same, observe_eq_error] at refused
    obtain ⟨found, isLast, lastFails⟩ :=
      rel.constraint_of_applyRecords noBefore _ table [row, last] refused
    cases isLast
    exact lastFails
  obtain ⟨contents, first, second, small, noError⟩ := holdsTwo
  by_contra fails
  obtain ⟨error, isError⟩ := Option.ne_none_iff_exists'.mp fails
  -- every last record would fail the same constraint, also the first of a batch
  have firstFails := atRun contents.fresh row first error isError
  have inBulk := same contents.fresh [first, second]
  rw [Relation.applyRun_batch (rel.batch_two second small)] at inBulk
  have accepted := (firings_of_observe_eq inBulk noError).1
  have refused := Inserted.andThen_error
    (rel.insertSingle_of_constraint noBefore contents.fresh firstFails)
    fun table => rel.insertEach table [second]
  rw [Relation.insertEach, refused] at accepted
  cases accepted

/-- A row of `mtm.local_tables` is not stored twice. -/
theorem Relation.indexError_self
    {rel : Relation Row World Err} (isLocal : rel.localTables = true)
    (row : Row) :
    ∃ error, rel.indexError [row] row = some error := by
  obtain ⟨index, isIndex, unique⟩ := rel.localTables_unique isLocal
  apply Option.ne_none_iff_exists'.mp
  unfold Relation.indexError
  rw [Ne, List.findSome?_eq_none_iff]
  intro accepts
  exact unique [row] row List.mem_cons_self (accepts index isIndex)

theorem Relation.execSimpleRelationInsert_registered
    (rel : Relation Row World Err) (table : Table Row World) (row : Row) :
    (rel.execSimpleRelationInsert table row).1.1.registered =
      table.registered := by
  unfold Relation.execSimpleRelationInsert
  obtain ⟨fired, result⟩ := execBRInsertTriggers table.contents rel.before row
  cases result with
  | error error => rfl
  | ok going =>
      obtain ⟨contents, changed⟩ := going
      cases changed with
      | none => rfl
      | some changed =>
          simp only
          cases rel.constraints changed with
          | some error => rfl
          | none =>
              simp only
              cases rel.indexError contents.rows changed <;> rfl

theorem Relation.subset_makeTableLocal
    (rel : Relation Row World Err) (table : Table Row World) (row : Row) :
    table.registered ⊆ (rel.makeTableLocal table row).registered := by
  unfold Relation.makeTableLocal
  split
  · split
    · exact Finset.subset_insert _ _
    · exact Finset.Subset.refl _
  · exact Finset.Subset.refl _

/-- What was registered stays registered. -/
theorem Inserted.subset_andThen
    {first : Inserted Row World Err}
    {second : Table Row World → Inserted Row World Err}
    (grows : ∀ table, table.registered ⊆ (second table).1.registered) :
    first.1.registered ⊆ (first.andThen second).1.registered := by
  obtain ⟨table, error⟩ := first
  cases error with
  | none => exact grows table
  | some error => exact Finset.Subset.refl _

theorem Relation.subset_insertEach
    (rel : Relation Row World Err) (table : Table Row World)
    (run : List Row) :
    table.registered ⊆ (rel.insertEach table run).1.registered := by
  induction run generalizing table with
  | nil => exact Finset.Subset.refl _
  | cons row rest inductionHypothesis =>
      have single :
          table.registered ⊆ (rel.insertSingle table row).1.registered := by
        rw [Relation.insertSingle_eq,
          ← rel.execSimpleRelationInsert_registered table row]
        refine Finset.Subset.trans ?_ (Inserted.subset_andThen fun later =>
          rel.subset_makeTableLocal later row)
        exact Inserted.subset_andThen fun later =>
          (afterTriggerEndQuery_registered _ later).symm.subset
      exact single.trans (Inserted.subset_andThen inductionHypothesis)

/-- `mtm.local_tables` shows the tables that are not registered. -/
theorem Relation.BulkSame.no_table
    {rel : Relation Row World Err} (same : rel.BulkSame)
    (holdsTwo : rel.HoldsTwoRows) (isLocal : rel.localTables = true)
    (row : Row) (small : rel.tLen row < maxBufferedTuplesSize) :
    rel.relid row = none := by
  have noBefore := same.no_before holdsTwo
  have noConstraint := same.no_constraint holdsTwo
  obtain ⟨contents, -⟩ := holdsTwo
  obtain ⟨error, rejected⟩ := rel.indexError_self isLocal row
  cases names : rel.relid row with
  | none => rfl
  | some relid =>
      have slots : observe (rel.insertSlots [] contents.emptied [row, row]) =
          observe ((contents.emptied, some (.index error)) :
            Inserted Row World Err) := by
        rw [Relation.insertSlots_cons]
        simp only [Contents.emptied, Contents.fresh, rel.indexError_nil]
        rw [Relation.insertSlots_cons]
        simp only [Table.store, List.nil_append, rejected, observe]
      have inBulk := same contents.emptied [row, row]
      rw [Relation.applyRun_batch (rel.batch_two row small),
        Relation.insertBulk_eq,
        observe_andThen_congr slots fun _ => rfl] at inBulk
      have refused := observe_eq_error.mp (congrArg Prod.snd inBulk).symm
      have nothing : (rel.insertEach contents.emptied [row, row]).1.registered =
          ∅ := by
        rw [← observe_registered, ← inBulk]
        rfl
      have inserted : rel.execSimpleRelationInsert contents.emptied row =
          ((contents.emptied.store [row], none),
            rel.execARInsertTriggers row) := by
        simp [Relation.execSimpleRelationInsert, noBefore, noConstraint,
          execBRInsertTriggers, Contents.emptied, Contents.fresh,
          rel.indexError_nil]
      rw [Relation.insertEach, Relation.insertSingle_eq, inserted]
        at refused nothing
      cases fired : afterTriggerEndQuery (rel.execARInsertTriggers row)
        (contents.emptied.store [row]) with
      | mk later raised =>
          simp only [Inserted.andThen, fired] at refused nothing
          cases raised with
          | some raised =>
              -- an AFTER trigger objects before the second record is read
              obtain ⟨found, isAfter⟩ :=
                afterTriggerEndQuery_error (congrArg Prod.snd fired)
              rw [isAfter] at refused
              cases refused
          | none =>
              have registered : relid ∈
                  (rel.makeTableLocal later row).registered := by
                simp [Relation.makeTableLocal, isLocal, names]
              have kept := rel.subset_insertEach
                (rel.makeTableLocal later row) [row] registered
              rw [nothing] at kept
              cases kept

/-- A batch of a relation without anything that is left out. -/
theorem Relation.BulkSame.observe_insertBulk
    {rel : Relation Row World Err} (same : rel.BulkSame)
    (direct : rel.Direct) {first : Row} {others : List Row}
    (batch : rel.Batch first others) (table : Table Row World) :
    observe (rel.insertBulk table first others) =
      observe (rel.insertEach table (first :: others)) := by
  cases others with
  | nil =>
      rw [← direct.observe_insertSingle, Relation.insertEach]
      exact congrArg observe (Inserted.andThen_done _).symm
  | cons second others =>
      rw [← same, Relation.applyRun_batch batch]

/-- A relation whose AFTER triggers may not be fired early shows it. -/
theorem Relation.BulkSame.after_early
    {rel : Relation Row World Err} (same : rel.BulkSame)
    (direct : rel.Direct) : rel.AfterEarly := by
  intro table first others batch accepted
  cases others with
  | nil =>
      simp only [Relation.insertSlots_nil, afterTriggerEndQuery]
      rw [Inserted.andThen_done]
  | cons second others =>
      have single := direct.observe_insertSingle_small table batch.small
      rw [accepted] at single
      have inBulk := same.observe_insertBulk direct batch table
      have oneByOne : observe (rel.insertEach table
          (first :: second :: others)) =
          observe ((afterTriggerEndQuery (rel.execARInsertTriggers first)
            (table.store [first])).andThen fun table =>
              rel.insertBulk table second others) :=
        observe_andThen_congr single fun later =>
          (same.observe_insertBulk direct batch.tail later).symm
      rw [oneByOne] at inBulk
      have slots := rel.insertSlots_cons [] table first (second :: others)
      rw [accepted, List.nil_append] at slots
      simp only [Relation.insertBulk_eq] at inBulk
      rw [← Inserted.andThen_assoc] at inBulk
      have results := congrArg Prod.snd inBulk
      simp only [List.getLastD_cons] at results
      rw [rel.observe_makeTableLocal, rel.observe_makeTableLocal,
        slots] at results
      exact results

/-- A row of `mtm.syncpoints`. -/
structure SyncpointRow where
  receiverNodeId : ℕ
  originNodeId : ℕ
  originLsn : ℕ
  receiverLsn : ℕ
  deriving DecidableEq

/-- `syncpoints_idx`. -/
def syncpointsIdx (rows : List SyncpointRow) (row : SyncpointRow) :
    Option String :=
  if ∃ other ∈ rows, other.receiverNodeId = row.receiverNodeId ∧
      other.originNodeId = row.originNodeId ∧
      other.originLsn = row.originLsn then
    some "syncpoints_idx"
  else none

/-- `mtm.syncpoints`, with triggers or without. -/
def syncpoints
    (before : List (BeforeTrigger SyncpointRow Unit String))
    (after : List (AfterTrigger SyncpointRow Unit String)) :
    Relation SyncpointRow Unit String where
  before := before
  constraints _ := none
  indexes := [syncpointsIdx]
  after := after
  tLen _ := 56
  localTables := false
  relid _ := none
  index_nil := by simp [syncpointsIdx]
  localTables_unique := by simp

/-- `syncpoints_trigger` as it is for an insert. -/
def syncpointsTrigger : BeforeTrigger SyncpointRow Unit String where
  name := "syncpoints_trigger"
  body contents row := .ok (contents, some row)

/-- A trigger that leaves the row it is fired for alone in the table. -/
def onlyNewest : AfterTrigger SyncpointRow Unit String where
  name := "only_newest"
  body contents row :=
    .ok { contents with rows := contents.rows.filter fun other => other = row }

/-- Two rows of the table, one after the other. -/
def twoSyncpoints : List SyncpointRow := [⟨1, 2, 100, 500⟩, ⟨1, 2, 200, 600⟩]

/-- The table before anything is inserted. -/
def noSyncpoints : Contents SyncpointRow Unit where
  rows := []
  elsewhere := ()

theorem syncpoints_holdsTwoRows
    (before : List (BeforeTrigger SyncpointRow Unit String)) :
    (syncpoints before []).HoldsTwoRows :=
  ⟨noSyncpoints, ⟨1, 2, 100, 500⟩, ⟨1, 2, 200, 600⟩,
    by simp [syncpoints, maxBufferedTuplesSize], rfl⟩

end Apply
end Multimaster
