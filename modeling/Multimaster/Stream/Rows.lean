import Multimaster.Stream.Step

/-!
# Rows reach the relation they were written for

The invariant of the row stream: whichever apply process the transaction being
decoded is going to, that process will accept the records written so far, and
will then have open what the sender thinks it has open.  From it, every run in
which no table is broadcast inside a schema change is applied without failure,
and every row action is executed on the relation it was written for.
-/

namespace Multimaster
namespace Stream

/-- The names of a relation precede all headers without names. -/
def NamesFirst (records : List Record) : Prop :=
  ∀ before relid after, records = before ++ .relation relid none :: after →
    ∃ names, .relation relid (some names) ∈ before

theorem NamesFirst.append
    {records further : List Record}
    (namesFirst : NamesFirst records)
    (headers : ∀ relid, .relation relid none ∈ further →
      ∃ names, .relation relid (some names) ∈ records) :
    NamesFirst (records ++ further) := by
  intro before relid after split
  rcases List.append_eq_append_iff.mp split with
    ⟨middle, isBefore, isFurther⟩ | ⟨middle, isRecords, isRest⟩
  · have member : Record.relation relid none ∈ further := by
      rw [isFurther]
      simp
    obtain ⟨names, isNamed⟩ := headers relid member
    exact ⟨names, by rw [isBefore]; exact List.mem_append_left _ isNamed⟩
  · cases middle with
    | nil =>
        have member : Record.relation relid none ∈ further := by
          rw [List.nil_append] at isRest
          rw [← isRest]
          exact List.mem_cons_self
        obtain ⟨names, isNamed⟩ := headers relid member
        refine ⟨names, ?_⟩
        rw [List.append_nil] at isRecords
        rw [← isRecords]
        exact isNamed
    | cons head tail =>
        rw [List.cons_append, List.cons.injEq] at isRest
        rw [← isRest.1] at isRecords
        exact namesFirst before relid tail isRecords

/-! ## What a callback writes -/

/-- An output the receiver can follow.  It is stated over any process that is
in step with the sender, since the process is not known yet. -/
structure Output
    (oids : List (Oid × Oid)) (relations : List Common) (sender : Sender)
    (name : RelName) (output : Sender × List Record) : Prop where
  tid : output.1.mtmSenderTid = sender.mtmSenderTid
  entries : ∀ relid, output.1.relidMap relid = sender.relidMap relid ∨
    (output.1.relidMap relid = sender.mtmSenderTid ∧
      ∃ names, .relation relid (some names) ∈ output.2)
  headers : ∀ relid, .relation relid none ∈ output.2 →
    sender.relidMap relid = sender.mtmSenderTid
  applied : ∀ applier, Follows oids relations sender applier →
    ∃ next, applyInside output.2 applier = some next ∧
      Follows oids relations output.1 next ∧
      next.executed = applier.executed ++ rowsFor name output.2

section Outputs

variable {oids : List (Oid × Oid)} {relations : List Common}
variable {sender : Sender} {relation : Common}

/-- Writing nothing. -/
theorem output_nil (name : RelName) :
    Output oids relations sender name (sender, []) where
  tid := rfl
  entries := fun _ => Or.inl rfl
  headers := fun _ member => absurd member List.not_mem_nil
  applied := fun applier follows =>
    ⟨applier, rfl, follows, by simp [rowsFor]⟩

theorem lt_next_tid
    {entry tid : ℕ}
    (bounded : entry ≤ tid)
    (small : tid < 2 ^ 32)
    (regular : (tid + 1) % 2 ^ 32 ≠ 0) :
    entry < (tid + 1) % 2 ^ 32 := by
  omega

/-- `BEGIN` takes an identifier that no entry of the map has. -/
theorem pglogicalWriteBegin_fresh
    {sender : Sender}
    (bounded : ∀ relid, sender.relidMap relid ≤ sender.mtmSenderTid)
    (small : sender.mtmSenderTid < 2 ^ 32) :
    (∀ relid, (pglogicalWriteBegin sender).1.relidMap relid <
        (pglogicalWriteBegin sender).1.mtmSenderTid) ∧
      (pglogicalWriteBegin sender).1.mtmSenderTid < 2 ^ 32 := by
  have wrapped := Nat.mod_lt (sender.mtmSenderTid + 1) (Nat.two_pow_pos 32)
  unfold pglogicalWriteBegin
  dsimp only
  split
  · next wraps =>
      dsimp only
      rw [wraps]
      exact ⟨fun _ => Nat.one_pos, by decide⟩
  · next regular =>
      exact ⟨fun relid => lt_next_tid (bounded relid) small regular, wrapped⟩

theorem pglogicalWriteRel_tid (rel : Relation) (sender : Sender) :
    (pglogicalWriteRel rel sender).1.mtmSenderTid = sender.mtmSenderTid := by
  unfold pglogicalWriteRel
  split_ifs <;> rfl

theorem pglogicalWriteRel_ddlInProgress (rel : Relation) (sender : Sender) :
    (pglogicalWriteRel rel sender).1.ddlInProgress =
      sender.ddlInProgress := by
  unfold pglogicalWriteRel
  split_ifs <;> rfl

theorem pglogicalWriteRel_entries
    (rel : Relation) (sender : Sender) (relid : Oid) :
    (pglogicalWriteRel rel sender).1.relidMap relid =
        sender.relidMap relid ∨
      ((pglogicalWriteRel rel sender).1.relidMap relid =
          sender.mtmSenderTid ∧
        ∃ names, .relation relid (some names) ∈
          (pglogicalWriteRel rel sender).2) := by
  unfold pglogicalWriteRel
  split_ifs
  · exact Or.inl rfl
  · exact Or.inl rfl
  · exact Or.inl rfl
  · by_cases same : relid = rel.relid
    · right
      refine ⟨by simp [same], rel.name, ?_⟩
      rw [same]
      exact List.mem_cons_self
    · left
      simp [same]

theorem pglogicalWriteRel_headers
    {rel : Relation} {sender : Sender} {relid : Oid}
    (member : .relation relid none ∈ (pglogicalWriteRel rel sender).2) :
    sender.relidMap relid = sender.mtmSenderTid := by
  unfold pglogicalWriteRel at member
  split_ifs at member with ddl last named
  · cases member
  · cases member
  · cases List.mem_singleton.mp member
    exact named
  · cases List.mem_singleton.mp member

theorem rowsFor_pglogicalWriteRel
    (name : RelName) (rel : Relation) (sender : Sender) :
    rowsFor name (pglogicalWriteRel rel sender).2 = [] := by
  unfold pglogicalWriteRel
  split_ifs <;> rfl

/-- Resetting `MtmLastRelId` promises less to the sender. -/
theorem Follows.reset
    {applier : Applier}
    (matched : Matched oids)
    (live : Live oids relations)
    (follows : Follows oids relations sender applier)
    (rel : Option Oid) (ddlInProgress bdrLike : Bool) :
    Follows oids relations
      { sender with
        mtmLastRelId := invalidOid, ddlInProgress := ddlInProgress }
      { applier with rel := rel, bdrLike := bdrLike } where
  catalog := follows.catalog
  mapped := follows.mapped
  named := follows.named
  opened := by
    intro relation member isLast _
    have valid := (matched.valid _ (live.known relation member)).1
    exact absurd isLast valid

/-- A header followed by rows writes what the receiver can follow, if it can
apply it. -/
theorem output_of_header
    {name : RelName} {rel : Relation} {rows : List Record}
    (noHeader : ∀ relid names, .relation relid names ∉ rows)
    (applied : ∀ applier, Follows oids relations sender applier →
      ∃ next,
        applyInside ((pglogicalWriteRel rel sender).2 ++ rows) applier =
          some next ∧
        Follows oids relations (pglogicalWriteRel rel sender).1 next ∧
        next.executed = applier.executed ++ rowsFor name rows) :
    Output oids relations sender name
      ((pglogicalWriteRel rel sender).1,
        (pglogicalWriteRel rel sender).2 ++ rows) where
  tid := pglogicalWriteRel_tid rel sender
  entries := by
    intro relid
    rcases pglogicalWriteRel_entries rel sender relid with
      same | ⟨isTid, names, isNamed⟩
    · exact Or.inl same
    · exact Or.inr ⟨isTid, names, List.mem_append_left _ isNamed⟩
  headers := by
    intro relid isHeader
    rcases List.mem_append.mp isHeader with inHeader | inRows
    · exact pglogicalWriteRel_headers inHeader
    · exact absurd inRows (noHeader relid none)
  applied := by
    intro applier follows
    obtain ⟨next, isNext, nextFollows, executed⟩ := applied applier follows
    refine ⟨next, isNext, nextFollows, ?_⟩
    rw [executed, rowsFor_append, rowsFor_pglogicalWriteRel, List.nil_append]

/-- A header, then row actions that leave the relation open. -/
theorem output_rows
    (matched : Matched oids)
    (live : Live oids relations)
    (member : relation ∈ relations)
    (isTable : relation.2.kind = .table)
    (outside : sender.ddlInProgress = false)
    (actions : List RowAction)
    (stay : ∀ action ∈ actions, action ≠ .nextval) :
    let header :=
      pglogicalWriteRel ⟨relation.1.1, relation.2.name⟩ sender
    Output oids relations sender relation.2.name
      (header.1, header.2 ++ actions.map Record.row) := by
  intro header
  refine output_of_header (fun relid names inRows => ?_) ?_
  · simp at inRows
  · intro applier follows
    obtain ⟨next, applied, nextFollows, isOpen, sameExecuted⟩ :=
      applyInside_pglogicalWriteRel matched live follows member outside
        (Or.inl isTable)
    have found : next.catalog.entry relation.1.2 = some relation.2 := by
      rw [nextFollows.catalog]
      exact entry_view Prod.snd (fun first isFirst second isSecond same =>
        matched.unique first isFirst second isSecond (Or.inr same)) live member
    refine ⟨{ next with
      executed := next.executed ++
        actions.map fun action => (action, relation.2.name) }, ?_, ?_, ?_⟩
    · rw [applyInside_append, applied, Option.bind_some]
      exact applyInside_rows isOpen found actions stay
    · exact ⟨nextFollows.catalog, nextFollows.mapped, nextFollows.named,
        nextFollows.opened⟩
    · rw [rowsFor_map_row, sameExecuted]

/-- `pg_decode_change` of a table. -/
theorem output_pgDecodeChange
    (matched : Matched oids)
    (live : Live oids relations)
    (member : relation ∈ relations)
    (isTable : relation.2.kind = .table)
    (change : Change) :
    Output oids relations sender relation.2.name
      (pgDecodeChange change ⟨relation.1.1, relation.2.name⟩ sender) := by
  unfold pgDecodeChange
  dsimp only
  rw [pglogicalWriteRel_ddlInProgress]
  cases outside : sender.ddlInProgress with
  | true =>
      have silent : pglogicalWriteRel ⟨relation.1.1, relation.2.name⟩ sender =
          (sender, []) := by
        rw [pglogicalWriteRel, outside]
        rfl
      rw [silent]
      exact output_nil relation.2.name
  | false =>
      have rows : ∃ actions : List RowAction,
          (∀ action ∈ actions, action ≠ .nextval) ∧
            change.record = actions.map Record.row := by
        cases change with
        | insert => exact ⟨[.insert], by simp, rfl⟩
        | update => exact ⟨[.update], by simp, rfl⟩
        | delete oldtuple =>
            cases oldtuple with
            | true => exact ⟨[.delete], by simp, rfl⟩
            | false => exact ⟨[], by simp, rfl⟩
      obtain ⟨actions, stay, isRecord⟩ := rows
      simp only [Bool.false_eq_true, if_false]
      rw [isRecord]
      exact output_rows matched live member isTable outside actions stay

/-- `pglogical_broadcast_table` outside schema changes. -/
theorem output_pglogicalBroadcastTable
    (matched : Matched oids)
    (live : Live oids relations)
    (member : relation ∈ relations)
    (isTable : relation.2.kind = .table)
    {targeted : Bool}
    (outside : targeted = true → sender.ddlInProgress = false)
    (rows : ℕ) :
    Output oids relations sender relation.2.name
      (pglogicalBroadcastTable targeted rows
        ⟨relation.1.1, relation.2.name⟩ sender) := by
  unfold pglogicalBroadcastTable
  cases targeted with
  | false => exact output_nil relation.2.name
  | true =>
      have isMap : Record.row .truncate ::
          List.replicate rows (Record.row .insert) =
            (RowAction.truncate :: List.replicate rows .insert).map
              Record.row := by
        rw [List.map_cons, List.map_replicate]
      simp only [if_true]
      rw [isMap]
      refine output_rows matched live member isTable (outside rfl) _ ?_
      intro action isAction
      rcases List.mem_cons.mp isAction with rfl | isInsert
      · simp
      · rw [List.eq_of_mem_replicate isInsert]
        simp

/-- `pglogical_seq_nextval`: the receiver closes the sequence again, and the
sender goes on to take it for open. -/
theorem output_pglogicalSeqNextval
    (matched : Matched oids)
    (live : Live oids relations)
    (member : relation ∈ relations)
    (isSequence : relation.2.kind = .sequence)
    (outside : sender.ddlInProgress = false)
    (noLast : sender.mtmLastRelId = invalidOid) :
    Output oids relations sender relation.2.name
      (pglogicalSeqNextval ⟨relation.1.1, relation.2.name⟩ sender) := by
  unfold pglogicalSeqNextval
  refine output_of_header (fun relid names inRows => ?_) ?_
  · simp at inRows
  · intro applier follows
    obtain ⟨next, applied, nextFollows, isOpen, sameExecuted⟩ :=
      applyInside_pglogicalWriteRel matched live follows member outside
        (Or.inr noLast)
    have found : next.catalog.entry relation.1.2 = some relation.2 := by
      rw [nextFollows.catalog]
      exact entry_view Prod.snd (fun first isFirst second isSecond same =>
        matched.unique first isFirst second isSecond (Or.inr same)) live member
    have isLast : (pglogicalWriteRel ⟨relation.1.1, relation.2.name⟩
        sender).1.mtmLastRelId = relation.1.1 := by
      have valid := (matched.valid _ (live.known relation member)).1
      have notLast : ¬ relation.1.1 = sender.mtmLastRelId := by
        rw [noLast]
        exact valid
      unfold pglogicalWriteRel
      rw [outside]
      simp only [Bool.false_eq_true, if_false, notLast]
      split_ifs <;> rfl
    refine ⟨{ next with
      rel := none
      executed := next.executed ++ [(.nextval, relation.2.name)] },
      ?_, ?_, ?_⟩
    · rw [applyInside_append, applied, Option.bind_some]
      refine applyInside_singleton ?_
      simp [applyRecord, onRel, isOpen, found, Except.map]
    · refine ⟨nextFollows.catalog, nextFollows.mapped, nextFollows.named, ?_⟩
      intro other isOther same isTable
      -- the relation left in `MtmLastRelId` is a sequence
      have pair := matched.unique _ (live.known other isOther) _
        (live.known relation member) (Or.inl (same.trans isLast))
      have equal := List.inj_on_of_nodup_map live.distinct isOther member pair
      rw [equal, isSequence] at isTable
      cases isTable
    · rw [sameExecuted]
      rfl

end Outputs

/-! ## The invariant -/

/-- The state in which an apply process starts on the transaction. -/
def World.start (world : World) (process : ℕ) : Applier where
  rel := none
  relidMap := world.maps process
  bdrLike := false
  catalog := world.localCatalog
  executed := world.executed

/-- The transaction being decoded. -/
structure Decoding
    (world : World) (relations : List Common) (buffer : List Record) :
    Prop where
  namesFirst : NamesFirst buffer
  named : ∀ relid,
    world.sender.relidMap relid = world.sender.mtmSenderTid →
    ∃ names, .relation relid (some names) ∈ buffer
  applied : ∀ process, ∃ applier,
    applyInside buffer (world.start process) = some applier ∧
    Follows world.oids relations world.sender applier ∧
    applier.executed = world.written

/-- The invariant of the row stream. -/
structure InStep (world : World) (relations : List Common) : Prop where
  matched : Matched world.oids
  live : Live world.oids relations
  catalog : world.catalog = view Prod.fst relations
  bounded : ∀ relid,
    world.sender.relidMap relid ≤ world.sender.mtmSenderTid
  small : world.sender.mtmSenderTid < 2 ^ 32
  mapped : ∀ process relid, world.maps process relid ≠ invalidOid →
    (relid, world.maps process relid) ∈ world.oids
  healthy : world.failure = none
  sent : ∀ records ∈ world.sent, NamesFirst records
  idle : world.buffer = none →
    world.localCatalog = view Prod.snd relations ∧
      world.executed = world.written
  busy : ∀ buffer, world.buffer = some buffer →
    Decoding world relations buffer

namespace InStep

variable {world : World} {relations : List Common}

theorem relation_of_kind
    (inStep : InStep world relations)
    {relid : Oid} {kind : RelKind}
    (isKind : (world.catalog.entry relid).map Entry.kind = some kind) :
    ∃ relation ∈ relations, relation.2.kind = kind ∧
      world.relation relid = ⟨relation.1.1, relation.2.name⟩ := by
  obtain ⟨entry, found, hasKind⟩ := Option.map_eq_some_iff.mp isKind
  have inView := found
  rw [inStep.catalog] at inView
  obtain ⟨pair, member, isOid⟩ := mem_of_entry_view inView
  refine ⟨(pair, entry), member, hasKind, ?_⟩
  simp [World.relation, found, isOid]

/-- Steps inside a transaction that leave the catalogs alone. -/
theorem write
    (inStep : InStep world relations)
    {buffer : List Record}
    (isBuffer : world.buffer = some buffer)
    {name : RelName} {output : Sender × List Record}
    (isOutput : Output world.oids relations world.sender name output) :
    InStep (world.write name output) relations := by
  have decoding := inStep.busy buffer isBuffer
  have written : (world.write name output).buffer =
      some (buffer ++ output.2) := by
    rw [World.write, isBuffer]
    rfl
  refine ⟨inStep.matched, inStep.live, inStep.catalog, ?_, ?_, inStep.mapped,
    inStep.healthy, inStep.sent, ?_, ?_⟩
  · intro relid
    change output.1.relidMap relid ≤ output.1.mtmSenderTid
    rw [isOutput.tid]
    rcases isOutput.entries relid with same | ⟨isTid, _⟩
    · rw [same]
      exact inStep.bounded relid
    · exact Nat.le_of_eq isTid
  · change output.1.mtmSenderTid < 2 ^ 32
    rw [isOutput.tid]
    exact inStep.small
  · intro isIdle
    rw [written] at isIdle
    cases isIdle
  · intro extended isExtended
    rw [written, Option.some.injEq] at isExtended
    subst isExtended
    refine ⟨decoding.namesFirst.append ?_, ?_, ?_⟩
    · intro relid isHeader
      exact decoding.named relid (isOutput.headers relid isHeader)
    · intro relid isNamed
      change output.1.relidMap relid = output.1.mtmSenderTid at isNamed
      rcases isOutput.entries relid with same | ⟨_, names, isHeader⟩
      · rw [same, isOutput.tid] at isNamed
        obtain ⟨names, isHeader⟩ := decoding.named relid isNamed
        exact ⟨names, List.mem_append_left _ isHeader⟩
      · exact ⟨names, List.mem_append_right _ isHeader⟩
    · intro process
      obtain ⟨applier, applied, follows, executed⟩ :=
        decoding.applied process
      obtain ⟨next, further, nextFollows, nextExecuted⟩ :=
        isOutput.applied applier follows
      refine ⟨next, ?_, nextFollows, ?_⟩
      · change applyInside (buffer ++ output.2) (world.start process) = _
        rw [applyInside_append, applied]
        exact further
      · rw [nextExecuted, executed]
        rfl

/-- Every message but `D` writes what the receiver can follow. -/
theorem output_message
    (inStep : InStep world relations)
    {message : Message}
    (notDdl : ∀ ddl, message ≠ .ddl ddl)
    (valid : ValidMessage world message)
    (permitted : CopiesOutsideDdl world (.message message)) :
    let rel := world.relation (message.relid.getD invalidOid)
    Output world.oids relations world.sender rel.name
      (pglogicalWriteMessage message rel world.sender) := by
  intro rel
  -- `MtmLastRelId` is reset first, which every process can follow
  let reset : Sender := { world.sender with mtmLastRelId := invalidOid }
  have resets : ∀ output : Sender × List Record,
      Output world.oids relations reset rel.name output →
      Output world.oids relations world.sender rel.name output := by
    intro output isOutput
    refine ⟨isOutput.tid, isOutput.entries, isOutput.headers, ?_⟩
    intro applier follows
    exact isOutput.applied applier
      (follows.reset inStep.matched inStep.live applier.rel
        world.sender.ddlInProgress applier.bdrLike)
  cases message with
  | ddl ddl => exact absurd rfl (notDdl ddl)
  | ddlEnd =>
      refine ⟨rfl, fun _ => Or.inl rfl,
        fun _ isHeader => absurd isHeader List.not_mem_nil, ?_⟩
      intro applier follows
      refine ⟨applier, rfl, ?_, by simp [pglogicalWriteMessage, rowsFor]⟩
      exact follows.reset inStep.matched inStep.live applier.rel false
        applier.bdrLike
  | copyTable relid targeted rows =>
      obtain ⟨relation, member, isTable, isRel⟩ :=
        inStep.relation_of_kind valid
      have outside : targeted = true → reset.ddlInProgress = false := permitted
      have isOutput : Output world.oids relations reset relation.2.name
          (pglogicalBroadcastTable targeted rows
            ⟨relation.1.1, relation.2.name⟩ reset) :=
        output_pglogicalBroadcastTable inStep.matched inStep.live member
          isTable outside rows
      rw [← isRel] at isOutput
      refine resets _ ?_
      have sameName : rel.name = relation.2.name := by
        change (world.relation relid).name = _
        rw [isRel]
      rw [sameName]
      exact isOutput
  | nextval relid =>
      obtain ⟨relation, member, isSequence, isRel⟩ :=
        inStep.relation_of_kind valid
      refine resets _ ?_
      change Output world.oids relations reset rel.name
        (if world.sender.ddlInProgress then (reset, [])
          else pglogicalSeqNextval (world.relation relid) reset)
      cases outside : world.sender.ddlInProgress with
      | true => exact output_nil rel.name
      | false =>
          have isOutput : Output world.oids relations reset relation.2.name
              (pglogicalSeqNextval ⟨relation.1.1, relation.2.name⟩ reset) :=
            output_pglogicalSeqNextval inStep.matched inStep.live member
              isSequence outside rfl
          rw [← isRel] at isOutput
          have sameName : rel.name = relation.2.name := by
            change (world.relation relid).name = _
            rw [isRel]
          rw [sameName]
          exact isOutput
  | deadlock isRecovery => exact valid.elim
  | other label =>
      cases valid
      refine ⟨rfl, fun _ => Or.inl rfl, ?_, ?_⟩
      · intro relid isHeader
        cases List.mem_singleton.mp isHeader
      · intro applier follows
        refine ⟨{ applier with rel := none, bdrLike := true },
          applyInside_singleton rfl,
          follows.reset inStep.matched inStep.live none
            world.sender.ddlInProgress true, ?_⟩
        simp [pglogicalWriteMessage, rowsFor]

/-- `D`: both nodes change their catalogs. -/
theorem ddl
    (inStep : InStep world relations)
    {buffer : List Record}
    (isBuffer : world.buffer = some buffer)
    {ddl : Ddl}
    (valid : ValidDdl world ddl) :
    InStep (effect world (.message (.ddl ddl))) (ddl.common relations) := by
  have decoding := inStep.busy buffer isBuffer
  have grown : world.oids ⊆ (world.execute (.ddl ddl)).oids := by
    cases ddl with
    | create oids entry => exact List.subset_cons_self _ _
    | rename old new => exact fun _ member => member
    | drop name => exact fun _ member => member
    | other => exact fun _ member => member
  have matched := inStep.matched.execute valid
  have live := inStep.live.common inStep.catalog valid
  have isOids : (effect world (.message (.ddl ddl))).oids =
      (world.execute (.ddl ddl)).oids := by
    cases ddl <;> rfl
  have written : (effect world (.message (.ddl ddl))).buffer =
      some (buffer ++ [.message 'D' ddl]) := by
    change world.buffer.map _ = _
    rw [isBuffer]
    rfl
  refine ⟨by rw [isOids]; exact matched, by rw [isOids]; exact live, ?_,
    inStep.bounded, inStep.small, ?_, inStep.healthy, inStep.sent, ?_, ?_⟩
  · change ddl.run Prod.fst world.catalog = _
    rw [inStep.catalog, view_common]
  · intro process relid isMapped
    rw [isOids]
    exact grown (inStep.mapped process relid isMapped)
  · intro isIdle
    rw [written] at isIdle
    cases isIdle
  · intro extended isExtended
    rw [written, Option.some.injEq] at isExtended
    subst isExtended
    refine ⟨decoding.namesFirst.append ?_, ?_, ?_⟩
    · intro relid isHeader
      cases List.mem_singleton.mp isHeader
    · intro relid isNamed
      obtain ⟨names, isHeader⟩ := decoding.named relid isNamed
      exact ⟨names, List.mem_append_left _ isHeader⟩
    · intro process
      obtain ⟨applier, applied, follows, executed⟩ :=
        decoding.applied process
      refine ⟨{ applier with
        rel := none
        catalog := ddl.run Prod.snd applier.catalog }, ?_, ?_, ?_⟩
      · change applyInside (buffer ++ [.message 'D' ddl])
          (world.start process) = _
        rw [applyInside_append, applied, Option.bind_some]
        refine applyInside_singleton ?_
        simp [applyRecord, processRemoteMessage, Except.map]
      · rw [isOids]
        refine ⟨?_, ?_, follows.named, ?_⟩
        · rw [follows.catalog, view_common]
        · intro relid isMapped
          exact grown (follows.mapped relid isMapped)
        · intro relation member isLast _
          have validOid := (matched.valid _ (live.known relation member)).1
          exact absurd isLast validOid
      · rw [executed]
        change _ = world.written ++ rowsFor _ [.message 'D' ddl]
        simp [rowsFor]

/-- `BEGIN`: a new transaction identifier that no entry of the map has. -/
theorem begin
    (inStep : InStep world relations)
    (isIdle : world.buffer = none) :
    InStep (effect world .begin) relations := by
  obtain ⟨sameCatalog, sameExecuted⟩ := inStep.idle isIdle
  obtain ⟨newTid, small⟩ :=
    pglogicalWriteBegin_fresh inStep.bounded inStep.small
  refine ⟨inStep.matched, inStep.live, inStep.catalog,
    fun relid => Nat.le_of_lt (newTid relid), small, inStep.mapped,
      inStep.healthy,
    inStep.sent, ?_, ?_⟩
  · intro noBuffer
    cases noBuffer
  · intro buffer isBuffer
    cases isBuffer
    refine ⟨?_, ?_, ?_⟩
    · intro before relid after isSplit
      have member : Record.relation relid none ∈ [Record.begin] := by
        change [Record.begin] = _ at isSplit
        rw [isSplit]
        simp
      cases List.mem_singleton.mp member
    · intro relid isNamed
      exact absurd isNamed (Nat.ne_of_lt (newTid relid))
    · intro process
      refine ⟨world.start process, rfl, ⟨sameCatalog, inStep.mapped process,
        ?_, ?_⟩, sameExecuted⟩
      · intro relid isNamed
        exact absurd isNamed (Nat.ne_of_lt (newTid relid))
      · intro relation member isLast _
        have valid :=
          (inStep.matched.valid _ (inStep.live.known relation member)).1
        have noLast : (effect world .begin).sender.mtmLastRelId =
          invalidOid := rfl
        exact absurd (isLast.trans noLast) valid

/-- The end of a transaction: the process it goes to accepts it. -/
theorem finish
    (inStep : InStep world relations)
    {buffer : List Record}
    (isBuffer : world.buffer = some buffer)
    (process : ℕ) :
    InStep (effect world (.finish process)) relations := by
  have decoding := inStep.busy buffer isBuffer
  obtain ⟨applier, applied, follows, executed⟩ := decoding.applied process
  have accepted : mtmExecutor (buffer ++ [.commit]) (world.start process) =
      .ok { applier with rel := none } := mtmExecutor_commit applied
  have delivered : effect world (.finish process) =
      { world with
        buffer := none
        sent := (buffer ++ [.commit]) :: world.sent
        localCatalog := applier.catalog
        maps := Function.update world.maps process applier.relidMap
        executed := applier.executed } := by
    change world.deliver process (world.buffer.getD [] ++ [.commit]) = _
    rw [isBuffer, Option.getD_some, World.deliver]
    rw [World.start] at accepted
    rw [accepted]
  rw [delivered]
  refine ⟨inStep.matched, inStep.live, inStep.catalog, inStep.bounded,
    inStep.small, ?_, inStep.healthy, ?_,
      fun _ => ⟨follows.catalog, executed⟩, ?_⟩
  · intro other relid isMapped
    by_cases same : other = process
    · subst same
      simp only [Function.update_self] at isMapped ⊢
      exact follows.mapped relid isMapped
    · simp only [Function.update_of_ne same] at isMapped ⊢
      exact inStep.mapped other relid isMapped
  · intro records member
    rcases List.mem_cons.mp member with rfl | old
    · refine decoding.namesFirst.append ?_
      intro relid isHeader
      cases List.mem_singleton.mp isHeader
    · exact inStep.sent records old
  · intro other isOther
    cases isOther

/-- Every permitted callback keeps the invariant. -/
theorem step
    (inStep : InStep world relations)
    {callback : Callback}
    (enabled : Enabled world callback)
    (permitted : CopiesOutsideDdl world callback) :
    ∃ later, InStep (effect world callback) later := by
  cases callback with
  | begin => exact ⟨relations, inStep.begin enabled⟩
  | change passes change relid =>
      obtain ⟨busy, isTable⟩ := enabled
      obtain ⟨buffer, isBuffer⟩ := Option.isSome_iff_exists.mp busy
      obtain ⟨relation, member, hasKind, isRel⟩ :=
        inStep.relation_of_kind isTable
      refine ⟨relations, ?_⟩
      cases passes with
      | false => exact inStep
      | true =>
          change InStep (world.write (world.relation relid).name
            (pgDecodeChange change (world.relation relid) world.sender)) _
          rw [isRel]
          exact inStep.write isBuffer (output_pgDecodeChange inStep.matched
            inStep.live member hasKind change)
  | message message =>
      obtain ⟨busy, valid⟩ := enabled
      obtain ⟨buffer, isBuffer⟩ := Option.isSome_iff_exists.mp busy
      by_cases isDdl : ∃ ddl, message = .ddl ddl
      · obtain ⟨ddl, rfl⟩ := isDdl
        exact ⟨ddl.common relations, inStep.ddl isBuffer valid⟩
      · have notDdl : ∀ ddl, message ≠ .ddl ddl :=
          fun ddl same => isDdl ⟨ddl, same⟩
        have written := inStep.write isBuffer
          (inStep.output_message notDdl valid permitted)
        refine ⟨relations, ?_⟩
        cases message with
        | ddl ddl => exact absurd rfl (notDdl ddl)
        | _ => exact written
  | finish process =>
      obtain ⟨buffer, isBuffer⟩ := Option.isSome_iff_exists.mp enabled
      exact ⟨relations, inStep.finish isBuffer process⟩

end InStep

theorem inStep_initialWorld : InStep initialWorld [] where
  matched :=
    ⟨fun _ member => absurd member List.not_mem_nil,
      fun _ member => absurd member List.not_mem_nil⟩
  live :=
    ⟨fun _ member => absurd member List.not_mem_nil, List.nodup_nil,
      List.nodup_nil⟩
  catalog := rfl
  bounded := fun _ => Nat.le_refl _
  small := Nat.two_pow_pos 32
  mapped := fun _ _ isMapped => absurd rfl isMapped
  healthy := rfl
  sent := fun _ member => absurd member List.not_mem_nil
  idle := fun _ => ⟨rfl, rfl⟩
  busy := fun _ isBuffer => (by cases isBuffer)

theorem inStep_of_reachable
    {world : World}
    (reachable : machine.Reachable CopiesOutsideDdl world) :
    ∃ relations, InStep world relations := by
  refine @Machine.Reachable.invariant _ _ _ _
    (fun world => ∃ relations, InStep world relations)
    ⟨[], inStep_initialWorld⟩ ?_ _ reachable
  rintro current callback ⟨relations, inStep⟩ enabled permitted
  exact inStep.step enabled permitted

/-! ## Main result -/

/-- In every sequence of callbacks in which no table is broadcast between `D`
and `E`, and for every assignment of the transactions to apply processes: no
process fails, a header without names comes only after the names in its
transaction, and the row actions executed are those written, each on the local
relation with the name of the relation it was written for. -/
theorem rows_reach_their_relation
    {world : World}
    (reachable : machine.Reachable CopiesOutsideDdl world) :
    world.failure = none ∧
      (∀ records ∈ world.sent, NamesFirst records) ∧
      (world.buffer = none → world.executed = world.written) := by
  obtain ⟨relations, inStep⟩ := inStep_of_reachable reachable
  exact ⟨inStep.healthy, inStep.sent, fun idle => (inStep.idle idle).2⟩

/-- Two transactions: the second one goes to another process, which has to
learn of the table under its new name. -/
def renameBetween : List Callback :=
  [.begin,
    .message (.ddl (.create (10, 20) ⟨⟨"public", "t"⟩, .table⟩)),
    .message .ddlEnd,
    .message (.ddl (.create (11, 21) ⟨⟨"public", "s"⟩, .sequence⟩)),
    .message .ddlEnd,
    .change true .insert 10, .message (.nextval 11),
    .change true .update 10, .message (.copyTable 10 true 2), .finish 0,
    .begin, .message (.other 'B'),
    .message (.ddl (.rename ⟨"public", "t"⟩ ⟨"public", "u"⟩)),
    .message .ddlEnd, .change true (.delete true) 10, .finish 1]

theorem renameBetween_completes :
    (machine.execute CopiesOutsideDdl machine.init
      renameBetween).isSome = true := by
  decide +kernel

theorem rows_reach_their_relation_renameBetween :
    let world := (machine.execute CopiesOutsideDdl machine.init
      renameBetween).get renameBetween_completes
    world.failure = none ∧
      world.executed.map Prod.fst =
        [.insert, .nextval, .update, .truncate, .insert, .insert, .delete] ∧
      world.executed = world.written := by
  intro world
  have result := rows_reach_their_relation
    (Machine.reachable_of_execute renameBetween renameBetween_completes)
  exact ⟨result.1, by decide +kernel, result.2.2 (by decide +kernel)⟩

/-- A table broadcast while a schema change is in progress. -/
def copyInsideDdl : List Callback :=
  [.begin,
    .message (.ddl (.create (10, 20) ⟨⟨"public", "t"⟩, .table⟩)),
    .message .ddlEnd, .finish 0,
    .begin, .message (.ddl .other), .message (.copyTable 10 true 1),
    .message .ddlEnd, .finish 0]

theorem copyInsideDdl_completes :
    (machine.execute Machine.Always machine.init
      copyInsideDdl).isSome = true := by
  decide +kernel

/-- The header is suppressed but the truncation is not: the receiver gets it
without an open relation. -/
theorem copy_hits_assertion :
    let world := (machine.execute Machine.Always machine.init
      copyInsideDdl).get copyInsideDdl_completes
    machine.Reachable Machine.Always world ∧
      world.failure = some .assertRel := by
  intro world
  exact ⟨Machine.reachable_of_execute copyInsideDdl copyInsideDdl_completes,
    by decide +kernel⟩

end Stream
end Multimaster
