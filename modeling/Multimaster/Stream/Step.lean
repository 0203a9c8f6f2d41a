import Multimaster.Stream.Defs
import Mathlib.Data.List.Nodup

/-!
# Sender and receiver keep in step

The catalogs of both nodes are two views of one list of relations, which every
replicated schema change keeps.  Over it, this module follows an apply process
through the records of one callback: headers leave the process with the local
counterpart of the sender's relation open, and row actions are executed there.
-/

namespace Multimaster
namespace Stream

/-! ## Two views of the relations -/

/-- A relation that exists on both nodes: its OIDs and what the catalogs say. -/
abbrev Common := (Oid × Oid) × Entry

/-- One of the two catalogs. -/
def view (side : Oid × Oid → Oid) (relations : List Common) : Catalog :=
  relations.map fun relation => (side relation.1, relation.2)

/-- The effect of a schema change on both catalogs at once. -/
def Ddl.common : Ddl → List Common → List Common
  | .create oids entry, relations => (oids, entry) :: relations
  | .rename old new, relations =>
      relations.map fun relation =>
        (relation.1,
          if relation.2.name = old then { relation.2 with name := new }
          else relation.2)
  | .drop name, relations =>
      relations.filter fun relation => decide (relation.2.name ≠ name)
  | .other, relations => relations

/-- Both nodes execute a schema change in the same way. -/
theorem view_common
    (side : Oid × Oid → Oid) (ddl : Ddl) (relations : List Common) :
    view side (ddl.common relations) = ddl.run side (view side relations) := by
  cases ddl with
  | create oids entry => rfl
  | rename old new => simp [Ddl.common, Ddl.run, view]
  | drop name =>
      simp only [Ddl.common, Ddl.run, view, List.filter_map]
      rfl
  | other => rfl

/-- OIDs determine each other and are valid. -/
structure Matched (oids : List (Oid × Oid)) : Prop where
  valid : ∀ pair ∈ oids, pair.1 ≠ invalidOid ∧ pair.2 ≠ invalidOid
  unique : ∀ first ∈ oids, ∀ second ∈ oids,
    first.1 = second.1 ∨ first.2 = second.2 → first = second

/-- The relations that exist at present. -/
structure Live (oids : List (Oid × Oid)) (relations : List Common) : Prop where
  known : ∀ relation ∈ relations, relation.1 ∈ oids
  distinct : (relations.map Prod.fst).Nodup
  names : (relations.map fun relation => relation.2.name).Nodup

/-- Looking up a key that occurs once. -/
theorem find?_key
    {α β : Type} [DecidableEq β] {key : α → β} {items : List α} {item : α}
    (distinct : (items.map key).Nodup)
    (member : item ∈ items) :
    items.find? (fun other => decide (key other = key item)) = some item := by
  induction items with
  | nil => cases member
  | cons head tail inductionHypothesis =>
      rw [List.map_cons, List.nodup_cons] at distinct
      rcases List.mem_cons.mp member with rfl | inTail
      · simp
      · have different : key head ≠ key item := by
          intro same
          exact distinct.1 (same ▸ List.mem_map_of_mem inTail)
        simp [different, inductionHypothesis distinct.2 inTail]

section Lookup

variable {oids : List (Oid × Oid)} {relations : List Common}
variable {relation : Common}

/-- The OID of a live relation finds its entry, on either side. -/
theorem entry_view
    (side : Oid × Oid → Oid)
    (injective : ∀ first ∈ oids, ∀ second ∈ oids,
      side first = side second → first = second)
    (live : Live oids relations)
    (member : relation ∈ relations) :
    (view side relations).entry (side relation.1) = some relation.2 := by
  have distinct :
      ((view side relations).map Prod.fst).Nodup := by
    have sides : (view side relations).map Prod.fst =
        (relations.map Prod.fst).map side := by
      simp [view]
    rw [sides]
    refine List.Nodup.map_on ?_ live.distinct
    intro first isFirst second isSecond same
    obtain ⟨one, inOne, rfl⟩ := List.mem_map.mp isFirst
    obtain ⟨two, inTwo, rfl⟩ := List.mem_map.mp isSecond
    exact injective _ (live.known one inOne) _ (live.known two inTwo) same
  have inView : (side relation.1, relation.2) ∈ view side relations :=
    List.mem_map_of_mem member
  have found := find?_key distinct inView
  simp only at found
  rw [Catalog.entry, found]
  rfl

theorem mem_of_entry_view
    {side : Oid × Oid → Oid} {oid : Oid} {entry : Entry}
    (found : (view side relations).entry oid = some entry) :
    ∃ pair, (pair, entry) ∈ relations ∧ side pair = oid := by
  obtain ⟨row, isRow, rfl⟩ := Option.map_eq_some_iff.mp found
  have inView := List.mem_of_find?_eq_some isRow
  have isOid := List.find?_some isRow
  obtain ⟨source, inRelations, rfl⟩ := List.mem_map.mp inView
  exact ⟨source.1, inRelations, by simpa using isOid⟩

/-- The name of a live relation finds it on the receiver. -/
theorem rangeVarGetRelid_view
    (live : Live oids relations)
    (member : relation ∈ relations) :
    (view Prod.snd relations).rangeVarGetRelid relation.2.name =
      some relation.1.2 := by
  have distinct :
      ((view Prod.snd relations).map fun row => row.2.name).Nodup := by
    simpa [view, Function.comp_def] using live.names
  have inView : (relation.1.2, relation.2) ∈ view Prod.snd relations :=
    List.mem_map_of_mem member
  have found := find?_key distinct inView
  simp only at found
  rw [Catalog.rangeVarGetRelid, found]
  rfl

end Lookup

/-- A schema change keeps the relations well-formed. -/
theorem Live.common
    {world : World} {relations : List Common}
    (live : Live world.oids relations)
    (isCatalog : world.catalog = view Prod.fst relations)
    {ddl : Ddl}
    (valid : ValidDdl world ddl) :
    Live (world.execute (.ddl ddl)).oids (ddl.common relations) := by
  obtain ⟨known, distinct, names⟩ := live
  have unused : ∀ name, (∀ row ∈ world.catalog, row.2.name ≠ name) →
      ∀ relation ∈ relations, relation.2.name ≠ name := by
    intro name absent relation member
    refine absent (relation.1.1, relation.2) ?_
    rw [isCatalog]
    exact List.mem_map_of_mem member
  cases ddl with
  | create oids entry =>
      obtain ⟨_, _, newOids, newName⟩ := valid
      refine ⟨?_, ?_, ?_⟩
      · intro relation member
        rcases List.mem_cons.mp member with rfl | old
        · exact List.mem_cons_self
        · exact List.mem_cons_of_mem _ (known relation old)
      · refine List.nodup_cons.mpr ⟨?_, distinct⟩
        intro used
        obtain ⟨relation, member, same⟩ := List.mem_map.mp used
        have different := (newOids _ (known relation member)).1
        rw [same] at different
        exact different rfl
      · refine List.nodup_cons.mpr ⟨?_, names⟩
        intro used
        obtain ⟨relation, member, same⟩ := List.mem_map.mp used
        exact unused _ newName relation member same
  | rename old new =>
      refine ⟨?_, ?_, ?_⟩
      · intro relation member
        obtain ⟨source, inRelations, rfl⟩ := List.mem_map.mp member
        exact known source inRelations
      · simpa [Ddl.common, Function.comp_def] using distinct
      · have renamed : (Ddl.common (.rename old new) relations).map
            (fun relation => relation.2.name) =
            (relations.map fun relation => relation.2.name).map
              fun name => if name = old then new else name := by
          simp only [Ddl.common, List.map_map]
          refine List.map_congr_left ?_
          intro relation _
          simp only [Function.comp_apply]
          split <;> rfl
        rw [renamed]
        refine List.Nodup.map_on ?_ names
        intro first isFirst second isSecond same
        obtain ⟨one, inOne, rfl⟩ := List.mem_map.mp isFirst
        obtain ⟨two, inTwo, rfl⟩ := List.mem_map.mp isSecond
        have notFirst := unused new valid one inOne
        have notSecond := unused new valid two inTwo
        split at same <;> split at same
        · next isOld alsoOld => rw [isOld, alsoOld]
        · exact absurd same.symm notSecond
        · exact absurd same notFirst
        · exact same
  | drop name =>
      have sublist : (Ddl.common (.drop name) relations).Sublist relations :=
        List.filter_sublist
      exact ⟨fun relation member => known relation (sublist.subset member),
        distinct.sublist (sublist.map _), names.sublist (sublist.map _)⟩
  | other => exact ⟨known, distinct, names⟩

theorem Matched.execute
    {world : World}
    (matched : Matched world.oids)
    {ddl : Ddl}
    (valid : ValidDdl world ddl) :
    Matched (world.execute (.ddl ddl)).oids := by
  cases ddl with
  | create oids entry =>
      obtain ⟨validFirst, validSecond, new, _⟩ := valid
      refine ⟨?_, ?_⟩
      · intro pair member
        rcases List.mem_cons.mp member with rfl | old
        · exact ⟨validFirst, validSecond⟩
        · exact matched.valid pair old
      · intro first isFirst second isSecond same
        rcases List.mem_cons.mp isFirst with rfl | oldFirst <;>
          rcases List.mem_cons.mp isSecond with rfl | oldSecond
        · rfl
        · rcases same with same | same
          · exact absurd same.symm (new second oldSecond).1
          · exact absurd same.symm (new second oldSecond).2
        · rcases same with same | same
          · exact absurd same (new first oldFirst).1
          · exact absurd same (new first oldFirst).2
        · exact matched.unique first oldFirst second oldSecond same
  | rename old new => exact matched
  | drop name => exact matched
  | other => exact matched

/-! ## Runs of records inside a transaction -/

/-- Apply records that keep the process inside the transaction. -/
def applyInside : List Record → Applier → Option Applier
  | [], applier => some applier
  | record :: rest, applier =>
      match applyRecord record applier with
      | .ok (next, true) => applyInside rest next
      | _ => none

theorem applyInside_append
    (first second : List Record) (applier : Applier) :
    applyInside (first ++ second) applier =
      (applyInside first applier).bind (applyInside second) := by
  induction first generalizing applier with
  | nil => rfl
  | cons record rest inductionHypothesis =>
      rw [List.cons_append, applyInside, applyInside]
      cases applyRecord record applier with
      | error failure => rfl
      | ok result =>
          obtain ⟨next, inside⟩ := result
          cases inside with
          | false => rfl
          | true => exact inductionHypothesis next

/-- `MtmExecutor` accepts a transaction whose records before `C` it accepts. -/
theorem mtmExecutor_commit
    {records : List Record} {applier last : Applier}
    (inside : applyInside records applier = some last) :
    mtmExecutor (records ++ [.commit]) applier =
      .ok { last with rel := none } := by
  induction records generalizing applier with
  | nil =>
      cases inside
      rfl
  | cons record rest inductionHypothesis =>
      rw [applyInside] at inside
      rw [List.cons_append, mtmExecutor]
      cases applied : applyRecord record applier with
      | error failure =>
          rw [applied] at inside
          cases inside
      | ok result =>
          obtain ⟨next, stays⟩ := result
          rw [applied] at inside
          cases stays with
          | false => cases inside
          | true => exact inductionHypothesis inside

/-- Row actions that leave the relation open are executed on it. -/
theorem applyInside_rows
    {applier : Applier} {oid : Oid} {entry : Entry}
    (isOpen : applier.rel = some oid)
    (found : applier.catalog.entry oid = some entry)
    (actions : List RowAction)
    (stay : ∀ action ∈ actions, action ≠ .nextval) :
    applyInside (actions.map Record.row) applier =
      some { applier with
        executed := applier.executed ++
          actions.map fun action => (action, entry.name) } := by
  induction actions generalizing applier with
  | nil => simp [applyInside]
  | cons action rest inductionHypothesis =>
      have notLast := stay action List.mem_cons_self
      rw [List.map_cons, applyInside]
      simp only [applyRecord, onRel, isOpen, found, notLast, if_false,
        Except.map]
      refine (@inductionHypothesis
        { applier with
          rel := some oid
          executed := applier.executed ++ [(action, entry.name)] }
        rfl found (fun other member =>
          stay other (List.mem_cons_of_mem _ member))).trans ?_
      simp

theorem rowsFor_map_row (name : RelName) (actions : List RowAction) :
    rowsFor name (actions.map Record.row) =
      actions.map fun action => (action, name) := by
  induction actions with
  | nil => rfl
  | cons action rest inductionHypothesis =>
      rw [List.map_cons, List.map_cons, ← inductionHypothesis]
      rfl

theorem rowsFor_append
    (name : RelName) (first second : List Record) :
    rowsFor name (first ++ second) =
      rowsFor name first ++ rowsFor name second :=
  List.filterMap_append

/-! ## Headers -/

/-- What the sender may rely on when it leaves out a header or its names. -/
structure Follows
    (oids : List (Oid × Oid)) (relations : List Common)
    (sender : Sender) (applier : Applier) : Prop where
  catalog : applier.catalog = view Prod.snd relations
  /-- The map of the process leads to the counterparts. -/
  mapped : ∀ relid, applier.relidMap relid ≠ invalidOid →
    (relid, applier.relidMap relid) ∈ oids
  /-- Relations whose names were sent in this transaction are mapped. -/
  named : ∀ relid, sender.relidMap relid = sender.mtmSenderTid →
    applier.relidMap relid ≠ invalidOid
  /-- The table sent last is open. -/
  opened : ∀ relation ∈ relations,
    relation.1.1 = sender.mtmLastRelId → relation.2.kind = .table →
    applier.rel = some relation.1.2

theorem applyInside_singleton
    {record : Record} {applier next : Applier}
    (applied : applyRecord record applier = .ok (next, true)) :
    applyInside [record] applier = some next := by
  rw [applyInside, applied]
  rfl

/-- After the header of a relation its counterpart is open. -/
theorem applyInside_pglogicalWriteRel
    {oids : List (Oid × Oid)} {relations : List Common}
    {sender : Sender} {applier : Applier} {relation : Common}
    (matched : Matched oids)
    (live : Live oids relations)
    (follows : Follows oids relations sender applier)
    (member : relation ∈ relations)
    (outside : sender.ddlInProgress = false)
    (announces : relation.2.kind = .table ∨
      sender.mtmLastRelId = invalidOid) :
    ∃ next,
      applyInside
        (pglogicalWriteRel ⟨relation.1.1, relation.2.name⟩ sender).2 applier =
          some next ∧
      Follows oids relations
        (pglogicalWriteRel ⟨relation.1.1, relation.2.name⟩ sender).1 next ∧
      next.rel = some relation.1.2 ∧
      next.executed = applier.executed := by
  obtain ⟨catalog, mapped, named, opened⟩ := follows
  have counterpart : ∀ oid, (relation.1.1, oid) ∈ oids →
      oid = relation.1.2 := by
    intro oid known
    have same := matched.unique _ known _ (live.known relation member)
      (Or.inl rfl)
    exact congrArg Prod.snd same
  have localValid : relation.1.2 ≠ invalidOid :=
    (matched.valid _ (live.known relation member)).2
  have stillThere : (applier.catalog.entry relation.1.2).isSome = true := by
    rw [catalog, entry_view Prod.snd (fun first isFirst second isSecond same =>
      matched.unique first isFirst second isSecond (Or.inr same)) live member]
    rfl
  have reopened : ∀ (last : Sender) (map : Oid → Oid),
      last.mtmLastRelId = relation.1.1 →
      ∀ other ∈ relations, other.1.1 = last.mtmLastRelId →
      other.2.kind = .table →
      ({ applier with rel := some relation.1.2, relidMap := map } :
        Applier).rel = some other.1.2 := by
    intro last map isLast other isOther same _
    have pair := matched.unique _ (live.known other isOther) _
      (live.known relation member) (Or.inl (same.trans isLast))
    rw [pair]
  unfold pglogicalWriteRel
  rw [outside]
  simp only [Bool.false_eq_true, if_false]
  split
  · next isLast =>
      refine ⟨applier, rfl, ⟨catalog, mapped, named, opened⟩, ?_, rfl⟩
      refine opened relation member isLast ?_
      rcases announces with isTable | fresh
      · exact isTable
      · have valid := (matched.valid _ (live.known relation member)).1
        exact absurd (isLast.trans fresh) valid
  · split
    · next isNamed =>
        -- the names went out before, so the process has the relation mapped
        have isMapped := named relation.1.1 isNamed
        have isHome := counterpart _ (mapped relation.1.1 isMapped)
        refine ⟨{ applier with rel := some relation.1.2 },
          applyInside_singleton ?_, ⟨catalog, mapped, named, ?_⟩, rfl, rfl⟩
        · simp [applyRecord, readRel, isHome, localValid, stillThere, Except.map]
        · exact reopened { sender with mtmLastRelId := relation.1.1 }
            applier.relidMap rfl
    · by_cases unmapped : applier.relidMap relation.1.1 = invalidOid
      · refine ⟨{ applier with
            rel := some relation.1.2
            relidMap := Function.update applier.relidMap relation.1.1
              relation.1.2 },
          applyInside_singleton ?_, ⟨catalog, ?_, ?_, ?_⟩, rfl, rfl⟩
        · simp [applyRecord, readRel, unmapped, catalog,
            rangeVarGetRelid_view live member, Except.map]
        · intro relid isMapped
          by_cases same : relid = relation.1.1
          · rw [same]
            simp only [Function.update_self]
            exact live.known relation member
          · simp only [Function.update_of_ne same] at isMapped ⊢
            exact mapped relid isMapped
        · intro relid isNamed
          by_cases same : relid = relation.1.1
          · rw [same]
            simp only [Function.update_self]
            exact localValid
          · simp only [Function.update_of_ne same] at isNamed ⊢
            exact named relid isNamed
        · exact reopened { sender with mtmLastRelId := relation.1.1 } _ rfl
      · have isHome := counterpart _ (mapped relation.1.1 unmapped)
        refine ⟨{ applier with rel := some relation.1.2 },
          applyInside_singleton ?_, ⟨catalog, mapped, ?_, ?_⟩, rfl, rfl⟩
        · simp [applyRecord, readRel, isHome, localValid, stillThere, Except.map]
        · intro relid isNamed
          by_cases same : relid = relation.1.1
          · subst same
            exact unmapped
          · simp only [Function.update_of_ne same] at isNamed
            exact named relid isNamed
        · exact reopened { sender with mtmLastRelId := relation.1.1 }
            applier.relidMap rfl

end Stream
end Multimaster
