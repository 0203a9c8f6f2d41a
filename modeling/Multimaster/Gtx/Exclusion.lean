import Multimaster.Gtx.Table
import Multimaster.Lib.Entries

/-!
# Exclusion in the table of global transactions

As long as `GlobalTxLoadAll` runs only when no process holds an entry, every
transaction is held by one process at most, through the entry in the hash.  A
monitor that restarts in the middle of a commit sequence breaks this: it enters
the transaction again, unlocked.
-/

namespace Multimaster
namespace Gtx

variable {Gid Process : Type*}

/-- What the users of the table rely on. -/
structure Exclusive (table : Table Gid Process) : Prop where
  single : ∀ one other gid first second,
    table.holding one = some (gid, first) →
    table.holding other = some (gid, second) → one = other
  held : ∀ me gid slot, table.holding me = some (gid, slot) →
    table.hash gid = some slot
  unlocked : ∀ gid slot, table.hash gid = some slot →
    (table.slots slot).acquiredBy = none →
    (table.slots slot).prepared = true ∧
      ¬ (table.slots slot).state.status.Final

/-- The invariant of the table. -/
structure TableOk (table : Table Gid Process) : Prop where
  named : ∀ gid slot, table.hash gid = some slot →
    (table.slots slot).gid = gid
  held : ∀ me gid slot, table.holding me = some (gid, slot) →
    table.hash gid = some slot ∧ (table.slots slot).acquiredBy = some me
  unlocked : ∀ gid slot, table.hash gid = some slot →
    (table.slots slot).acquiredBy = none →
    (table.slots slot).prepared = true ∧
      ¬ (table.slots slot).state.status.Final
  unprepared : ∀ gid slot, table.hash gid = some slot →
    (table.slots slot).prepared = false →
    ¬ (table.slots slot).state.status.Final
  pxacts : ∀ pxact ∈ table.pxacts, ∀ xstate ∈ pxact.2,
    ¬ xstate.state.status.Final

namespace TableOk

variable {table : Table Gid Process} {me : Process} {gid : Gid} {slot : ℕ}

theorem exclusive (ok : TableOk table) : Exclusive table where
  single := by
    intro one other gid first second isFirst isSecond
    obtain ⟨inHash, byOne⟩ := ok.held one gid first isFirst
    obtain ⟨sameHash, byOther⟩ := ok.held other gid second isSecond
    have sameSlot : first = second :=
      Option.some_injective _ (inHash.symm.trans sameHash)
    rw [sameSlot] at byOne
    exact Option.some_injective _ (byOne.symm.trans byOther)
  held := fun me gid slot isHeld => (ok.held me gid slot isHeld).1
  unlocked := ok.unlocked

/-- A slot serves one transaction. -/
theorem gid_unique
    (ok : TableOk table) {first second : Gid}
    (isFirst : table.hash first = some slot)
    (isSecond : table.hash second = some slot) : first = second :=
  (ok.named first slot isFirst).symm.trans (ok.named second slot isSecond)

/-- One slot is written; the other entries stay as they are. -/
theorem rewrite
    (ok : TableOk table) {entry : Entry Gid Process}
    {hash : Gid → Option ℕ} {holding : Process → Option (Gid × ℕ)}
    {pxacts : List (Gid × Option XState)}
    (entries : ∀ gid target, hash gid = some target →
      (target = slot ∧ entry.gid = gid) ∨
        (target ≠ slot ∧ table.hash gid = some target))
    (held : ∀ me gid target, holding me = some (gid, target) →
      hash gid = some target ∧
        ((target = slot ∧ entry.acquiredBy = some me) ∨
          (target ≠ slot ∧ table.holding me = some (gid, target))))
    (unlocked : (∃ gid, hash gid = some slot) → entry.acquiredBy = none →
      entry.prepared = true ∧ ¬ entry.state.status.Final)
    (unprepared : (∃ gid, hash gid = some slot) → entry.prepared = false →
      ¬ entry.state.status.Final)
    (pxactsOk : ∀ pxact ∈ pxacts, ∀ xstate ∈ pxact.2,
      ¬ xstate.state.status.Final) :
    TableOk
      { slots := Function.update table.slots slot entry
        hash := hash
        holding := holding
        pxacts := pxacts } where
  named := by
    intro gid target isEntry
    rcases entries gid target isEntry with ⟨rfl, named⟩ | ⟨other, isOld⟩
    · simp only [Function.update_self]
      exact named
    · simp only [Function.update_of_ne other]
      exact ok.named gid target isOld
  held := by
    intro me gid target isHeld
    obtain ⟨inHash, ⟨rfl, byMe⟩ | ⟨other, wasHeld⟩⟩ :=
      held me gid target isHeld
    · simp only [Function.update_self]
      exact ⟨inHash, byMe⟩
    · simp only [Function.update_of_ne other]
      exact ⟨inHash, (ok.held me gid target wasHeld).2⟩
  unlocked := by
    intro gid target isEntry
    rcases entries gid target isEntry with ⟨rfl, _⟩ | ⟨other, isOld⟩
    · simp only [Function.update_self]
      exact unlocked ⟨gid, isEntry⟩
    · simp only [Function.update_of_ne other]
      exact ok.unlocked gid target isOld
  unprepared := by
    intro gid target isEntry
    rcases entries gid target isEntry with ⟨rfl, _⟩ | ⟨other, isOld⟩
    · simp only [Function.update_self]
      exact unprepared ⟨gid, isEntry⟩
    · simp only [Function.update_of_ne other]
      exact ok.unprepared gid target isOld
  pxacts := pxactsOk

/-- The entries of the same hash. -/
theorem entries_same
    (ok : TableOk table) {entry : Entry Gid Process}
    (sameGid : entry.gid = (table.slots slot).gid)
    (gid : Gid) (target : ℕ) (isEntry : table.hash gid = some target) :
    (target = slot ∧ entry.gid = gid) ∨
      (target ≠ slot ∧ table.hash gid = some target) := by
  by_cases same : target = slot
  · subst same
    exact Or.inl ⟨rfl, sameGid.trans (ok.named gid target isEntry)⟩
  · exact Or.inr ⟨same, isEntry⟩

/-- A write to a slot that leaves the lock alone. -/
theorem modify
    (ok : TableOk table) {pxacts : List (Gid × Option XState)}
    {change : Entry Gid Process → Entry Gid Process}
    (sameGid : (change (table.slots slot)).gid = (table.slots slot).gid)
    (sameLock : (change (table.slots slot)).acquiredBy =
      (table.slots slot).acquiredBy)
    (unlocked : (table.slots slot).acquiredBy = none →
      (table.slots slot).prepared = true ∧
        ¬ (table.slots slot).state.status.Final →
      (change (table.slots slot)).prepared = true ∧
        ¬ (change (table.slots slot)).state.status.Final)
    (unprepared : (change (table.slots slot)).prepared = false →
      ¬ (change (table.slots slot)).state.status.Final)
    (pxactsOk : ∀ pxact ∈ pxacts, ∀ xstate ∈ pxact.2,
      ¬ xstate.state.status.Final) :
    TableOk { table.modify slot change with pxacts := pxacts } := by
  refine ok.rewrite (ok.entries_same sameGid) ?_ ?_ (fun _ => unprepared)
    pxactsOk
  · intro me gid target isHeld
    obtain ⟨inHash, byMe⟩ := ok.held me gid target isHeld
    refine ⟨inHash, ?_⟩
    by_cases same : target = slot
    · subst same
      exact Or.inl ⟨rfl, sameLock.trans byMe⟩
    · exact Or.inr ⟨same, isHeld⟩
  · rintro ⟨gid, isEntry⟩ isFree
    rw [sameLock] at isFree
    exact unlocked isFree (ok.unlocked gid slot isEntry isFree)

/-- A write of the holder to its entry. -/
theorem write
    (ok : TableOk table)
    {change : Entry Gid Process → Entry Gid Process}
    (sameGid : ∀ entry, (change entry).gid = entry.gid)
    (sameLock : ∀ entry, (change entry).acquiredBy = entry.acquiredBy)
    (unprepared : ∀ gid slot, table.holding me = some (gid, slot) →
      (change (table.slots slot)).prepared = false →
      ¬ (change (table.slots slot)).state.status.Final) :
    TableOk (table.write me change) := by
  unfold Table.write
  split
  · next gid slot isHeld =>
      obtain ⟨_, byMe⟩ := ok.held me gid slot isHeld
      refine ok.modify (sameGid _) (sameLock _) ?_
        (unprepared gid slot isHeld) ok.pxacts
      intro isFree
      rw [byMe] at isFree
      cases isFree
  · exact ok

section

variable [DecidableEq Gid]

/-- The states of prepared transactions stay without a final status. -/
theorem setXState
    (ok : TableOk table) {state : GTxState}
    (notFinal : ¬ state.status.Final) :
    ∀ pxact ∈ setXState table.pxacts gid state, ∀ xstate ∈ pxact.2,
      ¬ xstate.state.status.Final := by
  intro pxact isPxact xstate isState
  obtain ⟨old, isOld, isNew⟩ := List.mem_map.mp isPxact
  split at isNew
  · subst isNew
    obtain ⟨before, _, isAfter⟩ := Option.mem_map.mp isState
    subst isAfter
    exact notFinal
  · subst isNew
    exact ok.pxacts old isOld xstate isState

/-- One more entry, in a slot that was not used. -/
theorem enter
    (ok : TableOk table) (unused : table.Unused slot)
    {entry : Entry Gid Process} {holding : Process → Option (Gid × ℕ)}
    (named : entry.gid = gid)
    (unheld : ∀ me target, table.holding me ≠ some (gid, target))
    (held : ∀ me other target, holding me = some (other, target) →
      table.holding me = some (other, target) ∨
        (other = gid ∧ target = slot ∧ entry.acquiredBy = some me))
    (unlocked : entry.acquiredBy = none →
      entry.prepared = true ∧ ¬ entry.state.status.Final)
    (unprepared : entry.prepared = false → ¬ entry.state.status.Final) :
    TableOk
      { table.modify slot fun _ => entry with
        hash := Function.update table.hash gid (some slot)
        holding := holding } := by
  refine ok.rewrite ?_ ?_ (fun _ => unlocked) (fun _ => unprepared) ok.pxacts
  · intro other target isEntry
    obtain ⟨rfl, rfl⟩ | ⟨-, wasEntry⟩ := update_some_cases isEntry
    · exact Or.inl ⟨rfl, named⟩
    · refine Or.inr ⟨?_, wasEntry⟩
      rintro rfl
      exact unused other wasEntry
  · intro me other target isHeld
    rcases held me other target isHeld with wasHeld | ⟨rfl, rfl, byMe⟩
    · obtain ⟨inHash, _⟩ := ok.held me other target wasHeld
      have notNew : other ≠ gid := by
        rintro rfl
        exact unheld me target wasHeld
      refine ⟨(Function.update_of_ne notNew _ _).trans inHash,
        Or.inr ⟨?_, wasHeld⟩⟩
      rintro rfl
      exact unused other inHash
    · exact ⟨Function.update_self _ _ _, Or.inl ⟨rfl, byMe⟩⟩

end

section

variable [DecidableEq Process]

/-- What processes hold after one more has acquired an entry. -/
theorem holding_cases
    {other : Process} {held : Gid} {target : ℕ}
    (isHeld : Function.update table.holding me (some (gid, slot)) other =
      some (held, target)) :
    table.holding other = some (held, target) ∨
      (other = me ∧ held = gid ∧ target = slot) := by
  obtain ⟨rfl, isNew⟩ | ⟨-, wasHeld⟩ := update_some_cases isHeld
  · cases isNew
    exact Or.inr ⟨rfl, rfl, rfl⟩
  · exact Or.inl wasHeld

/-- A process locks an entry nobody holds. -/
theorem lock
    (ok : TableOk table) (found : table.hash gid = some slot)
    (isFree : (table.slots slot).acquiredBy = none) :
    TableOk ((table.modify slot fun entry =>
      { entry with acquiredBy := some me }).hold me gid slot) := by
  refine ok.rewrite (ok.entries_same rfl) ?_
    (fun _ isNone => by cases isNone)
    (fun ⟨other, isEntry⟩ => ok.unprepared other slot isEntry) ok.pxacts
  intro other held target isHeld
  rcases holding_cases isHeld with wasHeld | ⟨rfl, rfl, rfl⟩
  · obtain ⟨inHash, byOther⟩ := ok.held other held target wasHeld
    refine ⟨inHash, Or.inr ⟨?_, wasHeld⟩⟩
    rintro rfl
    rw [isFree] at byOther
    cases byOther
  · exact ⟨found, Or.inl ⟨rfl, rfl⟩⟩

end

variable [DecidableEq Gid] [DecidableEq Process]

/-- `GlobalTxAcquire`. -/
theorem acquire
    (ok : TableOk table) {create nowaitOwnLive own : Bool} {free : ℕ}
    (unused : table.Unused free) :
    TableOk (tableEffect table
      (.acquire me gid create nowaitOwnLive own free)) := by
  simp only [tableEffect, globalTxAcquire]
  cases found : table.hash gid with
  | none =>
      cases create with
      | false => exact ok
      | true =>
          refine ok.enter unused rfl ?_ ?_ (fun isFree => by cases isFree)
            (fun _ => by
              simp [Entry.create, GTxState.created, GlobalTxStatus.Final])
          · intro other target isHeld
            have inHash := (ok.held other gid target isHeld).1
            rw [found] at inHash
            cases inHash
          · intro other held target isHeld
            refine (holding_cases isHeld).imp_right ?_
            rintro ⟨rfl, isGid, isSlot⟩
            exact ⟨isGid, isSlot, rfl⟩
  | some slot =>
      by_cases isFree : (table.slots slot).acquiredBy = none
      · simp only [isFree, if_true]
        exact ok.lock found isFree
      · simp only [isFree, if_false]
        split
        · next acquired isAcquired =>
            split at isAcquired <;> cases isAcquired
        · exact ok

/-- `GlobalTxRelease`. -/
theorem release
    (ok : TableOk table) (isHeld : table.holding me = some (gid, slot)) :
    TableOk (globalTxRelease table me slot) := by
  obtain ⟨found, byMe⟩ := ok.held me gid slot isHeld
  -- the others hold other entries
  have others {other : Process} {held : Gid} {target : ℕ}
      (stillHeld : Function.update table.holding me none other =
        some (held, target)) :
      table.hash held = some target ∧ held ≠ gid ∧ target ≠ slot ∧
        table.holding other = some (held, target) := by
    obtain ⟨notMe, wasHeld⟩ := update_none_cases stillHeld
    obtain ⟨inHash, byOther⟩ := ok.held other held target wasHeld
    have different : target ≠ slot := by
      rintro rfl
      exact notMe (Option.some_injective _ (byOther.symm.trans byMe))
    refine ⟨inHash, ?_, different, wasHeld⟩
    rintro rfl
    exact different (Option.some_injective _ (inHash.symm.trans found))
  unfold globalTxRelease
  split
  · rw [ok.named gid slot found]
    have remaining {other : Gid} {target : ℕ}
        (isEntry : Function.update table.hash gid none other =
          some target) :
        target ≠ slot ∧ table.hash other = some target := by
      obtain ⟨notGid, wasEntry⟩ := update_none_cases isEntry
      refine ⟨?_, wasEntry⟩
      rintro rfl
      exact notGid (ok.gid_unique wasEntry found)
    refine ok.rewrite (fun _ _ isEntry => Or.inr (remaining isEntry)) ?_
      (fun ⟨_, isEntry⟩ => absurd rfl (remaining isEntry).1)
      (fun ⟨_, isEntry⟩ => absurd rfl (remaining isEntry).1) ok.pxacts
    intro other held target stillHeld
    obtain ⟨inHash, notGid, different, wasHeld⟩ := others stillHeld
    exact ⟨(Function.update_of_ne notGid _ _).trans inHash,
      Or.inr ⟨different, wasHeld⟩⟩
  · next keeps =>
      rw [not_or, Bool.not_eq_false] at keeps
      refine ok.rewrite (ok.entries_same rfl) ?_
        (fun _ _ => ⟨keeps.2, keeps.1⟩) (fun _ _ => keeps.1) ok.pxacts
      intro other held target stillHeld
      obtain ⟨inHash, _, different, wasHeld⟩ := others stillHeld
      exact ⟨inHash, Or.inr ⟨different, wasHeld⟩⟩

omit [DecidableEq Process] in
/-- The loop of `GlobalTxLoadAll`, while nobody holds an entry. -/
theorem load
    {pxacts : List (Gid × Option XState)} {slots : List ℕ}
    (ok : TableOk table)
    (unheld : ∀ me, table.holding me = none)
    (pxactsOk : ∀ pxact ∈ pxacts, ∀ xstate ∈ pxact.2,
      ¬ xstate.state.status.Final)
    (unused : ∀ slot ∈ slots, table.Unused slot)
    (distinct : slots.Nodup) :
    TableOk (table.load pxacts slots) := by
  -- over the prepared transactions; the slots still to be taken stay unused
  induction pxacts generalizing table slots with
  | nil => exact ok
  | cons pxact rest inductionHypothesis =>
      cases slots with
      | nil => exact ok
      | cons slot slots =>
          obtain ⟨gid, xstate⟩ := pxact
          have isUnused := unused slot List.mem_cons_self
          obtain ⟨notLater, distinct⟩ := List.nodup_cons.mp distinct
          have unusedLater : ∀ later ∈ slots, table.Unused later :=
            fun later isLater => unused later (List.mem_cons_of_mem _ isLater)
          have noHolder {me : Process} {other : Gid} {target : ℕ} :
              table.holding me ≠ some (other, target) := by
            rw [unheld me]
            simp
          cases xstate with
          | none =>
              refine inductionHypothesis ?_ unheld (fun other isOther =>
                pxactsOk other (List.mem_cons_of_mem _ isOther))
                unusedLater distinct
              refine ok.rewrite (fun other target isEntry => Or.inr ⟨?_,
                isEntry⟩) (fun _ _ _ isHeld => absurd isHeld noHolder)
                (fun ⟨other, isEntry⟩ => absurd isEntry (isUnused other))
                (fun ⟨other, isEntry⟩ => absurd isEntry (isUnused other))
                ok.pxacts
              rintro rfl
              exact isUnused other isEntry
          | some xstate =>
              have notFinal := pxactsOk (gid, some xstate)
                List.mem_cons_self xstate rfl
              refine inductionHypothesis ?_ unheld (fun other isOther =>
                pxactsOk other (List.mem_cons_of_mem _ isOther)) ?_ distinct
              · exact ok.enter isUnused rfl (fun _ _ => noHolder)
                  (fun _ _ _ => Or.inl) (fun _ => ⟨rfl, notFinal⟩)
                  (fun _ => notFinal)
              · intro later isLater other isEntry
                simp only [Table.enter, Function.update_apply] at isEntry
                split at isEntry
                · cases isEntry
                  exact notLater isLater
                · exact unusedLater later isLater other isEntry

omit [DecidableEq Process] in
/-- `GlobalTxLoadAll`, while nobody holds an entry. -/
theorem loadAll
    {slots : List ℕ} (ok : TableOk table)
    (unheld : ∀ me, table.holding me = none)
    (distinct : slots.Nodup) :
    TableOk (globalTxLoadAll table slots) := by
  have cleared : TableOk { table with hash := fun _ => none } := {
    named := fun _ _ isEntry => by cases isEntry
    held := fun me _ _ isHeld => by rw [unheld me] at isHeld; cases isHeld
    unlocked := fun _ _ isEntry => by cases isEntry
    unprepared := fun _ _ isEntry => by cases isEntry
    pxacts := ok.pxacts }
  exact cleared.load unheld ok.pxacts (fun _ _ _ isEntry => by cases isEntry)
    distinct

omit [DecidableEq Gid] [DecidableEq Process] in
/-- `GlobalTxMarkOrphaned`. -/
theorem markOrphaned (ok : TableOk table) (node : ℕ) :
    TableOk (globalTxMarkOrphaned table node) := by
  have same (slot : ℕ) :
      ((globalTxMarkOrphaned table node).slots slot).gid =
          (table.slots slot).gid ∧
        ((globalTxMarkOrphaned table node).slots slot).acquiredBy =
          (table.slots slot).acquiredBy ∧
        ((globalTxMarkOrphaned table node).slots slot).prepared =
          (table.slots slot).prepared ∧
        ((globalTxMarkOrphaned table node).slots slot).state =
          (table.slots slot).state := by
    simp only [globalTxMarkOrphaned]
    split <;> simp
  exact {
    named := fun gid slot isEntry => by
      rw [(same slot).1]
      exact ok.named gid slot isEntry
    held := fun me gid slot isHeld => by
      rw [(same slot).2.1]
      exact ok.held me gid slot isHeld
    unlocked := fun gid slot isEntry => by
      rw [(same slot).2.1, (same slot).2.2.1, (same slot).2.2.2]
      exact ok.unlocked gid slot isEntry
    unprepared := fun gid slot isEntry => by
      rw [(same slot).2.2.1, (same slot).2.2.2]
      exact ok.unprepared gid slot isEntry
    pxacts := ok.pxacts }

/-- Every permitted action keeps the invariant. -/
theorem step
    (ok : TableOk table) (action : TableAction Gid Process)
    (enabled : TableEnabled table action)
    (permitted : LoadsUnheld table action) :
    TableOk (tableEffect table action) := by
  cases action with
  | acquire me gid create nowaitOwnLive own free => exact ok.acquire enabled.2
  | describe me coordinator orphaned =>
      refine ok.write (fun _ => rfl) (fun _ => rfl) ?_
      intro gid slot isHeld
      exact ok.unprepared gid slot (ok.held me gid slot isHeld).1
  | logPrepare me =>
      obtain ⟨⟨gid, slot⟩, isHeld, unprepared, _⟩ := enabled
      have isHeld : table.holding me = some (gid, slot) := isHeld
      simp only [tableEffect, isHeld]
      refine ⟨ok.named, ok.held, ok.unlocked, ok.unprepared, ?_⟩
      intro pxact isPxact xstate isState
      rcases List.mem_cons.mp isPxact with isNew | isOld
      · subst isNew
        cases isState
        exact ok.unprepared gid slot (ok.held me gid slot isHeld).1 unprepared
      · exact ok.pxacts pxact isOld xstate isState
  | markPrepared me =>
      exact ok.write (fun _ => rfl) (fun _ => rfl)
        fun _ _ _ isFalse => by cases isFalse
  | setState me state =>
      obtain ⟨notFinal, ⟨gid, slot⟩, isHeld, _⟩ := enabled
      have isHeld : table.holding me = some (gid, slot) := isHeld
      simp only [tableEffect, isHeld]
      exact ok.modify rfl rfl (fun _ unlocked => ⟨unlocked.1, notFinal⟩)
        (fun _ => notFinal) (ok.setXState notFinal)
  | logFinish me =>
      obtain ⟨⟨gid, slot⟩, isHeld, _⟩ := enabled
      have isHeld : table.holding me = some (gid, slot) := isHeld
      simp only [tableEffect, isHeld]
      exact ⟨ok.named, ok.held, ok.unlocked, ok.unprepared,
        fun pxact isPxact => ok.pxacts pxact (List.mem_filter.mp isPxact).1⟩
  | markFinished me commit =>
      obtain ⟨⟨gid, slot⟩, isHeld, isPrepared, _⟩ := enabled
      refine ok.write (fun _ => rfl) (fun _ => rfl) ?_
      intro other target isOther unprepared
      have same : (gid, slot) = (other, target) :=
        Option.some_injective _ (isHeld.symm.trans isOther)
      cases same
      exact absurd isPrepared (by rw [unprepared]; simp)
  | release me =>
      obtain ⟨⟨gid, slot⟩, isHeld, _⟩ := enabled
      have isHeld : table.holding me = some (gid, slot) := isHeld
      simp only [tableEffect, isHeld]
      exact ok.release isHeld
  | markOrphaned node => exact ok.markOrphaned node
  | stamp gid term =>
      obtain ⟨slot, isEntry, isFree, _⟩ := enabled
      have isEntry : table.hash gid = some slot := isEntry
      have unlocked := ok.unlocked gid slot isEntry isFree
      simp only [tableEffect, isEntry]
      exact ok.modify rfl rfl (fun _ => id) (fun _ => unlocked.2)
        (ok.setXState unlocked.2)
  | prepareForeign gid =>
      refine ⟨ok.named, ok.held, ok.unlocked, ok.unprepared, ?_⟩
      intro pxact isPxact xstate isState
      rcases List.mem_cons.mp isPxact with isNew | isOld
      · subst isNew
        cases isState
      · exact ok.pxacts pxact isOld xstate isState
  | loadAll slots => exact ok.loadAll permitted enabled.1
  | shmemReset =>
      exact {
        named := fun _ _ isEntry => by cases isEntry
        held := fun _ _ _ isHeld => by cases isHeld
        unlocked := fun _ _ isEntry => by cases isEntry
        unprepared := fun _ _ isEntry => by cases isEntry
        pxacts := ok.pxacts }

end TableOk

variable [DecidableEq Gid] [DecidableEq Process] [Inhabited Gid]

/-- In a run in which `GlobalTxLoadAll` is called only when no process holds an
entry, every transaction is held by at most one process, through the entry in
the hash, and the entries that nobody holds are prepared and not finished. -/
theorem table_exclusive
    {table : Table Gid Process}
    (reachable : tableMachine.Reachable LoadsUnheld table) :
    Exclusive table := by
  have ok : TableOk table := by
    refine Machine.Reachable.invariant ?_ ?_ reachable
    · exact {
        named := fun _ _ isEntry => by cases isEntry
        held := fun _ _ _ isHeld => by cases isHeld
        unlocked := fun _ _ isEntry => by cases isEntry
        unprepared := fun _ _ isEntry => by cases isEntry
        pxacts := fun _ isPxact => by cases isPxact }
    · intro current action ok enabled permitted
      exact ok.step action enabled permitted
  exact ok.exclusive

/-! ## A monitor that restarts -/

section Schedules

variable [Fintype Gid] [Fintype Process]

instance (table : Table Gid Process) (slot : ℕ) :
    Decidable (table.Unused slot) :=
  inferInstanceAs (Decidable (∀ _, _))

instance (table : Table Gid Process) (gid : Gid) :
    Decidable (table.IsPxact gid) :=
  inferInstanceAs (Decidable (_ ∈ _))

instance (table : Table Gid Process) (me : Process)
    (property : Gid → Entry Gid Process → Prop)
    [∀ gid entry, Decidable (property gid entry)] :
    Decidable (table.Holds me property) :=
  inferInstanceAs (Decidable (∃ held ∈ table.holding me, _))

instance (table : Table Gid Process) (action : TableAction Gid Process) :
    Decidable (TableEnabled table action) :=
  match action with
  | .acquire _ _ _ _ _ _ => inferInstanceAs (Decidable (_ ∧ _))
  | .describe me _ _ =>
      inferInstanceAs (Decidable (table.Holds me fun _ entry =>
        entry.prepared = false))
  | .logPrepare me =>
      inferInstanceAs (Decidable (table.Holds me fun gid entry =>
        entry.prepared = false ∧ ¬ table.IsPxact gid))
  | .markPrepared me =>
      inferInstanceAs (Decidable (table.Holds me fun gid entry =>
        entry.prepared = false ∧ table.IsPxact gid))
  | .setState me state =>
      inferInstanceAs (Decidable (¬ state.status.Final ∧
        table.Holds me fun gid entry =>
          entry.prepared = true ∧ table.IsPxact gid))
  | .logFinish me =>
      inferInstanceAs (Decidable (table.Holds me fun gid entry =>
        entry.prepared = true ∧ table.IsPxact gid))
  | .markFinished me _ =>
      inferInstanceAs (Decidable (table.Holds me fun gid entry =>
        entry.prepared = true ∧ ¬ table.IsPxact gid))
  | .release me =>
      inferInstanceAs (Decidable (table.Holds me fun _ _ => True))
  | .markOrphaned _ => isTrue trivial
  | .stamp gid _ =>
      inferInstanceAs (Decidable (∃ slot ∈ table.hash gid, _))
  | .prepareForeign _ => inferInstanceAs (Decidable (¬ _))
  | .loadAll _ => inferInstanceAs (Decidable (_ ∧ _))
  | .shmemReset => isTrue trivial

instance (table : Table Gid Process) (action : TableAction Gid Process) :
    Decidable (tableMachine.Enabled table action) :=
  inferInstanceAs (Decidable (TableEnabled table action))

instance (table : Table Gid Process) (action : TableAction Gid Process) :
    Decidable (LoadsUnheld table action) :=
  match action with
  | .loadAll _ => inferInstanceAs (Decidable (∀ _, _))
  | .acquire _ _ _ _ _ _ => isTrue trivial
  | .describe _ _ _ => isTrue trivial
  | .logPrepare _ => isTrue trivial
  | .markPrepared _ => isTrue trivial
  | .setState _ _ => isTrue trivial
  | .logFinish _ => isTrue trivial
  | .markFinished _ _ => isTrue trivial
  | .release _ => isTrue trivial
  | .markOrphaned _ => isTrue trivial
  | .stamp _ _ => isTrue trivial
  | .prepareForeign _ => isTrue trivial
  | .shmemReset => isTrue trivial

end Schedules

/-- A backend prepares a transaction and waits for the replies. -/
def prepareAndWait : List (TableAction (Fin 2) (Fin 2)) :=
  [.acquire 0 0 true false false 0, .describe 0 1 true, .logPrepare 0,
    .markPrepared 0]

/-- A backend precommits a transaction and exits; the monitor restarts, and the
resolver takes the transaction over. -/
def restartAfterRelease : List (TableAction (Fin 2) (Fin 2)) :=
  prepareAndWait ++
  [TableAction.setState 0
      { proposal := initialGTxTerm
        accepted := initialGTxTerm
        status := .preCommitted },
    .release 0, .loadAll [0], .acquire 1 0 false false false 1]

theorem restartAfterRelease_completes :
    (tableMachine.execute LoadsUnheld tableMachine.init
      restartAfterRelease).isSome = true := by
  decide +kernel

theorem table_exclusive_restartAfterRelease :
    let table := (tableMachine.execute LoadsUnheld tableMachine.init
      restartAfterRelease).get restartAfterRelease_completes
    table.holding 1 = some (0, 0) ∧
      (∀ slot, table.holding 0 ≠ some (0, slot)) ∧
      table.hash 0 = some 0 := by
  intro table
  have exclusive := table_exclusive (Machine.reachable_of_execute
    restartAfterRelease restartAfterRelease_completes)
  have isHeld : table.holding 1 = some (0, 0) := by
    decide +kernel
  refine ⟨isHeld, fun slot alsoHeld => ?_, exclusive.held 1 0 0 isHeld⟩
  cases exclusive.single 0 1 0 slot 0 alsoHeld isHeld

/-- The monitor restarts while the backend waits; its transaction is entered
again, and the resolver acquires it as well. -/
def restartWhileHeld : List (TableAction (Fin 2) (Fin 2)) :=
  prepareAndWait ++ [.loadAll [0], .acquire 1 0 false false false 1]

theorem restartWhileHeld_completes :
    (tableMachine.execute Machine.Always tableMachine.init
      restartWhileHeld).isSome = true := by
  decide +kernel

/-- A reachable table in which two processes hold one transaction. -/
theorem table_held_twice :
    ∃ table : Table (Fin 2) (Fin 2),
      tableMachine.Reachable Machine.Always table ∧
      table.holding 0 = some (0, 0) ∧ table.holding 1 = some (0, 0) ∧
      ¬ Exclusive table := by
  refine ⟨_, Machine.reachable_of_execute restartWhileHeld
    restartWhileHeld_completes, by decide +kernel, by decide +kernel, ?_⟩
  intro exclusive
  have same := exclusive.single 0 1 0 0 0 (by decide +kernel)
    (by decide +kernel)
  cases same

end Gtx
end Multimaster
