import Multimaster.Pool.Order
import Multimaster.Pool.Wakeup

/-!
# The capacity of the list of transactions

`BgwPoolExecute` stores into the list only when it has a free slot.  The two
other callers, `process_syncpoint` and the non-transactional message, do not
look: whether they find a slot depends on how much work the pool has.

A queue that was filled exactly looks empty, and the messages in it are lost;
their entries stay in the list.
-/

namespace Multimaster
namespace Pool

/-- The works handed over to the pool and not yet applied. -/
def Workshop.unapplied (workshop : Workshop) : ℕ :=
  workshop.state.pending.length + workshop.executing.length

/-- A step in which `txl_store` is called, as the callers do. -/
def Workshop.Stores (workshop : Workshop) : Step → Prop
  | .store value => value = 1 ∨ value = 2
  | step => ∃ work ∈ workshop.offered step, workshop.Admits work

/-- The search of `txl_store` ends at a free slot of the list. -/
def Txlist.FindsSlot (txlist : Txlist) : Prop :=
  txlist.freeSlot 0 txlist.size < txlist.size ∧
    (txlist.store (txlist.freeSlot 0 txlist.size)).value = 0

/-- The receiver stores an entry of its own, of one of the two kinds, only while
the pool has fewer works than the list has slots. -/
def LeavesSlot (config : Config) (workshop : Workshop) : Step → Prop
  | .store value =>
      (value = 1 ∨ value = 2) ∧ workshop.unapplied < config.maxBackends
  | _ => True

/-! ## Who owns the entries -/

/-- The position of the receiver's own entry. -/
def ReceiverStage.positions : ReceiverStage → List ℕ
  | .holding pos => [pos]
  | _ => []

/-- The positions of the messages that can be popped, of the transactions that
are being applied and of the receiver. -/
def Workshop.owned (workshop : Workshop) (alive : State) : List ℕ :=
  alive.pending.map (fun entry => entry.2.txlistPos.toNat) ++
    (workshop.executing.map BitVec.toNat ++ workshop.receiver.positions)

/-- The invariant: the entries of the list, and the messages that were not
lost. -/
structure Accounted
    (config : Config) (workshop : Workshop) (entries : List TxlEntry)
    (alive : State) : Prop where
  sameQueue : alive.queue = workshop.state.queue
  queue : Invariant alive
  fewer : alive.pending.length + workshop.state.popped.length ≤
    workshop.state.pushed.length
  list : RecordedOk ⟨workshop.txlist, entries⟩
  size : workshop.txlist.size = config.maxBackends
  distinct : (workshop.owned alive).Nodup
  stored : ∀ pos ∈ workshop.owned alive, pos ∈ entries.map Prod.fst
  account : entries.length = workshop.unapplied + workshop.receiver.entries
  work : ∀ work ∈ workshop.receiver.waiting, work.length < 2 ^ 31 ∧
    msgLen work.length ≤ workshop.state.queue.size

variable {config : Config} {memory : Memory} {workshop : Workshop}
variable {entries : List TxlEntry} {alive : State}

theorem Accounted.initially (config : Config) (memory : Memory) :
    Accounted config (workshopMachine config memory).init []
      (machine config.transSpillThreshold memory).init where
  sameQueue := rfl
  queue := Invariant.initially config.transSpillThreshold memory
  fewer := Nat.le_refl _
  list := ⟨txlistOk_clear _, fun _ isEntry => by cases isEntry⟩
  size := rfl
  distinct := List.nodup_nil
  stored := fun _ isPos => by cases isPos
  account := rfl
  work := fun _ isWork => by cases isWork

theorem length_pending (state : State) :
    state.pending.length = state.pushed.length - state.popped.length :=
  List.length_drop

/-- The search finds a slot exactly when there is one. -/
theorem TxlistOk.findsSlot_iff
    {txlist : Txlist} {entries : List TxlEntry} (ok : TxlistOk txlist entries) :
    txlist.FindsSlot ↔ entries.length < txlist.size := by
  constructor
  · rintro ⟨inside, isFree⟩
    by_contra full
    -- the entries then take every position below the size
    have subset : entries.map Prod.fst ⊆ List.range txlist.size := by
      intro pos isUsed
      obtain ⟨entry, isEntry, rfl⟩ := List.mem_map.mp isUsed
      exact List.mem_range.mpr (ok.inside entry isEntry)
    have whole := (List.subperm_of_subset ok.nodup subset).perm_of_length_le
      (by rw [List.length_range, List.length_map]; omega)
    have isUsed := whole.mem_iff.mpr (List.mem_range.mpr inside)
    obtain ⟨entry, isEntry, isPos⟩ := List.mem_map.mp isUsed
    have value := ok.values entry isEntry
    rw [isPos, isFree] at value
    exact ok.used entry isEntry value.symm
  · intro room
    obtain ⟨free, inside, notUsed⟩ := exists_free room
    have found := txlist.freeSlot_spec (Nat.zero_le free)
      (by rwa [Nat.zero_add]) (ok.free free inside notUsed)
    rwa [Nat.zero_add] at found

/-- One owner leaves the list. -/
theorem RecordedOk.release
    {recorded : Recorded} (ok : RecordedOk recorded) {pos : ℕ} {others : List ℕ}
    (distinct : (pos :: others).Nodup)
    (stored : ∀ owner ∈ pos :: others, owner ∈ recorded.entries.map Prod.fst) :
    RecordedOk (callEffect recorded (.remove pos)) ∧
      (∀ owner ∈ others,
        owner ∈ (callEffect recorded (.remove pos)).entries.map Prod.fst) ∧
      (callEffect recorded (.remove pos)).entries.length + 1 =
        recorded.entries.length := by
  have isStored := stored pos List.mem_cons_self
  refine ⟨ok.call isStored, ?_, ?_⟩
  · intro owner isOther
    obtain ⟨entry, isEntry, rfl⟩ :=
      List.mem_map.mp (stored owner (List.mem_cons_of_mem _ isOther))
    have different : entry.1 ≠ pos := by
      rintro rfl
      exact (List.nodup_cons.mp distinct).1 isOther
    exact List.mem_map.mpr
      ⟨entry, List.mem_filter.mpr ⟨isEntry, by simpa using different⟩, rfl⟩
  · obtain ⟨first, value, second, whole, rest⟩ :=
      TxlistOk.exists_split isStored ok.list
    simp only [callEffect, rest]
    rw [whole]
    simp only [List.length_append, List.length_cons]
    omega

/-! ## The steps -/

/-- A position of the list as the queue and the workers carry it. -/
theorem Accounted.toNat_ofNat
    (ok : Accounted config workshop entries alive) {pos : ℕ}
    (inside : pos < workshop.txlist.size) :
    (BitVec.ofNat 32 pos).toNat = pos := by
  have inRange := config.inRange
  rw [ok.size, Config.maxBackends] at inside
  rw [BitVec.toNat_ofNat]
  omega

theorem Accounted.toInt_eq
    (ok : Accounted config workshop entries alive) {pos : BitVec 32}
    (isOwned : pos.toNat ∈ workshop.owned alive) :
    pos.toInt = (pos.toNat : ℤ) := by
  have inRange := config.inRange
  obtain ⟨entry, isEntry, isPos⟩ :=
    List.mem_map.mp (ok.stored _ isOwned)
  have inside := ok.list.list.inside entry isEntry
  change entry.1 < workshop.txlist.size at inside
  rw [isPos, ok.size, Config.maxBackends] at inside
  rw [BitVec.toInt_eq_toNat_of_lt]
  omega

theorem ReceiverStage.positions_of_entries
    {receiver : ReceiverStage} (noEntries : receiver.entries = 0) :
    receiver.positions = [] := by
  cases receiver with
  | holding pos => cases noEntries
  | idle => rfl
  | asleep work => rfl
  | woken work => rfl

/-- The message the receiver pushes carries the position found. -/
theorem Accounted.message_toNat
    (ok : Accounted config workshop entries alive)
    (room : entries.length < workshop.txlist.size) (work : List Byte) :
    (workshop.message work).txlistPos.toNat =
      (txlStore workshop.txlist 1).2 :=
  ok.toNat_ofNat (ok.list.list.freeSlot room).1

theorem Accounted.push
    (ok : Accounted config workshop entries alive)
    {work : List Byte} {registered : Bool}
    (noEntries : workshop.receiver.entries = 0)
    (short : work.length < 2 ^ 31)
    (bounded : msgLen work.length ≤ workshop.state.queue.size)
    (admits : workshop.Admits work) :
    ∃ entries alive,
      Accounted config (workshop.push config work registered) entries alive := by
  have nelems := ok.list.list.nelems
  have room : entries.length < workshop.txlist.size := by
    have below := admits.2
    simp only at nelems
    omega
  obtain ⟨inside, notUsed⟩ := ok.list.list.freeSlot room
  have enabled : Enabled alive (.push (workshop.message work)) := by
    refine ⟨short, ?_, ?_⟩
    · rw [ok.sameQueue]
      exact bounded
    · rw [ok.sameQueue]
      exact admits.1
  obtain ⟨next, sameQueue, queue, nowPending⟩ := ok.queue.push_alive enabled
  have isPosition := ok.message_toNat room work
  have noPositions := ReceiverStage.positions_of_entries noEntries
  have distinct := ok.distinct
  have stored := ok.stored
  simp only [Workshop.owned, noPositions, List.append_nil] at distinct stored
  -- the owners after the push are owners before it, or the new message
  have fresh : (txlStore workshop.txlist 1).2 ∉
      workshop.executing.map BitVec.toNat := by
    intro isExecuting
    exact notUsed (stored _ (List.mem_append_right _ isExecuting))
  refine ⟨(callEffect ⟨workshop.txlist, entries⟩ (.store 1)).entries, next, ?_⟩
  constructor
  · rw [sameQueue, ok.sameQueue]
    rfl
  · exact queue
  · have fewer := ok.fewer
    simp only [Workshop.push, effect, List.length_append, List.length_singleton]
    rcases nowPending with isNil | isNext
    · rw [isNil, List.length_nil]
      omega
    · rw [isNext, List.length_append, List.length_singleton]
      omega
  · have canStore : CallEnabled ⟨workshop.txlist, entries⟩ (.store 1) :=
      ⟨Or.inl rfl, room⟩
    exact ok.list.call canStore
  · exact ok.size
  · simp only [Workshop.owned, Workshop.push, ReceiverStage.positions,
      List.append_nil]
    rcases nowPending with isNil | isNext
    · rw [isNil]
      exact (List.nodup_append.mp distinct).2.1
    · rw [isNext, List.map_append, List.append_assoc, List.map_singleton,
        isPosition, List.singleton_append, List.nodup_middle, List.nodup_cons]
      exact ⟨fun isOwner => notUsed (stored _ isOwner), distinct⟩
  · simp only [Workshop.owned, Workshop.push, ReceiverStage.positions,
      List.append_nil, callEffect, List.map_append, List.map_singleton]
    intro pos isOwner
    rcases List.mem_append.mp isOwner with isPending | isExecuting
    · rcases nowPending with isNil | isNext
      · rw [isNil] at isPending
        cases isPending
      · rw [isNext, List.map_append, List.map_singleton, isPosition] at isPending
        rcases List.mem_append.mp isPending with isOld | isNew
        · exact List.mem_append_left _ (stored pos (List.mem_append_left _ isOld))
        · exact List.mem_append_right _ isNew
    · exact List.mem_append_left _
        (stored pos (List.mem_append_right _ isExecuting))
  · have account := ok.account
    have fewer := ok.fewer
    rw [noEntries] at account
    simp only [Workshop.unapplied, length_pending] at account ⊢
    simp only [Workshop.push, effect, callEffect, List.length_append,
      List.length_singleton, ReceiverStage.entries]
    omega
  · intro other isWaiting
    cases isWaiting

theorem Accounted.tryPush
    (ok : Accounted config workshop entries alive)
    {work : List Byte} {registered : Bool}
    (noEntries : workshop.receiver.entries = 0)
    (short : work.length < 2 ^ 31)
    (bounded : msgLen work.length ≤ workshop.state.queue.size) :
    ∃ entries alive,
      Accounted config (workshop.tryPush config work registered) entries
        alive := by
  unfold Workshop.tryPush
  split
  · next admits => exact ok.push noEntries short bounded admits
  · have account := ok.account
    have distinct := ok.distinct
    have stored := ok.stored
    have noPositions := ReceiverStage.positions_of_entries noEntries
    rw [noEntries] at account
    simp only [Workshop.owned, noPositions] at distinct stored
    refine ⟨entries, alive, { ok with
      distinct := distinct, stored := stored, account := account, work := ?_ }⟩
    rintro other ⟨⟩
    exact ⟨short, bounded⟩

theorem Workshop.positions_pop (workshop : Workshop) :
    workshop.pop.receiver.positions = workshop.receiver.positions := by
  simp only [Workshop.pop]
  split
  · cases workshop.receiver <;> rfl
  · rfl

/-- The first message that can be popped goes to a worker. -/
theorem Accounted.pop
    (ok : Accounted config workshop entries alive)
    (nonempty : workshop.state.queue.head ≠ workshop.state.queue.tail) :
    ∃ alive, Accounted config workshop.pop entries alive := by
  have enabled : alive.queue.head ≠ alive.queue.tail := by
    rwa [ok.sameQueue]
  have rest := pending_pop alive
  have chain := ok.queue.chain
  cases isPending : alive.pending with
  | nil => exact absurd isPending (ok.queue.pending_ne_nil enabled)
  | cons entry others =>
      rw [isPending] at rest chain
      obtain ⟨place, message⟩ := entry
      obtain ⟨isHead, _, short, _, isStored, _⟩ := chain
      cases isHead
      have isFront : workshop.state.queue.front = message := by
        rw [← ok.sameQueue]
        exact Queue.front_of_stored isStored short
      have moved : (workshop.owned alive).Perm
          (workshop.pop.owned (effect alive .pop)) := by
        simp only [Workshop.owned, Workshop.positions_pop, rest, isPending,
          List.tail_cons, List.map_cons, List.cons_append]
        simp only [Workshop.pop, List.map_append, isFront, List.map_cons,
          List.map_nil, List.append_assoc, List.singleton_append]
        refine (List.perm_middle.symm.trans ?_)
        refine List.Perm.append_left _ ?_
        exact List.perm_middle.symm
      have fewer := ok.fewer
      rw [isPending, List.length_cons] at fewer
      refine ⟨effect alive .pop, ?_⟩
      constructor
      · rw [effect_pop]
        simp only [ok.sameQueue, Workshop.pop, effect_pop]
      · exact ok.queue.pop enabled
      · rw [rest]
        simp only [Workshop.pop, effect_pop, List.length_append,
          List.length_singleton, List.tail_cons]
        omega
      · exact ok.list
      · exact ok.size
      · exact moved.nodup ok.distinct
      · intro pos isOwner
        exact ok.stored pos (moved.mem_iff.mpr isOwner)
      · have account := ok.account
        rw [Workshop.entries_pop]
        simp only [Workshop.unapplied, length_pending] at account ⊢
        simp only [Workshop.pop, effect_pop, List.length_append,
          List.length_singleton]
        omega
      · intro work isWaiting
        rw [Workshop.waiting_pop] at isWaiting
        simp only [Workshop.pop, effect_pop, Queue.pop_size]
        exact ok.work work isWaiting

/-- A worker that has applied its transaction removes its entry. -/
theorem Accounted.complete
    (ok : Accounted config workshop entries alive) {pos : BitVec 32}
    (isExecuting : pos ∈ workshop.executing) :
    ∃ entries, Accounted config (stepEffect config workshop (.complete pos))
      entries alive := by
  have split : (workshop.owned alive).Perm
      (pos.toNat ::
        (stepEffect config workshop (.complete pos)).owned alive) := by
    simp only [Workshop.owned, stepEffect]
    refine List.Perm.trans ?_ List.perm_middle
    refine List.Perm.append_left _ ?_
    rw [← List.cons_append, ← List.map_cons]
    exact ((List.perm_cons_erase isExecuting).map _).append_right _
  have isOwned : pos.toNat ∈ workshop.owned alive :=
    split.mem_iff.mpr List.mem_cons_self
  have distinct := split.nodup ok.distinct
  obtain ⟨list, stored, lengths⟩ := ok.list.release distinct
    (fun owner isOwner => ok.stored owner (split.mem_iff.mpr isOwner))
  have account := ok.account
  have someExecuting := List.length_pos_of_mem isExecuting
  refine ⟨(callEffect ⟨workshop.txlist, entries⟩ (.remove pos.toNat)).entries,
    ?_⟩
  constructor
  · exact ok.sameQueue
  · exact ok.queue
  · exact ok.fewer
  · simp only [stepEffect, ok.toInt_eq isOwned]
    exact list
  · simp only [stepEffect, txlRemove_size]
    exact ok.size
  · exact (List.nodup_cons.mp distinct).2
  · exact stored
  · simp only [Workshop.unapplied] at account ⊢
    simp only [stepEffect, List.length_erase_of_mem isExecuting] at lengths ⊢
    omega
  · exact ok.work

/-- The receiver stores an entry of its own. -/
theorem Accounted.store
    (ok : Accounted config workshop entries alive) {value : ℤ}
    (isIdle : workshop.receiver = .idle)
    (leavesSlot : LeavesSlot config workshop (.store value)) :
    ∃ entries, Accounted config (stepEffect config workshop (.store value))
      entries alive := by
  obtain ⟨isValue, below⟩ := leavesSlot
  have account := ok.account
  rw [isIdle] at account
  have room : entries.length < workshop.txlist.size := by
    rw [ok.size, account]
    exact below
  have canStore : CallEnabled ⟨workshop.txlist, entries⟩ (.store value) :=
    ⟨isValue, room⟩
  have distinct := ok.distinct
  have stored := ok.stored
  simp only [Workshop.owned, isIdle, ReceiverStage.positions,
    List.append_nil] at distinct stored
  have added : ((stepEffect config workshop (.store value)).owned alive).Perm
      ((txlStore workshop.txlist value).2 ::
        (alive.pending.map (fun entry => entry.2.txlistPos.toNat) ++
          workshop.executing.map BitVec.toNat)) := by
    simp only [Workshop.owned, stepEffect, ReceiverStage.positions,
      ← List.append_assoc]
    exact List.perm_append_singleton _ _
  have fresh := (ok.list.list.freeSlot room).2
  refine ⟨(callEffect ⟨workshop.txlist, entries⟩ (.store value)).entries, ?_⟩
  constructor
  · exact ok.sameQueue
  · exact ok.queue
  · exact ok.fewer
  · exact ok.list.call canStore
  · exact ok.size
  · refine added.symm.nodup (List.nodup_cons.mpr ⟨?_, distinct⟩)
    exact fun isOwner => fresh (stored _ isOwner)
  · intro pos isOwner
    simp only [callEffect, List.map_append, List.map_singleton]
    rcases List.mem_cons.mp (added.mem_iff.mp isOwner) with rfl | isOld
    · exact List.mem_append_right _ List.mem_cons_self
    · exact List.mem_append_left _ (stored pos isOld)
  · simp only [Workshop.unapplied] at account ⊢
    simp only [stepEffect, callEffect, List.length_append,
      List.length_singleton, account, ReceiverStage.entries, Nat.add_zero]
  · intro work isWaiting
    cases isWaiting

/-- The receiver removes it. -/
theorem Accounted.remove
    (ok : Accounted config workshop entries alive) {pos : ℕ}
    (isHolding : workshop.receiver = .holding pos) :
    ∃ entries, Accounted config (stepEffect config workshop .remove)
      entries alive := by
  have split : (workshop.owned alive).Perm
      (pos :: (stepEffect config workshop .remove).owned alive) := by
    simp only [Workshop.owned, stepEffect, isHolding, ReceiverStage.positions,
      List.append_nil, ← List.append_assoc]
    exact List.perm_append_singleton _ _
  have distinct := split.nodup ok.distinct
  obtain ⟨list, stored, lengths⟩ := ok.list.release distinct
    (fun owner isOwner => ok.stored owner (split.mem_iff.mpr isOwner))
  have account := ok.account
  refine ⟨(callEffect ⟨workshop.txlist, entries⟩ (.remove pos)).entries, ?_⟩
  constructor
  · simp only [stepEffect, isHolding]
    exact ok.sameQueue
  · exact ok.queue
  · simp only [stepEffect, isHolding]
    exact ok.fewer
  · simp only [stepEffect, isHolding]
    exact list
  · simp only [stepEffect, isHolding, txlRemove_size]
    exact ok.size
  · exact (List.nodup_cons.mp distinct).2
  · exact stored
  · simp only [Workshop.unapplied] at account ⊢
    simp only [stepEffect, isHolding, ReceiverStage.entries] at account lengths ⊢
    omega
  · intro work isWaiting
    simp [stepEffect, isHolding, ReceiverStage.waiting] at isWaiting

theorem Accounted.step
    (ok : Accounted config workshop entries alive) {step : Step}
    (enabled : StepEnabled config workshop step)
    (leavesSlot : LeavesSlot config workshop step) :
    ∃ entries alive,
      Accounted config (stepEffect config workshop step) entries alive := by
  cases step with
  | execute work registered =>
      obtain ⟨isIdle, short, bounded, _⟩ := enabled
      exact ok.tryPush (by rw [isIdle]; rfl) short bounded
  | retry registered =>
      obtain ⟨⟨work, isWoken⟩, _⟩ := enabled
      obtain ⟨short, bounded⟩ := ok.work work (by rw [isWoken]; rfl)
      simp only [stepEffect, isWoken]
      exact ok.tryPush (by rw [isWoken]; rfl) short bounded
  | pop => exact ⟨entries, ok.pop enabled.2⟩
  | sleep => exact ⟨entries, alive, { ok with }⟩
  | complete pos =>
      obtain ⟨entries, kept⟩ := ok.complete enabled
      exact ⟨entries, alive, kept⟩
  | store value =>
      obtain ⟨entries, kept⟩ := ok.store enabled leavesSlot
      exact ⟨entries, alive, kept⟩
  | remove =>
      obtain ⟨pos, isHolding, _⟩ := enabled
      obtain ⟨entries, kept⟩ := ok.remove isHolding
      exact ⟨entries, alive, kept⟩

theorem accounted_of_reachable
    (reachable : (workshopMachine config memory).Reachable (LeavesSlot config)
      workshop) :
    ∃ entries alive, Accounted config workshop entries alive := by
  let HasAccount (workshop : Workshop) : Prop :=
    ∃ entries alive, Accounted config workshop entries alive
  have initially : HasAccount (workshopMachine config memory).init :=
    ⟨[], _, Accounted.initially config memory⟩
  refine Machine.Reachable.invariant initially ?_ reachable
  rintro current step ⟨entries, alive, ok⟩ enabled leavesSlot
  exact ok.step enabled leavesSlot

/-- In a run in which the receiver stores its own entries only while the pool
has fewer works than the list has slots, `txl_store` is called only when the list
has a free slot, and its search stays within the list; and a further call finds a
slot only under the same condition. -/
theorem store_finds_slot
    (reachable : (workshopMachine config memory).Reachable (LeavesSlot config)
      workshop)
    {step : Step} (enabled : StepEnabled config workshop step)
    (stores : workshop.Stores step) :
    workshop.txlist.FindsSlot ↔ LeavesSlot config workshop step := by
  obtain ⟨entries, alive, ok⟩ := accounted_of_reachable reachable
  rw [ok.list.list.findsSlot_iff]
  have account := ok.account
  have ofAdmits : (∃ work ∈ workshop.offered step, workshop.Admits work) →
      entries.length < workshop.txlist.size := by
    rintro ⟨work, _, admits⟩
    have nelems := ok.list.list.nelems
    have below := admits.2
    simp only at nelems
    omega
  cases step with
  | store value =>
      have isIdle : workshop.receiver = .idle := enabled
      rw [isIdle] at account
      simp only [LeavesSlot, ok.size, account, ReceiverStage.entries,
        Nat.add_zero]
      exact ⟨fun below => ⟨stores, below⟩, fun slot => slot.2⟩
  | execute work registered =>
      exact ⟨fun _ => trivial, fun _ => ofAdmits stores⟩
  | retry registered => exact ⟨fun _ => trivial, fun _ => ofAdmits stores⟩
  | pop => exact ⟨fun _ => trivial, fun _ => ofAdmits stores⟩
  | sleep => exact ⟨fun _ => trivial, fun _ => ofAdmits stores⟩
  | complete pos => exact ⟨fun _ => trivial, fun _ => ofAdmits stores⟩
  | remove => exact ⟨fun _ => trivial, fun _ => ofAdmits stores⟩

/-! ## Schedules -/

instance (workshop : Workshop) (step : Step) :
    Decidable (LeavesSlot config workshop step) :=
  match step with
  | .store _ => inferInstanceAs (Decidable (_ ∧ _))
  | .execute _ _ | .retry _ | .pop | .sleep | .complete _ | .remove =>
      isTrue trivial

instance (txlist : Txlist) : Decidable txlist.FindsSlot :=
  inferInstanceAs (Decidable (_ ∧ _))

/-- One transaction is being applied when a syncpoint comes. -/
def syncpointBehindOne : List Step :=
  [.execute (someWork 8) true, .pop]

theorem syncpointBehindOne_completes :
    ((workshopMachine smallConfig fun _ => 0).execute (LeavesSlot smallConfig)
      (workshopMachine smallConfig fun _ => 0).init
      syncpointBehindOne).isSome = true := by
  decide +kernel

theorem store_finds_slot_syncpoint :
    let workshop := ((workshopMachine smallConfig fun _ => 0).execute
      (LeavesSlot smallConfig) (workshopMachine smallConfig fun _ => 0).init
      syncpointBehindOne).get syncpointBehindOne_completes
    workshop.unapplied = 1 ∧ workshop.txlist.FindsSlot := by
  intro workshop
  have one : workshop.unapplied = 1 := by decide +kernel
  have leavesSlot : LeavesSlot smallConfig workshop (.store 2) := by
    decide +kernel
  have enabled : StepEnabled smallConfig workshop (.store 2) := by
    decide +kernel
  refine ⟨one, ?_⟩
  exact (store_finds_slot
    (Machine.reachable_of_execute syncpointBehindOne
      syncpointBehindOne_completes) enabled (Or.inr rfl)).mpr leavesSlot

/-- The list is filled with transactions, the first of which is being
applied. -/
def fillList : List Step :=
  [.execute (someWork 8) true, .pop] ++
    List.replicate 19 (.execute (someWork 8) false)

theorem fillList_completes :
    ((workshopMachine smallConfig fun _ => 0).execute Machine.Always
      (workshopMachine smallConfig fun _ => 0).init
      fillList).isSome = true := by
  decide +kernel

/-- A syncpoint then goes into the slot behind the list. -/
theorem store_beyond_list :
    ∃ workshop, (workshopMachine smallConfig fun _ => 0).Reachable
        Machine.Always workshop ∧
      StepEnabled smallConfig workshop (.store 2) ∧
      workshop.Stores (.store 2) ∧
      (txlStore workshop.txlist 2).2 = workshop.txlist.size ∧
      ¬ workshop.txlist.FindsSlot :=
  ⟨_, Machine.reachable_of_execute fillList fillList_completes,
    by decide +kernel, Or.inr rfl, by decide +kernel, by decide +kernel⟩

end Pool
end Multimaster
