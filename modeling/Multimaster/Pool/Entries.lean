import Multimaster.Pool.Capacity

/-!
# The entries of the list

The list in the array determines its entries, so what each step of the receiver
and the workers does to them is what it does to the list.
-/

namespace Multimaster
namespace Pool

variable {config : Config} {workshop : Workshop} {entries : List TxlEntry}
variable {alive : State} {txlist : Txlist}

/-! ## The list determines its entries -/

theorem Linked.unique
    {Pos : Type*} {prev next : Pos → Pos} {after before : Pos}
    {first second : List Pos}
    (sameLength : first.length = second.length)
    (sameHead : first.headD after = second.headD after)
    (isFirst : Linked prev next after before first)
    (isSecond : Linked prev next after before second) :
    first = second := by
  induction first generalizing second before with
  | nil => exact (List.length_eq_zero_iff.mp sameLength.symm).symm
  | cons pos rest inductionHypothesis =>
      cases second with
      | nil => cases sameLength
      | cons other others =>
          have same : pos = other := sameHead
          subst same
          obtain ⟨-, next, restLinked⟩ := isFirst
          obtain ⟨-, otherNext, othersLinked⟩ := isSecond
          rw [inductionHypothesis (Nat.succ.inj sameLength)
            (next.symm.trans otherNext) restLinked othersLinked]

theorem TxlistOk.entries_unique
    {others : List TxlEntry}
    (ok : TxlistOk txlist entries) (otherOk : TxlistOk txlist others) :
    entries = others := by
  have sameLength : entries.length = others.length := by
    have lengths := ok.nelems.symm.trans otherOk.nelems
    exact Int.ofNat_inj.mp lengths
  have samePositions : positions entries = positions others := by
    refine Linked.unique ?_ (ok.head.symm.trans otherOk.head) ok.linked
      otherOk.linked
    rw [positions, positions, List.length_map, List.length_map, sameLength]
  have samePos : entries.map Prod.fst = others.map Prod.fst := by
    have cast : entries.map (fun entry => (entry.1 : ℤ)) =
        others.map (fun entry => (entry.1 : ℤ)) := samePositions
    have back := congrArg (List.map Int.toNat) cast
    rw [List.map_map, List.map_map] at back
    exact back
  -- the values stand in the array
  have value : ∀ list : List TxlEntry,
      (∀ entry ∈ list, (txlist.store entry.1).value = entry.2) →
      list = (list.map Prod.fst).map fun pos =>
        (pos, (txlist.store (pos : ℕ)).value) := by
    intro list values
    rw [List.map_map]
    symm
    refine (List.map_congr_left ?_).trans (List.map_id list)
    intro entry isEntry
    exact Prod.ext rfl (values entry isEntry)
  rw [value entries ok.values, value others otherOk.values, samePos]

/-- The position that the search finds belongs to no entry, whether there is a
free slot or not. -/
theorem Txlist.freeSlot_free (txlist : Txlist) (pos left : ℕ) :
    txlist.freeSlot pos left = pos + left ∨
      (txlist.store (txlist.freeSlot pos left)).value = 0 := by
  induction left generalizing pos with
  | zero => exact Or.inl rfl
  | succ left inductionHypothesis =>
      rw [Txlist.freeSlot]
      split
      · next isFree => exact Or.inr isFree
      · have found := inductionHypothesis (pos + 1)
        rwa [Nat.add_assoc, Nat.add_comm 1 left] at found

theorem TxlistOk.fresh (ok : TxlistOk txlist entries) (value : ℤ) :
    (txlStore txlist value).2 ∉ entries.map Prod.fst := by
  intro isUsed
  obtain ⟨entry, isEntry, isPos⟩ := List.mem_map.mp isUsed
  have inside := ok.inside entry isEntry
  have isValue := ok.values entry isEntry
  rcases txlist.freeSlot_free 0 txlist.size with isSize | isFree
  · have same : entry.1 = txlist.size := by
      rw [isPos, txlStore, isSize, Nat.zero_add]
    omega
  · rw [isPos, txlStore, isFree] at isValue
    exact ok.used entry isEntry isValue.symm

/-! ## The steps -/

theorem Accounted.with_entries
    {others : List TxlEntry}
    (ok : Accounted config workshop others alive)
    (list : TxlistOk workshop.txlist entries) :
    Accounted config workshop entries alive := by
  have same : others = entries := ok.list.list.entries_unique list
  rwa [same] at ok

theorem Accounted.push_entries
    (ok : Accounted config workshop entries alive)
    {work : List Byte} (registered : Bool)
    (noEntries : workshop.receiver.entries = 0)
    (short : work.length < 2 ^ 31)
    (bounded : msgLen work.length ≤ workshop.state.queue.size)
    (admits : workshop.Admits work) :
    ∃ alive, Accounted config (workshop.push config work registered)
      (entries ++ [((txlStore workshop.txlist 1).2, 1)]) alive := by
  have pushed : ∃ others alive,
      Accounted config (workshop.push config work registered) others alive :=
    ok.push noEntries short bounded admits
  obtain ⟨others, alive, kept⟩ := pushed
  have room : entries.length < workshop.txlist.size := by
    have nelems := ok.list.list.nelems
    have below := admits.2
    simp only at nelems
    omega
  have stored : RecordedOk
      (callEffect ⟨workshop.txlist, entries⟩ (.store 1)) :=
    ok.list.call ⟨Or.inl rfl, room⟩
  exact ⟨alive, kept.with_entries stored.list⟩

theorem Accounted.complete_entries
    (ok : Accounted config workshop entries alive) {pos : BitVec 32}
    (isExecuting : pos ∈ workshop.executing) :
    Accounted config (stepEffect config workshop (.complete pos))
      (entries.filter fun entry => entry.1 ≠ pos.toNat) alive := by
  obtain ⟨others, kept⟩ := ok.complete isExecuting
  have isOwned : pos.toNat ∈ workshop.owned alive :=
    List.mem_append_right _ (List.mem_append_left _
      (List.mem_map_of_mem isExecuting))
  have removed : RecordedOk
      (callEffect ⟨workshop.txlist, entries⟩ (.remove pos.toNat)) :=
    ok.list.call (ok.stored _ isOwned)
  have list := removed.list
  simp only [callEffect, ← ok.toInt_eq isOwned] at list
  exact kept.with_entries list

theorem Accounted.store_entries
    (ok : Accounted config workshop entries alive) {value : ℤ}
    (isIdle : workshop.receiver = .idle)
    (leavesSlot : LeavesSlot config workshop (.store value)) :
    Accounted config (stepEffect config workshop (.store value))
      (entries ++ [((txlStore workshop.txlist value).2, value)]) alive := by
  obtain ⟨others, kept⟩ := ok.store isIdle leavesSlot
  have account := ok.account
  have below := leavesSlot.2
  rw [isIdle] at account
  have room : entries.length < workshop.txlist.size := by
    rw [ok.size, account]
    exact below
  have stored : RecordedOk
      (callEffect ⟨workshop.txlist, entries⟩ (.store value)) :=
    ok.list.call ⟨leavesSlot.1, room⟩
  exact kept.with_entries stored.list

theorem Accounted.remove_entries
    (ok : Accounted config workshop entries alive) {pos : ℕ}
    (isHolding : workshop.receiver = .holding pos) :
    Accounted config (stepEffect config workshop .remove)
      (entries.filter fun entry => entry.1 ≠ pos) alive := by
  obtain ⟨others, kept⟩ := ok.remove isHolding
  have isOwned : pos ∈ workshop.owned alive := by
    rw [Workshop.owned, isHolding]
    exact List.mem_append_right _ (List.mem_append_right _
      List.mem_cons_self)
  have removed : RecordedOk
      (callEffect ⟨workshop.txlist, entries⟩ (.remove pos)) :=
    ok.list.call (ok.stored _ isOwned)
  refine kept.with_entries ?_
  simp only [stepEffect, isHolding]
  exact removed.list

end Pool
end Multimaster
