import Mathlib.Data.Int.Basic
import Mathlib.Logic.Function.Basic

/-!
# The list of transactions of a pool

A doubly linked list in an array.  Positions are `int`, with `-1` for none; a
slot with value zero is free.
-/

namespace Multimaster
namespace Pool

/-- `txlelem_t`. -/
structure TxlElem where
  /-- Zero for a free slot, one for a transaction, two for a syncpoint. -/
  value : ℤ
  prev : ℤ
  next : ℤ
  deriving DecidableEq

/-- `txlist_t`. -/
structure Txlist where
  store : ℤ → TxlElem
  tail : ℤ
  head : ℤ
  size : ℕ
  nelems : ℤ

/-- The condition variables of the list. -/
inductive TxlCondition
  | syncpointCv
  | transactionCv
  deriving DecidableEq

/-- `txl_clear`. -/
def txlClear (size : ℕ) : Txlist where
  store := fun _ => { value := 0, prev := 0, next := 0 }
  tail := -1
  head := -1
  size := size
  nelems := 0

/-- The search for a free slot.  The source goes on beyond the array when there
is none in it. -/
def Txlist.freeSlot (txlist : Txlist) : ℕ → ℕ → ℕ
  | pos, 0 => pos
  | pos, left + 1 =>
      if (txlist.store pos).value = 0 then pos
      else txlist.freeSlot (pos + 1) left

/-- Write the next link of a slot. -/
def setNext (store : ℤ → TxlElem) (pos next : ℤ) : ℤ → TxlElem :=
  Function.update store pos { store pos with next := next }

/-- Write the previous link of a slot. -/
def setPrev (store : ℤ → TxlElem) (pos prev : ℤ) : ℤ → TxlElem :=
  Function.update store pos { store pos with prev := prev }

@[simp] theorem setNext_value (store : ℤ → TxlElem) (pos next other : ℤ) :
    (setNext store pos next other).value = (store other).value := by
  by_cases same : other = pos
  · rw [same]
    simp [setNext]
  · simp [setNext, same]

@[simp] theorem setNext_prev (store : ℤ → TxlElem) (pos next other : ℤ) :
    (setNext store pos next other).prev = (store other).prev := by
  by_cases same : other = pos
  · rw [same]
    simp [setNext]
  · simp [setNext, same]

theorem setNext_next (store : ℤ → TxlElem) (pos next other : ℤ) :
    (setNext store pos next other).next =
      if other = pos then next else (store other).next := by
  by_cases same : other = pos
  · rw [same]
    simp [setNext]
  · simp [setNext, same]

@[simp] theorem setPrev_value (store : ℤ → TxlElem) (pos prev other : ℤ) :
    (setPrev store pos prev other).value = (store other).value := by
  by_cases same : other = pos
  · rw [same]
    simp [setPrev]
  · simp [setPrev, same]

@[simp] theorem setPrev_next (store : ℤ → TxlElem) (pos prev other : ℤ) :
    (setPrev store pos prev other).next = (store other).next := by
  by_cases same : other = pos
  · rw [same]
    simp [setPrev]
  · simp [setPrev, same]

theorem setPrev_prev (store : ℤ → TxlElem) (pos prev other : ℤ) :
    (setPrev store pos prev other).prev =
      if other = pos then prev else (store other).prev := by
  by_cases same : other = pos
  · rw [same]
    simp [setPrev]
  · simp [setPrev, same]

/-- `txl_store`: the list and the position. -/
def txlStore (txlist : Txlist) (value : ℤ) : Txlist × ℕ :=
  let pos := txlist.freeSlot 0 txlist.size
  let stored := Function.update txlist.store pos
    { value := value, prev := txlist.tail, next := -1 }
  ({ txlist with
      store := if 0 ≤ txlist.tail then setNext stored txlist.tail pos else stored
      head := if txlist.head = -1 then pos else txlist.head
      tail := pos
      nelems := txlist.nelems + 1 }, pos)

/-- `txl_syncpoint_at_head`. -/
def Txlist.syncpointAtHead (txlist : Txlist) : Bool :=
  txlist.head != -1 && (txlist.store txlist.head).value == 2

/-- `txl_wakeup_workers`: the condition variable that is broadcast. -/
def txlWakeupWorkers (txlist : Txlist) : TxlCondition :=
  if txlist.syncpointAtHead then .syncpointCv else .transactionCv

/-- The links around a position that is not the head. -/
def Txlist.unlinkInner (txlist : Txlist) (pos : ℤ) : Txlist :=
  let prev := (txlist.store pos).prev
  let next := (txlist.store pos).next
  let bridged := setNext txlist.store prev next
  { txlist with
    store := if next ≠ -1 then setPrev bridged next prev else bridged
    tail := if pos = txlist.tail then prev else txlist.tail }

/-- The links behind the head. -/
def Txlist.unlinkHead (txlist : Txlist) (pos : ℤ) : Txlist :=
  let next := (txlist.store pos).next
  if next ≠ -1 then
    { txlist with
      store := setPrev txlist.store next (-1)
      head := next }
  else
    { txlist with
      head := next
      tail := -1 }

/-- `txl_remove`: the list and the condition variable that is broadcast. -/
def txlRemove (txlist : Txlist) (pos : ℤ) : Txlist × Option TxlCondition :=
  if pos = -1 then (txlist, none)
  else
    let unlinked :=
      if pos ≠ txlist.head then txlist.unlinkInner pos
      else txlist.unlinkHead pos
    let removed :=
      { unlinked with
        store := Function.update unlinked.store pos
          { value := 0, prev := -1, next := -1 }
        nelems := unlinked.nelems - 1 }
    (removed,
      if 0 < removed.nelems then some (txlWakeupWorkers removed) else none)

/-- The walk of `can_commit` towards the head; without a result when it takes
more than the given number of rounds. -/
def canCommitFrom (store : ℤ → TxlElem) : ℕ → ℤ → Option Bool
  | 0, _ => none
  | rounds + 1, pos =>
      let prev := (store pos).prev
      if prev = -1 then some true
      else if (store prev).value = 2 then some false
      else canCommitFrom store rounds prev

/-- `can_commit`. -/
def canCommit (txlist : Txlist) (rounds : ℕ) (pos : ℤ) : Option Bool :=
  if pos = -1 then some true else canCommitFrom txlist.store rounds pos

theorem Txlist.freeSlot_le (txlist : Txlist) (pos left : ℕ) :
    txlist.freeSlot pos left ≤ pos + left := by
  induction left generalizing pos with
  | zero => exact Nat.le_refl pos
  | succ left inductionHypothesis =>
      have later := inductionHypothesis (pos + 1)
      rw [Txlist.freeSlot]
      split
      · omega
      · omega

theorem txlStore_pos_le (txlist : Txlist) (value : ℤ) :
    (txlStore txlist value).2 ≤ txlist.size := by
  have bound := txlist.freeSlot_le 0 txlist.size
  rw [Nat.zero_add] at bound
  exact bound

@[simp] theorem txlStore_nelems (txlist : Txlist) (value : ℤ) :
    (txlStore txlist value).1.nelems = txlist.nelems + 1 := rfl

theorem txlRemove_nelems
    (txlist : Txlist) {pos : ℤ} (isPosition : pos ≠ -1) :
    (txlRemove txlist pos).1.nelems = txlist.nelems - 1 := by
  simp only [txlRemove, if_neg isPosition, Txlist.unlinkInner,
    Txlist.unlinkHead]
  split_ifs <;> rfl

@[simp] theorem txlRemove_size (txlist : Txlist) (pos : ℤ) :
    (txlRemove txlist pos).1.size = txlist.size := by
  simp only [txlRemove, Txlist.unlinkInner, Txlist.unlinkHead]
  split_ifs <;> rfl

end Pool
end Multimaster
