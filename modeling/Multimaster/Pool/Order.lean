import Multimaster.Lib.Linked
import Multimaster.Lib.Machine
import Multimaster.Pool.Txlist
import Mathlib.Data.List.Induction
import Mathlib.Data.List.Nodup
import Mathlib.Data.List.Perm.Subperm

/-!
# The order of the list of transactions

The list in the array is the list of what was stored and not removed, in the
order in which it was stored, although slots are reused in the order of the
array.
-/

namespace Multimaster
namespace Pool

/-- What was stored: the position and the value. -/
abbrev TxlEntry := ℕ × ℤ

/-- The positions, as the links have them. -/
def positions (entries : List TxlEntry) : List ℤ :=
  entries.map fun entry => (entry.1 : ℤ)

/-- The list in the array holds these entries. -/
structure TxlistOk (txlist : Txlist) (entries : List TxlEntry) : Prop where
  linked : Linked (fun pos => (txlist.store pos).prev)
    (fun pos => (txlist.store pos).next) (-1) (-1) (positions entries)
  head : txlist.head = (positions entries).headD (-1)
  tail : txlist.tail = (positions entries).getLastD (-1)
  values : ∀ entry ∈ entries, (txlist.store entry.1).value = entry.2
  used : ∀ entry ∈ entries, entry.2 ≠ 0
  nodup : (entries.map Prod.fst).Nodup
  inside : ∀ entry ∈ entries, entry.1 < txlist.size
  free : ∀ pos < txlist.size, pos ∉ entries.map Prod.fst →
    (txlist.store pos).value = 0
  nelems : txlist.nelems = entries.length

theorem txlistOk_clear (size : ℕ) : TxlistOk (txlClear size) [] where
  linked := trivial
  head := rfl
  tail := rfl
  values := fun _ isEntry => by cases isEntry
  used := fun _ isEntry => by cases isEntry
  nodup := List.nodup_nil
  inside := fun _ isEntry => by cases isEntry
  free := fun _ _ _ => rfl
  nelems := rfl

theorem mem_positions {entries : List TxlEntry} {pos : ℤ} :
    pos ∈ positions entries ↔ ∃ entry ∈ entries, (entry.1 : ℤ) = pos :=
  List.mem_map

theorem natCast_mem_positions {entries : List TxlEntry} {pos : ℕ} :
    (pos : ℤ) ∈ positions entries ↔ pos ∈ entries.map Prod.fst := by
  rw [mem_positions, List.mem_map]
  simp only [Int.natCast_inj]

theorem nonneg_of_mem_positions
    {entries : List TxlEntry} {pos : ℤ} (isPos : pos ∈ positions entries) :
    0 ≤ pos := by
  obtain ⟨entry, -, rfl⟩ := mem_positions.mp isPos
  exact Int.natCast_nonneg entry.1

theorem positions_append (first second : List TxlEntry) :
    positions (first ++ second) = positions first ++ positions second :=
  List.map_append

/-! ## A free slot -/

/-- The search ends at the first free slot. -/
theorem Txlist.freeSlot_spec
    (txlist : Txlist) {start left free : ℕ} (isFrom : start ≤ free)
    (isBelow : free < start + left) (isFree : (txlist.store free).value = 0) :
    txlist.freeSlot start left < start + left ∧
      (txlist.store (txlist.freeSlot start left)).value = 0 := by
  induction left generalizing start with
  | zero => omega
  | succ left inductionHypothesis =>
      rw [Txlist.freeSlot]
      split
      · next isHere => exact ⟨by omega, isHere⟩
      · next isUsed =>
          have different : start ≠ free := by
            rintro rfl
            exact isUsed isFree
          have later := inductionHypothesis (by omega : start + 1 ≤ free)
            (by omega)
          exact ⟨by omega, later.2⟩

variable {txlist : Txlist} {entries : List TxlEntry}

/-- With fewer entries than slots one slot is not used. -/
theorem exists_free {size : ℕ} (room : entries.length < size) :
    ∃ free < size, free ∉ entries.map Prod.fst := by
  by_contra full
  have subset : List.range size ⊆ entries.map Prod.fst := by
    intro pos isPos
    by_contra notUsed
    exact full ⟨pos, List.mem_range.mp isPos, notUsed⟩
  have lengths := (List.subperm_of_subset List.nodup_range subset).length_le
  rw [List.length_range, List.length_map] at lengths
  omega

theorem TxlistOk.length_le (ok : TxlistOk txlist entries) :
    entries.length ≤ txlist.size := by
  have subset : entries.map Prod.fst ⊆ List.range txlist.size := by
    intro pos isUsed
    obtain ⟨entry, isEntry, rfl⟩ := List.mem_map.mp isUsed
    exact List.mem_range.mpr (ok.inside entry isEntry)
  have lengths := (List.subperm_of_subset ok.nodup subset).length_le
  rwa [List.length_range, List.length_map] at lengths

theorem TxlistOk.freeSlot
    (ok : TxlistOk txlist entries) (room : entries.length < txlist.size) :
    txlist.freeSlot 0 txlist.size < txlist.size ∧
      txlist.freeSlot 0 txlist.size ∉ entries.map Prod.fst := by
  obtain ⟨free, inside, notUsed⟩ := exists_free room
  have found := txlist.freeSlot_spec (Nat.zero_le free)
    (by rwa [Nat.zero_add]) (ok.free free inside notUsed)
  rw [Nat.zero_add] at found
  refine ⟨found.1, ?_⟩
  intro isUsed
  obtain ⟨entry, isEntry, isPos⟩ := List.mem_map.mp isUsed
  have value := ok.values entry isEntry
  rw [isPos, found.2] at value
  exact ok.used entry isEntry value.symm

/-! ## Storing -/

theorem txlStore_value (txlist : Txlist) (value other : ℤ) :
    ((txlStore txlist value).1.store other).value =
      if other = (txlStore txlist value).2 then value
      else (txlist.store other).value := by
  unfold txlStore
  dsimp only
  by_cases same : other = txlist.freeSlot 0 txlist.size
  · split_ifs <;> simp [same]
  · split_ifs <;> simp [same]

theorem txlStore_prev (txlist : Txlist) (value other : ℤ) :
    ((txlStore txlist value).1.store other).prev =
      if other = (txlStore txlist value).2 then txlist.tail
      else (txlist.store other).prev := by
  unfold txlStore
  dsimp only
  by_cases same : other = txlist.freeSlot 0 txlist.size
  · split_ifs <;> simp [same]
  · split_ifs <;> simp [same]

theorem txlStore_next (txlist : Txlist) (value other : ℤ) :
    ((txlStore txlist value).1.store other).next =
      if 0 ≤ txlist.tail ∧ other = txlist.tail then
        ((txlStore txlist value).2 : ℤ)
      else if other = (txlStore txlist value).2 then -1
      else (txlist.store other).next := by
  unfold txlStore
  dsimp only
  by_cases hasTail : 0 ≤ txlist.tail
  · rw [if_pos hasTail, setNext_next]
    by_cases isTail : other = txlist.tail
    · simp [isTail, hasTail]
    · by_cases same : other = txlist.freeSlot 0 txlist.size
      · have notTail : (txlist.freeSlot 0 txlist.size : ℤ) ≠ txlist.tail :=
          same ▸ isTail
        simp [same, notTail]
      · simp [isTail, same]
  · rw [if_neg hasTail]
    by_cases same : other = txlist.freeSlot 0 txlist.size
    · simp [hasTail, same]
    · simp [hasTail, same]

theorem TxlistOk.positions_nodup (ok : TxlistOk txlist entries) :
    (positions entries).Nodup := by
  have injective : Function.Injective (Nat.cast : ℕ → ℤ) :=
    fun _ _ same => Int.natCast_inj.mp same
  have nodup := List.Nodup.map injective ok.nodup
  rwa [List.map_map] at nodup

theorem getLastD_of_getLast? {list : List ℤ} {last : ℤ}
    (isLast : last ∈ list.getLast?) (before : ℤ) :
    list.getLastD before = last := by
  rw [List.getLastD_eq_getLast?, Option.mem_def.mp isLast]
  rfl

theorem TxlistOk.tail_of_last
    (ok : TxlistOk txlist entries) {last : ℤ}
    (isLast : last ∈ (positions entries).getLast?) :
    txlist.tail = last := by
  rw [ok.tail, getLastD_of_getLast? isLast]

theorem TxlistOk.tail_mem
    (ok : TxlistOk txlist entries) (hasTail : 0 ≤ txlist.tail) :
    txlist.tail ∈ positions entries := by
  cases isLast : (positions entries).getLast? with
  | none =>
      rw [ok.tail, List.getLastD_eq_getLast?, isLast] at hasTail
      exact absurd hasTail (by decide)
  | some last =>
      rw [ok.tail_of_last isLast]
      exact List.mem_of_getLast? isLast

/-- The new position is none of those in the list. -/
theorem TxlistOk.ne_newPosition
    (ok : TxlistOk txlist entries) (room : entries.length < txlist.size)
    (value : ℤ) :
    ∀ pos ∈ positions entries, pos ≠ (txlStore txlist value).2 := by
  rintro pos isPos rfl
  rw [natCast_mem_positions] at isPos
  exact (ok.freeSlot room).2 isPos

theorem TxlistOk.linked_store
    (ok : TxlistOk txlist entries) (room : entries.length < txlist.size)
    (value : ℤ) :
    Linked (fun pos => ((txlStore txlist value).1.store pos).prev)
      (fun pos => ((txlStore txlist value).1.store pos).next) (-1) (-1)
      (positions (entries ++ [((txlStore txlist value).2, value)])) := by
  have notPos := ok.ne_newPosition room value
  rw [positions_append, Linked.append_iff]
  constructor
  · refine ok.linked.relink ?_ ?_ ?_ ?_
    · intro pos isPos
      rw [txlStore_prev, if_neg (notPos pos (List.mem_of_mem_tail isPos))]
    · intro pos isPos
      have isPosition := List.dropLast_subset _ isPos
      have isLast := List.getLast?_eq_some_getLast
        (List.ne_nil_of_mem isPosition)
      have notTail : ¬ (0 ≤ txlist.tail ∧ pos = txlist.tail) := by
        rintro ⟨-, isTail⟩
        exact ne_of_mem_dropLast ok.positions_nodup isPos isLast
          (isTail.trans (ok.tail_of_last isLast))
      rw [txlStore_next, if_neg notTail, if_neg (notPos pos isPosition)]
    · intro pos isHead
      rw [txlStore_prev, if_neg (notPos pos (List.mem_of_head? isHead))]
      exact ok.linked.prev_head pos isHead
    · intro pos isLast
      have isTail := ok.tail_of_last isLast
      have hasTail := nonneg_of_mem_positions (List.mem_of_getLast? isLast)
      rw [← isTail] at hasTail
      rw [txlStore_next, if_pos ⟨hasTail, isTail.symm⟩]
      rfl
  · refine ⟨?_, ?_, trivial⟩
    · change ((txlStore txlist value).1.store
        (txlStore txlist value).2).prev = _
      rw [txlStore_prev, if_pos rfl, ok.tail]
    · have notTail : ¬ (0 ≤ txlist.tail ∧
          ((txlStore txlist value).2 : ℤ) = txlist.tail) := by
        rintro ⟨hasTail, isTail⟩
        exact notPos _ (ok.tail_mem hasTail) isTail.symm
      change ((txlStore txlist value).1.store
        (txlStore txlist value).2).next = _
      rw [txlStore_next, if_neg notTail, if_pos rfl]
      rfl

/-- A new entry is the last one. -/
theorem TxlistOk.store
    (ok : TxlistOk txlist entries) (room : entries.length < txlist.size)
    {value : ℤ} (isUsed : value ≠ 0) :
    TxlistOk (txlStore txlist value).1
      (entries ++ [((txlStore txlist value).2, value)]) := by
  obtain ⟨inside, notUsed⟩ := ok.freeSlot room
  have notEntry : ∀ entry ∈ entries, (entry.1 : ℤ) ≠
      (txlStore txlist value).2 :=
    fun entry isEntry => ok.ne_newPosition room value _
      (mem_positions.mpr ⟨entry, isEntry, rfl⟩)
  refine {
    linked := ok.linked_store room value
    head := ?_
    tail := ?_
    values := ?_
    used := ?_
    nodup := ?_
    inside := ?_
    free := ?_
    nelems := ?_ }
  · change (if txlist.head = -1 then ((txlStore txlist value).2 : ℤ)
      else txlist.head) = _
    rw [positions_append, Linked.headD_append, ok.head]
    cases isHead : positions entries with
    | nil => rfl
    | cons first rest =>
        have isFirst : first ∈ positions entries := by
          rw [isHead]
          exact List.mem_cons_self
        have nonneg := nonneg_of_mem_positions isFirst
        have notNone : (first :: rest).headD (-1) ≠ -1 := by
          change first ≠ -1
          omega
        rw [if_neg notNone]
        rfl
  · rw [positions_append]
    exact (List.getLastD_concat ..).symm
  · intro entry isEntry
    rcases List.mem_append.mp isEntry with isOld | isNew
    · rw [txlStore_value, if_neg (notEntry entry isOld)]
      exact ok.values entry isOld
    · rw [List.mem_singleton.mp isNew, txlStore_value, if_pos rfl]
  · intro entry isEntry
    rcases List.mem_append.mp isEntry with isOld | isNew
    · exact ok.used entry isOld
    · rw [List.mem_singleton.mp isNew]
      exact isUsed
  · rw [List.map_append, List.map_singleton, List.nodup_append]
    refine ⟨ok.nodup, List.pairwise_singleton _ _, ?_⟩
    rintro pos isOld other isNew rfl
    rw [List.mem_singleton.mp isNew] at isOld
    exact notUsed isOld
  · intro entry isEntry
    rcases List.mem_append.mp isEntry with isOld | isNew
    · exact ok.inside entry isOld
    · rw [List.mem_singleton.mp isNew]
      exact inside
  · intro pos isInside isFree
    rw [List.map_append, List.mem_append, not_or] at isFree
    have notNew : (pos : ℤ) ≠ (txlStore txlist value).2 := by
      intro same
      apply isFree.2
      rw [Int.natCast_inj.mp same]
      exact List.mem_singleton.mpr rfl
    rw [txlStore_value, if_neg notNew]
    exact ok.free pos isInside isFree.1
  · rw [txlStore_nelems, ok.nelems, List.length_append]
    rfl

/-! ## Removing -/

theorem txlRemove_value
    (txlist : Txlist) {pos : ℤ} (isPosition : pos ≠ -1) (other : ℤ) :
    ((txlRemove txlist pos).1.store other).value =
      if other = pos then 0 else (txlist.store other).value := by
  simp only [txlRemove, if_neg isPosition]
  by_cases same : other = pos
  · simp [same]
  · rw [Function.update_of_ne same, if_neg same]
    simp only [Txlist.unlinkInner, Txlist.unlinkHead]
    split_ifs <;> simp

theorem txlRemove_prev
    (txlist : Txlist) {pos : ℤ} (isPosition : pos ≠ -1) (other : ℤ) :
    ((txlRemove txlist pos).1.store other).prev =
      if other = pos then -1
      else if (txlist.store pos).next ≠ -1 ∧
          other = (txlist.store pos).next then
        if pos ≠ txlist.head then (txlist.store pos).prev else -1
      else (txlist.store other).prev := by
  simp only [txlRemove, if_neg isPosition]
  by_cases same : other = pos
  · simp [same]
  · rw [Function.update_of_ne same, if_neg same]
    simp only [Txlist.unlinkInner, Txlist.unlinkHead]
    split_ifs <;> simp_all [setPrev_prev]

theorem txlRemove_next
    (txlist : Txlist) {pos : ℤ} (isPosition : pos ≠ -1) (other : ℤ) :
    ((txlRemove txlist pos).1.store other).next =
      if other = pos then -1
      else if pos ≠ txlist.head ∧ other = (txlist.store pos).prev then
        (txlist.store pos).next
      else (txlist.store other).next := by
  simp only [txlRemove, if_neg isPosition]
  by_cases same : other = pos
  · simp [same]
  · rw [Function.update_of_ne same, if_neg same]
    simp only [Txlist.unlinkInner, Txlist.unlinkHead]
    split_ifs <;> simp_all [setNext_next]

theorem txlRemove_head
    (txlist : Txlist) {pos : ℤ} (isPosition : pos ≠ -1) :
    (txlRemove txlist pos).1.head =
      if pos ≠ txlist.head then txlist.head else (txlist.store pos).next := by
  simp only [txlRemove, if_neg isPosition, Txlist.unlinkInner,
    Txlist.unlinkHead]
  split_ifs <;> rfl

theorem txlRemove_tail
    (txlist : Txlist) {pos : ℤ} (isPosition : pos ≠ -1) :
    (txlRemove txlist pos).1.tail =
      if pos ≠ txlist.head then
        if pos = txlist.tail then (txlist.store pos).prev else txlist.tail
      else if (txlist.store pos).next ≠ -1 then txlist.tail else -1 := by
  simp only [txlRemove, if_neg isPosition, Txlist.unlinkInner,
    Txlist.unlinkHead]
  split_ifs <;> rfl

section Remove

variable {first second : List TxlEntry} {pos : ℕ} {value : ℤ}

theorem positions_cons (entry : TxlEntry) (rest : List TxlEntry) :
    positions (entry :: rest) = (entry.1 : ℤ) :: positions rest :=
  rfl

/-- Positions before and behind an entry differ from each other and from its
own. -/
theorem TxlistOk.disjoint
    (ok : TxlistOk txlist (first ++ (pos, value) :: second)) :
    (pos : ℤ) ∉ positions first ∧ (pos : ℤ) ∉ positions second ∧
      ∀ other ∈ positions first, other ∉ positions second := by
  have nodup := ok.positions_nodup
  rw [positions_append, positions_cons, List.nodup_append,
    List.nodup_cons] at nodup
  obtain ⟨-, ⟨notSecond, -⟩, apart⟩ := nodup
  refine ⟨?_, notSecond, ?_⟩
  · intro isFirst
    exact apart _ isFirst _ List.mem_cons_self rfl
  · intro other isFirst isSecond
    exact apart _ isFirst _ (List.mem_cons_of_mem _ isSecond) rfl

/-- The links of an entry. -/
theorem TxlistOk.links
    (ok : TxlistOk txlist (first ++ (pos, value) :: second)) :
    (txlist.store pos).prev = (positions first).getLastD (-1) ∧
      (txlist.store pos).next = (positions second).headD (-1) := by
  have linked := ok.linked
  rw [positions_append, positions_cons] at linked
  exact linked.middle

/-- An entry is the head when there is none before it. -/
theorem TxlistOk.eq_head_iff
    (ok : TxlistOk txlist (first ++ (pos, value) :: second)) :
    (pos : ℤ) = txlist.head ↔ first = [] := by
  have head := ok.head
  rw [positions_append, positions_cons] at head
  cases first with
  | nil => simp [head, positions]
  | cons entry rest =>
      have different : (pos : ℤ) ≠ txlist.head := by
        rw [head]
        rintro same
        apply ok.disjoint.1
        rw [same]
        exact List.mem_cons_self
      simp [different]

theorem headD_of_head? {list : List ℤ} {head : ℤ}
    (isHead : head ∈ list.head?) (after : ℤ) : list.headD after = head := by
  cases list with
  | nil => cases isHead
  | cons first rest =>
      cases isHead
      rfl

theorem headD_mem {list : List ℤ} {after : ℤ}
    (inside : list.headD after ≠ after) :
    list.headD after ∈ list := by
  cases list with
  | nil => exact absurd rfl inside
  | cons first rest => exact List.mem_cons_self

theorem getLastD_mem {list : List ℤ} (nonempty : list ≠ []) (before : ℤ) :
    list.getLastD before ∈ list := by
  rw [List.getLastD_eq_getLast?, List.getLast?_eq_some_getLast nonempty]
  exact List.getLast_mem nonempty

theorem TxlistOk.linked_remove
    (ok : TxlistOk txlist (first ++ (pos, value) :: second)) :
    Linked (fun other => ((txlRemove txlist pos).1.store other).prev)
      (fun other => ((txlRemove txlist pos).1.store other).next) (-1) (-1)
      (positions (first ++ second)) := by
  have isPosition : (pos : ℤ) ≠ -1 := by omega
  obtain ⟨notFirst, notSecond, apart⟩ := ok.disjoint
  obtain ⟨isPrev, isNext⟩ := ok.links
  have nodup := ok.positions_nodup
  rw [positions_append, positions_cons] at nodup
  have nodupFirst := (List.nodup_append.mp nodup).1
  have nodupSecond := (List.nodup_cons.mp (List.nodup_append.mp nodup).2.1).2
  have ofFirst : ∀ other ∈ positions first,
      ((txlRemove txlist pos).1.store other).prev =
        (txlist.store other).prev := by
    intro other isFirst
    rw [txlRemove_prev _ isPosition, if_neg, if_neg]
    · rintro ⟨hasNext, rfl⟩
      rw [isNext] at hasNext isFirst
      exact apart _ isFirst (headD_mem hasNext)
    · rintro rfl
      exact notFirst isFirst
  have ofSecond : ∀ other ∈ positions second,
      ((txlRemove txlist pos).1.store other).next =
        (txlist.store other).next := by
    intro other isSecond
    rw [txlRemove_next _ isPosition, if_neg, if_neg]
    · rintro ⟨notHead, rfl⟩
      rw [Ne, ok.eq_head_iff] at notHead
      rw [isPrev] at isSecond
      have nonempty : positions first ≠ [] := by simpa [positions] using notHead
      exact apart _ (getLastD_mem nonempty (-1)) isSecond
    · rintro rfl
      exact notSecond isSecond
  have linked := ok.linked
  rw [positions_append, positions_cons, Linked.append_iff] at linked
  obtain ⟨linkedFirst, -, -, linkedSecond⟩ := linked
  rw [positions_append, Linked.append_iff]
  constructor
  · refine linkedFirst.relink ?_ ?_ ?_ ?_
    · exact fun other isOther => ofFirst other (List.mem_of_mem_tail isOther)
    · intro other isOther
      have isFirst := List.dropLast_subset _ isOther
      rw [txlRemove_next _ isPosition, if_neg, if_neg]
      · rintro ⟨-, rfl⟩
        have isLast := List.getLast?_eq_some_getLast
          (List.ne_nil_of_mem isFirst)
        have same := getLastD_of_getLast? isLast (-1)
        rw [isPrev, same] at isOther
        exact ne_of_mem_dropLast nodupFirst isOther isLast rfl
      · rintro rfl
        exact notFirst isFirst
    · intro other isHead
      rw [ofFirst other (List.mem_of_head? isHead)]
      exact linkedFirst.prev_head other isHead
    · intro other isLast
      have isFirst := List.mem_of_getLast? isLast
      have notHead : (pos : ℤ) ≠ txlist.head := by
        rw [Ne, ok.eq_head_iff]
        rintro rfl
        cases isFirst
      have notPos : other ≠ pos := by
        rintro rfl
        exact notFirst isFirst
      rw [txlRemove_next _ isPosition, if_neg notPos, if_pos, isNext]
      exact ⟨notHead, by rw [isPrev, getLastD_of_getLast? isLast]⟩
  · refine linkedSecond.relink ?_ ?_ ?_ ?_
    · intro other isOther
      have isSecond := List.mem_of_mem_tail isOther
      rw [txlRemove_prev _ isPosition, if_neg, if_neg]
      · rintro ⟨-, rfl⟩
        have isHead := List.head?_eq_some_head (List.ne_nil_of_mem isSecond)
        rw [isNext, headD_of_head? isHead] at isOther
        exact ne_of_mem_tail nodupSecond isOther isHead rfl
      · rintro rfl
        exact notSecond isSecond
    · exact fun other isOther =>
        ofSecond other (List.dropLast_subset _ isOther)
    · intro other isHead
      have isSecond := List.mem_of_head? isHead
      have nonneg := nonneg_of_mem_positions isSecond
      have isBehind : (txlist.store pos).next = other := by
        rw [isNext, headD_of_head? isHead]
      have notPos : other ≠ pos := by
        rintro rfl
        exact notSecond isSecond
      rw [txlRemove_prev _ isPosition, if_neg notPos, isBehind,
        if_pos ⟨by omega, rfl⟩, isPrev]
      split
      · rfl
      · next isHead =>
          rw [not_not, ok.eq_head_iff] at isHead
          rw [isHead]
          rfl
    · intro other isLast
      rw [ofSecond other (List.mem_of_getLast? isLast)]
      exact linkedSecond.next_last other isLast

theorem getLastD_append (front back : List ℤ) (before : ℤ) :
    (front ++ back).getLastD before =
      back.getLastD (front.getLastD before) := by
  induction front generalizing before with
  | nil => rfl
  | cons head rest inductionHypothesis =>
      rw [List.cons_append, List.getLastD_cons, List.getLastD_cons,
        inductionHypothesis]

theorem TxlistOk.tail_remove
    (ok : TxlistOk txlist (first ++ (pos, value) :: second)) :
    (txlRemove txlist pos).1.tail =
      (positions (first ++ second)).getLastD (-1) := by
  obtain ⟨-, notSecond, -⟩ := ok.disjoint
  obtain ⟨isPrev, isNext⟩ := ok.links
  have tail := ok.tail
  rw [positions_append, positions_cons, getLastD_append,
    List.getLastD_cons] at tail
  rw [txlRemove_tail _ (by omega : (pos : ℤ) ≠ -1), positions_append,
    getLastD_append, isPrev, isNext, tail]
  cases behind : positions second with
  | nil =>
      by_cases isHead : (pos : ℤ) = txlist.head
      · have isFirst := ok.eq_head_iff.mp isHead
        simp [isHead, isFirst, positions]
      · simp [isHead]
  | cons next rest =>
      rw [behind] at notSecond
      have isSecond : next ∈ positions second := by
        rw [behind]
        exact List.mem_cons_self
      have nonneg := nonneg_of_mem_positions isSecond
      have notTail : (pos : ℤ) ≠ (next :: rest).getLastD pos := by
        intro same
        apply notSecond
        rw [same]
        exact getLastD_mem (List.cons_ne_nil _ _) _
      rw [if_neg notTail]
      simp only [List.headD_cons, List.getLastD_cons]
      rw [if_pos (by omega : next ≠ -1), ite_self]

/-- The other entries stay in their order. -/
theorem TxlistOk.remove
    (ok : TxlistOk txlist (first ++ (pos, value) :: second)) :
    TxlistOk (txlRemove txlist pos).1 (first ++ second) := by
  have isPosition : (pos : ℤ) ≠ -1 := by omega
  have stays : ∀ entry ∈ first ++ second,
      entry ∈ first ++ (pos, value) :: second := by
    intro entry isEntry
    rcases List.mem_append.mp isEntry with isFirst | isSecond
    · exact List.mem_append_left _ isFirst
    · exact List.mem_append_right _ (List.mem_cons_of_mem _ isSecond)
  have nodup := ok.nodup
  rw [List.map_append, List.map_cons, List.nodup_middle, List.nodup_cons,
    ← List.map_append] at nodup
  have others : ∀ entry ∈ first ++ second, (entry.1 : ℤ) ≠ pos := by
    intro entry isEntry same
    apply nodup.1
    rw [← Int.natCast_inj.mp same]
    exact List.mem_map.mpr ⟨entry, isEntry, rfl⟩
  refine {
    linked := ok.linked_remove
    head := ?_
    tail := ok.tail_remove
    values := ?_
    used := fun entry isEntry => ok.used entry (stays entry isEntry)
    nodup := nodup.2
    inside := ?_
    free := ?_
    nelems := ?_ }
  · rw [txlRemove_head _ isPosition, ok.links.2]
    cases first with
    | nil =>
        rw [if_neg (not_not.mpr (ok.eq_head_iff.mpr rfl))]
        rfl
    | cons entry rest =>
        have notHead : (pos : ℤ) ≠ txlist.head := by
          rw [Ne, ok.eq_head_iff]
          exact List.cons_ne_nil _ _
        rw [if_pos notHead, ok.head]
        rfl
  · intro entry isEntry
    rw [txlRemove_value _ isPosition, if_neg (others entry isEntry)]
    exact ok.values entry (stays entry isEntry)
  · intro entry isEntry
    rw [txlRemove_size]
    exact ok.inside entry (stays entry isEntry)
  · intro other isInside isFree
    rw [txlRemove_size] at isInside
    rw [txlRemove_value _ isPosition]
    split
    · rfl
    · next different =>
        apply ok.free other isInside
        intro isUsed
        obtain ⟨entry, isEntry, rfl⟩ := List.mem_map.mp isUsed
        rcases List.mem_append.mp isEntry with isFirst | isOther
        · exact isFree (List.mem_map.mpr
            ⟨entry, List.mem_append_left _ isFirst, rfl⟩)
        · rcases List.mem_cons.mp isOther with rfl | isSecond
          · exact different rfl
          · exact isFree (List.mem_map.mpr
              ⟨entry, List.mem_append_right _ isSecond, rfl⟩)
  · rw [txlRemove_nelems _ isPosition, ok.nelems]
    simp only [List.length_append, List.length_cons]
    omega

/-- The walk of `can_commit` comes to all entries before, unless a syncpoint
ends it. -/
theorem TxlistOk.canCommitFrom_eq
    (ok : TxlistOk txlist (first ++ (pos, value) :: second)) {rounds : ℕ}
    (enough : first.length < rounds) :
    canCommitFrom txlist.store rounds pos =
      some (decide (∀ entry ∈ first, entry.2 ≠ 2)) := by
  induction first using List.reverseRecOn
    generalizing pos value second rounds with
  | nil =>
      obtain ⟨rounds, rfl⟩ :=
        Nat.exists_eq_succ_of_ne_zero (by omega : rounds ≠ 0)
      have isPrev : (txlist.store pos).prev = -1 := ok.links.1
      simp [canCommitFrom, isPrev]
  | append_singleton front last inductionHypothesis =>
      rw [List.length_append, List.length_singleton] at enough
      obtain ⟨rounds, rfl⟩ :=
        Nat.exists_eq_succ_of_ne_zero (by omega : rounds ≠ 0)
      have isPrev : (txlist.store pos).prev = last.1 := by
        rw [ok.links.1, positions_append]
        exact List.getLastD_concat ..
      have isValue : (txlist.store last.1).value = last.2 :=
        ok.values last (by simp)
      rw [canCommitFrom, isPrev]
      rw [if_neg (by omega : (last.1 : ℤ) ≠ -1), isValue]
      by_cases isSyncpoint : last.2 = 2
      · have blocked : ¬ ∀ entry ∈ front ++ [last], entry.2 ≠ 2 := by
          intro noSyncpoint
          exact noSyncpoint last (by simp) isSyncpoint
        rw [if_pos isSyncpoint, decide_eq_false blocked]
      · rw [List.append_assoc] at ok
        have walked := inductionHypothesis ok (by omega : front.length < rounds)
        rw [if_neg isSyncpoint, walked]
        congr 1
        rw [decide_eq_decide]
        simp [or_imp, forall_and, isSyncpoint]

end Remove

/-! ## All sequences of calls -/

/-- The list, with what was stored and not yet removed, in the order of the
calls. -/
structure Recorded where
  txlist : Txlist
  entries : List TxlEntry

/-- The calls. -/
inductive ListCall
  /-- `txl_store`. -/
  | store (value : ℤ)
  /-- `txl_remove` of a position. -/
  | remove (pos : ℕ)
  deriving DecidableEq

/-- A value of the source is stored into a free slot; a position that is stored
is removed. -/
def CallEnabled (recorded : Recorded) : ListCall → Prop
  | .store value =>
      (value = 1 ∨ value = 2) ∧
        recorded.entries.length < recorded.txlist.size
  | .remove pos => pos ∈ recorded.entries.map Prod.fst

instance (recorded : Recorded) (call : ListCall) :
    Decidable (CallEnabled recorded call) :=
  match call with
  | .store _ => inferInstanceAs (Decidable ((_ ∨ _) ∧ _))
  | .remove _ => inferInstanceAs (Decidable (_ ∈ _))

/-- The state after a call. -/
def callEffect (recorded : Recorded) : ListCall → Recorded
  | .store value =>
      { txlist := (txlStore recorded.txlist value).1
        entries := recorded.entries ++
          [((txlStore recorded.txlist value).2, value)] }
  | .remove pos =>
      { txlist := (txlRemove recorded.txlist pos).1
        entries := recorded.entries.filter fun entry => entry.1 ≠ pos }

/-- The calls from `txl_clear` on. -/
def listMachine (size : ℕ) : Machine Recorded ListCall where
  init :=
    { txlist := txlClear size
      entries := [] }
  Enabled := CallEnabled
  effect := callEffect

/-- An entry with those before and behind it. -/
theorem TxlistOk.exists_split
    {pos : ℕ} (isStored : pos ∈ entries.map Prod.fst)
    (ok : TxlistOk txlist entries) :
    ∃ first value second, entries = first ++ (pos, value) :: second ∧
      (entries.filter fun entry => entry.1 ≠ pos) = first ++ second := by
  obtain ⟨⟨other, value⟩, isEntry, same⟩ := List.mem_map.mp isStored
  simp only at same
  subst same
  obtain ⟨first, second, rfl⟩ := List.append_of_mem isEntry
  refine ⟨first, value, second, rfl, ?_⟩
  have nodup := ok.nodup
  rw [List.map_append, List.map_cons, List.nodup_middle, List.nodup_cons,
    ← List.map_append] at nodup
  have others : ∀ entry ∈ first ++ second, entry.1 ≠ other := by
    rintro entry isOther rfl
    exact nodup.1 (List.mem_map.mpr ⟨entry, isOther, rfl⟩)
  rw [List.filter_append, List.filter_cons_of_neg (by simp),
    List.filter_eq_self.mpr, List.filter_eq_self.mpr]
  · intro entry isSecond
    simpa using others entry (List.mem_append_right _ isSecond)
  · intro entry isFirst
    simpa using others entry (List.mem_append_left _ isFirst)

/-- The invariant of the calls. -/
structure RecordedOk (recorded : Recorded) : Prop where
  list : TxlistOk recorded.txlist recorded.entries
  known : ∀ entry ∈ recorded.entries, entry.2 = 1 ∨ entry.2 = 2

theorem RecordedOk.call
    {recorded : Recorded} (ok : RecordedOk recorded) {call : ListCall}
    (enabled : CallEnabled recorded call) :
    RecordedOk (callEffect recorded call) := by
  cases call with
  | store value =>
      obtain ⟨isValue, room⟩ := enabled
      constructor
      · exact ok.list.store room (by omega)
      · intro entry isEntry
        rcases List.mem_append.mp isEntry with isOld | isNew
        · exact ok.known entry isOld
        · rw [List.mem_singleton.mp isNew]
          exact isValue
  | remove pos =>
      constructor
      · obtain ⟨first, value, second, whole, rest⟩ :=
          TxlistOk.exists_split enabled ok.list
        have list := ok.list
        rw [whole] at list
        simp only [callEffect, rest]
        exact list.remove
      · exact fun entry isEntry => ok.known entry (List.mem_of_mem_filter isEntry)

theorem recordedOk_of_reachable
    {size : ℕ} {allowed : Recorded → ListCall → Prop} {recorded : Recorded}
    (reachable : (listMachine size).Reachable allowed recorded) :
    RecordedOk recorded := by
  refine Machine.Reachable.invariant ?_ ?_ reachable
  · exact ⟨txlistOk_clear size, fun _ isEntry => by cases isEntry⟩
  · intro current call ok enabled _
    exact ok.call enabled

/-- After every sequence of calls the list in the array is the list of what was
stored and not removed, in the order of insertion, and `can_commit` says whether
there is no syncpoint before the position. -/
theorem txlist_keeps_order
    {size : ℕ} {recorded : Recorded}
    (reachable : (listMachine size).Reachable Machine.Always recorded) :
    TxlistOk recorded.txlist recorded.entries ∧
      ∀ (first : List TxlEntry) (pos : ℕ) (value : ℤ) (second : List TxlEntry),
        recorded.entries = first ++ (pos, value) :: second →
        ∀ rounds, recorded.txlist.size ≤ rounds →
          canCommit recorded.txlist rounds pos =
            some (decide (∀ entry ∈ first, entry.2 ≠ 2)) := by
  have ok := (recordedOk_of_reachable reachable).list
  refine ⟨ok, ?_⟩
  intro first pos value second whole rounds enough
  have bound := ok.length_le
  rw [whole] at ok
  rw [whole, List.length_append, List.length_cons] at bound
  rw [canCommit, if_neg (by omega : (pos : ℤ) ≠ -1)]
  exact ok.canCommitFrom_eq (by omega : first.length < rounds)


instance {size : ℕ} (recorded : Recorded) (call : ListCall) :
    Decidable ((listMachine size).Enabled recorded call) :=
  inferInstanceAs (Decidable (CallEnabled recorded call))

/-- A transaction and a syncpoint are stored; the transaction is removed, and
another one takes its slot. -/
def slotReused : List ListCall :=
  [.store 1, .store 2, .remove 0, .store 1]

theorem slotReused_completes :
    ((listMachine 3).execute Machine.Always (listMachine 3).init
      slotReused).isSome = true := by
  decide

/-- The transaction in the first slot comes after the syncpoint in the
second. -/
theorem txlist_keeps_order_slotReused :
    let recorded := ((listMachine 3).execute Machine.Always (listMachine 3).init
      slotReused).get slotReused_completes
    recorded.entries = [(1, 2), (0, 1)] ∧
      TxlistOk recorded.txlist recorded.entries ∧
      canCommit recorded.txlist 3 (0 : ℕ) = some false := by
  intro recorded
  have isEntries : recorded.entries = [(1, 2), (0, 1)] := by decide
  obtain ⟨ok, commits⟩ := txlist_keeps_order
    (Machine.reachable_of_execute slotReused slotReused_completes)
  exact ⟨isEntries, ok, commits [(1, 2)] 0 1 [] isEntries 3 (by decide)⟩

end Pool
end Multimaster
