import Multimaster.Sequences.Defs
import Mathlib.Algebra.Order.Ring.Int
import Mathlib.Data.Int.ModEq
import Mathlib.Data.List.Nodup
import Mathlib.Tactic.Ring

/-!
# Altered sequences do not collide

After `mtm.alter_sequences` the next value of a sequence is in the residue class
of its node and every access goes on in steps of the largest id, so the values of
different nodes stay apart.  Values that a backend had preallocated before are
not in that class, and a temporary sequence is left as it is.
-/

namespace Multimaster
namespace Sequences

/-! ## The new parameters -/

/-- What `mtm.alter_sequences` makes of a sequence. -/
def Sequence.altered (backend maxNodes nodeId : ℕ) (seq : Sequence) : Sequence :=
  let stepped :=
    if seq.seqincrement ≠ maxNodes then seq.incrementBy backend maxNodes else seq
  if seq.lastValue.tmod maxNodes ≠ (nodeId : ℤ).tmod maxNodes then
    stepped.restartWith backend
      ((seq.lastValue.tdiv maxNodes + 1) * maxNodes + nodeId)
  else stepped

theorem alterSequence_sequences
    (backend maxNodes nodeId : ℕ) (seq : Sequence) (progress : Progress) :
    (alterSequence backend maxNodes nodeId seq progress).sequences =
      progress.sequences ++ [seq.altered backend maxNodes nodeId] := by
  simp only [alterSequence, Sequence.altered, decide_eq_true_eq]

theorem alterLoop_sequences
    (backend maxNodes nodeId : ℕ) (sequences : List Sequence)
    (progress : Progress) :
    (alterLoop backend maxNodes nodeId sequences progress).sequences =
      progress.sequences ++ sequences.map fun seq =>
        if seq.relpersistence ≠ .temporary then
          seq.altered backend maxNodes nodeId
        else seq := by
  induction sequences generalizing progress with
  | nil => simp [alterLoop]
  | cons seq rest inductionHypothesis =>
      rw [alterLoop, inductionHypothesis, List.map_cons]
      split
      · rw [alterSequence_sequences, List.append_assoc]
        rfl
      · rw [List.append_assoc]
        rfl

/-- Every sequence of the node is altered in its place, the temporary ones
apart. -/
theorem getElem?_alterSequences
    {cluster : Cluster} {backend nodeId index : ℕ} {sequences : List Sequence}
    {seq : Sequence}
    (isSeq : sequences[index]? = some seq)
    (shared : seq.relpersistence ≠ .temporary) :
    (alterSequences cluster backend nodeId sequences).2[index]? =
      some (seq.altered backend cluster.maxNodes nodeId) := by
  simp only [alterSequences, alterLoop_sequences, List.nil_append,
    List.getElem?_map,
    isSeq, Option.map_some, if_pos shared]

section Altered

variable (backend maxNodes nodeId : ℕ) (seq : Sequence)

/-- What `mtm.alter_sequences` makes of the increment alone. -/
theorem Sequence.stepped_eq :
    let stepped :=
      if seq.seqincrement ≠ maxNodes then
        seq.incrementBy backend maxNodes else seq
    stepped.seqincrement = maxNodes ∧ stepped.lastValue = seq.lastValue ∧
      stepped.isCalled = seq.isCalled := by
  by_cases stays : seq.seqincrement = maxNodes
  · rw [if_neg (not_not.mpr stays)]
    exact ⟨stays, rfl, rfl⟩
  · rw [if_pos stays]
    exact ⟨rfl, rfl, rfl⟩

theorem Sequence.altered_seqincrement :
    (seq.altered backend maxNodes nodeId).seqincrement = maxNodes := by
  obtain ⟨increment, _, _⟩ := seq.stepped_eq backend maxNodes
  simp only [Sequence.altered]
  split
  · exact increment
  · exact increment

/-- The next value of an altered sequence: the new start, or the old next value
with the new increment. -/
theorem Sequence.altered_nextValue :
    (seq.altered backend maxNodes nodeId).nextValue =
      if seq.lastValue.tmod maxNodes ≠ (nodeId : ℤ).tmod maxNodes then
        (seq.lastValue.tdiv maxNodes + 1) * maxNodes + nodeId
      else if seq.isCalled then seq.lastValue + maxNodes else seq.lastValue := by
  obtain ⟨increment, lastValue, isCalled⟩ :=
    seq.stepped_eq backend maxNodes
  simp only [Sequence.altered]
  by_cases moves : seq.lastValue.tmod maxNodes ≠ (nodeId : ℤ).tmod maxNodes
  · rw [if_pos moves, if_pos moves]
    rfl
  · rw [if_neg moves, if_neg moves, Sequence.nextValue, increment,
      lastValue, isCalled]

end Altered

/-- Truncated remainders are equal in one residue class only. -/
theorem modEq_of_tmod_eq
    {left right step : ℤ} (same : left.tmod step = right.tmod step) :
    left ≡ right [ZMOD step] := by
  have leftSum := Int.tmod_add_mul_tdiv left step
  have rightSum := Int.tmod_add_mul_tdiv right step
  refine (Int.modEq_iff_dvd.mpr ⟨right.tdiv step - left.tdiv step, ?_⟩)
  rw [mul_sub]
  omega

theorem add_mul_modEq (start : ℤ) (count : ℕ) (step : ℤ) :
    start + count * step ≡ start [ZMOD step] :=
  Int.modEq_iff_dvd.mpr ⟨-count, by ring⟩

/-- Rounding towards zero and one step more passes the value, whatever its
sign. -/
theorem le_restart
    (lastValue : ℤ) {step : ℤ} (positive : 0 < step) {offset : ℤ}
    (nonneg : 0 ≤ offset) :
    lastValue ≤ (lastValue.tdiv step + 1) * step + offset := by
  have sum := Int.tmod_add_mul_tdiv lastValue step
  have below := Int.tmod_lt_of_pos lastValue positive
  have product : (lastValue.tdiv step + 1) * step =
      step * lastValue.tdiv step + step := by
    ring
  omega

/-! ## Later values -/

/-- The values that a backend has preallocated behind the first `left` ones. -/
def Sequence.stock (left : ℕ → ℕ) (seq : Sequence) (backend : ℕ) : List ℤ :=
  (seq.preallocated backend).drop (left backend)

/-- The invariant of later calls: what can still be handed out is above the floor
and in the residue class, and nothing of it is there twice. -/
structure Stocked
    (step residue floor : ℤ) (left : ℕ → ℕ) (seq : Sequence) : Prop where
  increment : seq.seqincrement = step
  left_le : ∀ backend, left backend ≤ (seq.preallocated backend).length
  above : floor ≤ seq.nextValue
  modEq : seq.nextValue ≡ residue [ZMOD step]
  stock : ∀ backend, ∀ value ∈ seq.stock left backend,
    floor ≤ value ∧ value ≡ residue [ZMOD step] ∧ value < seq.nextValue
  nodup : ∀ backend, (seq.stock left backend).Nodup
  apart : ∀ backend other, backend ≠ other →
    List.Disjoint (seq.stock left backend) (seq.stock left other)

variable {step residue floor : ℤ} {left : ℕ → ℕ} {seq : Sequence}

theorem Stocked.left_eq_zero
    (stocked : Stocked step residue floor left seq) {backend : ℕ}
    (isCache : seq.preallocated backend = []) :
    left backend = 0 := by
  have le := stocked.left_le backend
  rw [isCache] at le
  exact Nat.le_zero.mp le

/-! ### One call -/

section Call

variable {backend : ℕ} {value : ℤ} {rest : List ℤ}

theorem nextval_of_cons (isCache : seq.preallocated backend = value :: rest) :
    seq.nextval backend =
      (value,
        { seq with
          preallocated := Function.update seq.preallocated backend rest }) := by
  simp only [Sequence.nextval, isCache]

/-- Using up a value that was preallocated before leaves the stocks alone. -/
theorem stock_useUp
    (isCache : seq.preallocated backend = value :: rest)
    (someLeft : 0 < left backend) :
    (seq.nextval backend).2.stock
      (Function.update left backend (left backend - 1)) =
      seq.stock left := by
  funext other
  rw [nextval_of_cons isCache]
  by_cases same : other = backend
  · obtain ⟨less, isSucc⟩ := Nat.exists_eq_succ_of_ne_zero someLeft.ne'
    subst same
    simp only [Sequence.stock, Function.update_self, isCache, isSucc,
      Nat.succ_sub_one,
      List.drop_succ_cons]
  · simp only [Sequence.stock, Function.update_of_ne same]

theorem stock_handOut
    (isCache : seq.preallocated backend = value :: rest)
    (fresh : left backend = 0) :
    (seq.nextval backend).2.stock left =
      Function.update (seq.stock left) backend rest := by
  funext other
  rw [nextval_of_cons isCache]
  by_cases same : other = backend
  · subst same
    simp only [Sequence.stock, Function.update_self, fresh, List.drop_zero]
  · simp only [Sequence.stock, Function.update_of_ne same]

/-- The values that a backend preallocates when it accesses the sequence. -/
def Sequence.reserved (seq : Sequence) : List ℤ :=
  (List.range (seq.seqcache - 1)).map fun index =>
    seq.nextValue + (index + 1 : ℕ) * seq.seqincrement

theorem stock_access
    (isCache : seq.preallocated backend = []) (fresh : left backend = 0) :
    (seq.nextval backend).2.stock left =
      Function.update (seq.stock left) backend seq.reserved := by
  funext other
  by_cases same : other = backend
  · subst same
    simp only [Sequence.stock, Sequence.nextval, isCache,
      Function.update_self, fresh,
      List.drop_zero, Sequence.reserved]
  · simp only [Sequence.stock, Sequence.nextval, isCache,
      Function.update_of_ne same]

/-- The value behind those that an access takes. -/
theorem nextValue_access (isCache : seq.preallocated backend = []) :
    (seq.nextval backend).2.nextValue =
      seq.nextValue + seq.seqcache * seq.seqincrement := by
  obtain ⟨count, isCount⟩ := Nat.exists_eq_succ_of_ne_zero seq.seqcache_pos.ne'
  simp only [Sequence.nextval, isCache, Sequence.nextValue, if_true]
  rw [isCount, Nat.succ_sub_one]
  push_cast
  ring

/-- What an access reserves lies between the value it hands out and the next
one. -/
theorem mem_reserved
    (positive : 0 < seq.seqincrement) (isValue : value ∈ seq.reserved) :
    seq.nextValue < value ∧
      value < seq.nextValue + seq.seqcache * seq.seqincrement ∧
      value ≡ seq.nextValue [ZMOD seq.seqincrement] := by
  obtain ⟨index, inRange, rfl⟩ := List.mem_map.mp isValue
  have inRange := List.mem_range.mp inRange
  have above : (0 : ℤ) < (index + 1 : ℕ) * seq.seqincrement :=
    mul_pos (by omega) positive
  have below : ((index + 1 : ℕ) : ℤ) * seq.seqincrement <
      seq.seqcache * seq.seqincrement :=
    mul_lt_mul_of_pos_right (by omega) positive
  exact ⟨by omega, by omega,
    add_mul_modEq seq.nextValue (index + 1) seq.seqincrement⟩

theorem nodup_reserved (positive : 0 < seq.seqincrement) :
    seq.reserved.Nodup := by
  refine List.Nodup.map ?_ List.nodup_range
  intro first second equal
  have products := mul_right_cancel₀ positive.ne' (add_left_cancel equal)
  omega

end Call

/-- The rule for calls that do not access the sequence: stocks get smaller. -/
theorem Stocked.of_sublist
    (stocked : Stocked step residue floor left seq)
    {nextLeft : ℕ → ℕ} {next : Sequence}
    (sameIncrement : next.seqincrement = seq.seqincrement)
    (sameNext : next.nextValue = seq.nextValue)
    (left_le : ∀ backend, nextLeft backend ≤ (next.preallocated backend).length)
    (smaller : ∀ backend,
      List.Sublist (next.stock nextLeft backend) (seq.stock left backend)) :
    Stocked step residue floor nextLeft next where
  increment := sameIncrement.trans stocked.increment
  left_le := left_le
  above := sameNext ▸ stocked.above
  modEq := sameNext ▸ stocked.modEq
  stock := fun backend value isValue =>
    sameNext ▸ stocked.stock backend value ((smaller backend).subset isValue)
  nodup := fun backend => (stocked.nodup backend).sublist (smaller backend)
  apart := fun backend other different _ isValue isOther =>
    stocked.apart backend other different ((smaller backend).subset isValue)
      ((smaller other).subset isOther)

/-- A backend uses up a value that it had preallocated before. -/
theorem Stocked.useUp
    (stocked : Stocked step residue floor left seq) {backend : ℕ}
    (someLeft : 0 < left backend) :
    Stocked step residue floor (Function.update left backend (left backend - 1))
      (seq.nextval backend).2 := by
  have le := stocked.left_le backend
  cases isCache : seq.preallocated backend with
  | nil => exact absurd (stocked.left_eq_zero isCache) someLeft.ne'
  | cons value rest =>
      have sameStock := stock_useUp isCache someLeft
      rw [isCache, List.length_cons] at le
      refine stocked.of_sublist ?_ ?_ ?_ ?_
      · rw [nextval_of_cons isCache]
      · rw [nextval_of_cons isCache]
        rfl
      · intro other
        rw [nextval_of_cons isCache]
        by_cases same : other = backend
        · subst same
          simp only [Function.update_self]
          omega
        · simp only [Function.update_of_ne same]
          exact stocked.left_le other
      · intro other
        rw [sameStock]

/-- A backend hands out a value of its stock. -/
theorem Stocked.handOut
    (stocked : Stocked step residue floor left seq) {backend : ℕ}
    (fresh : left backend = 0) {value : ℤ} {rest : List ℤ}
    (isCache : seq.preallocated backend = value :: rest) :
    Stocked step residue floor left (seq.nextval backend).2 := by
  have nextStock := stock_handOut isCache fresh
  refine stocked.of_sublist ?_ ?_ ?_ ?_
  · rw [nextval_of_cons isCache]
  · rw [nextval_of_cons isCache]
    rfl
  · intro other
    rw [nextval_of_cons isCache]
    by_cases same : other = backend
    · subst same
      rw [fresh]
      exact Nat.zero_le _
    · simp only [Function.update_of_ne same]
      exact stocked.left_le other
  · intro other
    rw [nextStock]
    by_cases same : other = backend
    · subst same
      rw [Function.update_self, Sequence.stock, isCache, fresh, List.drop_zero]
      exact List.sublist_cons_self value rest
    · rw [Function.update_of_ne same]

/-- An access moves the next value on, behind what it reserves. -/
theorem Stocked.reserves
    (stocked : Stocked step residue floor left seq) (positive : 0 < step)
    {backend : ℕ}
    (isCache : seq.preallocated backend = []) :
    seq.nextValue < (seq.nextval backend).2.nextValue ∧
      ∀ value ∈ seq.reserved, seq.nextValue < value ∧
        value < (seq.nextval backend).2.nextValue ∧
        value ≡ seq.nextValue [ZMOD step] := by
  have behind := nextValue_access isCache
  constructor
  · have cachePos := seq.seqcache_pos
    have above : (0 : ℤ) < seq.seqcache * step := mul_pos (by omega) positive
    rw [behind, stocked.increment]
    omega
  · intro value isValue
    have between :=
      mem_reserved (by rw [stocked.increment]; exact positive) isValue
    rw [← behind, stocked.increment] at between
    exact between

/-- A backend without values of its own accesses the sequence. -/
theorem Stocked.access
    (stocked : Stocked step residue floor left seq) (positive : 0 < step)
    {backend : ℕ}
    (isCache : seq.preallocated backend = []) :
    Stocked step residue floor left (seq.nextval backend).2 := by
  have fresh := stocked.left_eq_zero isCache
  have behind := nextValue_access isCache
  have nextStock := stock_access isCache fresh
  obtain ⟨passes, isReserved⟩ := stocked.reserves positive isCache
  refine ⟨?_, ?_, ?_, ?_, ?_, ?_, ?_⟩
  · simp only [Sequence.nextval, isCache]
    exact stocked.increment
  · intro other
    by_cases same : other = backend
    · subst same
      rw [fresh]
      exact Nat.zero_le _
    · simp only [Sequence.nextval, isCache, Function.update_of_ne same]
      exact stocked.left_le other
  · exact (stocked.above.trans_lt passes).le
  · rw [behind, stocked.increment]
    exact (add_mul_modEq seq.nextValue seq.seqcache step).trans stocked.modEq
  · intro other value isValue
    rw [nextStock] at isValue
    by_cases same : other = backend
    · subst same
      rw [Function.update_self] at isValue
      obtain ⟨above, below, modEq⟩ := isReserved value isValue
      exact ⟨stocked.above.trans above.le, modEq.trans stocked.modEq, below⟩
    · rw [Function.update_of_ne same] at isValue
      obtain ⟨above, modEq, below⟩ := stocked.stock other value isValue
      exact ⟨above, modEq, below.trans passes⟩
  · intro other
    rw [nextStock]
    by_cases same : other = backend
    · subst same
      rw [Function.update_self]
      exact nodup_reserved (by rw [stocked.increment]; exact positive)
    · rw [Function.update_of_ne same]
      exact stocked.nodup other
  · -- what is reserved now is beyond what was there
    have beyond : ∀ other, List.Disjoint seq.reserved (seq.stock left other) := by
      intro other value isNew isOld
      exact absurd (stocked.stock other value isOld).2.2
        (isReserved value isNew).1.not_gt
    intro one other different
    rw [nextStock]
    by_cases oneSame : one = backend
    · subst oneSame
      rw [Function.update_self, Function.update_of_ne different.symm]
      exact beyond other
    · rw [Function.update_of_ne oneSame]
      by_cases otherSame : other = backend
      · subst otherSame
        rw [Function.update_self]
        exact (beyond one).symm
      · rw [Function.update_of_ne otherSame]
        exact stocked.apart one other different

/-! ### Runs -/

/-- What later calls can hand out. -/
def Available (left : ℕ → ℕ) (seq : Sequence) (value : ℤ) : Prop :=
  (∃ backend, value ∈ seq.stock left backend) ∨ seq.nextValue ≤ value

/-- A call that accesses the sequence: its value was available and is so no more,
and nothing becomes available. -/
theorem Stocked.available_access
    (stocked : Stocked step residue floor left seq) (positive : 0 < step)
    {backend : ℕ}
    (isCache : seq.preallocated backend = []) :
    Available left seq (seq.nextval backend).1 ∧
      ¬ Available left (seq.nextval backend).2 (seq.nextval backend).1 ∧
      ∀ value, Available left (seq.nextval backend).2 value →
        Available left seq value := by
  have nextStock := stock_access isCache (stocked.left_eq_zero isCache)
  obtain ⟨passes, isReserved⟩ := stocked.reserves positive isCache
  have isValue : (seq.nextval backend).1 = seq.nextValue := by
    simp only [Sequence.nextval, isCache]
  rw [isValue]
  refine ⟨Or.inr le_rfl, ?_, ?_⟩
  · rintro (⟨other, inStock⟩ | beyond)
    · rw [nextStock] at inStock
      by_cases same : other = backend
      · rw [same, Function.update_self] at inStock
        exact absurd (isReserved _ inStock).1 (lt_irrefl _)
      · rw [Function.update_of_ne same] at inStock
        exact absurd (stocked.stock other _ inStock).2.2 (lt_irrefl _)
    · exact absurd passes beyond.not_gt
  · rintro value (⟨other, inStock⟩ | beyond)
    · rw [nextStock] at inStock
      by_cases same : other = backend
      · rw [same, Function.update_self] at inStock
        exact Or.inr (isReserved value inStock).1.le
      · rw [Function.update_of_ne same] at inStock
        exact Or.inl ⟨other, inStock⟩
    · exact Or.inr (passes.le.trans beyond)

/-- The same for a call that hands out a value of its backend. -/
theorem Stocked.available_handOut
    (stocked : Stocked step residue floor left seq) {backend : ℕ}
    (fresh : left backend = 0) {value : ℤ} {rest : List ℤ}
    (isCache : seq.preallocated backend = value :: rest) :
    Available left seq (seq.nextval backend).1 ∧
      ¬ Available left (seq.nextval backend).2 (seq.nextval backend).1 ∧
      ∀ value, Available left (seq.nextval backend).2 value →
        Available left seq value := by
  have nextStock := stock_handOut isCache fresh
  have isStock : seq.stock left backend = value :: rest := by
    rw [Sequence.stock, isCache, fresh, List.drop_zero]
  have inStock : value ∈ seq.stock left backend := by
    rw [isStock]
    exact List.mem_cons_self
  have isValue : (seq.nextval backend).1 = value := by
    rw [nextval_of_cons isCache]
  have sameNext : (seq.nextval backend).2.nextValue = seq.nextValue := by
    rw [nextval_of_cons isCache]
    rfl
  rw [isValue]
  refine ⟨Or.inl ⟨backend, inStock⟩, ?_, ?_⟩
  · rintro (⟨other, inNext⟩ | beyond)
    · rw [nextStock] at inNext
      by_cases same : other = backend
      · rw [same, Function.update_self] at inNext
        have distinct := stocked.nodup backend
        rw [isStock] at distinct
        exact (List.nodup_cons.mp distinct).1 inNext
      · rw [Function.update_of_ne same] at inNext
        exact stocked.apart other backend same inNext inStock
    · rw [sameNext] at beyond
      exact absurd (stocked.stock backend value inStock).2.2 beyond.not_gt
  · rintro other (⟨owner, inNext⟩ | beyond)
    · rw [nextStock] at inNext
      by_cases same : owner = backend
      · rw [same, Function.update_self] at inNext
        exact Or.inl
          ⟨backend, by rw [isStock]; exact List.mem_cons_of_mem _ inNext⟩
      · rw [Function.update_of_ne same] at inNext
        exact Or.inl ⟨owner, inNext⟩
    · exact Or.inr (sameNext ▸ beyond)

theorem Stocked.available_useUp
    (stocked : Stocked step residue floor left seq) {backend : ℕ}
    (someLeft : 0 < left backend) {value : ℤ}
    (available : Available (Function.update left backend (left backend - 1))
      (seq.nextval backend).2 value) :
    Available left seq value := by
  cases isCache : seq.preallocated backend with
  | nil => exact absurd (stocked.left_eq_zero isCache) someLeft.ne'
  | cons first rest =>
      rw [Available, stock_useUp isCache someLeft,
        nextval_of_cons isCache] at available
      exact available

theorem Stocked.of_available
    (stocked : Stocked step residue floor left seq)
    {backend : ℕ} {value : ℤ} (isValue : value = (seq.nextval backend).1)
    (fresh : left backend = 0) :
    floor ≤ value ∧ value ≡ residue [ZMOD step] := by
  cases isCache : seq.preallocated backend with
  | nil =>
      have isNext : value = seq.nextValue := by
        rw [isValue]
        simp only [Sequence.nextval, isCache]
      rw [isNext]
      exact ⟨stocked.above, stocked.modEq⟩
  | cons first rest =>
      have inStock : value ∈ seq.stock left backend := by
        rw [isValue, nextval_of_cons isCache, Sequence.stock, isCache, fresh,
          List.drop_zero]
        exact List.mem_cons_self
      obtain ⟨above, modEq, _⟩ := stocked.stock backend value inStock
      exact ⟨above, modEq⟩

/-- A call that hands out a fresh value. -/
theorem Stocked.call
    (stocked : Stocked step residue floor left seq) (positive : 0 < step)
    {backend : ℕ}
    (fresh : left backend = 0) :
    Stocked step residue floor left (seq.nextval backend).2 ∧
      Available left seq (seq.nextval backend).1 ∧
      ¬ Available left (seq.nextval backend).2 (seq.nextval backend).1 ∧
      ∀ value, Available left (seq.nextval backend).2 value →
        Available left seq value := by
  cases isCache : seq.preallocated backend with
  | nil =>
      exact ⟨stocked.access positive isCache,
      stocked.available_access positive isCache⟩
  | cons value rest =>
      exact ⟨stocked.handOut fresh isCache,
        stocked.available_handOut fresh isCache⟩

/-- The fresh values of a run of calls are above the floor, in the residue class,
available from the start and all different. -/
theorem Stocked.run
    (stocked : Stocked step residue floor left seq) (positive : 0 < step)
    (calls : List ℕ) :
    (∀ value ∈ seq.freshValues left calls,
      floor ≤ value ∧ value ≡ residue [ZMOD step] ∧ Available left seq value) ∧
      (seq.freshValues left calls).Nodup := by
  induction calls generalizing seq left with
  | nil =>
      exact ⟨fun _ isValue => absurd isValue List.not_mem_nil, List.nodup_nil⟩
  | cons backend calls inductionHypothesis =>
      rw [Sequence.freshValues]
      split
      · next someLeft =>
          obtain ⟨values, distinct⟩ :=
            inductionHypothesis (stocked.useUp someLeft)
          refine ⟨fun value isValue => ?_, distinct⟩
          obtain ⟨above, modEq, available⟩ := values value isValue
          exact ⟨above, modEq, stocked.available_useUp someLeft available⟩
      · next noneLeft =>
          have fresh : left backend = 0 := Nat.eq_zero_of_not_pos noneLeft
          obtain ⟨next, available, gone, fewer⟩ := stocked.call positive fresh
          obtain ⟨values, distinct⟩ := inductionHypothesis next
          constructor
          · intro value isValue
            rcases List.mem_cons.mp isValue with isFirst | isLater
            · obtain ⟨above, modEq⟩ := stocked.of_available isFirst fresh
              exact ⟨above, modEq, isFirst ▸ available⟩
            · obtain ⟨above, modEq, stillAvailable⟩ := values value isLater
              exact ⟨above, modEq, fewer value stillAvailable⟩
          · refine List.nodup_cons.mpr ⟨?_, distinct⟩
            intro again
            exact gone (values _ again).2.2

/-! ## The nodes -/

/-- An altered sequence has nothing fresh in stock, and its next value is in the
residue class of the node and not below its old last value. -/
theorem stocked_altered
    {maxNodes : ℕ} (positive : 0 < maxNodes) (backend nodeId : ℕ)
    (seq : Sequence) :
    Stocked maxNodes nodeId seq.lastValue
      (fun other =>
        ((seq.altered backend maxNodes nodeId).preallocated other).length)
      (seq.altered backend maxNodes nodeId) := by
  have noStock : ∀ other,
      (seq.altered backend maxNodes nodeId).stock (fun other =>
      ((seq.altered backend maxNodes nodeId).preallocated other).length)
        other = [] :=
    fun other => List.drop_length
  have stepPositive : (0 : ℤ) < maxNodes := by omega
  have moved := le_restart seq.lastValue stepPositive (Int.natCast_nonneg nodeId)
  refine ⟨Sequence.altered_seqincrement backend maxNodes nodeId seq, fun _ =>
    le_rfl, ?_, ?_, ?_, ?_, ?_⟩
  · rw [Sequence.altered_nextValue]
    split_ifs <;> omega
  · rw [Sequence.altered_nextValue]
    split_ifs with moves isCalled
    · rw [add_comm]
      exact Int.modEq_iff_dvd.mpr ⟨-(seq.lastValue.tdiv maxNodes + 1), by ring⟩
    · refine Int.ModEq.trans ?_ (modEq_of_tmod_eq (not_not.mp moves))
      exact Int.modEq_iff_dvd.mpr ⟨-1, by ring⟩
    · exact modEq_of_tmod_eq (not_not.mp moves)
  · intro other value inStock
    rw [noStock] at inStock
    exact absurd inStock List.not_mem_nil
  · intro other
    rw [noStock]
    exact List.nodup_nil
  · intro one other _
    rw [noStock]
    exact List.disjoint_nil_left _

theorem Cluster.le_maxNodes {cluster : Cluster} {nodeId : ℕ}
    (isId : nodeId ∈ cluster.ids) :
    nodeId ≤ cluster.maxNodes :=
  Finset.le_sup (f := id) isId

/-- Ids of a cluster in the same residue class are equal. -/
theorem Cluster.eq_of_modEq
    {cluster : Cluster} {one other : ℕ}
    (isOne : one ∈ cluster.ids) (isOther : other ∈ cluster.ids)
    (same : (one : ℤ) ≡ other [ZMOD cluster.maxNodes]) :
    one = other := by
  have onePositive := cluster.positive one isOne
  have otherPositive := cluster.positive other isOther
  have oneLe := Cluster.le_maxNodes isOne
  have otherLe := Cluster.le_maxNodes isOther
  have shifted : ((one : ℤ) - 1) % cluster.maxNodes =
      (other - 1) % cluster.maxNodes :=
    same.sub_right 1
  rw [Int.emod_eq_of_lt (by omega) (by omega),
    Int.emod_eq_of_lt (by omega) (by omega)]
    at shifted
  omega

/-- The values of a sequence on the nodes of a cluster: they are all different,
and on each node the first one is not below the last value before. -/
structure Separate
    (cluster : Cluster) (before : ℕ → Sequence) (values : ℕ → List ℤ) : Prop where
  different : ∀ one ∈ cluster.ids, ∀ other ∈ cluster.ids, one ≠ other →
    List.Disjoint (values one) (values other)
  once : ∀ id ∈ cluster.ids, (values id).Nodup
  first : ∀ id ∈ cluster.ids, ∀ value ∈ (values id).head?,
    (before id).lastValue ≤ value

/-- After `mtm.alter_sequences` was run on all nodes, the values of a shared
sequence do not collide, apart from those that backends had preallocated
before. -/
theorem alterSequences_separate
    (cluster : Cluster) (backend : ℕ → ℕ) (catalog : ℕ → List Sequence)
    (index : ℕ → ℕ)
    {before : ℕ → Sequence}
    (isBefore : ∀ id ∈ cluster.ids, (catalog id)[index id]? = some (before id))
    (shared : ∀ id ∈ cluster.ids, (before id).relpersistence ≠ .temporary) :
    ∃ after : ℕ → Sequence,
      (∀ id ∈ cluster.ids,
        (alterSequences cluster (backend id) id (catalog id)).2[index id]? =
          some (after id)) ∧
      ∀ calls : ℕ → List ℕ,
        Separate cluster before fun id => (after id).laterValues (calls id) := by
  refine ⟨fun id => (before id).altered (backend id) cluster.maxNodes id, ?_, ?_⟩
  · intro id isId
    exact getElem?_alterSequences (isBefore id isId) (shared id isId)
  · intro calls
    have positive : ∀ id ∈ cluster.ids, 0 < cluster.maxNodes := by
      intro id isId
      exact lt_of_lt_of_le (cluster.positive id isId) (Cluster.le_maxNodes isId)
    have run : ∀ id ∈ cluster.ids, _ := fun id isId =>
      (stocked_altered (positive id isId) (backend id) id (before id)).run
        (by have := positive id isId; omega) (calls id)
    refine ⟨?_, ?_, ?_⟩
    · intro one isOne other isOther different value inOne inOther
      have oneClass := ((run one isOne).1 value inOne).2.1
      have otherClass := ((run other isOther).1 value inOther).2.1
      exact different
        (Cluster.eq_of_modEq isOne isOther (oneClass.symm.trans otherClass))
    · intro id isId
      exact (run id isId).2
    · intro id isId value isFirst
      exact ((run id isId).1 value (List.mem_of_head? isFirst)).1

/-- Where nothing was preallocated, these are all later values. -/
theorem Sequence.laterValues_eq_values
    {seq : Sequence} (noCache : ∀ backend, seq.preallocated backend = [])
    (calls : List ℕ) :
    seq.laterValues calls = seq.values calls := by
  have noneLeft : (fun backend => (seq.preallocated backend).length) =
      fun _ => 0 := by
    funext backend
    rw [noCache, List.length_nil]
  have all : ∀ later : Sequence,
      later.freshValues (fun _ => 0) calls = later.values calls := by
    induction calls with
    | nil => exact fun _ => rfl
    | cons backend calls inductionHypothesis =>
        intro later
        rw [Sequence.freshValues, if_neg (lt_irrefl 0), inductionHypothesis]
        rfl
  rw [Sequence.laterValues, noneLeft, all]

/-! ## Two nodes -/

def twoNodes : Cluster where
  ids := {1, 2}
  positive := by decide

/-- A sequence of a single node that was called. -/
def ownSequence (lastValue : ℤ) : Sequence where
  relname := "seq"
  relpersistence := .permanent
  seqincrement := 1
  seqcache := 1
  seqcache_pos := Nat.one_pos
  lastValue := lastValue
  isCalled := true
  preallocated := fun _ => []

/-- Last values below zero. -/
def negative (id : ℕ) : Sequence :=
  ownSequence (-4 - id)

theorem alterSequences_separate_negative :
    ∃ after : ℕ → Sequence,
      (∀ id ∈ twoNodes.ids,
        (alterSequences twoNodes 9 id [negative id]).2[0]? = some (after id)) ∧
      ∀ calls : ℕ → List ℕ,
        Separate twoNodes negative fun id => (after id).laterValues (calls id) :=
  alterSequences_separate twoNodes (fun _ => 9)
    (fun id => [negative id]) (fun _ => 0)
    (fun _ _ => rfl) (fun _ _ => Persistence.noConfusion)

/-- All values of three later calls in backend 0, after backend 9 altered the
sequence. -/
def valuesAfter (before : ℕ → Sequence) (id : ℕ) : List ℤ :=
  (alterSequences twoNodes 9 id [before id]).2.flatMap fun seq =>
    seq.values [0, 0, 0]

example : valuesAfter negative 1 = [-1, 1, 3] ∧
    valuesAfter negative 2 = [-4, -2, 0] := by
  decide

/-- On node 1 the backend 0 has the values up to 10 for itself. -/
def prefetched (id : ℕ) : Sequence :=
  if id = 1 then
    { ownSequence 10 with
      seqcache := 10
      seqcache_pos := by decide
      preallocated :=
        fun backend =>
          if backend = 0 then [2, 3, 4, 5, 6, 7, 8, 9, 10] else [] }
  else ownSequence 1

/-- The same with parameters that need not be altered. -/
def settled (id : ℕ) : Sequence :=
  if id = 1 then
    { ownSequence 19 with
      seqincrement := 2
      seqcache := 10
      seqcache_pos := by decide
      preallocated := fun backend =>
        if backend = 0 then [3, 5, 7, 9, 11, 13, 15, 17, 19] else [] }
  else { ownSequence 2 with seqincrement := 2 }

/-- Temporary sequences. -/
def temporary (_ : ℕ) : Sequence :=
  { ownSequence 1 with relpersistence := .temporary }

/-- Preallocated values are handed out by other nodes as well, the first later
value can be below the last one, and temporary sequences are not altered. -/
theorem preallocated_values_collide :
    ¬ Separate twoNodes prefetched (valuesAfter prefetched) ∧
      ¬ Separate twoNodes settled (valuesAfter settled) ∧
      ¬ Separate twoNodes temporary (valuesAfter temporary) := by
  refine ⟨?_, ?_, ?_⟩
  · intro separate
    exact separate.different 1 (by decide) 2 (by decide) (by decide)
      (show (4 : ℤ) ∈ valuesAfter prefetched 1 by decide) (by decide)
  · intro separate
    have first := separate.first 1 (by decide) 3 (by decide)
    exact absurd first (by decide)
  · intro separate
    exact separate.different 1 (by decide) 2 (by decide) (by decide)
      (show (2 : ℤ) ∈ valuesAfter temporary 1 by decide) (by decide)

end Sequences
end Multimaster
