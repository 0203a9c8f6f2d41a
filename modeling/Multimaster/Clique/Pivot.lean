import Multimaster.Clique.Masks

/-!
# The pivot and the order of the branches

The pivot loop leaves the number of branches and the index of the first one.  The
branch loop visits the pivot, if it is a candidate, and then every candidate that
is not a neighbour of the pivot.
-/

namespace Multimaster
namespace Clique

/-- The number of candidates that are not neighbours. -/
def nonNeighbours (row : Nodemask) (candidates : List ℕ) : ℕ :=
  candidates.countP fun vertex => !bitCheck row vertex

theorem nonNeighbours_cons_of_true
    {row : Nodemask} {vertex : ℕ} (isNeighbour : bitCheck row vertex = true)
    (candidates : List ℕ) :
    nonNeighbours row (vertex :: candidates) = nonNeighbours row candidates :=
  List.countP_cons_of_neg (by simp [isNeighbour])

theorem nonNeighbours_cons_of_false
    {row : Nodemask} {vertex : ℕ} (notNeighbour : bitCheck row vertex = false)
    (candidates : List ℕ) :
    nonNeighbours row (vertex :: candidates) = nonNeighbours row candidates + 1 :=
  List.countP_cons_of_pos (by simp [notNeighbour])

theorem nonNeighbours_cons (row : Nodemask) (vertex : ℕ) (candidates : List ℕ) :
    nonNeighbours row (vertex :: candidates) =
      nonNeighbours row [vertex] + nonNeighbours row candidates := by
  rw [nonNeighbours, ← List.singleton_append, List.countP_append]
  rfl

/-! ## The counting loop -/

theorem countNonNeighbours_fst
    (row : Nodemask) (minnod : ℕ) (candidates : List ℕ) (j cnt : ℕ)
    (pos : Option ℕ)
    (atMost : cnt ≤ minnod) :
    (countNonNeighbours row minnod candidates j cnt pos).1 =
      min minnod (cnt + nonNeighbours row candidates) := by
  induction candidates generalizing j cnt pos with
  | nil => simp [countNonNeighbours, nonNeighbours, atMost]
  | cons vertex rest ih =>
    rw [countNonNeighbours]
    by_cases below : cnt < minnod
    · rw [if_pos below]
      cases isNeighbour : bitCheck row vertex with
      | true =>
        rw [if_pos rfl, ih _ _ _ atMost, nonNeighbours_cons_of_true isNeighbour]
      | false =>
        rw [if_neg Bool.false_ne_true, ih _ _ _ below,
          nonNeighbours_cons_of_false isNeighbour]
        omega
    · rw [if_neg below]
      omega

/-- The index that the counting loop leaves is the one it was given, or that of a
non-neighbour. -/
theorem countNonNeighbours_snd
    (row : Nodemask) (minnod : ℕ) (candidates : List ℕ) (j cnt : ℕ)
    (pos : Option ℕ) :
    countNonNeighbours row minnod candidates j cnt pos = (cnt, pos) ∨
      ∃ offset vertex, candidates[offset]? = some vertex ∧
        bitCheck row vertex = false ∧
        (countNonNeighbours row minnod candidates j cnt pos).2 =
          some (j + offset) := by
  induction candidates generalizing j cnt pos with
  | nil => exact Or.inl rfl
  | cons vertex rest ih =>
    rw [countNonNeighbours]
    split_ifs with below isNeighbour
    · rcases ih (j + 1) cnt pos with
          unchanged | ⟨offset, other, isAt, notNeighbour, found⟩
      · exact Or.inl unchanged
      · refine Or.inr ⟨offset + 1, other, by simpa using isAt, notNeighbour, ?_⟩
        rw [found]
        congr 1
        omega
    · right
      rcases ih (j + 1) (cnt + 1) (some j) with
        unchanged | ⟨offset, other, isAt, notNeighbour, found⟩
      · exact ⟨0, vertex, rfl,
          Bool.eq_false_iff.mpr isNeighbour, by rw [unchanged]; rfl⟩
      · refine ⟨offset + 1, other, by simpa using isAt, notNeighbour, ?_⟩
        rw [found]
        congr 1
        omega
    · exact Or.inl rfl

/-! ## The pivot loop -/

/-- A pivot among the excluded vertices: its non-neighbours are the branches. -/
structure ExcludedPivot
    (graph : ℕ → Nodemask) (excluded candidates : List ℕ)
    (pivot : Pivot) (fixp : ℕ) :
    Prop where
  isExcluded : fixp ∈ excluded
  nod : pivot.nod = 0
  first : 0 < pivot.minnod → ∃ offset vertex, candidates[offset]? = some vertex ∧
    bitCheck (graph fixp) vertex = false ∧
    pivot.s = some (excluded.length + offset)

/-- A pivot among the candidates: it is the first branch. -/
structure CandidatePivot
    (excluded candidates : List ℕ) (pivot : Pivot) (fixp : ℕ) : Prop where
  nod : pivot.nod = 1
  first : ∃ offset, candidates[offset]? = some fixp ∧
    pivot.s = some (excluded.length + offset)

/-- What the pivot loop leaves. -/
def Chosen
    (graph : ℕ → Nodemask) (excluded candidates : List ℕ)
    (pivot : Pivot) : Prop :=
  ∃ fixp, pivot.fixp = some fixp ∧
    pivot.minnod = nonNeighbours (graph fixp) candidates ∧
    (ExcludedPivot graph excluded candidates pivot fixp ∨
      CandidatePivot excluded candidates pivot fixp)

section Choose

variable {graph : ℕ → Nodemask} {excluded candidates : List ℕ}

/-- A vertex with fewer non-neighbours becomes the pivot. -/
theorem chosen_tryPivot_of_lt
    {pivot : Pivot} {i p : ℕ}
    (isAt : (excluded ++ candidates)[i]? = some p)
    (fewer : nonNeighbours (graph p) candidates < pivot.minnod)
    (unset : i < excluded.length → pivot.nod = 0) :
    Chosen graph excluded candidates
      (tryPivot graph candidates excluded.length i p pivot) := by
  have counted := countNonNeighbours_fst (graph p) pivot.minnod candidates
    excluded.length 0 none (Nat.zero_le _)
  rw [Nat.zero_add, Nat.min_eq_right fewer.le] at counted
  rw [tryPivot, counted]
  simp only [fewer, if_true]
  split_ifs with isExcluded
  · refine ⟨p, rfl, rfl, Or.inl ⟨?_, unset isExcluded, ?_⟩⟩
    · rw [List.getElem?_append_left isExcluded] at isAt
      exact List.mem_of_getElem? isAt
    · intro someNonNeighbour
      rcases countNonNeighbours_snd (graph p) pivot.minnod candidates
          excluded.length 0 none with unchanged | found
      · rw [unchanged] at counted
        exact absurd counted someNonNeighbour.ne
      · exact found
  · have isBehind := not_lt.mp isExcluded
    rw [List.getElem?_append_right isBehind] at isAt
    exact ⟨p, rfl, rfl, Or.inr ⟨rfl, i - excluded.length, isAt, by
      simp only [Nat.add_sub_cancel' isBehind]⟩⟩

theorem tryPivot_of_ge
    {pivot : Pivot} {i p : ℕ}
    (notFewer : pivot.minnod ≤ nonNeighbours (graph p) candidates) :
    tryPivot graph candidates excluded.length i p pivot = pivot := by
  have counted := countNonNeighbours_fst (graph p) pivot.minnod candidates
    excluded.length 0 none (Nat.zero_le _)
  rw [Nat.zero_add, Nat.min_eq_left notFewer] at counted
  simp [tryPivot, counted]

/-- Once a pivot is chosen, the loop only changes it for a better one. -/
theorem chosen_choosePivot
    {cells : List ℕ} {i : ℕ} {pivot : Pivot}
    (isRest : (excluded ++ candidates).drop i = cells)
    (isChosen : Chosen graph excluded candidates pivot)
    (unset : i < excluded.length → pivot.nod = 0) :
    Chosen graph excluded candidates
      (choosePivot graph candidates excluded.length cells i pivot) := by
  induction cells generalizing i pivot with
  | nil => exact isChosen
  | cons p rest ih =>
    rw [choosePivot]
    split_ifs with done
    · exact isChosen
    · have isAt : (excluded ++ candidates)[i]? = some p := by
        rw [← List.head?_drop, isRest, List.head?_cons]
      have isRest' : (excluded ++ candidates).drop (i + 1) = rest := by
        rw [← List.tail_drop, isRest, List.tail_cons]
      by_cases fewer : nonNeighbours (graph p) candidates < pivot.minnod
      · apply ih isRest' (chosen_tryPivot_of_lt isAt fewer unset)
        intro isExcluded
        have before : i < excluded.length := Nat.lt_of_succ_lt isExcluded
        rw [tryPivot]
        split_ifs
        · exact unset before
        · exact unset before
      · rw [tryPivot_of_ge (not_lt.mp fewer)]
        exact ih isRest' isChosen fun isExcluded =>
          unset (Nat.lt_of_succ_lt isExcluded)

/-- A vertex of the array has fewer non-neighbours among the candidates than the
array has cells. -/
theorem nonNeighbours_lt_length
    {p : ℕ} (isFirst : (excluded ++ candidates)[0]? = some p)
    (loop : bitCheck (graph p) p = true) :
    nonNeighbours (graph p) candidates < (excluded ++ candidates).length := by
  cases excluded with
  | nil =>
    cases candidates with
    | nil => simp at isFirst
    | cons first rest =>
      have same : first = p := by simpa using isFirst
      subst same
      rw [nonNeighbours_cons_of_true loop]
      exact Nat.lt_succ_of_le List.countP_le_length
  | cons first rest =>
    have bound : nonNeighbours (graph p) candidates ≤ candidates.length :=
      List.countP_le_length
    simp only [List.cons_append, List.length_cons, List.length_append]
    omega

/-- The loop over a nonempty array chooses a pivot. -/
theorem chosen_choosePivot_start
    (nonempty : excluded ++ candidates ≠ [])
    (loops : ∀ vertex ∈ excluded ++ candidates,
      bitCheck (graph vertex) vertex = true) :
    Chosen graph excluded candidates
      (choosePivot graph candidates excluded.length (excluded ++ candidates) 0
        { minnod := (excluded ++ candidates).length, nod := 0, fixp := none,
          s := none }) := by
  cases cells : excluded ++ candidates with
  | nil => exact absurd cells nonempty
  | cons p rest =>
    have isAt : (excluded ++ candidates)[0]? = some p := by rw [cells]; rfl
    have fewer := nonNeighbours_lt_length isAt
      (loops p (List.mem_of_getElem? isAt))
    rw [cells] at fewer
    rw [choosePivot, if_neg (by simp)]
    apply chosen_choosePivot (i := 1)
    · rw [cells]
      rfl
    · exact chosen_tryPivot_of_lt isAt fewer fun _ => rfl
    · intro isExcluded
      rw [tryPivot]
      split_ifs with _ atFront
      · rfl
      · exact absurd (Nat.lt_of_succ_lt isExcluded) atFront
      · rfl

end Choose

/-! ## The order of the branches -/

/-- The branch loop with `k` branches to go. -/
def Ready
    (row : Nodemask) (fixp : ℕ) (excluded candidates : List ℕ) : ℕ →
      Option ℕ → Prop
  | 0, _ => fixp ∈ excluded ∧ nonNeighbours row candidates = 0
  | k + 1, s => ∃ offset vertex, candidates[offset]? = some vertex ∧
      s = some (excluded.length + offset) ∧
      nonNeighbours row candidates = k + nonNeighbours row [vertex] ∧
      (fixp ∈ excluded ∨ fixp = vertex)

/-- The pivot loop makes the branch loop ready. -/
theorem Chosen.ready
    {graph : ℕ → Nodemask} {excluded candidates : List ℕ} {pivot : Pivot}
    (chosen : Chosen graph excluded candidates pivot)
    (loops : ∀ vertex ∈ candidates, bitCheck (graph vertex) vertex = true) :
    ∃ fixp, pivot.fixp = some fixp ∧ fixp ∈ excluded ++ candidates ∧
      Ready (graph fixp) fixp excluded candidates (pivot.minnod + pivot.nod)
        pivot.s := by
  obtain ⟨fixp, isPivot, isCount, isExcluded | isCandidate⟩ := chosen
  · refine ⟨fixp, isPivot, List.mem_append_left _ isExcluded.isExcluded, ?_⟩
    rw [isExcluded.nod, Nat.add_zero]
    cases minnod : pivot.minnod with
    | zero => exact ⟨isExcluded.isExcluded, isCount.symm.trans minnod⟩
    | succ k =>
      obtain ⟨offset, vertex, isAt, notNeighbour, isFirst⟩ :=
        isExcluded.first (minnod ▸ Nat.succ_pos k)
      refine ⟨offset, vertex, isAt, isFirst, ?_, Or.inl isExcluded.isExcluded⟩
      rw [← isCount, minnod, nonNeighbours_cons_of_false notNeighbour]
      rfl
  · obtain ⟨offset, isAt, isFirst⟩ := isCandidate.first
    have isMember := List.mem_of_getElem? isAt
    refine ⟨fixp, isPivot, List.mem_append_right _ isMember, ?_⟩
    rw [isCandidate.nod]
    refine ⟨offset, fixp, isAt, isFirst, ?_, Or.inr rfl⟩
    rw [nonNeighbours_cons_of_true (loops fixp isMember), isCount]
    rfl

/-- The search for the next branch finds a non-neighbour if there is one. -/
theorem nextNonNeighbour_eq
    {row : Nodemask} {candidates : List ℕ}
    (someNonNeighbour : 0 < nonNeighbours row candidates)
    (unused : List ℕ) (s : ℕ) :
    ∃ offset vertex, candidates[offset]? = some vertex ∧
      bitCheck row vertex = false ∧
      nextNonNeighbour row (candidates ++ unused) s = some (s + offset) := by
  induction candidates generalizing s with
  | nil => simp [nonNeighbours] at someNonNeighbour
  | cons vertex rest ih =>
    rw [List.cons_append, nextNonNeighbour]
    cases isNeighbour : bitCheck row vertex with
    | true =>
      rw [nonNeighbours_cons_of_true isNeighbour] at someNonNeighbour
      obtain ⟨offset, other, isAt, notNeighbour, found⟩ :=
        ih someNonNeighbour (s + 1)
      refine ⟨offset + 1, other, by simpa using isAt, notNeighbour, ?_⟩
      rw [if_pos rfl, found]
      congr 1
      omega
    | false => exact ⟨0, vertex, rfl, isNeighbour, rfl⟩

end Clique
end Multimaster
