import Multimaster.Clique.Maximum

/-!
# The two notions of a connectivity clique

`MtmIsConnectivityClique` checks that every node of a mask sees every other one,
with a row of its own for this node.  `MtmGetConnectivityClique` makes the matrix
symmetric, adds the self-loops that the clique search asks for, and replaces a
result of one vertex by this node.
-/

namespace Multimaster
namespace Clique

/-- The test `(mask >> bit) & 1`. -/
def shiftCheck (mask : Nodemask) (bit : ℕ) : Bool :=
  (mask >>> bit) &&& 1#64 != 0#64

/-- What a node knows of the connectivity. -/
structure Connectivity where
  myNodeId : ℕ
  dmqReceiversMask : Nodemask
  dmqSendersMask : Nodemask
  connectivityMatrix : ℕ → Nodemask

namespace Connectivity

/-- `MtmGetConnectedMask` -/
def mtmGetConnectedMask (state : Connectivity) : Nodemask :=
  state.dmqReceiversMask &&& state.dmqSendersMask

/-- `MtmGetConnectedMaskWithMe` -/
def mtmGetConnectedMaskWithMe (state : Connectivity) : Nodemask :=
  bitSet state.mtmGetConnectedMask (state.myNodeId - 1)

/-- The check of the pair in `MtmIsConnectivityClique`. -/
def sees (state : Connectivity) (i j : ℕ) : Bool :=
  if i + 1 = state.myNodeId then
    bitCheck state.mtmGetConnectedMask j
  else
    bitCheck (state.connectivityMatrix i) j

/-- `MtmIsConnectivityClique` -/
def mtmIsConnectivityClique (state : Connectivity) (mask : Nodemask) : Bool :=
  (List.range mtmMaxNodes).all fun i =>
    !bitCheck mask i ||
      (List.range mtmMaxNodes).all fun j =>
        i == j || !bitCheck mask j || state.sees i j

/-- The body of the inner loop: an edge stays if both nodes see each other. -/
def keepMutual (i : ℕ) (matrix : ℕ → Nodemask) (j : ℕ) : ℕ → Nodemask :=
  if !shiftCheck (matrix j) i || !shiftCheck (matrix i) j then
    let cleared := Function.update matrix i (bitClear (matrix i) j)
    Function.update cleared j (bitClear (cleared j) i)
  else
    matrix

/-- The body of the outer loop. -/
def symmetriseRow (matrix : ℕ → Nodemask) (i : ℕ) : ℕ → Nodemask :=
  let kept := (List.range i).foldl (keepMutual i) matrix
  Function.update kept i (bitSet (kept i) i)

/-- The matrix that is given to the clique search. -/
def symmetrise (matrix : ℕ → Nodemask) : ℕ → Nodemask :=
  (List.range mtmMaxNodes).foldl symmetriseRow matrix

/-- The rows before they are made symmetric. -/
def rows (state : Connectivity) : ℕ → Nodemask :=
  Function.update state.connectivityMatrix (state.myNodeId - 1)
    state.mtmGetConnectedMaskWithMe

/-- `MtmGetConnectivityClique`: an unconfigured node raises an error. -/
def mtmGetConnectivityClique (state : Connectivity) : Option Nodemask :=
  if state.myNodeId = 0 then
    none
  else do
    let found ← mtmFindMaxClique (symmetrise state.rows) mtmMaxNodes
    if popcount found.1 = 1 then
      return bitSet 0#64 (state.myNodeId - 1)
    else
      return found.1

/-! ## The symmetric matrix -/

theorem shiftCheck_eq_getLsbD (mask : Nodemask) (bit : ℕ) :
    shiftCheck mask bit = mask.getLsbD bit := by
  rw [shiftCheck, ← Nat.add_zero bit, ← BitVec.getLsbD_ushiftRight,
    ← bitCheck_eq_getLsbD, Nat.add_zero]
  rfl

theorem getLsbD_keepMutual
    {i j : ℕ} (distinct : i ≠ j) (matrix : ℕ → Nodemask) (row column : ℕ) :
    (keepMutual i matrix j row).getLsbD column =
      if row = i ∧ column = j ∨ row = j ∧ column = i then
        (matrix i).getLsbD j && (matrix j).getLsbD i
      else (matrix row).getLsbD column := by
  rw [keepMutual, shiftCheck_eq_getLsbD, shiftCheck_eq_getLsbD]
  split_ifs with isCleared isPair isPair
  · have oneWay : ((matrix i).getLsbD j && (matrix j).getLsbD i) = false := by
      cases first : (matrix i).getLsbD j <;> simp_all
    rw [oneWay]
    rcases isPair with ⟨rfl, rfl⟩ | ⟨rfl, rfl⟩
    · simp [Function.update_of_ne distinct, getLsbD_bitClear]
    · simp [getLsbD_bitClear]
  · rcases eq_or_ne row j with rfl | notJ
    · have notI : column ≠ i := fun same => isPair (Or.inr ⟨rfl, same⟩)
      simp [Function.update_of_ne distinct.symm, getLsbD_bitClear, notI]
    · rcases eq_or_ne row i with rfl | notI
      · have notJ' : column ≠ j := fun same => isPair (Or.inl ⟨rfl, same⟩)
        simp [Function.update_of_ne notJ, getLsbD_bitClear, notJ']
      · simp [Function.update_of_ne notJ, Function.update_of_ne notI]
  · have bothWays : (matrix i).getLsbD j = true ∧
        (matrix j).getLsbD i = true := by
      simpa [and_comm] using isCleared
    rw [bothWays.1, bothWays.2]
    rcases isPair with ⟨rfl, rfl⟩ | ⟨rfl, rfl⟩
    · exact bothWays.1
    · exact bothWays.2
  · rfl

/-- The inner loop treats the pairs of the row with a smaller index. -/
theorem getLsbD_foldl_keepMutual
    {i bound : ℕ} (atMost : bound ≤ i) (matrix : ℕ → Nodemask) (row column : ℕ) :
    ((List.range bound).foldl (keepMutual i) matrix row).getLsbD column =
      if row = i ∧ column < bound ∨ column = i ∧ row < bound then
        (matrix row).getLsbD column && (matrix column).getLsbD row
      else (matrix row).getLsbD column := by
  induction bound generalizing row column with
  | zero => simp
  | succ bound ih =>
    rw [List.range_succ, List.foldl_append, List.foldl_cons, List.foldl_nil,
      getLsbD_keepMutual (by omega)]
    simp only [ih (Nat.le_of_succ_le atMost)]
    grind

/-- The outer loop treats the pairs below the bound. -/
theorem getLsbD_foldl_symmetriseRow
    {bound : ℕ} (atMost : bound ≤ mtmMaxNodes) (matrix : ℕ → Nodemask)
    (row column : ℕ) :
    ((List.range bound).foldl symmetriseRow matrix row).getLsbD column =
      if row < bound ∧ column < bound then
        decide (row = column) ||
          ((matrix row).getLsbD column && (matrix column).getLsbD row)
      else (matrix row).getLsbD column := by
  induction bound generalizing row column with
  | zero => simp
  | succ bound ih =>
    have inMask : bound < 64 := lt_of_lt_of_le atMost (by decide)
    rw [List.range_succ, List.foldl_append, List.foldl_cons, List.foldl_nil,
      symmetriseRow]
    rcases eq_or_ne row bound with rfl | otherRow
    · rw [Function.update_self, getLsbD_bitSet, getLsbD_foldl_keepMutual le_rfl]
      simp only [ih (Nat.le_of_succ_le atMost)]
      grind
    · rw [Function.update_of_ne otherRow, getLsbD_foldl_keepMutual le_rfl]
      simp only [ih (Nat.le_of_succ_le atMost)]
      grind

/-- Two nodes are adjacent if they are the same or see each other. -/
theorem adjacent_symmetrise_iff
    {matrix : ℕ → Nodemask} {row column : ℕ}
    (isRow : row < mtmMaxNodes) (isColumn : column < mtmMaxNodes) :
    Adjacent (symmetrise matrix) row column ↔
      row = column ∨
        (matrix row).getLsbD column = true ∧
          (matrix column).getLsbD row = true := by
  rw [Adjacent, bitCheck_eq_getLsbD, symmetrise,
    getLsbD_foldl_symmetriseRow le_rfl, if_pos ⟨isRow, isColumn⟩]
  simp

theorem isGraph_symmetrise (matrix : ℕ → Nodemask) :
    IsGraph (symmetrise matrix) mtmMaxNodes := by
  constructor
  · intro i isNode j isNode'
    apply Bool.eq_iff_iff.mpr
    change Adjacent (symmetrise matrix) i j ↔ Adjacent (symmetrise matrix) j i
    rw [adjacent_symmetrise_iff isNode isNode',
      adjacent_symmetrise_iff isNode' isNode,
      and_comm, eq_comm]
  · intro i isNode
    exact (adjacent_symmetrise_iff isNode isNode).mpr (Or.inl rfl)

variable {state : Connectivity}

/-- A mask is accepted if its nodes see each other. -/
theorem mtmIsConnectivityClique_iff {mask : Nodemask} :
    state.mtmIsConnectivityClique mask = true ↔
      ∀ i ∈ nodes mask, ∀ j ∈ nodes mask, i ≠ j → state.sees i j = true := by
  simp only [mtmIsConnectivityClique, List.all_eq_true, List.mem_range,
    Bool.or_eq_true,
    Bool.not_eq_true', beq_iff_eq, mem_nodes, bitCheck_eq_getLsbD]
  grind

/-- The rows say whom a node sees, but for the node itself. -/
theorem getLsbD_rows
    (configured : 0 < state.myNodeId) {i j : ℕ} (distinct : i ≠ j) :
    (state.rows i).getLsbD j = state.sees i j := by
  rw [rows, sees, bitCheck_eq_getLsbD, bitCheck_eq_getLsbD]
  by_cases isMe : i + 1 = state.myNodeId
  · have same : i = state.myNodeId - 1 := by omega
    rw [if_pos isMe, ← same, Function.update_self, mtmGetConnectedMaskWithMe,
      getLsbD_bitSet]
    have other : ¬(j < 64 ∧ j = state.myNodeId - 1) := by omega
    simp [other]
  · have notMe : i ≠ state.myNodeId - 1 := by omega
    rw [if_neg isMe, Function.update_of_ne notMe]

/-- A mask is accepted exactly if its nodes are a clique of the symmetric
matrix. -/
theorem mtmIsConnectivityClique_iff_isClique
    (configured : 0 < state.myNodeId) {mask : Nodemask} :
    state.mtmIsConnectivityClique mask = true ↔
      IsClique (Adjacent (symmetrise state.rows)) (Finset.range mtmMaxNodes)
        (nodes mask) := by
  rw [mtmIsConnectivityClique_iff]
  constructor
  · intro seeEachOther
    refine ⟨Finset.filter_subset _ _, ?_⟩
    intro i isNode j isNode'
    rw [adjacent_symmetrise_iff (mem_nodes.mp isNode).1 (mem_nodes.mp isNode').1]
    rcases eq_or_ne i j with same | distinct
    · exact Or.inl same
    · right
      rw [getLsbD_rows configured distinct, getLsbD_rows configured distinct.symm]
      exact ⟨seeEachOther i isNode j isNode' distinct,
        seeEachOther j isNode' i isNode distinct.symm⟩
  · intro isClique i isNode j isNode' distinct
    have isEdge := isClique.pairwise i isNode j isNode'
    rw [adjacent_symmetrise_iff (mem_nodes.mp isNode).1
      (mem_nodes.mp isNode').1] at isEdge
    rw [← getLsbD_rows configured distinct]
    exact (isEdge.resolve_left distinct).1

/-- This node alone is accepted. -/
theorem mtmIsConnectivityClique_single (bit : ℕ) :
    state.mtmIsConnectivityClique (bitSet 0#64 bit) = true := by
  rw [mtmIsConnectivityClique_iff]
  intro i isNode j isNode' distinct
  rw [mem_nodes, getLsbD_bitSet] at isNode isNode'
  simp at isNode isNode'
  omega

/-- `MtmIsConnectivityClique` accepts what `MtmGetConnectivityClique` returns,
and no accepted mask of two or more nodes is larger. -/
theorem mtmGetConnectivityClique_accepted
    (state : Connectivity)
    (isNode : 1 ≤ state.myNodeId ∧ state.myNodeId ≤ mtmMaxNodes) :
    ∃ clique,
      state.mtmGetConnectivityClique = some clique ∧
      state.mtmIsConnectivityClique clique = true ∧
      ∀ mask, state.mtmIsConnectivityClique mask = true → 2 ≤ popcount mask →
        popcount mask ≤ popcount clique := by
  have isGraph := isGraph_symmetrise state.rows
  have isFound := mtmFindMaxClique_eq isGraph (by decide) (by decide)
  have isMaximum := isMaximumMask_of_eq isGraph (by decide) (by decide) isFound
  generalize listToNodemask (best [] (enumeration _ _)) = found
    at isFound isMaximum
  have sameNodes : nodes found = members found := by
    ext i
    rw [mem_nodes, mem_members]
    constructor
    · exact fun both => both.2
    · exact fun isMember => ⟨Finset.mem_range.mp
        (isMaximum.isClique.subset (mem_members.mpr isMember)), isMember⟩
  have bound (mask : Nodemask)
      (accepted : state.mtmIsConnectivityClique mask = true) :
      popcount mask ≤ popcount found := by
    rw [← card_nodes, ← card_nodes, sameNodes]
    exact isMaximum.card_le _
      ((mtmIsConnectivityClique_iff_isClique isNode.1).mp accepted)
  have configured : state.myNodeId ≠ 0 := by omega
  by_cases single : popcount found = 1
  · refine ⟨bitSet 0#64 (state.myNodeId - 1), ?_,
      mtmIsConnectivityClique_single _, ?_⟩
    · simp [mtmGetConnectivityClique, configured, isFound, single]
    · intro mask accepted atLeastTwo
      have atMostOne := bound mask accepted
      omega
  · refine ⟨found, ?_, ?_, fun mask accepted _ => bound mask accepted⟩
    · simp [mtmGetConnectivityClique, configured, isFound, single]
    · rw [mtmIsConnectivityClique_iff_isClique isNode.1, sameNodes]
      exact isMaximum.isClique

/-- Three nodes that see the first one, which sees them, and two of which see each
other. -/
def exampleConnectivity : Connectivity where
  myNodeId := 1
  dmqReceiversMask := 14#64
  dmqSendersMask := 14#64
  connectivityMatrix := fun i => [0#64, 5#64, 3#64, 1#64].getD i 0#64

theorem exampleConnectivity_accepted :
    ∃ clique,
      exampleConnectivity.mtmGetConnectivityClique = some clique ∧
      exampleConnectivity.mtmIsConnectivityClique clique = true ∧
      ∀ mask, exampleConnectivity.mtmIsConnectivityClique mask = true →
        2 ≤ popcount mask → popcount mask ≤ popcount clique :=
  mtmGetConnectivityClique_accepted exampleConnectivity (by decide)

end Connectivity
end Clique
end Multimaster
