import Mathlib.Data.Finset.Sort
import Multimaster.Clique.Defs
import Multimaster.Lib.MaximalClique

/-!
# Masks and sets of vertices
-/

namespace Multimaster
namespace Clique

theorem getLsbD_foldl_bitSet (list : List ℕ) (mask : Nodemask) (position : ℕ) :
    (list.foldl bitSet mask).getLsbD position =
      (mask.getLsbD position || decide (position < 64 ∧ position ∈ list)) := by
  induction list generalizing mask with
  | nil => simp
  | cons vertex rest ih =>
    rw [List.foldl_cons, ih, getLsbD_bitSet]
    grind

theorem getLsbD_listToNodemask (list : List ℕ) (position : ℕ) :
    (listToNodemask list).getLsbD position =
      decide (position < 64 ∧ position ∈ list) := by
  rw [listToNodemask, getLsbD_foldl_bitSet]
  simp

/-- The mask of a set of vertices. -/
def maskOf (vertices : Finset ℕ) : Nodemask :=
  listToNodemask (vertices.sort (· ≤ ·))

theorem getLsbD_maskOf (vertices : Finset ℕ) (position : ℕ) :
    (maskOf vertices).getLsbD position =
      decide (position < 64 ∧ position ∈ vertices) := by
  simp [maskOf, getLsbD_listToNodemask]

theorem listToNodemask_eq_maskOf (list : List ℕ) :
    listToNodemask list = maskOf list.toFinset := by
  apply BitVec.eq_of_getLsbD_eq
  intro position _
  simp [getLsbD_listToNodemask, getLsbD_maskOf]

theorem members_maskOf {vertices : Finset ℕ} {nNodes : ℕ}
    (subset : vertices ⊆ Finset.range nNodes) (small : nNodes ≤ maxNodes) :
    members (maskOf vertices) = vertices := by
  ext vertex
  rw [mem_members, getLsbD_maskOf]
  constructor
  · exact fun isMember => (of_decide_eq_true isMember).2
  · intro isMember
    have inRange := Finset.mem_range.mp (subset isMember)
    exact decide_eq_true ⟨lt_of_lt_of_le inRange small, isMember⟩

theorem maskOf_members (mask : Nodemask) :
    maskOf (members mask) = mask := by
  apply BitVec.eq_of_getLsbD_eq
  intro position inRange
  rw [getLsbD_maskOf, Bool.eq_iff_iff, decide_eq_true_iff, mem_members]
  exact and_iff_right inRange

/-- An edge of the graph. -/
def Adjacent (graph : ℕ → Nodemask) (left right : ℕ) : Prop :=
  bitCheck (graph left) right = true

instance (graph : ℕ → Nodemask) (left right : ℕ) :
    Decidable (Adjacent graph left right) :=
  inferInstanceAs (Decidable (bitCheck (graph left) right = true))

theorem IsGraph.adjacent_symm
    {graph : ℕ → Nodemask} {nNodes : ℕ} (isGraph : IsGraph graph nNodes) :
    ∀ left ∈ Finset.range nNodes, ∀ right ∈ Finset.range nNodes,
      Adjacent graph left right → Adjacent graph right left := by
  intro left leftVertex right rightVertex isEdge
  rw [Adjacent, ← isGraph.symmetric left (Finset.mem_range.mp leftVertex)
    right (Finset.mem_range.mp rightVertex)]
  exact isEdge

theorem IsGraph.adjacent_self
    {graph : ℕ → Nodemask} {nNodes : ℕ} (isGraph : IsGraph graph nNodes) :
    ∀ vertex ∈ Finset.range nNodes, Adjacent graph vertex vertex :=
  fun vertex isVertex => isGraph.loops vertex (Finset.mem_range.mp isVertex)

/-- The mask is a clique of the largest size. -/
def IsMaximumMask (graph : ℕ → Nodemask) (nNodes : ℕ) (mask : Nodemask) : Prop :=
  IsMaximumClique (Adjacent graph) (Finset.range nNodes) (members mask)

end Clique
end Multimaster
