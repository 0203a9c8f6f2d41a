import Mathlib.Data.Finset.Card
import Mathlib.Data.Finset.Powerset
import Mathlib.Data.Set.Pairwise.Basic
import Mathlib.Order.Preorder.Finite

/-!
# Maximal cliques by pivoting

The Bron–Kerbosch search grows a clique by vertices of a candidate set.  The
maximal cliques that a call can still reach contain the clique and are made of it
and the candidates.  A pivot that is adjacent to the whole clique is in each of
them, or has a non-neighbour in each of them, so it is enough to branch on the
pivot and on its non-neighbours.
-/

namespace Multimaster

variable {Vertex : Type*}

/-- Vertices that are adjacent to each other. -/
structure IsClique
    (adjacent : Vertex → Vertex → Prop)
    (vertices clique : Finset Vertex) : Prop where
  subset : clique ⊆ vertices
  pairwise : ∀ left ∈ clique, ∀ right ∈ clique, adjacent left right

/-- A clique that no further vertex can join. -/
def IsMaximalClique
    (adjacent : Vertex → Vertex → Prop) (vertices : Finset Vertex) :
    Finset Vertex → Prop :=
  Maximal (IsClique adjacent vertices)

/-- A clique that is at least as large as every other one. -/
structure IsMaximumClique
    (adjacent : Vertex → Vertex → Prop)
    (vertices clique : Finset Vertex) : Prop where
  isClique : IsClique adjacent vertices clique
  card_le : ∀ other, IsClique adjacent vertices other → other.card ≤ clique.card

section Maximal

variable {adjacent : Vertex → Vertex → Prop} {vertices clique : Finset Vertex}

theorem IsClique.exists_maximal
    (isClique : IsClique adjacent vertices clique) :
    ∃ larger, IsMaximalClique adjacent vertices larger ∧ clique ⊆ larger := by
  classical
  have isMember :
      clique ∈ vertices.powerset.filter (IsClique adjacent vertices) := by
    simp [isClique.subset, isClique]
  obtain ⟨larger, isLarger, isMaximal⟩ := Finset.exists_le_maximal _ isMember
  refine ⟨larger, ⟨(Finset.mem_filter.mp isMaximal.prop).2, ?_⟩, isLarger⟩
  intro other isOther contains
  apply isMaximal.le_of_ge _ contains
  simp [isOther.subset, isOther]

theorem IsMaximumClique.isMaximal
    (isMaximum : IsMaximumClique adjacent vertices clique) :
    IsMaximalClique adjacent vertices clique := by
  refine ⟨isMaximum.isClique, ?_⟩
  intro other isOther contains
  exact (Finset.eq_of_subset_of_card_le contains
    (isMaximum.card_le other isOther)).ge

variable [DecidableEq Vertex]

/-- A vertex that is adjacent to a whole maximal clique belongs to it. -/
theorem IsMaximalClique.mem_of_adjacent
    (isMaximal : IsMaximalClique adjacent vertices clique)
    (symmetric : ∀ left ∈ vertices, ∀ right ∈ vertices,
      adjacent left right → adjacent right left)
    (loops : ∀ vertex ∈ vertices, adjacent vertex vertex)
    {vertex : Vertex} (isVertex : vertex ∈ vertices)
    (isAdjacent : ∀ member ∈ clique, adjacent vertex member) :
    vertex ∈ clique := by
  have joined : IsClique adjacent vertices (insert vertex clique) := by
    refine ⟨Finset.insert_subset isVertex isMaximal.prop.subset, ?_⟩
    intro left leftMember right rightMember
    rcases Finset.mem_insert.mp leftMember with rfl | inLeft
    · rcases Finset.mem_insert.mp rightMember with rfl | inRight
      · exact loops _ isVertex
      · exact isAdjacent right inRight
    · rcases Finset.mem_insert.mp rightMember with rfl | inRight
      · exact symmetric _ isVertex _ (isMaximal.prop.subset inLeft)
          (isAdjacent left inLeft)
      · exact isMaximal.prop.pairwise left inLeft right inRight
  exact isMaximal.le_of_ge joined (Finset.subset_insert _ _)
    (Finset.mem_insert_self _ _)

end Maximal

section Pivot

variable [DecidableEq Vertex]

/-- What a call can still reach: the clique grown by at least one candidate. -/
structure Within (clique candidates target : Finset Vertex) : Prop where
  contains : clique ⊆ target
  grows : ¬target ⊆ clique
  subset : target ⊆ clique ∪ candidates

/-- What a branch on a vertex can reach. -/
structure InBranch
    (clique : Finset Vertex) (vertex : Vertex)
    (candidates target : Finset Vertex) :
    Prop where
  contains : insert vertex clique ⊆ target
  subset : target ⊆ insert vertex clique ∪ candidates

variable {clique candidates target : Finset Vertex} {vertex : Vertex}

theorem not_within_empty :
    ¬Within clique ∅ target := fun within =>
  within.grows (by simpa using within.subset)

/-- The branch on a vertex, and what is left without the vertex. -/
theorem within_insert_iff (isNew : vertex ∉ clique) :
    Within clique (insert vertex candidates) target ↔
      InBranch clique vertex candidates target ∨
        vertex ∉ target ∧ Within clique candidates target := by
  constructor
  · intro within
    by_cases isMember : vertex ∈ target
    · left
      refine ⟨Finset.insert_subset isMember within.contains, ?_⟩
      rw [Finset.insert_union, ← Finset.union_insert]
      exact within.subset
    · right
      refine ⟨isMember, within.contains, within.grows, ?_⟩
      intro member inTarget
      have cases := within.subset inTarget
      rw [Finset.union_insert, Finset.mem_insert] at cases
      exact cases.resolve_left fun same => isMember (same ▸ inTarget)
  · rintro (inBranch | ⟨-, within⟩)
    · refine ⟨(Finset.subset_insert _ _).trans inBranch.contains, ?_, ?_⟩
      · exact fun same =>
          isNew (same (inBranch.contains (Finset.mem_insert_self _ _)))
      · rw [Finset.union_insert, ← Finset.insert_union]
        exact inBranch.subset
    · refine ⟨within.contains, within.grows, within.subset.trans ?_⟩
      exact Finset.union_subset_union_right (Finset.subset_insert _ _)

variable {adjacent : Vertex → Vertex → Prop} {vertices : Finset Vertex}

/-- The pivot, or one of its non-neighbours, is among the candidates that a
maximal clique takes. -/
theorem Within.pivot
    (within : Within clique candidates target)
    (isMaximal : IsMaximalClique adjacent vertices target)
    (symmetric : ∀ left ∈ vertices, ∀ right ∈ vertices,
      adjacent left right → adjacent right left)
    (loops : ∀ vertex ∈ vertices, adjacent vertex vertex)
    {pivot : Vertex} (isVertex : pivot ∈ vertices)
    (isAdjacent : ∀ member ∈ clique, adjacent pivot member) :
    pivot ∈ target ∨
      ∃ member ∈ candidates, member ∈ target ∧ ¬adjacent pivot member := by
  by_contra neither
  push Not at neither
  obtain ⟨notTarget, neighbours⟩ := neither
  apply notTarget
  apply isMaximal.mem_of_adjacent symmetric loops isVertex
  intro member isMember
  rcases Finset.mem_union.mp (within.subset isMember) with inClique | isCandidate
  · exact isAdjacent member inClique
  · exact neighbours member isCandidate isMember

/-- A branch reaches only neighbours of its vertex. -/
theorem InBranch.subset_neighbours
    (inBranch : InBranch clique vertex candidates target)
    (isClique : IsClique adjacent vertices target)
    {neighbours : Finset Vertex}
    (isNeighbours : ∀ member ∈ candidates, adjacent vertex member →
      member ∈ neighbours) :
    target ⊆ insert vertex clique ∪ neighbours := by
  intro member isMember
  rcases Finset.mem_union.mp (inBranch.subset isMember) with grown | isCandidate
  · exact Finset.mem_union_left _ grown
  · apply Finset.mem_union_right
    apply isNeighbours member isCandidate
    exact isClique.pairwise vertex
      (inBranch.contains (Finset.mem_insert_self _ _)) member isMember

end Pivot

end Multimaster
