import Mathlib.Data.List.Perm.Basic
import Mathlib.Order.CompletePartialOrder
import Multimaster.Clique.Pivot
import Multimaster.Lib.Incumbent

/-!
# The search and the plain enumeration

The plain enumeration is the search without a result and without the size test.
A call is given a clique, the excluded vertices and the candidates, all of them
adjacent to the clique.  The enumeration lists the maximal cliques that contain
the clique and at least one candidate and nothing else, each once.  The search
keeps the best one of the listing, except that a clique which takes all
candidates of a call is left out when it can only tie.
-/

namespace Multimaster
namespace Clique

/-! ## The plain enumeration -/

/-- Cliques in the order of the enumeration. -/
abbrev Listing := List (Listed (List ℕ))

/-- A branch of the enumeration after its vertex was pushed to `cur`.  A clique
that takes all candidates of the branch is the only one of its size in it. -/
def record (recurse : Recursion Listing) : Recursion Listing :=
  fun cur listing newSet newne newce =>
    if newce = 0 then
      some (listing ++ [{ candidate := cur, alone := false }])
    else if newne < newce then
      (recurse cur [] newSet newne newce).map fun found =>
        listing ++
          found.map (Listed.enter List.length (cur.length + newce - newne))
    else
      some listing

/-- `extend` without a result: all maximal cliques, in the order in which the
pivots and the swaps bring them. -/
def enumerate (graph : ℕ → Nodemask) : ℕ → Recursion Listing :=
  extendBy record graph

/-- The maximal cliques of the graph in this order. -/
def enumeration (graph : ℕ → Nodemask) (nNodes : ℕ) : Listing :=
  (enumerate graph maxNodes [] [] (List.range maxNodes) 0 nNodes).getD []

/-! ## The maximal cliques of a part -/

/-- The maximal cliques of the graph. -/
abbrev Target (graph : ℕ → Nodemask) (nNodes : ℕ) :=
  {target : Finset ℕ //
    IsMaximalClique (Adjacent graph) (Finset.range nNodes) target}

/-- The mask of a list as a number. -/
def maskKey (list : List ℕ) : ℕ := (listToNodemask list).toNat

/-- The result of the search after a listing. -/
def best (result : List ℕ) (listing : Listing) : List ℕ :=
  searchListing List.length maskKey result listing

theorem best_append (result : List ℕ) (first second : Listing) :
    best result (first ++ second) = best (best result first) second :=
  searchListing_append result first second

/-- The code compares sizes and masks. -/
theorem offer_eq_keepBetter (result cur : List ℕ) :
    offer result cur = keepBetter List.length maskKey result cur := by
  unfold offer keepBetter
  exact if_congr Iff.rfl rfl rfl

/-- The listing has the maximal cliques of a part, each once. -/
structure Lists
    (graph : ℕ → Nodemask) (nNodes : ℕ) (part : Set (Target graph nNodes))
    (listing : Listing) : Prop where
  nodup : ∀ listed ∈ listing, listed.candidate.Nodup
  sound : ∀ listed ∈ listing, ∃ target ∈ part,
    listed.candidate.toFinset = target.1
  complete : ∀ target ∈ part, ∃ listed ∈ listing,
    listed.candidate.toFinset = target.1
  distinct : listing.Pairwise fun first second =>
    first.candidate.toFinset ≠ second.candidate.toFinset

namespace Lists

variable {graph : ℕ → Nodemask} {nNodes : ℕ}
variable {part rest : Set (Target graph nNodes)} {listing later : Listing}

theorem nil (nothing : part = ∅) : Lists graph nNodes part [] where
  nodup := fun _ isListed => by cases isListed
  sound := fun _ isListed => by cases isListed
  complete := by
    intro target isTarget
    rw [nothing] at isTarget
    cases isTarget
  distinct := List.Pairwise.nil

/-- Two disjoint parts, one after the other. -/
theorem append
    (first : Lists graph nNodes part listing)
    (second : Lists graph nNodes rest later) (apart : Disjoint part rest) :
    Lists graph nNodes (part ∪ rest) (listing ++ later) where
  nodup := by
    intro listed isListed
    rcases List.mem_append.mp isListed with inFirst | inSecond
    · exact first.nodup listed inFirst
    · exact second.nodup listed inSecond
  sound := by
    intro listed isListed
    rcases List.mem_append.mp isListed with inFirst | inSecond
    · obtain ⟨target, inPart, same⟩ := first.sound listed inFirst
      exact ⟨target, .inl inPart, same⟩
    · obtain ⟨target, inRest, same⟩ := second.sound listed inSecond
      exact ⟨target, .inr inRest, same⟩
  complete := by
    rintro target (inPart | inRest)
    · obtain ⟨listed, isListed, same⟩ := first.complete target inPart
      exact ⟨listed, List.mem_append_left _ isListed, same⟩
    · obtain ⟨listed, isListed, same⟩ := second.complete target inRest
      exact ⟨listed, List.mem_append_right _ isListed, same⟩
  distinct := by
    refine List.pairwise_append.mpr ⟨first.distinct, second.distinct, ?_⟩
    intro listed inFirst other inSecond same
    obtain ⟨target, inPart, isTarget⟩ := first.sound listed inFirst
    obtain ⟨otherTarget, inRest, isOther⟩ := second.sound other inSecond
    have sameTarget : target = otherTarget :=
      Subtype.ext (isTarget.symm.trans (same.trans isOther))
    rw [sameTarget] at inPart
    exact Set.disjoint_left.mp apart inPart inRest

/-- A leaf. -/
theorem single
    {cur : List ℕ} (nodup : cur.Nodup)
    (isClique : IsMaximalClique (Adjacent graph) (Finset.range nNodes)
      cur.toFinset)
    (isPart : ∀ target, target ∈ part ↔ target.1 = cur.toFinset) :
    Lists graph nNodes part [{ candidate := cur, alone := false }] where
  nodup := by
    intro listed isListed
    rw [List.mem_singleton.mp isListed]
    exact nodup
  sound := by
    intro listed isListed
    rw [List.mem_singleton.mp isListed]
    exact ⟨⟨cur.toFinset, isClique⟩, (isPart _).mpr rfl, rfl⟩
  complete := by
    intro target isTarget
    exact ⟨_, List.mem_singleton_self _, ((isPart target).mp isTarget).symm⟩
  distinct := List.pairwise_singleton _ _

/-- The marks do not matter. -/
theorem enter (lists : Lists graph nNodes part listing) (largest : ℕ) :
    Lists graph nNodes part
      (listing.map (Listed.enter List.length largest)) where
  nodup := by
    intro listed isListed
    obtain ⟨other, isOther, rfl⟩ := List.mem_map.mp isListed
    exact lists.nodup other isOther
  sound := by
    intro listed isListed
    obtain ⟨other, isOther, rfl⟩ := List.mem_map.mp isListed
    exact lists.sound other isOther
  complete := by
    intro target isTarget
    obtain ⟨listed, isListed, same⟩ := lists.complete target isTarget
    exact ⟨_, List.mem_map_of_mem isListed, same⟩
  distinct := List.pairwise_map.mpr lists.distinct

end Lists

/-- The search and the enumeration go through the same part. -/
def Follows
    (graph : ℕ → Nodemask) (nNodes : ℕ) (part : Set (Target graph nNodes))
    (searches : List ℕ → Option (List ℕ))
    (lists : Listing → Option Listing) : Prop :=
  ∃ found, Lists graph nNodes part found ∧
    (∀ listing, lists listing = some (listing ++ found)) ∧
    ∀ result, searches result = some (best result found)

section Follows

variable {graph : ℕ → Nodemask} {nNodes : ℕ}
variable {part rest : Set (Target graph nNodes)}

/-- There is nothing to list. -/
theorem Follows.refl (nothing : part = ∅) :
    Follows graph nNodes part (fun result => some result)
      (fun listing => some listing) :=
  ⟨[], Lists.nil nothing, fun _ => by rw [List.append_nil], fun _ => rfl⟩

/-- Two disjoint parts, one after the other. -/
theorem Follows.trans
    {searches searchesLater : List ℕ → Option (List ℕ)}
    {lists listsLater : Listing → Option Listing}
    (first : Follows graph nNodes part searches lists)
    (second : Follows graph nNodes rest searchesLater listsLater)
    (apart : Disjoint part rest) :
    Follows graph nNodes (part ∪ rest)
      (fun result => (searches result).bind searchesLater)
      (fun listing => (lists listing).bind listsLater) := by
  obtain ⟨found, isFound, listed, searched⟩ := first
  obtain ⟨later, isLater, listedLater, searchedLater⟩ := second
  refine ⟨found ++ later, isFound.append isLater apart, ?_, ?_⟩
  · intro listing
    simp only [listed, Option.bind_some, listedLater, List.append_assoc]
  · intro result
    simp only [searched, Option.bind_some, searchedLater, best_append]

end Follows

/-! ## The calls -/

/-- What a call of `extend` may rely on. -/
structure Call
    (graph : ℕ → Nodemask) (nNodes : ℕ) (cur excluded candidates : List ℕ) :
    Prop where
  nodup : (cur ++ (excluded ++ candidates)).Nodup
  vertices : ∀ vertex ∈ cur ++ (excluded ++ candidates), vertex < nNodes
  pairwise : ∀ left ∈ cur, ∀ right ∈ cur, Adjacent graph left right
  adjacent : ∀ vertex ∈ excluded ++ candidates, ∀ member ∈ cur,
    Adjacent graph vertex member
  closed : ∀ vertex < nNodes, (∀ member ∈ cur, Adjacent graph vertex member) →
    vertex ∈ cur ++ (excluded ++ candidates)

variable {graph : ℕ → Nodemask} {nNodes : ℕ} {cur excluded candidates : List ℕ}

namespace Call

theorem isClique (call : Call graph nNodes cur excluded candidates) :
    IsClique (Adjacent graph) (Finset.range nNodes) cur.toFinset := by
  refine ⟨?_, ?_⟩
  · intro vertex isMember
    apply Finset.mem_range.mpr
    exact call.vertices vertex
      (List.mem_append_left _ (List.mem_toFinset.mp isMember))
  · intro left leftMember right rightMember
    exact call.pairwise left (List.mem_toFinset.mp leftMember)
      right (List.mem_toFinset.mp rightMember)

theorem nodup_cur (call : Call graph nNodes cur excluded candidates) :
    cur.Nodup :=
  (List.nodup_append.mp call.nodup).1

theorem total_length_le (call : Call graph nNodes cur excluded candidates) :
    (cur ++ (excluded ++ candidates)).length ≤ nNodes := by
  have subset :
      (cur ++ (excluded ++ candidates)).toFinset ⊆ Finset.range nNodes := by
    intro vertex isMember
    exact Finset.mem_range.mpr
      (call.vertices vertex (List.mem_toFinset.mp isMember))
  have bound := Finset.card_le_card subset
  rwa [List.toFinset_card_of_nodup call.nodup, Finset.card_range] at bound

theorem length_le (call : Call graph nNodes cur excluded candidates) :
    (excluded ++ candidates).length ≤ nNodes := by
  have total := call.total_length_le
  rw [List.length_append] at total
  omega

/-- A candidate is not in the clique and not excluded. -/
theorem disjoint_candidates
    (call : Call graph nNodes cur excluded candidates)
    {vertex : ℕ} (isExcluded : vertex ∈ excluded) :
    vertex ∉ cur ∧ vertex ∉ candidates := by
  have ⟨_, nodup, apart⟩ := List.nodup_append.mp call.nodup
  have ⟨_, _, apart'⟩ := List.nodup_append.mp nodup
  constructor
  · exact fun isMember => apart vertex isMember vertex
      (List.mem_append_left _ isExcluded) rfl
  · exact fun isCandidate => apart' vertex isExcluded vertex isCandidate rfl

/-- The order of the candidates does not matter. -/
theorem perm
    (call : Call graph nNodes cur excluded candidates)
    {others : List ℕ} (isPerm : List.Perm candidates others) :
    Call graph nNodes cur excluded others := by
  have inner := isPerm.append_left excluded
  have outer := inner.append_left cur
  refine ⟨outer.nodup_iff.mp call.nodup, ?_, call.pairwise, ?_, ?_⟩
  · exact fun vertex isMember =>
      call.vertices vertex (outer.mem_iff.mpr isMember)
  · exact fun vertex isMember =>
      call.adjacent vertex (inner.mem_iff.mpr isMember)
  · exact fun vertex isVertex isAdjacent =>
      outer.mem_iff.mp (call.closed vertex isVertex isAdjacent)

variable {vertex : ℕ} {rest : List ℕ}

/-- Moving the border over the vertex. -/
theorem next
    (call : Call graph nNodes cur excluded (vertex :: rest)) :
    Call graph nNodes cur (excluded ++ [vertex]) rest := by
  have same : excluded ++ [vertex] ++ rest = excluded ++ vertex :: rest := by simp
  exact
    { nodup := same ▸ call.nodup
      vertices := same ▸ call.vertices
      pairwise := call.pairwise
      adjacent := same ▸ call.adjacent
      closed := same ▸ call.closed }

/-- The clique of a branch, with the neighbours of the vertex. -/
theorem branch
    (isGraph : IsGraph graph nNodes)
    (call : Call graph nNodes cur excluded (vertex :: rest)) :
    Call graph nNodes (cur ++ [vertex])
      (neighbours (graph vertex) excluded) (neighbours (graph vertex) rest) := by
  have isVertex : vertex < nNodes := call.vertices vertex (by simp)
  have sub : List.Sublist
      (neighbours (graph vertex) excluded ++ neighbours (graph vertex) rest)
      (excluded ++ rest) := by
    rw [neighbours, neighbours, ← List.filter_append]
    exact List.filter_sublist
  have isPerm : List.Perm (cur ++ (excluded ++ vertex :: rest))
      (cur ++ [vertex] ++ (excluded ++ rest)) := by
    rw [List.append_assoc]
    exact List.perm_middle.append_left cur
  refine ⟨?_, ?_, ?_, ?_, ?_⟩
  · exact List.Nodup.sublist (sub.append_left _)
      (isPerm.nodup_iff.mp call.nodup)
  · intro other isMember
    apply call.vertices other
    exact isPerm.mem_iff.mpr ((sub.append_left _).subset isMember)
  · intro left leftMember right rightMember
    rcases List.mem_append.mp leftMember with leftMember | isLeft
    · rcases List.mem_append.mp rightMember with rightMember | isRight
      · exact call.pairwise left leftMember right rightMember
      · rw [List.mem_singleton.mp isRight]
        apply isGraph.adjacent_symm vertex (Finset.mem_range.mpr isVertex) left
        · exact Finset.mem_range.mpr (call.vertices left (by simp [leftMember]))
        · exact call.adjacent vertex (by simp) left leftMember
    · rw [List.mem_singleton.mp isLeft]
      rcases List.mem_append.mp rightMember with rightMember | isRight
      · exact call.adjacent vertex (by simp) right rightMember
      · rw [List.mem_singleton.mp isRight]
        exact isGraph.loops vertex isVertex
  · intro other isMember member inClique
    rw [neighbours, neighbours, ← List.filter_append] at isMember
    obtain ⟨isOther, isEdge⟩ := List.mem_filter.mp isMember
    have inArray : other ∈ excluded ++ vertex :: rest := by
      rcases List.mem_append.mp isOther with isExcluded | isRest
      · exact List.mem_append_left _ isExcluded
      · exact List.mem_append_right _ (List.mem_cons_of_mem _ isRest)
    rcases List.mem_append.mp inClique with inClique | isVertex'
    · exact call.adjacent other inArray member inClique
    · rw [List.mem_singleton.mp isVertex']
      apply isGraph.adjacent_symm vertex (Finset.mem_range.mpr isVertex) other
      · exact Finset.mem_range.mpr
          (call.vertices other (List.mem_append_right _ inArray))
      · exact isEdge
  · intro other isOther isAdjacent
    have inAll := call.closed other isOther fun member inCur =>
      isAdjacent member (List.mem_append_left _ inCur)
    have isEdge : bitCheck (graph vertex) other = true :=
      isGraph.adjacent_symm other (Finset.mem_range.mpr isOther) vertex
        (Finset.mem_range.mpr isVertex) (isAdjacent vertex (by simp))
    rcases List.mem_append.mp (isPerm.mem_iff.mp inAll) with grown | isRest
    · exact List.mem_append_left _ grown
    · rw [neighbours, neighbours, ← List.filter_append]
      exact List.mem_append_right _ (List.mem_filter.mpr ⟨isRest, isEdge⟩)

end Call

/-! ## One branch -/

/-- The recursive calls go through what a call can reach, if it has not too many
candidates. -/
def Reaches
    (graph : ℕ → Nodemask) (nNodes bound : ℕ)
    (searches : Recursion (List ℕ)) (lists : Recursion Listing) : Prop :=
  ∀ cur excluded candidates unused,
    Call graph nNodes cur excluded candidates → candidates ≠ [] →
    candidates.length ≤ bound →
    Follows graph nNodes
      {target | Within cur.toFinset candidates.toFinset target.1}
      (fun result => searches cur result
        (excluded ++ (candidates ++ unused)) excluded.length
        (excluded.length + candidates.length))
      (fun listing => lists cur listing
        (excluded ++ (candidates ++ unused)) excluded.length
        (excluded.length + candidates.length))

section Branch

variable {vertex : ℕ} {rest : List ℕ}

/-- The maximal cliques of a branch, by the neighbours of its vertex. -/
theorem inBranch_iff (target : Target graph nNodes) :
    InBranch cur.toFinset vertex rest.toFinset target.1 ↔
      (cur ++ [vertex]).toFinset ⊆ target.1 ∧
      target.1 ⊆ (cur ++ [vertex]).toFinset ∪
        (neighbours (graph vertex) rest).toFinset := by
  have grown : (cur ++ [vertex]).toFinset = insert vertex cur.toFinset := by
    ext other
    simp
  rw [grown]
  constructor
  · intro inBranch
    refine ⟨inBranch.contains, ?_⟩
    apply inBranch.subset_neighbours target.2.prop
    intro member isMember isEdge
    rw [List.mem_toFinset] at isMember ⊢
    exact List.mem_filter.mpr ⟨isMember, isEdge⟩
  · rintro ⟨contains, subset⟩
    refine ⟨contains, subset.trans (Finset.union_subset_union_right ?_)⟩
    intro member isMember
    rw [List.mem_toFinset] at isMember ⊢
    exact List.mem_of_mem_filter isMember

/-- A vertex that is adjacent to the whole clique keeps it from being
maximal. -/
theorem Call.grows
    (isGraph : IsGraph graph nNodes)
    (call : Call graph nNodes cur excluded candidates)
    (nonempty : excluded ++ candidates ≠ [])
    {target : Target graph nNodes} (contains : cur.toFinset ⊆ target.1) :
    ¬target.1 ⊆ cur.toFinset := by
  intro subset
  have same := subset_antisymm subset contains
  obtain ⟨other, isOther⟩ := List.exists_mem_of_ne_nil _ nonempty
  have isVertex := call.vertices other (List.mem_append_right _ isOther)
  have isMember := target.2.mem_of_adjacent isGraph.adjacent_symm
    isGraph.adjacent_self (Finset.mem_range.mpr isVertex)
    fun member isMember =>
      call.adjacent other isOther member
        (List.mem_toFinset.mp (subset isMember))
  rw [same, List.mem_toFinset] at isMember
  have ⟨_, _, apart⟩ := List.nodup_append.mp call.nodup
  exact apart other isMember other isOther rfl

/-- A clique to which no other vertex is adjacent is maximal. -/
theorem Call.isMaximal (call : Call graph nNodes cur [] []) :
    IsMaximalClique (Adjacent graph) (Finset.range nNodes) cur.toFinset := by
  refine ⟨call.isClique, ?_⟩
  intro other isOther contains vertex isMember
  rw [List.mem_toFinset]
  have isVertex := Finset.mem_range.mp (isOther.subset isMember)
  have inAll := call.closed vertex isVertex fun member inCur =>
    isOther.pairwise vertex isMember member
      (contains (List.mem_toFinset.mpr inCur))
  simpa using inAll

/-- A clique that a call lists is not larger than the clique of the call with all
candidates, and it is that one if it is as large. -/
theorem Call.length_le_of_lists
    (call : Call graph nNodes cur excluded candidates) {listing : Listing}
    (lists : Lists graph nNodes
      {target | Within cur.toFinset candidates.toFinset target.1} listing)
    {listed : Listed (List ℕ)} (isListed : listed ∈ listing) :
    listed.candidate.length ≤ cur.length + candidates.length ∧
      (listed.candidate.length = cur.length + candidates.length →
        listed.candidate.toFinset = (cur ++ candidates).toFinset) := by
  obtain ⟨target, within, isTarget⟩ := lists.sound listed isListed
  have nodup : (cur ++ candidates).Nodup := by
    apply List.Nodup.sublist _ call.nodup
    exact (List.sublist_append_right excluded candidates).append_left cur
  have subset : listed.candidate.toFinset ⊆ (cur ++ candidates).toFinset := by
    rw [isTarget, List.toFinset_append]
    exact within.subset
  have card := Finset.card_le_card subset
  have cardListed :=
    List.toFinset_card_of_nodup (lists.nodup listed isListed)
  have cardAll := List.toFinset_card_of_nodup nodup
  rw [List.length_append] at cardAll
  rw [cardListed, cardAll] at card
  refine ⟨card, fun same => Finset.eq_of_subset_of_card_le subset ?_⟩
  rw [cardListed, cardAll, same]

/-- The size test leaves out what the enumeration lists as alone. -/
theorem Call.best_enter
    (call : Call graph nNodes cur excluded candidates) {listing : Listing}
    (lists : Lists graph nNodes
      {target | Within cur.toFinset candidates.toFinset target.1} listing)
    (result : List ℕ) :
    best result (listing.map
        (Listed.enter List.length (cur.length + candidates.length))) =
      if result.length < cur.length + candidates.length then
        best result listing
      else result := by
  apply searchListing_enter
  · exact fun listed isListed => (call.length_le_of_lists lists isListed).1
  · refine lists.distinct.imp_of_mem ?_
    intro first second isFirst isSecond different firstLargest secondLargest
    apply different
    rw [(call.length_le_of_lists lists isFirst).2 firstLargest,
      (call.length_le_of_lists lists isSecond).2 secondLargest]

/-- One branch goes through the maximal cliques with its vertex. -/
theorem visit_follows
    (isGraph : IsGraph graph nNodes)
    {bound : ℕ} {searches : Recursion (List ℕ)} {lists : Recursion Listing}
    (reaches : Reaches graph nNodes bound searches lists)
    (call : Call graph nNodes cur excluded (vertex :: rest))
    (bounded : rest.length ≤ bound) :
    Follows graph nNodes
      {target | InBranch cur.toFinset vertex rest.toFinset target.1}
      (fun result => visit searches (cur ++ [vertex]) result
        (neighbours (graph vertex) excluded ++ neighbours (graph vertex) rest)
        (neighbours (graph vertex) excluded).length
        ((neighbours (graph vertex) excluded).length +
          (neighbours (graph vertex) rest).length))
      (fun listing => record lists (cur ++ [vertex]) listing
        (neighbours (graph vertex) excluded ++ neighbours (graph vertex) rest)
        (neighbours (graph vertex) excluded).length
        ((neighbours (graph vertex) excluded).length +
          (neighbours (graph vertex) rest).length)) := by
  have inner := call.branch isGraph
  have part (target : Target graph nNodes) :
      InBranch cur.toFinset vertex rest.toFinset target.1 ↔ _ :=
    inBranch_iff target
  have shorter : (neighbours (graph vertex) rest).length ≤ bound :=
    (List.length_filter_le _ _).trans bounded
  generalize neighbours (graph vertex) excluded = newX at inner ⊢
  generalize neighbours (graph vertex) rest = newP at inner part shorter ⊢
  by_cases isLeaf : newX.length + newP.length = 0
  · -- a leaf: nothing is adjacent to the whole clique
    obtain ⟨rfl, rfl⟩ : newX = [] ∧ newP = [] :=
      ⟨List.length_eq_zero_iff.mp (by omega),
        List.length_eq_zero_iff.mp (by omega)⟩
    refine ⟨[{ candidate := cur ++ [vertex], alone := false }],
      Lists.single inner.nodup_cur inner.isMaximal ?_, fun _ => rfl, ?_⟩
    · intro target
      rw [Set.mem_ofPred_eq, part, List.toFinset_nil, Finset.union_empty]
      constructor
      · exact fun both => subset_antisymm both.2 both.1
      · exact fun same => ⟨same.ge, same.le⟩
    · intro result
      refine congrArg some
        ((offer_eq_keepBetter result (cur ++ [vertex])).trans ?_)
      rw [best, searchListing_cons, consider, if_neg (by simp)]
      rfl
  · have nonempty : newX ++ newP ≠ [] := by
      rw [← List.length_pos_iff, List.length_append]
      omega
    have withinIff :
        {target : Target graph nNodes |
          InBranch cur.toFinset vertex rest.toFinset target.1} =
        {target | Within (cur ++ [vertex]).toFinset newP.toFinset target.1} := by
      ext target
      rw [Set.mem_ofPred_eq, Set.mem_ofPred_eq, part]
      constructor
      · exact fun both =>
          ⟨both.1, inner.grows isGraph nonempty both.1, both.2⟩
      · exact fun within => ⟨within.contains, within.subset⟩
    rw [withinIff]
    simp only [visit, record, if_neg isLeaf]
    by_cases someCandidate : newX.length < newX.length + newP.length
    · have isCandidate : newP ≠ [] := List.length_pos_iff.mp (by omega)
      obtain ⟨found, isFound, listed, searched⟩ :=
        reaches (cur ++ [vertex]) newX newP [] inner isCandidate shorter
      rw [List.append_nil] at listed searched
      refine ⟨found.map (Listed.enter List.length
        ((cur ++ [vertex]).length + newP.length)), isFound.enter _, ?_, ?_⟩
      · intro listing
        have sameRoom : (cur ++ [vertex]).length +
            (newX.length + newP.length) - newX.length =
              (cur ++ [vertex]).length + newP.length := by
          omega
        simp only [if_pos someCandidate, listed, sameRoom, Option.map_some,
          List.nil_append]
      · intro result
        have sameTest : (cur ++ [vertex]).length +
            (newX.length + newP.length) - newX.length > result.length ↔
              result.length < (cur ++ [vertex]).length + newP.length := by
          omega
        rw [inner.best_enter isFound]
        simp only [if_pos someCandidate, sameTest, searched]
        split_ifs <;> rfl
    · simp only [if_neg someCandidate]
      apply Follows.refl
      have noCandidate : newP = [] := List.length_eq_zero_iff.mp (by omega)
      ext target
      rw [Set.mem_ofPred_eq, noCandidate, List.toFinset_nil]
      exact iff_of_false not_within_empty (Set.notMem_empty _)

end Branch

/-! ## The branch loop -/

/-- Replacing a vertex of a list by another one. -/
theorem perm_cons_set
    {vertices : List ℕ} {offset vertex : ℕ}
    (isAt : vertices[offset]? = some vertex) (other : ℕ) :
    List.Perm (other :: vertices) (vertex :: vertices.set offset other) := by
  induction vertices generalizing offset with
  | nil => simp at isAt
  | cons first rest ih =>
    cases offset with
    | zero =>
      have same : first = vertex := by simpa using isAt
      rw [same]
      exact List.Perm.swap _ _ _
    | succ offset =>
      have isAt' : rest[offset]? = some vertex := by simpa using isAt
      exact (List.Perm.swap _ _ _).trans
        (((ih isAt').cons first).trans (List.Perm.swap _ _ _))

/-- The swap puts the vertex on the border and keeps the candidates. -/
theorem swap_border
    {offset vertex : ℕ} (isAt : candidates[offset]? = some vertex)
    (excluded unused : List ℕ) :
    ∃ border rest,
      (excluded ++ (candidates ++ unused))[excluded.length]? = some border ∧
      ((excluded ++ (candidates ++ unused)).set
          (excluded.length + offset) border).set excluded.length vertex =
        excluded ++ (vertex :: rest ++ unused) ∧
      List.Perm candidates (vertex :: rest) := by
  cases candidates with
  | nil => simp at isAt
  | cons first others =>
    refine ⟨first, ((first :: others).set offset first).tail, by simp, ?_, ?_⟩
    · have inRange := (List.getElem?_eq_some_iff.mp isAt).1
      rw [List.set_append_right _ _ (Nat.le_add_right _ _),
        Nat.add_sub_cancel_left, List.set_append_left _ _ inRange,
        List.set_append_right _ _ le_rfl, Nat.sub_self]
      cases offset with
      | zero => simp
      | succ offset => simp
    · cases offset with
      | zero =>
        have same : first = vertex := by simpa using isAt
        rw [same]
        exact List.Perm.refl _
      | succ offset => exact perm_cons_set (by simpa using isAt) first

theorem nonNeighbours_perm
    {row : Nodemask} {others : List ℕ}
    (isPerm : List.Perm candidates others) :
    nonNeighbours row candidates = nonNeighbours row others :=
  isPerm.countP_eq _

/-- Without a branch to go, the call has nothing to reach. -/
theorem Call.within_eq_empty
    (isGraph : IsGraph graph nNodes)
    (call : Call graph nNodes cur excluded candidates)
    {fixp : ℕ} (isExcluded : fixp ∈ excluded)
    (noNonNeighbour : nonNeighbours (graph fixp) candidates = 0) :
    {target : Target graph nNodes |
      Within cur.toFinset candidates.toFinset target.1} = ∅ := by
  ext target
  refine iff_of_false ?_ (Set.notMem_empty _)
  intro within
  have inArray : fixp ∈ excluded ++ candidates :=
    List.mem_append_left _ isExcluded
  have isVertex := call.vertices fixp (List.mem_append_right _ inArray)
  rcases within.pivot target.2 isGraph.adjacent_symm isGraph.adjacent_self
      (Finset.mem_range.mpr isVertex)
      (fun member isMember => call.adjacent fixp inArray member
        (List.mem_toFinset.mp isMember)) with
    isMember | ⟨member, isCandidate, -, notEdge⟩
  · have ⟨notCur, notCandidate⟩ := call.disjoint_candidates isExcluded
    rcases Finset.mem_union.mp (within.subset isMember) with
      inCur | isCandidate
    · exact notCur (List.mem_toFinset.mp inCur)
    · exact notCandidate (List.mem_toFinset.mp isCandidate)
  · have isNeighbour := List.countP_eq_zero.mp noNonNeighbour member
      (List.mem_toFinset.mp isCandidate)
    apply notEdge
    rw [Adjacent]
    simpa using isNeighbour

/-- The branch on a vertex and the later branches share no maximal clique, and
together they have those of the call. -/
theorem Call.part_eq_union
    {vertex : ℕ} {rest : List ℕ}
    (call : Call graph nNodes cur excluded (vertex :: rest)) :
    {target : Target graph nNodes |
        Within cur.toFinset (vertex :: rest).toFinset target.1} =
      {target | InBranch cur.toFinset vertex rest.toFinset target.1} ∪
        {target | Within cur.toFinset rest.toFinset target.1} ∧
    Disjoint
      {target : Target graph nNodes |
        InBranch cur.toFinset vertex rest.toFinset target.1}
      {target | Within cur.toFinset rest.toFinset target.1} := by
  have notCur : vertex ∉ cur := by
    intro inCur
    have ⟨_, _, apart⟩ := List.nodup_append.mp call.nodup
    exact apart vertex inCur vertex (by simp) rfl
  have notRest : vertex ∉ rest := by
    have ⟨_, nodup, _⟩ := List.nodup_append.mp call.nodup
    have ⟨_, nodup', _⟩ := List.nodup_append.mp nodup
    exact (List.nodup_cons.mp nodup').1
  have without (target : Target graph nNodes)
      (within : Within cur.toFinset rest.toFinset target.1) :
      vertex ∉ target.1 := by
    intro isMember
    rcases Finset.mem_union.mp (within.subset isMember) with inCur | inRest
    · exact notCur (List.mem_toFinset.mp inCur)
    · exact notRest (List.mem_toFinset.mp inRest)
  constructor
  · ext target
    rw [Set.mem_union, Set.mem_ofPred_eq, Set.mem_ofPred_eq,
      Set.mem_ofPred_eq, List.toFinset_cons,
      within_insert_iff (by simpa using notCur)]
    exact or_congr_right
      ⟨fun both => both.2, fun within => ⟨without target within, within⟩⟩
  · apply Set.disjoint_left.mpr
    intro target inBranch within
    exact without target within
      (inBranch.contains (Finset.mem_insert_self _ _))

section Swapped

variable (excluded rest unused : List ℕ) (vertex : ℕ)

/-- The candidates behind the border after the swap. -/
theorem candidates_swapped :
    ((excluded ++ (vertex :: rest ++ unused)).take
      (excluded.length + (rest.length + 1))).drop (excluded.length + 1) =
        rest := by
  rw [← List.append_assoc, List.take_left' (by simp), List.drop_append,
    List.drop_eq_nil_of_le (Nat.le_succ _)]
  simp

theorem drop_swapped :
    (excluded ++ (vertex :: rest ++ unused)).drop (excluded.length + 1) =
      rest ++ unused := by
  rw [List.drop_append, List.drop_eq_nil_of_le (Nat.le_succ _)]
  simp

end Swapped

/-- One turn of the branch loop, on the array after the swap. -/
theorem branches_succ
    {Kept : Type} (enter : Recursion Kept)
    {fixp k s vertex border : ℕ} {rest unused oldSet : List ℕ}
    (inBounds : s < maxNodes ∧ excluded.length < maxNodes ∧
      excluded.length + (rest.length + 1) < maxNodes)
    (isSelected : oldSet[s]? = some vertex)
    (isBorder : oldSet[excluded.length]? = some border)
    (isSwapped : (oldSet.set s border).set excluded.length vertex =
      excluded ++ (vertex :: rest ++ unused)) (kept : Kept) :
    branches enter graph cur (excluded.length + (rest.length + 1))
        (some fixp) (k + 1) oldSet excluded.length (some s) kept =
      (enter (cur ++ [vertex]) kept
        (neighbours (graph vertex) excluded ++ neighbours (graph vertex) rest)
        (neighbours (graph vertex) excluded).length
        ((neighbours (graph vertex) excluded).length +
          (neighbours (graph vertex) rest).length)).bind fun between =>
        if k = 0 then some between
        else (nextNonNeighbour (graph fixp) (rest ++ unused)
            (excluded.length + 1)).bind fun next =>
          branches enter graph cur (excluded.length + (rest.length + 1))
            (some fixp) k (excluded ++ (vertex :: rest ++ unused))
            (excluded.length + 1) (some next) between := by
  have takeExcluded :
      (excluded ++ (vertex :: rest ++ unused)).take excluded.length =
        excluded :=
    List.take_left
  simp only [branches, Option.bind_eq_bind, Option.bind_some, inBounds,
    and_self, not_true_eq_false, if_false, isSelected, isBorder, isSwapped,
    takeExcluded, candidates_swapped, drop_swapped]

/-- A turn that is ready selects a candidate, and the swap puts it on the
border. -/
theorem Ready.selects
    {row : Nodemask} {fixp k : ℕ} {s : Option ℕ}
    (isReady : Ready row fixp excluded candidates (k + 1) s)
    (unused : List ℕ) :
    ∃ offset vertex border rest,
      s = some (excluded.length + offset) ∧ offset < candidates.length ∧
      (excluded ++ (candidates ++ unused))[excluded.length + offset]? =
        some vertex ∧
      (excluded ++ (candidates ++ unused))[excluded.length]? = some border ∧
      ((excluded ++ (candidates ++ unused)).set
          (excluded.length + offset) border).set excluded.length vertex =
        excluded ++ (vertex :: rest ++ unused) ∧
      List.Perm candidates (vertex :: rest) ∧
      nonNeighbours row rest = k ∧ fixp ∈ excluded ++ [vertex] := by
  obtain ⟨offset, vertex, isAt, isSelected, isCount, isPivot⟩ := isReady
  obtain ⟨border, rest, isBorder, isSwapped, isPerm⟩ :=
    swap_border isAt excluded unused
  have inRange := (List.getElem?_eq_some_iff.mp isAt).1
  refine ⟨offset, vertex, border, rest, isSelected, inRange, ?_, isBorder,
    isSwapped, isPerm, ?_, ?_⟩
  · rw [List.getElem?_append_right (Nat.le_add_right _ _),
      Nat.add_sub_cancel_left, List.getElem?_append_left inRange, isAt]
  · rw [nonNeighbours_perm isPerm, nonNeighbours_cons] at isCount
    omega
  · rcases isPivot with isExcluded | same
    · exact List.mem_append_left _ isExcluded
    · exact List.mem_append_right _ (List.mem_singleton.mpr same)

/-- As long as there are non-neighbours of the pivot left, the search for the
next one ends inside the candidates and makes the next turn ready. -/
theorem ready_next
    {row : Nodemask} {fixp k vertex : ℕ} {rest : List ℕ}
    (isCount : nonNeighbours row rest = k + 1)
    (isPivot : fixp ∈ excluded ++ [vertex]) (unused : List ℕ) :
    ∃ offset, offset < rest.length ∧
      nextNonNeighbour row (rest ++ unused) (excluded.length + 1) =
        some (excluded.length + 1 + offset) ∧
      Ready row fixp (excluded ++ [vertex]) rest (k + 1)
        (some (excluded.length + 1 + offset)) := by
  have someNonNeighbour : 0 < nonNeighbours row rest := by omega
  obtain ⟨offset, other, isAt, notNeighbour, isNext⟩ :=
    nextNonNeighbour_eq someNonNeighbour unused (excluded.length + 1)
  refine ⟨offset, (List.getElem?_eq_some_iff.mp isAt).1, isNext, offset,
    other, isAt, by simp, ?_, Or.inl isPivot⟩
  rw [isCount, nonNeighbours_cons_of_false notNeighbour]
  rfl

/-- The loop goes through what the call can reach. -/
theorem branches_follows
    (isGraph : IsGraph graph nNodes) (small : nNodes < maxNodes)
    {bound : ℕ} {searches : Recursion (List ℕ)} {lists : Recursion Listing}
    (reaches : Reaches graph nNodes bound searches lists)
    {fixp k : ℕ} {s : Option ℕ} {unused : List ℕ}
    (call : Call graph nNodes cur excluded candidates)
    (isReady : Ready (graph fixp) fixp excluded candidates k s)
    (bounded : candidates.length ≤ bound + 1) :
    Follows graph nNodes
      {target | Within cur.toFinset candidates.toFinset target.1}
      (branches (visit searches) graph cur
        (excluded.length + candidates.length) (some fixp) k
        (excluded ++ (candidates ++ unused)) excluded.length s)
      (branches (record lists) graph cur
        (excluded.length + candidates.length) (some fixp) k
        (excluded ++ (candidates ++ unused)) excluded.length s) := by
  induction k generalizing excluded candidates s with
  | zero =>
    exact Follows.refl (call.within_eq_empty isGraph isReady.1 isReady.2)
  | succ k ih =>
    obtain ⟨offset, vertex, border, rest, rfl, inRange, isSelected, isBorder,
      isSwapped, isPerm, isCount, isPivot⟩ := isReady.selects unused
    have arrayLength := call.length_le
    rw [List.length_append] at arrayLength
    have sameLength := isPerm.length_eq
    rw [List.length_cons] at sameLength
    have call' := call.perm isPerm
    have call'' := call'.next
    have first := visit_follows isGraph reaches call' (by omega)
    have inBounds : excluded.length + offset < maxNodes ∧
        excluded.length < maxNodes ∧
        excluded.length + (rest.length + 1) < maxNodes := by omega
    have samePart : candidates.toFinset = (vertex :: rest).toFinset :=
      List.toFinset_eq_of_perm _ _ isPerm
    obtain ⟨isUnion, apart⟩ := call'.part_eq_union
    rw [samePart, isUnion, sameLength]
    rw [funext (branches_succ (visit searches) inBounds isSelected isBorder
        isSwapped),
      funext (branches_succ (record lists) inBounds isSelected isBorder
        isSwapped)]
    apply first.trans _ apart
    cases k with
    | zero => exact Follows.refl (call''.within_eq_empty isGraph isPivot isCount)
    | succ k =>
      obtain ⟨offset', -, isNext, isReady'⟩ := ready_next isCount isPivot unused
      have later := ih call'' isReady' (by omega)
      have sameArray : excluded ++ [vertex] ++ (rest ++ unused) =
          excluded ++ (vertex :: rest ++ unused) := by simp
      have nextBorder : (excluded ++ [vertex]).length = excluded.length + 1 := by
        simp
      have sameEnd : (excluded ++ [vertex]).length + rest.length =
          excluded.length + (rest.length + 1) := by omega
      rw [sameEnd, nextBorder, sameArray] at later
      simp only [Nat.succ_ne_zero, if_false, isNext, Option.bind_some]
      exact later

/-! ## The recursion -/

theorem take_array (excluded candidates unused : List ℕ) :
    (excluded ++ (candidates ++ unused)).take
        (excluded.length + candidates.length) =
      excluded ++ candidates := by
  rw [← List.append_assoc]
  exact List.take_left' (by simp)

/-- The pivot loop of a call makes its first turn ready. -/
theorem Call.ready
    (isGraph : IsGraph graph nNodes)
    (call : Call graph nNodes cur excluded candidates)
    (nonempty : excluded ++ candidates ≠ [])
    {pivot : Pivot}
    (isPivot : pivot = choosePivot graph candidates excluded.length
      (excluded ++ candidates) 0
      { minnod := excluded.length + candidates.length, nod := 0, fixp := none,
        s := none }) :
    ∃ fixp, pivot.fixp = some fixp ∧
      Ready (graph fixp) fixp excluded candidates (pivot.minnod + pivot.nod)
        pivot.s := by
  have loops : ∀ vertex ∈ excluded ++ candidates,
      bitCheck (graph vertex) vertex = true :=
    fun vertex isMember =>
      isGraph.loops vertex
        (call.vertices vertex (List.mem_append_right _ isMember))
  have chosen := chosen_choosePivot_start nonempty loops
  rw [List.length_append, ← isPivot] at chosen
  obtain ⟨fixp, isFixp, -, isReady⟩ := chosen.ready fun vertex isCandidate =>
    loops vertex (List.mem_append_right _ isCandidate)
  exact ⟨fixp, isFixp, isReady⟩

/-- A call goes through what it can reach, if it has fuel for every candidate. -/
theorem extend_reaches
    (isGraph : IsGraph graph nNodes) (small : nNodes < maxNodes) (fuel : ℕ) :
    Reaches graph nNodes fuel (extend graph fuel) (enumerate graph fuel) := by
  induction fuel with
  | zero =>
    intro cur excluded candidates unused _ someCandidate atMost
    have noCandidate := List.length_eq_zero_iff.mp (Nat.le_zero.mp atMost)
    exact absurd noCandidate someCandidate
  | succ fuel ih =>
    intro cur excluded candidates unused call someCandidate atMost
    obtain ⟨fixp, isPivot, isReady⟩ :=
      call.ready isGraph (by simp [someCandidate]) rfl
    simp only [extend, enumerate, extendBy, take_array, List.drop_left,
      isPivot]
    exact branches_follows isGraph small ih call isReady atMost

end Clique
end Multimaster
