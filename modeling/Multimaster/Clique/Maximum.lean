import Multimaster.Clique.Search

/-!
# The clique that the search returns

The returned clique is a largest one.  It is the one with the smallest mask
among the largest ones unless that one comes late in the plain enumeration and
takes all candidates of a call: the size test drops a branch that can only tie
with the result, although a tie is decided by the mask.
-/

namespace Multimaster
namespace Clique

variable {graph : ℕ → Nodemask} {nNodes : ℕ} {listing : Listing}

/-- The call from the empty clique. -/
theorem call_start : Call graph nNodes [] [] (List.range nNodes) where
  nodup := by simpa using List.nodup_range
  vertices := by simp
  pairwise := by simp
  adjacent := by simp
  closed := by simp

/-- A maximal clique of a graph with a vertex is not empty. -/
theorem target_nonempty
    (isGraph : IsGraph graph nNodes) (positive : 0 < nNodes)
    (target : Target graph nNodes) :
    target.1.Nonempty := by
  by_contra isEmpty
  have noMember : ∀ vertex, vertex ∉ target.1 :=
    fun vertex isMember => isEmpty ⟨vertex, isMember⟩
  apply noMember 0
  apply target.2.mem_of_adjacent isGraph.adjacent_symm isGraph.adjacent_self
    (Finset.mem_range.mpr positive)
  exact fun member isMember => absurd isMember (noMember member)

theorem array_start (small : nNodes < maxNodes) :
    List.range maxNodes =
      [] ++ (List.range nNodes ++ (List.range maxNodes).drop nNodes) := by
  rw [List.nil_append, ← List.take_append_drop nNodes (List.range maxNodes),
    List.take_range, Nat.min_eq_left small.le]
  simp

/-- The enumeration lists every maximal clique, and the search keeps the best
one of the listing. -/
theorem searchAll_eq
    (isGraph : IsGraph graph nNodes) (positive : 0 < nNodes)
    (small : nNodes < maxNodes) :
    Lists graph nNodes Set.univ (enumeration graph nNodes) ∧
      searchAll graph nNodes = some (best [] (enumeration graph nNodes)) := by
  have nonempty : List.range nNodes ≠ [] := by
    simpa using positive.ne'
  obtain ⟨found, isFound, listed, searched⟩ :=
    extend_reaches isGraph small maxNodes [] [] (List.range nNodes)
      ((List.range maxNodes).drop nNodes) call_start nonempty
      (by simpa using small.le)
  rw [← array_start small] at listed searched
  rw [List.length_nil, Nat.zero_add, List.length_range] at listed searched
  have everything :
      {target : Target graph nNodes |
        Within (List.toFinset []) (List.range nNodes).toFinset target.1} =
          Set.univ := by
    ext target
    rw [Set.mem_ofPred_eq]
    refine iff_of_true ⟨by simp, ?_, ?_⟩ trivial
    · intro isEmpty
      obtain ⟨vertex, isMember⟩ := target_nonempty isGraph positive target
      simpa using isEmpty isMember
    · rw [List.toFinset_nil, Finset.empty_union]
      intro vertex isMember
      have isVertex := Finset.mem_range.mp (target.2.prop.subset isMember)
      exact List.mem_toFinset.mpr (List.mem_range.mpr isVertex)
  have isEnumeration : enumeration graph nNodes = found := by
    have listedAll := listed []
    simp only [List.nil_append] at listedAll
    rw [enumeration, listedAll, Option.getD_some]
  rw [everything] at isFound
  rw [isEnumeration]
  refine ⟨isFound, ?_⟩
  rw [searchAll, if_pos isGraph]
  exact searched []

section Listing

variable (lists : Lists graph nNodes Set.univ listing)
include lists

theorem Lists.length_eq
    {listed : Listed (List ℕ)} (isListed : listed ∈ listing) :
    ∃ target : Target graph nNodes,
      listed.candidate.toFinset = target.1 ∧
        listed.candidate.length = target.1.card := by
  obtain ⟨target, -, same⟩ := lists.sound listed isListed
  refine ⟨target, same, ?_⟩
  rw [← same, List.toFinset_card_of_nodup (lists.nodup listed isListed)]

theorem Lists.length_pos
    (isGraph : IsGraph graph nNodes) (positive : 0 < nNodes)
    {listed : Listed (List ℕ)} (isListed : listed ∈ listing) :
    0 < listed.candidate.length := by
  obtain ⟨target, -, isLength⟩ := lists.length_eq isListed
  rw [isLength]
  exact (target_nonempty isGraph positive target).card_pos

theorem Lists.best_nodup : (best [] listing).Nodup := by
  rcases searchListing_mem List.length maskKey [] listing with
    same | ⟨listed, isListed, same⟩
  · rw [best, same]
    exact List.nodup_nil
  · rw [best, same]
    exact lists.nodup listed isListed

/-- The best one of all maximal cliques is a largest clique. -/
theorem Lists.best_isMaximum :
    IsMaximumClique (Adjacent graph) (Finset.range nNodes)
      (best [] listing).toFinset := by
  constructor
  · rcases searchListing_mem List.length maskKey [] listing with
      same | ⟨listed, isListed, same⟩
    · rw [best, same]
      exact ⟨by simp, by simp⟩
    · obtain ⟨target, -, isTarget⟩ := lists.sound listed isListed
      rw [best, same, isTarget]
      exact target.2.prop
  · intro other isClique
    obtain ⟨larger, isMaximal, contains⟩ := isClique.exists_maximal
    obtain ⟨listed, isListed, same⟩ :=
      lists.complete ⟨larger, isMaximal⟩ trivial
    have atLeast :=
      (size_le_searchListing List.length maskKey [] listing).2 listed isListed
    have card := List.toFinset_card_of_nodup (lists.nodup listed isListed)
    rw [same] at card
    rw [List.toFinset_card_of_nodup lists.best_nodup]
    exact (Finset.card_le_card contains).trans (card.le.trans atLeast)

theorem Lists.members_best (small : nNodes < maxNodes) :
    members (listToNodemask (best [] listing)) =
      (best [] listing).toFinset := by
  rw [listToNodemask_eq_maskOf]
  exact members_maskOf lists.best_isMaximum.isClique.subset small.le

theorem Lists.best_isMaximumMask (small : nNodes < maxNodes) :
    IsMaximumMask graph nNodes (listToNodemask (best [] listing)) := by
  rw [IsMaximumMask, lists.members_best small]
  exact lists.best_isMaximum

end Listing

theorem mtmFindMaxClique_eq_some_iff {mask : Nodemask} {cliqueSize : ℕ} :
    mtmFindMaxClique graph nNodes = some (mask, cliqueSize) ↔
      ∃ result, searchAll graph nNodes = some result ∧
        listToNodemask result = mask ∧ result.length = cliqueSize := by
  rw [mtmFindMaxClique]
  cases searchAll graph nNodes with
  | none => simp
  | some result => simp

/-- What is returned, by the enumeration. -/
theorem mtmFindMaxClique_eq
    (isGraph : IsGraph graph nNodes) (positive : 0 < nNodes)
    (small : nNodes < maxNodes) :
    mtmFindMaxClique graph nNodes =
      some (listToNodemask (best [] (enumeration graph nNodes)),
        (best [] (enumeration graph nNodes)).length) :=
  mtmFindMaxClique_eq_some_iff.mpr
    ⟨_, (searchAll_eq isGraph positive small).2, rfl, rfl⟩

/-- What is returned is a largest clique. -/
theorem isMaximumMask_of_eq
    (isGraph : IsGraph graph nNodes) (positive : 0 < nNodes)
    (small : nNodes < maxNodes)
    {mask : Nodemask} {cliqueSize : ℕ}
    (isFound : mtmFindMaxClique graph nNodes = some (mask, cliqueSize)) :
    IsMaximumMask graph nNodes mask := by
  have lists := (searchAll_eq isGraph positive small).1
  rw [mtmFindMaxClique_eq isGraph positive small] at isFound
  have sameMask := (Prod.mk.inj (Option.some.inj isFound)).1
  rw [← sameMask]
  exact lists.best_isMaximumMask small

/-- `MtmFindMaxClique` returns a clique of the graph with the returned size, and
no clique of the graph is larger. -/
theorem mtmFindMaxClique_isMaximum
    (isGraph : IsGraph graph nNodes) (positive : 0 < nNodes)
    (small : nNodes < maxNodes) :
    ∃ mask cliqueSize,
      mtmFindMaxClique graph nNodes = some (mask, cliqueSize) ∧
      members mask ⊆ Finset.range nNodes ∧
      (∀ left ∈ members mask, ∀ right ∈ members mask,
        bitCheck (graph left) right = true) ∧
      (members mask).card = cliqueSize ∧
      ∀ clique ⊆ Finset.range nNodes,
        (∀ left ∈ clique, ∀ right ∈ clique,
          bitCheck (graph left) right = true) →
            clique.card ≤ cliqueSize := by
  have lists := (searchAll_eq isGraph positive small).1
  have isFound := mtmFindMaxClique_eq isGraph positive small
  have isMaximum := lists.best_isMaximumMask small
  have isSize :
      (members (listToNodemask (best [] (enumeration graph nNodes)))).card =
        (best [] (enumeration graph nNodes)).length := by
    rw [lists.members_best small, List.toFinset_card_of_nodup lists.best_nodup]
  refine ⟨_, _, isFound, isMaximum.isClique.subset,
    isMaximum.isClique.pairwise, isSize, ?_⟩
  intro clique subset pairwise
  exact (isMaximum.card_le clique ⟨subset, pairwise⟩).trans isSize.le

/-- Four nodes that all see each other but for the first two. -/
def diamond (i : ℕ) : Nodemask :=
  [13#64, 14#64, 15#64, 15#64, 16#64].getD i 0#64

theorem diamond_isMaximum :
    ∃ mask cliqueSize,
      mtmFindMaxClique diamond 5 = some (mask, cliqueSize) ∧
      members mask ⊆ Finset.range 5 ∧
      (∀ left ∈ members mask, ∀ right ∈ members mask,
        bitCheck (diamond left) right = true) ∧
      (members mask).card = cliqueSize ∧
      ∀ clique ⊆ Finset.range 5,
        (∀ left ∈ clique, ∀ right ∈ clique,
          bitCheck (diamond left) right = true) →
          clique.card ≤ cliqueSize :=
  mtmFindMaxClique_isMaximum (by decide +kernel) (by decide) (by decide)

/-! ## The smallest of the largest cliques -/

/-- The mask is the numerically smallest of the largest cliques. -/
structure IsSmallestMask (graph : ℕ → Nodemask) (nNodes : ℕ)
    (mask : Nodemask) : Prop where
  isMaximum : IsMaximumMask graph nNodes mask
  le : ∀ other, IsMaximumMask graph nNodes other → mask ≤ other

/-- In the plain enumeration, the smallest of the largest cliques is not alone
in any branch, or it comes before all others of its size. -/
def SmallestKept (graph : ℕ → Nodemask) (nNodes : ℕ) : Prop :=
  (enumeration graph nNodes).Pairwise fun earlier later =>
    IsSmallestMask graph nNodes (listToNodemask later.candidate) →
      later.alone = true →
        earlier.candidate.length < later.candidate.length

theorem IsMaximumMask.target_isMaximal
    {mask : Nodemask} (isMaximum : IsMaximumMask graph nNodes mask) :
    IsMaximalClique (Adjacent graph) (Finset.range nNodes) (members mask) :=
  IsMaximumClique.isMaximal isMaximum

theorem IsMaximumMask.card_eq
    {left right : Nodemask} (leftMaximum : IsMaximumMask graph nNodes left)
    (rightMaximum : IsMaximumMask graph nNodes right) :
    (members left).card = (members right).card :=
  le_antisymm (rightMaximum.card_le _ leftMaximum.isClique)
    (leftMaximum.card_le _ rightMaximum.isClique)

/-- The largest cliques are those of the largest size. -/
theorem IsMaximumMask.iff_card_eq
    {mask other : Nodemask} (isMaximum : IsMaximumMask graph nNodes mask) :
    IsMaximumMask graph nNodes other ↔
      IsClique (Adjacent graph) (Finset.range nNodes) (members other) ∧
        (members other).card = (members mask).card := by
  constructor
  · exact fun otherMaximum =>
      ⟨otherMaximum.isClique, otherMaximum.card_eq isMaximum⟩
  · rintro ⟨isClique, sameCard⟩
    exact ⟨isClique, fun clique isClique' =>
      (isMaximum.card_le clique isClique').trans sameCard.ge⟩

/-- A clique of the largest size is a largest clique. -/
theorem IsMaximumMask.of_card_eq
    {mask : Nodemask} (isMaximum : IsMaximumMask graph nNodes mask)
    {clique : Finset ℕ}
    (isClique : IsClique (Adjacent graph) (Finset.range nNodes) clique)
    (small : nNodes < maxNodes) (sameCard : clique.card = (members mask).card) :
    IsMaximumMask graph nNodes (maskOf clique) := by
  rw [isMaximum.iff_card_eq, members_maskOf isClique.subset small.le]
  exact ⟨isClique, sameCard⟩

/-- There is a smallest one among the largest cliques. -/
theorem IsMaximumMask.exists_smallest
    {mask : Nodemask} (isMaximum : IsMaximumMask graph nNodes mask) :
    ∃ smallest, IsSmallestMask graph nNodes smallest := by
  have someRank : ∃ number, ∃ other, IsMaximumMask graph nNodes other ∧
      other.toNat = number := ⟨mask.toNat, mask, isMaximum, rfl⟩
  classical
  obtain ⟨smallest, isSmallest, isRank⟩ := Nat.find_spec someRank
  refine ⟨smallest, isSmallest, ?_⟩
  intro other isOther
  rw [BitVec.le_def, isRank]
  exact Nat.find_min' someRank ⟨other, isOther, rfl⟩

theorem IsSmallestMask.eq
    {left right : Nodemask} (leftSmallest : IsSmallestMask graph nNodes left)
    (rightSmallest : IsSmallestMask graph nNodes right) :
    left = right :=
  BitVec.le_antisymm (leftSmallest.le right rightSmallest.isMaximum)
    (rightSmallest.le left leftSmallest.isMaximum)

section Smallest

variable (lists : Lists graph nNodes Set.univ listing)
include lists

/-- The smallest of the largest cliques is listed. -/
theorem Lists.exists_least
    {smallest : Nodemask} (isSmallest : IsSmallestMask graph nNodes smallest) :
    ∃ front least back, listing = front ++ least :: back ∧
      listToNodemask least.candidate = smallest := by
  obtain ⟨least, isListed, same⟩ := lists.complete
    ⟨_, isSmallest.isMaximum.target_isMaximal⟩ trivial
  obtain ⟨front, back, isSplit⟩ := List.append_of_mem isListed
  refine ⟨front, least, back, isSplit, ?_⟩
  rw [listToNodemask_eq_maskOf, same, maskOf_members]

variable (small : nNodes < maxNodes)
include small

theorem Lists.members_listed
    {listed : Listed (List ℕ)} (isListed : listed ∈ listing) :
    members (listToNodemask listed.candidate) =
      listed.candidate.toFinset := by
  obtain ⟨target, same, -⟩ := lists.length_eq isListed
  rw [listToNodemask_eq_maskOf, same]
  exact members_maskOf target.2.prop.subset small.le

variable {front back : Listing} {least : Listed (List ℕ)}
variable (isSplit : listing = front ++ least :: back)
variable (isSmallest : IsSmallestMask graph nNodes
  (listToNodemask least.candidate))
include isSplit isSmallest

/-- The others are not larger, and their masks are larger if they are as
large. -/
theorem Lists.others_worse :
    ∀ listed ∈ front ++ back,
      listed.candidate.length ≤ least.candidate.length ∧
      listToNodemask listed.candidate ≠ listToNodemask least.candidate ∧
      (listed.candidate.length = least.candidate.length →
        maskKey least.candidate < maskKey listed.candidate) := by
  have isPerm : List.Perm listing (least :: (front ++ back)) := by
    rw [isSplit]
    exact List.perm_middle
  have isLeast : least ∈ listing := isPerm.mem_iff.mpr List.mem_cons_self
  have distinct := (isPerm.pairwise_iff fun different => different.symm).mp
    lists.distinct
  have sizeLeast :
      (members (listToNodemask least.candidate)).card =
        least.candidate.length := by
    rw [lists.members_listed small isLeast,
      List.toFinset_card_of_nodup (lists.nodup least isLeast)]
  intro listed isOther
  have isListed : listed ∈ listing :=
    isPerm.mem_iff.mpr (List.mem_cons_of_mem _ isOther)
  have differentMask :
      listToNodemask listed.candidate ≠ listToNodemask least.candidate := by
    intro sameMask
    apply (List.pairwise_cons.mp distinct).1 listed isOther
    rw [← lists.members_listed small isLeast,
      ← lists.members_listed small isListed, sameMask]
  obtain ⟨target, isTarget, isLength⟩ := lists.length_eq isListed
  have atMost := isSmallest.isMaximum.card_le target.1 target.2.prop
  rw [sizeLeast, ← isLength] at atMost
  refine ⟨atMost, differentMask, fun sameLength => ?_⟩
  have alsoMaximum : IsMaximumMask graph nNodes
      (listToNodemask listed.candidate) := by
    rw [listToNodemask_eq_maskOf, isTarget]
    apply isSmallest.isMaximum.of_card_eq target.2.prop small
    rw [sizeLeast, ← isLength, sameLength]
  have atLeast : listToNodemask least.candidate ≤
      listToNodemask listed.candidate := isSmallest.le _ alsoMaximum
  exact lt_of_le_of_ne atLeast fun sameKey =>
    differentMask (BitVec.eq_of_toNat_eq sameKey).symm

/-- The best one has the smallest mask exactly if it is the smallest of the
largest. -/
theorem Lists.isSmallestMask_best_iff
    (isGraph : IsGraph graph nNodes) (positive : 0 < nNodes) :
    IsSmallestMask graph nNodes (listToNodemask (best [] listing)) ↔
      best [] listing = least.candidate := by
  have worse := lists.others_worse small isSplit isSmallest
  have isLeast : least ∈ listing := by
    rw [isSplit]
    simp
  constructor
  · intro bestSmallest
    have sameMask := bestSmallest.eq isSmallest
    rcases searchListing_mem List.length maskKey [] listing with
      same | ⟨listed, isListed, same⟩
    · -- the smallest of the largest cliques is not empty
      have someVertex := lists.length_pos isGraph positive isLeast
      have atLeast := (size_le_searchListing List.length maskKey [] listing).2
        least isLeast
      rw [same] at atLeast
      exact absurd someVertex (Nat.not_lt_of_le atLeast)
    · rw [best, same] at sameMask ⊢
      rw [isSplit] at isListed
      rcases List.mem_append.mp isListed with inFront | inRest
      · exact absurd sameMask
          (worse listed (List.mem_append_left _ inFront)).2.1
      · rcases List.mem_cons.mp inRest with rfl | inBack
        · rfl
        · exact absurd sameMask
            (worse listed (List.mem_append_right _ inBack)).2.1
  · intro same
    rw [same]
    exact isSmallest

/-- The best one is the smallest of the largest exactly if this one is not alone
or comes first. -/
theorem Lists.best_eq_iff
    (isGraph : IsGraph graph nNodes) (positive : 0 < nNodes) :
    best [] listing = least.candidate ↔
      (least.alone = true → ∀ earlier ∈ front,
        earlier.candidate.length < least.candidate.length) := by
  have worse := lists.others_worse small isSplit isSmallest
  have isLeast : least ∈ listing := by
    rw [isSplit]
    simp
  have start := lists.length_pos isGraph positive isLeast
  rw [best, isSplit]
  exact searchListing_eq_iff start
    (fun listed isOther => (worse listed isOther).1)
    (fun listed isOther => (worse listed isOther).2.2)

/-- Only one place of the listing has the smallest of the largest cliques. -/
theorem Lists.pairwise_iff :
    (listing.Pairwise fun earlier later =>
        IsSmallestMask graph nNodes (listToNodemask later.candidate) →
          later.alone = true →
            earlier.candidate.length < later.candidate.length) ↔
      (least.alone = true → ∀ earlier ∈ front,
        earlier.candidate.length < least.candidate.length) := by
  have notSmallest : ∀ listed ∈ front ++ back,
      ¬IsSmallestMask graph nNodes (listToNodemask listed.candidate) := by
    intro listed isOther alsoSmallest
    have ⟨_, different, _⟩ :=
      lists.others_worse small isSplit isSmallest listed isOther
    exact different (alsoSmallest.eq isSmallest)
  rw [isSplit, List.pairwise_append, List.pairwise_cons]
  constructor
  · rintro ⟨-, -, across⟩ alone earlier isEarlier
    exact across earlier isEarlier least List.mem_cons_self isSmallest alone
  · intro first
    refine ⟨?_, ⟨?_, ?_⟩, ?_⟩
    · apply List.pairwise_of_forall_mem_list
      exact fun _ _ later isLater isSmallest' => absurd isSmallest'
        (notSmallest later (List.mem_append_left _ isLater))
    · exact fun later isLater isSmallest' => absurd isSmallest'
        (notSmallest later (List.mem_append_right _ isLater))
    · apply List.pairwise_of_forall_mem_list
      exact fun _ _ later isLater isSmallest' => absurd isSmallest'
        (notSmallest later (List.mem_append_right _ isLater))
    · intro earlier isEarlier later isLater isSmallest' alone
      rcases List.mem_cons.mp isLater with rfl | inBack
      · exact first alone earlier isEarlier
      · exact absurd isSmallest'
          (notSmallest later (List.mem_append_right _ inBack))

end Smallest

/-- What `MtmFindMaxClique` returns is canonical exactly if the smallest of the
largest cliques is kept. -/
theorem isSmallestMask_iff
    (isGraph : IsGraph graph nNodes) (positive : 0 < nNodes)
    (small : nNodes < maxNodes)
    {mask : Nodemask} {cliqueSize : ℕ}
    (isFound : mtmFindMaxClique graph nNodes = some (mask, cliqueSize)) :
    IsSmallestMask graph nNodes mask ↔ SmallestKept graph nNodes := by
  have lists := (searchAll_eq isGraph positive small).1
  rw [mtmFindMaxClique_eq isGraph positive small] at isFound
  have sameMask := (Prod.mk.inj (Option.some.inj isFound)).1
  obtain ⟨smallest, isSmallest⟩ :=
    (lists.best_isMaximumMask small).exists_smallest
  obtain ⟨front, least, back, isSplit, rfl⟩ :=
    lists.exists_least isSmallest
  rw [← sameMask, SmallestKept,
    lists.isSmallestMask_best_iff small isSplit isSmallest isGraph positive,
    lists.best_eq_iff small isSplit isSmallest isGraph positive,
    lists.pairwise_iff small isSplit isSmallest]

/-- `MtmFindMaxClique` returns the smallest of the largest cliques exactly if the
enumeration has it in a place where the size test keeps it.  Two graphs with the
same largest cliques that both keep the smallest one give the same clique. -/
theorem mtmFindMaxClique_canonical_iff
    (isGraph : IsGraph graph nNodes) (positive : 0 < nNodes)
    (small : nNodes < maxNodes) :
    ∃ mask cliqueSize,
      mtmFindMaxClique graph nNodes = some (mask, cliqueSize) ∧
      (IsSmallestMask graph nNodes mask ↔ SmallestKept graph nNodes) ∧
      ∀ otherGraph otherNodes otherMask otherSize,
        IsGraph otherGraph otherNodes → 0 < otherNodes →
        otherNodes < maxNodes →
        mtmFindMaxClique otherGraph otherNodes =
          some (otherMask, otherSize) →
        (∀ clique, IsMaximumMask graph nNodes clique ↔
          IsMaximumMask otherGraph otherNodes clique) →
        SmallestKept graph nNodes → SmallestKept otherGraph otherNodes →
          otherMask = mask := by
  have isFound := mtmFindMaxClique_eq isGraph positive small
  refine ⟨_, _, isFound, isSmallestMask_iff isGraph positive small isFound, ?_⟩
  intro otherGraph otherNodes otherMask otherSize otherIsGraph otherPositive
    otherSmall otherFound sameMaximum kept otherKept
  have isSmallest :=
    (isSmallestMask_iff isGraph positive small isFound).mpr kept
  have otherSmallest := (isSmallestMask_iff otherIsGraph otherPositive
    otherSmall otherFound).mpr otherKept
  have alsoSmallest : IsSmallestMask graph nNodes otherMask := by
    refine ⟨(sameMaximum _).mpr otherSmallest.isMaximum, ?_⟩
    exact fun other isOther =>
      otherSmallest.le other ((sameMaximum other).mp isOther)
  exact alsoSmallest.eq isSmallest

theorem diamond_canonical :
    mtmFindMaxClique diamond 5 = some (13#64, 3) ∧
      IsSmallestMask diamond 5 13#64 := by
  obtain ⟨mask, cliqueSize, isFound, canonical, -⟩ :=
    mtmFindMaxClique_canonical_iff (by decide +kernel : IsGraph diamond 5)
      (by decide) (by decide)
  have isMask : mtmFindMaxClique diamond 5 = some (13#64, 3) := by
    decide +kernel
  have noneAlone : ∀ listed ∈ enumeration diamond 5,
      listed.alone = false := by
    decide +kernel
  obtain ⟨rfl, rfl⟩ : 13#64 = mask ∧ 3 = cliqueSize := by
    rw [isMask] at isFound
    simpa using isFound
  refine ⟨isMask, canonical.mpr ?_⟩
  apply List.pairwise_of_forall_mem_list
  intro earlier _ later isLater _ alone
  rw [noneAlone later isLater] at alone
  cases alone

/-- The same four nodes, and a fifth that the second one sees. -/
def diamondWithTail (i : ℕ) : Nodemask :=
  [13#64, 30#64, 15#64, 15#64, 18#64].getD i 0#64

/-- Both graphs have the same largest cliques, and the second search leaves out
the smaller one. -/
theorem diamondWithTail_not_canonical :
    mtmFindMaxClique diamond 5 = some (13#64, 3) ∧
      mtmFindMaxClique diamondWithTail 5 = some (14#64, 3) ∧
      (∀ clique, IsMaximumMask diamond 5 clique ↔
        IsMaximumMask diamondWithTail 5 clique) ∧
      ¬IsSmallestMask diamondWithTail 5 14#64 := by
  have isMask : mtmFindMaxClique diamond 5 = some (13#64, 3) := by decide +kernel
  have isMask' : mtmFindMaxClique diamondWithTail 5 = some (14#64, 3) := by
    decide +kernel
  have isMaximum :=
    isMaximumMask_of_eq (by decide +kernel) (by decide) (by decide) isMask
  have isMaximum' :=
    isMaximumMask_of_eq (by decide +kernel) (by decide) (by decide) isMask'
  have sameCliques : ∀ clique ∈ (Finset.range 5).powerset,
      ((∀ left ∈ clique, ∀ right ∈ clique, Adjacent diamond left right) ∧
          clique.card = 3) ↔
        (∀ left ∈ clique, ∀ right ∈ clique, Adjacent diamondWithTail left right) ∧
          clique.card = 3 := by
    decide +kernel
  have sameMaximum (clique : Nodemask) :
      IsMaximumMask diamond 5 clique ↔
        IsMaximumMask diamondWithTail 5 clique := by
    rw [isMaximum.iff_card_eq, isMaximum'.iff_card_eq]
    have isSize : (members 13#64).card = 3 := by decide +kernel
    have isSize' : (members 14#64).card = 3 := by decide +kernel
    rw [isSize, isSize']
    constructor
    · rintro ⟨isClique, size⟩
      have ⟨pairwise, _⟩ :=
        (sameCliques _ (Finset.mem_powerset.mpr isClique.subset)).mp
          ⟨isClique.pairwise, size⟩
      exact ⟨⟨isClique.subset, pairwise⟩, size⟩
    · rintro ⟨isClique, size⟩
      have ⟨pairwise, _⟩ :=
        (sameCliques _ (Finset.mem_powerset.mpr isClique.subset)).mpr
          ⟨isClique.pairwise, size⟩
      exact ⟨⟨isClique.subset, pairwise⟩, size⟩
  refine ⟨isMask, isMask', sameMaximum, fun isSmallest => ?_⟩
  have isLe := isSmallest.le 13#64 ((sameMaximum _).mp isMaximum)
  exact absurd isLe (by decide)

end Clique
end Multimaster
