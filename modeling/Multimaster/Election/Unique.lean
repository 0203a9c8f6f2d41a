import Multimaster.Election.Invariant

/-!
# Generations are unique

Two generations of one number that were ever elected, or ever became current
on some node, are the same generation.  A majority voted for each of them, so
a common voter voted for both, and a node votes for one generation under one
number only.
-/

namespace Multimaster
namespace Election

open Generation

/-- A generation that was elected or is current on some node. -/
def Cluster.Known (cluster : Cluster n) (gen : MtmGeneration n) : Prop :=
  (∃ donors, (gen, donors) ∈ cluster.elected) ∨
    ∃ me, (cluster.node me).currentGen = gen

namespace Invariant

variable {cluster : Cluster n}

/-- Two won generations of one number are equal. -/
theorem won_unique
    (invariant : Invariant cluster)
    {first second : MtmGeneration n} {firstDonors secondDonors : NodeMask n}
    (firstWon : Won cluster.votes first firstDonors)
    (secondWon : Won cluster.votes second secondDonors)
    (sameNum : first.num = second.num) :
    first = second := by
  obtain ⟨_, firstVoters, firstMajority, firstVoted, _, _⟩ := firstWon
  obtain ⟨_, secondVoters, secondMajority, secondVoted, _, _⟩ := secondWon
  obtain ⟨voter, inFirst, inSecond⟩ :=
    firstMajority.exists_mem_both secondMajority
  obtain ⟨firstVote, isFirst, firstVoter, firstGen, _⟩ :=
    firstVoted voter inFirst
  obtain ⟨secondVote, isSecond, secondVoter, secondGen, _⟩ :=
    secondVoted voter inSecond
  rw [← firstGen, ← secondGen]
  apply invariant.history.unique firstVote isFirst secondVote isSecond
  · rw [firstVoter, secondVoter]
  · rw [firstGen, secondGen]
    exact sameNum

/-- A won generation is not the initial one. -/
theorem one_lt_num_of_won
    (invariant : Invariant cluster)
    {gen : MtmGeneration n} {donors : NodeMask n}
    (won : Won cluster.votes gen donors) :
    1 < gen.num := by
  obtain ⟨_, voters, majority, voted, _, _⟩ := won
  obtain ⟨voter, member⟩ := majority.nonempty
  obtain ⟨vote, isVote, _, isGen, _⟩ := voted voter member
  rw [← isGen]
  exact (invariant.history.voted vote isVote).2

/-- An announced generation is the initial one or a won one. -/
theorem initial_or_won
    (invariant : Invariant cluster)
    {gen : MtmGeneration n} {donors : NodeMask n}
    (known : (gen, donors) ∈ cluster.announced) :
    gen = initialGen n ∨ ∃ donors, Won cluster.votes gen donors := by
  rcases invariant.history.announced _ known with isElected | isInitial
  · exact Or.inr ⟨donors, (invariant.history.elected _ isElected).2⟩
  · exact Or.inl (Prod.mk.inj isInitial).1

/-- Generations that are initial or won agree when their numbers do. -/
theorem initial_or_won_unique
    (invariant : Invariant cluster)
    {first second : MtmGeneration n}
    (firstCase : first = initialGen n ∨
      ∃ donors, Won cluster.votes first donors)
    (secondCase : second = initialGen n ∨
      ∃ donors, Won cluster.votes second donors)
    (sameNum : first.num = second.num) :
    first = second := by
  have initialNum : (initialGen n).num = 1 := rfl
  rcases firstCase with firstInitial | ⟨_, firstWon⟩
  · rcases secondCase with secondInitial | ⟨_, secondWon⟩
    · rw [firstInitial, secondInitial]
    · have later := invariant.one_lt_num_of_won secondWon
      rw [firstInitial] at sameNum
      omega
  · rcases secondCase with secondInitial | ⟨_, secondWon⟩
    · have later := invariant.one_lt_num_of_won firstWon
      rw [secondInitial] at sameNum
      omega
    · exact invariant.won_unique firstWon secondWon sameNum

/-- Announced generations of one number are equal. -/
theorem announced_unique
    (invariant : Invariant cluster)
    {first second : MtmGeneration n} {firstDonors secondDonors : NodeMask n}
    (firstKnown : (first, firstDonors) ∈ cluster.announced)
    (secondKnown : (second, secondDonors) ∈ cluster.announced)
    (sameNum : first.num = second.num) :
    first = second :=
  invariant.initial_or_won_unique (invariant.initial_or_won firstKnown)
    (invariant.initial_or_won secondKnown) sameNum

end Invariant

/-- Generation uniqueness.  Take any two generations of one number, one elected
or current at some moment and one at the same or a later moment: their masks
are equal.  And no node grants votes for different masks under one number. -/
theorem generations_unique
    {first last : Cluster n}
    (reachable : (machine n).Reachable Machine.Always first)
    (run : (machine n).Run Machine.Always first last) :
    (∀ earlier later : MtmGeneration n,
      first.Known earlier → last.Known later → earlier.num = later.num →
      earlier.members = later.members ∧
        earlier.configured = later.configured) ∧
    (∀ earlier ∈ last.responses, ∀ later ∈ last.responses,
      earlier.voter = later.voter →
      earlier.body.voteOk = true → later.body.voteOk = true →
      earlier.request.num = later.request.num →
      earlier.request.members = later.request.members ∧
        earlier.request.configured = later.request.configured) := by
  have invariant := invariant_of_reachable (reachable.run run)
  have growth := extends_of_run run
  have firstInvariant := invariant_of_reachable reachable
  constructor
  · intro earlier later knownEarlier knownLater sameNum
    have earlierCase : earlier = initialGen n ∨
        ∃ donors, Won last.votes earlier donors := by
      rcases knownEarlier with ⟨donors, isElected⟩ | ⟨me, isCurrent⟩
      · exact Or.inr ⟨donors, (invariant.history.elected _
          (growth.elected isElected)).2⟩
      · rw [← isCurrent]
        exact invariant.initial_or_won
          (growth.announced (firstInvariant.node me).current)
    have laterCase : later = initialGen n ∨
        ∃ donors, Won last.votes later donors := by
      rcases knownLater with ⟨donors, isElected⟩ | ⟨me, isCurrent⟩
      · exact Or.inr ⟨donors, (invariant.history.elected _ isElected).2⟩
      · rw [← isCurrent]
        exact invariant.initial_or_won (invariant.node me).current
    have same : earlier = later :=
      invariant.initial_or_won_unique earlierCase laterCase sameNum
    rw [same]
    exact ⟨rfl, rfl⟩
  · intro earlier isEarlier later isLater sameVoter earlierOk laterOk sameNum
    have earlierVote :=
      (invariant.history.responses earlier isEarlier).granted earlierOk
    have laterVote :=
      (invariant.history.responses later isLater).granted laterOk
    have same := invariant.history.unique _ earlierVote _ laterVote
      sameVoter sameNum
    dsimp only at same
    rw [same]
    exact ⟨rfl, rfl⟩

/-! ## A run with an election -/

/-- What a campaigner sees of the nodes it is connected with. -/
def seeing (mask : NodeMask 3) (catchup : Option (Fin 3)) : CampaignEnv 3 where
  backupNode := none
  connectedMaskWithMe := mask
  clique := mask
  replierLoaded := true
  refereeEnabled := false
  othersLastOnlineIn := fun node => if node = 1 then 2 else 1
  catchupNode := catchup
  catchupFresh := true

/-- A tour of `me` for generation `gen`, answered by `voter` alone. -/
def tourActions
    (me voter : Fin 3) (catchup : Option (Fin 3)) (gen : MtmGeneration 3)
    (lastOnlineIn : ℕ) : List (Action 3) :=
  [.campaign me (seeing {me, voter} catchup),
    .vote voter
      { clique := {me, voter}, isCurrGenConnected := false } me gen,
    .gather me
      { voter := voter
        proposer := me
        request := gen
        body :=
          { genNum := gen.num
            voteOk := true
            lastOnlineIn := lastOnlineIn } },
    .count me,
    .finishTour me]

/-- Nodes 0 and 1 of three exclude node 2: generation 2 is elected by node 0
and learned by node 1. -/
def excludeNodeTwo : List (Action 3) :=
  let gen : MtmGeneration 3 :=
    { num := 2, members := {0, 1}, configured := Finset.univ }
  tourActions 0 1 none gen 1 ++ [.learn 1 gen {0, 1}]

theorem excludeNodeTwo_completes :
    ((machine 3).execute Machine.Always (machine 3).init
      excludeNodeTwo).isSome = true := by
  decide +kernel

/-- The last state of the schedule. -/
def excludeNodeTwoCluster : Cluster 3 :=
  ((machine 3).execute Machine.Always (machine 3).init
    excludeNodeTwo).get excludeNodeTwo_completes

theorem generations_unique_excludeNodeTwo :
    (excludeNodeTwoCluster.node 0).currentGen.num = 2 ∧
    (excludeNodeTwoCluster.node 1).currentGen.num = 2 ∧
    (excludeNodeTwoCluster.node 0).currentGen.members =
      (excludeNodeTwoCluster.node 1).currentGen.members := by
  have reachable : (machine 3).Reachable Machine.Always
      excludeNodeTwoCluster :=
    Machine.reachable_of_execute excludeNodeTwo excludeNodeTwo_completes
  have numZero : (excludeNodeTwoCluster.node 0).currentGen.num = 2 := by
    decide +kernel
  have numOne : (excludeNodeTwoCluster.node 1).currentGen.num = 2 := by
    decide +kernel
  refine ⟨numZero, numOne, ?_⟩
  exact ((generations_unique reachable (Machine.Run.refl _)).1 _ _
    (Or.inr ⟨0, rfl⟩) (Or.inr ⟨1, rfl⟩) (numZero.trans numOne.symm)).1

end Election
end Multimaster
