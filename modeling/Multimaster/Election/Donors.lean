import Multimaster.Election.Unique
import Multimaster.Generation.Receive

/-!
# Donors and members

The donors of a generation are the voters with the greatest `last_online_in`,
and voters need not be members: the cohort of a campaign is the whole clique.
The donors of a won generation are members exactly when every voter outside
the members is behind some voting member.
-/

namespace Multimaster
namespace Election

open Generation

/-- Every voter outside the candidate members reported a smaller
`last_online_in` than some voter among them. -/
def MembersAhead (me : Fin n) (tour : Tour n) : Prop :=
  ∀ message ∈ tour.messages,
    Granted tour.campaign.candidate.num message →
    message.1 ∉ tour.campaign.candidate.members →
    ∃ ballot ∈ ballots me tour.campaign tour.messages,
      ballot.1 ∈ tour.campaign.candidate.members ∧
        message.2.lastOnlineIn < ballot.2

instance (me : Fin n) (tour : Tour n) : Decidable (MembersAhead me tour) :=
  inferInstanceAs (Decidable (∀ message ∈ _, _))

/-- The side condition on runs: whoever wins a generation has a member ahead of
all voters outside of it. -/
def WinnersMembersAhead (cluster : Cluster n) : Action n → Prop
  | .count me =>
      match cluster.tour me with
      | some tour => Victory (tour.tally me) → MembersAhead me tour
      | none => True
  | _ => True

instance (cluster : Cluster n) (action : Action n) :
    Decidable (WinnersMembersAhead cluster action) :=
  match action with
  | .count me =>
      match isTour : cluster.tour me with
      | some tour =>
          decidable_of_iff (Victory (tour.tally me) → MembersAhead me tour)
            (by simp only [WinnersMembersAhead, isTour])
      | none => isTrue (by simp only [WinnersMembersAhead, isTour])
  | .campaign _ _ => inferInstanceAs (Decidable True)
  | .vote _ _ _ _ => inferInstanceAs (Decidable True)
  | .gather _ _ => inferInstanceAs (Decidable True)
  | .finishTour _ => inferInstanceAs (Decidable True)
  | .learn _ _ _ => inferInstanceAs (Decidable True)
  | .parallelSafe _ _ _ => inferInstanceAs (Decidable True)
  | .logParallelSafe _ => inferInstanceAs (Decidable True)
  | .crash _ => inferInstanceAs (Decidable True)

/-- The exact condition for one count of votes. -/
theorem donors_subset_members_iff
    {me : Fin n} {tour : Tour n}
    (member : me ∈ tour.campaign.candidate.members) :
    (tour.tally me).donors ⊆ tour.campaign.candidate.members ↔
      MembersAhead me tour := by
  have counted := tallyOk_tallyResponses me tour.campaign tour.messages
  constructor
  · intro contained message isMessage granted outside
    have isBallot : (message.1, message.2.lastOnlineIn) ∈
        ballots me tour.campaign tour.messages :=
      mem_ballots.mpr (Or.inr ⟨message, isMessage, granted, rfl⟩)
    obtain ⟨ballot, ballotMember, top⟩ := counted.attained
    have isDonor : ballot.1 ∈ (tour.tally me).donors := by
      refine (counted.donors ballot.1).mpr ?_
      rw [← top]
      exact ballotMember
    refine ⟨ballot, ballotMember, contained isDonor, ?_⟩
    have bounded := counted.bound _ isBallot
    rw [top]
    refine lt_of_le_of_ne bounded ?_
    intro same
    -- otherwise the outsider would be a donor itself
    apply outside
    apply contained
    refine (counted.donors message.1).mpr ?_
    rw [← same]
    exact isBallot
  · intro ahead donor isDonor
    have isBallot := (counted.donors donor).mp isDonor
    rcases mem_ballots.mp isBallot with own | ⟨message, isMessage, granted, eq⟩
    · rw [Prod.mk.injEq] at own
      rw [own.1]
      exact member
    · rw [Prod.mk.injEq] at eq
      by_contra outside
      rw [eq.1] at outside
      obtain ⟨ballot, ballotMember, _, further⟩ :=
        ahead message isMessage granted outside
      have bounded := counted.bound ballot ballotMember
      rw [← eq.2] at further
      exact absurd bounded (not_le.mpr further)

/-- Whatever generation a node can learn of in the election protocol comes with
donors it can recover from. -/
theorem soundDonors_of_announced
    {cluster : Cluster n}
    (reachable : (machine n).Reachable Machine.Always cluster)
    (me : Fin n) {gen : MtmGeneration n} {donors : NodeMask n}
    (known : (gen, donors) ∈ cluster.announced) :
    SoundDonors me gen donors := by
  have history := (invariant_of_reachable reachable).history
  rcases history.announced _ known with isElected | isInitial
  · obtain ⟨electable, _, _, _, _, nonempty, _⟩ :=
      history.elected _ isElected
    exact ⟨nonempty, fun isReferee => absurd isReferee electable.regular⟩
  · rw [Prod.mk.injEq] at isInitial
    rw [isInitial.2]
    exact ⟨⟨me, Finset.mem_univ me⟩, fun _ _ => Finset.mem_univ me⟩

/-- A pair of generation and donors that members can recover with. -/
def Usable (pair : MtmGeneration n × NodeMask n) : Prop :=
  pair.2.Nonempty ∧ pair.2 ⊆ pair.1.members

/-- All pairs in the histories are usable. -/
def AllUsable (cluster : Cluster n) : Prop :=
  (∀ pair ∈ cluster.elected, Usable pair) ∧
    ∀ pair ∈ cluster.announced, Usable pair

/-- Only a count of votes adds to the pairs in the histories. -/
theorem elected_announced_of_not_count
    (cluster : Cluster n) {action : Action n}
    (notCount : ∀ me, action ≠ .count me) :
    (effect cluster action).elected = cluster.elected ∧
      (effect cluster action).announced = cluster.announced := by
  cases action with
  | campaign me env =>
      change (campaign me env cluster).elected = _ ∧
        (campaign me env cluster).announced = _
      unfold campaign
      dsimp only
      split
      · exact ⟨rfl, rfl⟩
      · split <;> exact ⟨rfl, rfl⟩
  | vote me env proposer request => exact ⟨rfl, rfl⟩
  | gather me response =>
      change (gather me response cluster).elected = _ ∧
        (gather me response cluster).announced = _
      unfold gather
      split <;> exact ⟨rfl, rfl⟩
  | count me => exact absurd rfl (notCount me)
  | finishTour me =>
      change (finishTour me cluster).elected = _ ∧
        (finishTour me cluster).announced = _
      unfold finishTour
      split <;> exact ⟨rfl, rfl⟩
  | learn me gen donors => exact ⟨rfl, rfl⟩
  | parallelSafe me gen isRecovery => exact ⟨rfl, rfl⟩
  | logParallelSafe me => exact ⟨rfl, rfl⟩
  | crash me => exact ⟨rfl, rfl⟩

theorem allUsable_count
    {cluster : Cluster n}
    (invariant : Invariant cluster)
    (usable : AllUsable cluster)
    (me : Fin n)
    (ahead : WinnersMembersAhead cluster (.count me)) :
    AllUsable (effect cluster (.count me)) := by
  change AllUsable (count me cluster)
  unfold count
  cases isTour : cluster.tour me with
  | none => exact usable
  | some tour =>
      dsimp only
      split
      · next victory =>
          simp only [WinnersMembersAhead, isTour] at ahead
          have member := (invariant.history.tours me tour isTour).member
          obtain ⟨_, _, _, _, nonempty, _⟩ :=
            invariant.won_of_victory isTour victory
          have new : Usable
              (tour.campaign.candidate, (tour.tally me).donors) :=
            ⟨nonempty, (donors_subset_members_iff member).mpr
              (ahead victory)⟩
          constructor
          · intro pair isElected
            rcases List.mem_cons.mp isElected with isNew | isOld
            · rw [isNew]
              exact new
            · exact usable.1 pair isOld
          · intro pair isAnnounced
            dsimp only at isAnnounced
            split at isAnnounced
            · rcases List.mem_cons.mp isAnnounced with isNew | isOld
              · rw [isNew]
                exact new
              · exact usable.2 pair isOld
            · exact usable.2 pair isAnnounced
      · exact usable

/-- The invariant of runs with the side condition. -/
def DonorsOk (cluster : Cluster n) : Prop :=
  Invariant cluster ∧ (n ≠ 0 → AllUsable cluster)

theorem donorsOk_initialCluster (n : ℕ) : DonorsOk (initialCluster n) := by
  refine ⟨invariant_initialCluster n, ?_⟩
  intro nonempty
  have isNonempty : (Finset.univ : NodeMask n).Nonempty :=
    ⟨⟨0, Nat.pos_of_ne_zero nonempty⟩, Finset.mem_univ _⟩
  constructor
  · intro pair isElected
    cases isElected
  · intro pair isAnnounced
    rw [List.mem_singleton.mp isAnnounced]
    exact ⟨isNonempty, fun _ => id⟩

theorem donorsOk_effect
    {cluster : Cluster n}
    (ok : DonorsOk cluster)
    (action : Action n)
    (enabled : Enabled cluster action)
    (ahead : WinnersMembersAhead cluster action) :
    DonorsOk (effect cluster action) := by
  obtain ⟨invariant, usable⟩ := ok
  refine ⟨invariant.step action enabled, ?_⟩
  intro nonempty
  by_cases isCount : ∃ me, action = .count me
  · obtain ⟨me, rfl⟩ := isCount
    exact allUsable_count invariant (usable nonempty) me ahead
  · have same := elected_announced_of_not_count cluster
      (fun me isThis => isCount ⟨me, isThis⟩)
    unfold AllUsable
    rw [same.1, same.2]
    exact usable nonempty

/-- In a run in which winners have members ahead of all outside voters, every
elected generation and every pair stored by a node has donors, all of them
members. -/
theorem donors_usable
    {cluster : Cluster n}
    (reachable : (machine n).Reachable WinnersMembersAhead cluster) :
    (∀ pair ∈ cluster.elected, pair.2.Nonempty ∧ pair.2 ⊆ pair.1.members) ∧
    ∀ me, (cluster.node me).donors.Nonempty ∧
      (cluster.node me).donors ⊆ (cluster.node me).currentGen.members := by
  have ok : DonorsOk cluster := by
    refine Machine.Reachable.invariant (donorsOk_initialCluster n) ?_
      reachable
    intro current action ok enabled ahead
    exact donorsOk_effect ok action enabled ahead
  obtain ⟨invariant, usable⟩ := ok
  constructor
  · intro pair isElected
    obtain ⟨_, _, _, majority, _⟩ := invariant.history.elected pair isElected
    obtain ⟨voter, _⟩ := majority.nonempty
    exact (usable (Nat.pos_iff_ne_zero.mp voter.pos)).1 pair isElected
  · intro me
    exact (usable (Nat.pos_iff_ne_zero.mp me.pos)).2 _
      (invariant.node me).current

theorem excludeNodeTwo_membersAhead :
    ((machine 3).execute WinnersMembersAhead (machine 3).init
      excludeNodeTwo).isSome = true := by
  decide +kernel

theorem donors_usable_excludeNodeTwo :
    let cluster := ((machine 3).execute WinnersMembersAhead (machine 3).init
      excludeNodeTwo).get excludeNodeTwo_membersAhead
    (cluster.node 1).currentGen.num = 2 ∧
      (cluster.node 1).donors ⊆ (cluster.node 1).currentGen.members :=
  ⟨by decide +kernel,
    ((donors_usable (Machine.reachable_of_execute excludeNodeTwo
      excludeNodeTwo_membersAhead)).2 1).2⟩

/-- After generation 2 of nodes 0 and 1, node 0 wins generation 3 for itself
with the vote of node 2.  Node 2, caught up from node 1, then wins generation 4
for itself with the vote of node 1, which is ahead of it. -/
def outsideDonor : List (Action 3) :=
  let third : MtmGeneration 3 :=
    { num := 3, members := {0}, configured := Finset.univ }
  let fourth : MtmGeneration 3 :=
    { num := 4, members := {2}, configured := Finset.univ }
  excludeNodeTwo ++ tourActions 0 2 none third 1 ++
    [.learn 2 third {0}] ++ tourActions 2 1 (some 1) fourth 2

theorem outsideDonor_completes :
    ((machine 3).execute Machine.Always (machine 3).init
      outsideDonor).isSome = true := by
  decide +kernel

/-- A reachable cluster whose node 2 is in generation 4 with itself as the only
member and node 1 as the only donor. -/
theorem donors_outside_members :
    ∃ cluster, (machine 3).Reachable Machine.Always cluster ∧
      (cluster.node 2).currentGen.members = {2} ∧
      (cluster.node 2).donors = {1} ∧
      ∃ pair ∈ cluster.elected, ¬ pair.2 ⊆ pair.1.members := by
  refine ⟨_, Machine.reachable_of_execute outsideDonor
    outsideDonor_completes, by decide +kernel, by decide +kernel, ?_⟩
  decide +kernel

end Election
end Multimaster
