import Multimaster.Lib.Majority
import Mathlib.Data.List.Basic
import Mathlib.Logic.Function.Basic

/-!
# Voting with ballots

Acceptors vote for values in ballots and promise not to vote in the ballots
below some ballot.  A value is safe in a ballot when no other value can be
chosen in the ballots below.  Where all votes are safe and the votes of a
ballot agree, at most one value is ever chosen.

A proposer learns a safe value from a majority of reports.  It may take into
account further votes as well, such as those reported to an earlier ballot: a
later vote only narrows the choice to a value that was safe itself.
-/

namespace Multimaster
namespace Synod

variable {Acceptor : Type*} {Ballot : Type*} {Value : Type*}

/-- A vote. -/
structure Vote (Acceptor Ballot Value : Type*) where
  acceptor : Acceptor
  ballot : Ballot
  value : Value
  deriving DecidableEq

variable [Fintype Acceptor] [LinearOrder Ballot]

/-- A majority voted for the value. -/
def Chosen
    (votes : List (Vote Acceptor Ballot Value))
    (ballot : Ballot) (value : Value) : Prop :=
  ∃ quorum : Finset Acceptor, IsMajority quorum ∧
    ∀ acceptor ∈ quorum, ⟨acceptor, ballot, value⟩ ∈ votes

/-- No other value is or will be chosen below the ballot. -/
def SafeAt
    (votes : List (Vote Acceptor Ballot Value)) (promise : Acceptor → Ballot)
    (ballot : Ballot) (value : Value) : Prop :=
  ∀ lower < ballot, ∃ quorum : Finset Acceptor, IsMajority quorum ∧
    ∀ acceptor ∈ quorum, ⟨acceptor, lower, value⟩ ∈ votes ∨
      (lower < promise acceptor ∧
        ∀ other, ⟨acceptor, lower, other⟩ ∉ votes)

/-- The votes respect the promises, agree in every ballot and are safe. -/
structure Consistent
    (votes : List (Vote Acceptor Ballot Value))
    (promise : Acceptor → Ballot) : Prop where
  bounded : ∀ vote ∈ votes, vote.ballot ≤ promise vote.acceptor
  agree : ∀ first ∈ votes, ∀ second ∈ votes,
    first.ballot = second.ballot → first.value = second.value
  safe : ∀ vote ∈ votes, SafeAt votes promise vote.ballot vote.value

/-- An acceptor has promised a ballot and has no votes below it after its last
one. -/
structure Report
    (votes : List (Vote Acceptor Ballot Value)) (promise : Acceptor → Ballot)
    (acceptor : Acceptor) (ballot last : Ballot) : Prop where
  promised : ballot ≤ promise acceptor
  seen : ∀ vote ∈ votes, vote.acceptor = acceptor → vote.ballot < ballot →
    vote.ballot ≤ last

variable {votes : List (Vote Acceptor Ballot Value)}
variable {promise later : Acceptor → Ballot}
variable {ballot : Ballot} {value : Value}

omit [LinearOrder Ballot] in
theorem Chosen.mono
    {more : List (Vote Acceptor Ballot Value)}
    (chosen : Chosen votes ballot value) (contained : votes ⊆ more) :
    Chosen more ballot value := by
  obtain ⟨quorum, majority, voted⟩ := chosen
  exact ⟨quorum, majority, fun acceptor member =>
    contained (voted acceptor member)⟩

theorem SafeAt.raise
    (safe : SafeAt votes promise ballot value)
    (raised : ∀ acceptor, promise acceptor ≤ later acceptor) :
    SafeAt votes later ballot value := by
  intro lower below
  obtain ⟨quorum, majority, closed⟩ := safe lower below
  refine ⟨quorum, majority, fun acceptor member => ?_⟩
  rcases closed acceptor member with voted | ⟨promised, silent⟩
  · exact Or.inl voted
  · exact Or.inr ⟨lt_of_lt_of_le promised (raised acceptor), silent⟩

/-- Votes that respect the promises do not endanger safe values. -/
theorem SafeAt.add
    {vote : Vote Acceptor Ballot Value}
    (safe : SafeAt votes promise ballot value)
    (allowed : promise vote.acceptor ≤ vote.ballot) :
    SafeAt (vote :: votes) promise ballot value := by
  intro lower below
  obtain ⟨quorum, majority, closed⟩ := safe lower below
  refine ⟨quorum, majority, fun acceptor member => ?_⟩
  rcases closed acceptor member with voted | ⟨promised, silent⟩
  · exact Or.inl (List.mem_cons_of_mem _ voted)
  · refine Or.inr ⟨promised, fun other isVote => ?_⟩
    rcases List.mem_cons.mp isVote with isNew | isOld
    · rw [← isNew] at allowed
      exact absurd promised (not_lt.mpr allowed)
    · exact silent other isOld

namespace Consistent

/-- Promises may be raised. -/
theorem raise
    (consistent : Consistent votes promise)
    (raised : ∀ acceptor, promise acceptor ≤ later acceptor) :
    Consistent votes later where
  bounded := fun vote isVote =>
    le_trans (consistent.bounded vote isVote) (raised _)
  agree := consistent.agree
  safe := fun vote isVote => (consistent.safe vote isVote).raise raised

/-- One more vote, for a safe value on which the ballot agrees. -/
theorem add
    {vote : Vote Acceptor Ballot Value}
    (consistent : Consistent votes promise)
    (allowed : promise vote.acceptor ≤ vote.ballot)
    (raised : ∀ acceptor, promise acceptor ≤ later acceptor)
    (kept : vote.ballot ≤ later vote.acceptor)
    (safe : SafeAt votes promise vote.ballot vote.value)
    (agrees : ∀ other ∈ votes, other.ballot = vote.ballot →
      other.value = vote.value) :
    Consistent (vote :: votes) later where
  bounded := by
    intro other isVote
    rcases List.mem_cons.mp isVote with isNew | isOld
    · rw [isNew]
      exact kept
    · exact le_trans (consistent.bounded other isOld) (raised _)
  agree := by
    intro first isFirst second isSecond same
    rcases List.mem_cons.mp isFirst with firstNew | firstOld
    · rcases List.mem_cons.mp isSecond with secondNew | secondOld
      · rw [firstNew, secondNew]
      · rw [firstNew] at same ⊢
        exact (agrees second secondOld same.symm).symm
    · rcases List.mem_cons.mp isSecond with secondNew | secondOld
      · rw [secondNew] at same ⊢
        exact agrees first firstOld same
      · exact consistent.agree first firstOld second secondOld same
  safe := by
    intro other isVote
    rcases List.mem_cons.mp isVote with isNew | isOld
    · rw [isNew]
      exact (safe.add allowed).raise raised
    · exact ((consistent.safe other isOld).add allowed).raise raised

variable [DecidableEq Acceptor]

/-- At most one value is chosen. -/
theorem chosen_unique
    (consistent : Consistent votes promise)
    {first second : Ballot} {one other : Value}
    (firstChosen : Chosen votes first one)
    (secondChosen : Chosen votes second other) :
    one = other := by
  wlog ordered : first ≤ second generalizing first second one other
  · exact (this secondChosen firstChosen (le_of_not_ge ordered)).symm
  obtain ⟨firstQuorum, firstMajority, firstVoted⟩ := firstChosen
  obtain ⟨secondQuorum, secondMajority, secondVoted⟩ := secondChosen
  rcases lt_or_eq_of_le ordered with below | same
  · obtain ⟨voter, isVoter⟩ := secondMajority.nonempty
    have safe := consistent.safe _ (secondVoted voter isVoter)
    obtain ⟨quorum, majority, closed⟩ := safe first below
    obtain ⟨common, inFirst, inQuorum⟩ :=
      firstMajority.exists_mem_both majority
    have voted := firstVoted common inFirst
    rcases closed common inQuorum with votedOther | ⟨_, silent⟩
    · exact consistent.agree _ voted _ votedOther rfl
    · exact absurd voted (silent one)
  · obtain ⟨common, inFirst, inSecond⟩ :=
      firstMajority.exists_mem_both secondMajority
    exact consistent.agree _ (firstVoted common inFirst) _
      (secondVoted common inSecond) same

omit [DecidableEq Acceptor] in
/-- The value of a vote not below the last votes of a reporting majority is
safe. -/
theorem safeAt_of_reports
    (consistent : Consistent votes promise)
    {quorum : Finset Acceptor} {last : Ballot}
    (majority : IsMajority quorum)
    (reports : ∀ acceptor ∈ quorum,
      Report votes promise acceptor ballot last)
    {vote : Vote Acceptor Ballot Value}
    (isVote : vote ∈ votes) (isLast : vote.ballot = last) :
    SafeAt votes promise ballot vote.value := by
  intro lower below
  rcases lt_trichotomy lower last with earlier | same | between
  · have safe := consistent.safe vote isVote
    rw [isLast] at safe
    exact safe lower earlier
  · refine ⟨quorum, majority, fun acceptor member => ?_⟩
    by_cases voted : ∃ other, ⟨acceptor, lower, other⟩ ∈ votes
    · obtain ⟨other, isOther⟩ := voted
      have sameValue : other = vote.value :=
        consistent.agree _ isOther _ isVote (same.trans isLast.symm)
      rw [sameValue] at isOther
      exact Or.inl isOther
    · refine Or.inr ⟨?_, not_exists.mp voted⟩
      exact lt_of_lt_of_le below (reports acceptor member).promised
  · refine ⟨quorum, majority, fun acceptor member => Or.inr ⟨?_, ?_⟩⟩
    · exact lt_of_lt_of_le below (reports acceptor member).promised
    · intro other isOther
      have atMost := (reports acceptor member).seen _ isOther rfl below
      exact absurd between (not_lt.mpr atMost)

end Consistent

/-- Every value is safe for a majority that reports no votes at all. -/
theorem safeAt_of_silence
    {quorum : Finset Acceptor} {last : Ballot}
    (majority : IsMajority quorum)
    (reports : ∀ acceptor ∈ quorum,
      Report votes promise acceptor ballot last)
    (above : ∀ vote ∈ votes, last < vote.ballot)
    (value : Value) :
    SafeAt votes promise ballot value := by
  intro lower below
  refine ⟨quorum, majority, fun acceptor member => Or.inr ⟨?_, ?_⟩⟩
  · exact lt_of_lt_of_le below (reports acceptor member).promised
  · intro other isOther
    have atMost := (reports acceptor member).seen _ isOther rfl below
    exact absurd (above _ isOther) (not_lt.mpr atMost)

end Synod
end Multimaster
