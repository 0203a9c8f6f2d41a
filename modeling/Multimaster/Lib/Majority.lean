import Mathlib.Data.Fintype.Card

/-!
# Majorities of a finite type

A majority is a finite set with more than half of all elements.  Two
majorities share an element; that is the only fact quorum arguments need.
-/

namespace Multimaster

variable {Voter : Type*}

/-- More than half of the `total` voters, counted as `total / 2 + 1`. -/
def IsMajority [Fintype Voter] (voters : Finset Voter) : Prop :=
  Fintype.card Voter / 2 + 1 ≤ voters.card

instance [Fintype Voter] (voters : Finset Voter) :
    Decidable (IsMajority voters) :=
  inferInstanceAs (Decidable (_ ≤ _))

namespace IsMajority

variable [Fintype Voter] [DecidableEq Voter]

/-- Any two majorities have a common voter. -/
theorem exists_mem_both
    {first second : Finset Voter}
    (firstMajority : IsMajority first)
    (secondMajority : IsMajority second) :
    ∃ voter, voter ∈ first ∧ voter ∈ second := by
  have overlap : (first ∩ second).Nonempty := by
    apply Finset.inter_nonempty_of_card_lt_card_add_card
      (Finset.subset_univ first) (Finset.subset_univ second)
    unfold IsMajority at firstMajority secondMajority
    rw [Finset.card_univ]
    omega
  obtain ⟨voter, member⟩ := overlap
  exact ⟨voter, Finset.mem_inter.mp member⟩

omit [DecidableEq Voter] in
theorem nonempty
    {voters : Finset Voter}
    (majority : IsMajority voters) :
    voters.Nonempty := by
  rw [← Finset.card_pos]
  unfold IsMajority at majority
  omega

end IsMajority

end Multimaster
