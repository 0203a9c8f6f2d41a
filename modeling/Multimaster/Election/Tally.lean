import Multimaster.Election.Votes
import Mathlib.Data.List.Perm.Subperm

/-!
# The count of a tour

The ballots of a tour are the vote of the proposer and the granted responses.
The loop of `CampaignTour` computes their number, the greatest
`last_online_in` among them and the voters that reported it.
-/

namespace Multimaster
namespace Election

open Generation

/-- A response grants the vote asked for. -/
def Granted
    (candidateNum : ℕ) (message : Fin n × MtmGenVoteResponse n) : Prop :=
  message.2.genNum = candidateNum ∧ message.2.voteOk = true

instance (candidateNum : ℕ) (message : Fin n × MtmGenVoteResponse n) :
    Decidable (Granted candidateNum message) :=
  inferInstanceAs (Decidable (_ ∧ _))

/-- The ballots of a campaign: who voted, and with which `last_online_in`. -/
def ballots
    (me : Fin n) (campaign : Campaign n)
    (messages : List (Fin n × MtmGenVoteResponse n)) :
    List (Fin n × ℕ) :=
  (me, campaign.myLastOnlineIn) ::
    (messages.filter fun message =>
      decide (Granted campaign.candidate.num message)).map fun message =>
        (message.1, message.2.lastOnlineIn)

theorem mem_ballots
    {me : Fin n} {campaign : Campaign n}
    {messages : List (Fin n × MtmGenVoteResponse n)}
    {ballot : Fin n × ℕ} :
    ballot ∈ ballots me campaign messages ↔
      ballot = (me, campaign.myLastOnlineIn) ∨
      ∃ message ∈ messages, Granted campaign.candidate.num message ∧
        ballot = (message.1, message.2.lastOnlineIn) := by
  simp only [ballots, List.mem_cons, List.mem_map, List.mem_filter,
    decide_eq_true_eq]
  constructor
  · rintro (own | ⟨message, ⟨member, granted⟩, rfl⟩)
    · exact Or.inl own
    · exact Or.inr ⟨message, member, granted, rfl⟩
  · rintro (own | ⟨message, member, granted, rfl⟩)
    · exact Or.inl own
    · exact Or.inr ⟨message, ⟨member, granted⟩, rfl⟩

theorem ballots_append
    (me : Fin n) (campaign : Campaign n)
    (messages : List (Fin n × MtmGenVoteResponse n))
    (message : Fin n × MtmGenVoteResponse n) :
    ballots me campaign (messages ++ [message]) =
      ballots me campaign messages ++
        if Granted campaign.candidate.num message then
          [(message.1, message.2.lastOnlineIn)]
        else [] := by
  unfold ballots
  rw [List.filter_append, List.map_append, ← List.cons_append]
  split
  · next granted => simp [List.filter, granted]
  · next refused => simp [List.filter, refused]

/-- What a tally says about the ballots counted. -/
structure TallyOk
    (ballots : List (Fin n × ℕ)) (tally : Tally n) : Prop where
  nvotes : tally.nvotes = ballots.length
  bound : ∀ ballot ∈ ballots, ballot.2 ≤ tally.maxLastOnlineIn
  attained : ∃ ballot ∈ ballots, ballot.2 = tally.maxLastOnlineIn
  donors : ∀ node, node ∈ tally.donors ↔
    (node, tally.maxLastOnlineIn) ∈ ballots

theorem tallyOk_startTally (me : Fin n) (campaign : Campaign n) :
    TallyOk [(me, campaign.myLastOnlineIn)] (startTally me campaign) where
  nvotes := rfl
  bound := by
    intro ballot member
    rw [List.mem_singleton] at member
    subst member
    exact le_refl _
  attained := ⟨_, List.mem_singleton_self _, rfl⟩
  donors := by
    intro node
    simp [startTally]

section

variable {counted : List (Fin n × ℕ)} {tally next : Tally n} {ballot : Fin n × ℕ}

/-- A ballot above all others leaves its voter as the only donor. -/
theorem TallyOk.raise
    (ok : TallyOk counted tally)
    (higher : tally.maxLastOnlineIn < ballot.2)
    (nvotes : next.nvotes = tally.nvotes + 1)
    (isMax : next.maxLastOnlineIn = ballot.2)
    (isDonor : next.donors = {ballot.1}) :
    TallyOk (counted ++ [ballot]) next where
  nvotes := by
    rw [nvotes, ok.nvotes, List.length_append, List.length_singleton]
  bound := by
    intro other member
    rw [isMax]
    rcases List.mem_append.mp member with isOld | isNew
    · exact le_trans (ok.bound other isOld) (le_of_lt higher)
    · rw [List.mem_singleton.mp isNew]
  attained := ⟨ballot, by simp, isMax.symm⟩
  donors := by
    intro node
    rw [isDonor, isMax, Finset.mem_singleton, List.mem_append, List.mem_singleton]
    constructor
    · rintro rfl
      exact Or.inr rfl
    · rintro (isOld | isNew)
      · exact absurd (ok.bound _ isOld) (not_le.mpr higher)
      · exact congrArg Prod.fst isNew

/-- A ballot that is not above the others leaves the maximum. -/
theorem TallyOk.add
    (ok : TallyOk counted tally)
    (bounded : ballot.2 ≤ tally.maxLastOnlineIn)
    (nvotes : next.nvotes = tally.nvotes + 1)
    (sameMax : next.maxLastOnlineIn = tally.maxLastOnlineIn)
    (donors : ∀ node, node ∈ next.donors ↔
      node ∈ tally.donors ∨ (node, tally.maxLastOnlineIn) = ballot) :
    TallyOk (counted ++ [ballot]) next where
  nvotes := by
    rw [nvotes, ok.nvotes, List.length_append, List.length_singleton]
  bound := by
    intro other member
    rw [sameMax]
    rcases List.mem_append.mp member with isOld | isNew
    · exact ok.bound other isOld
    · rw [List.mem_singleton.mp isNew]
      exact bounded
  attained := by
    obtain ⟨top, member, isTop⟩ := ok.attained
    exact ⟨top, List.mem_append_left _ member, isTop.trans sameMax.symm⟩
  donors := by
    intro node
    rw [donors, sameMax, ok.donors, List.mem_append, List.mem_singleton]

/-- One round of the loop. -/
theorem TallyOk.tallyResponse
    (ok : TallyOk counted tally)
    (candidateNum : ℕ) (message : Fin n × MtmGenVoteResponse n) :
    TallyOk
      (counted ++
        if Granted candidateNum message then
          [(message.1, message.2.lastOnlineIn)]
        else [])
      (tallyResponse candidateNum tally message) := by
  by_cases granted : Granted candidateNum message
  · have isGranted : message.2.genNum = candidateNum ∧
        message.2.voteOk = true := granted
    rw [if_pos granted]
    rcases Nat.lt_trichotomy tally.maxLastOnlineIn message.2.lastOnlineIn
      with higher | same | lower
    · have differs : message.2.lastOnlineIn ≠ tally.maxLastOnlineIn := by
        omega
      apply ok.raise higher
      · simp [Generation.tallyResponse, isGranted]
      · simp [Generation.tallyResponse, isGranted, higher]
      · simp [Generation.tallyResponse, isGranted, higher, differs]
    · apply ok.add same.ge
      · simp [Generation.tallyResponse, isGranted]
      · simp [Generation.tallyResponse, same]
      · intro node
        simp [Generation.tallyResponse, isGranted, same, or_comm]
    · have notHigher : ¬ tally.maxLastOnlineIn < message.2.lastOnlineIn := by
        omega
      have differs : message.2.lastOnlineIn ≠ tally.maxLastOnlineIn := by
        omega
      apply ok.add lower.le
      · simp [Generation.tallyResponse, isGranted]
      · simp [Generation.tallyResponse, notHigher]
      · intro node
        simp [Generation.tallyResponse, notHigher, differs, differs.symm]
  · have isRefused : ¬ (message.2.genNum = candidateNum ∧
        message.2.voteOk = true) := granted
    rw [if_neg granted, List.append_nil]
    exact {
      nvotes := by simp [Generation.tallyResponse, isRefused, ok.nvotes]
      bound := by
        simpa [Generation.tallyResponse, isRefused] using ok.bound
      attained := by
        simpa [Generation.tallyResponse, isRefused] using ok.attained
      donors := by
        simpa [Generation.tallyResponse, isRefused] using ok.donors }

end

/-- The loop of `CampaignTour` counts the ballots. -/
theorem tallyOk_tallyResponses
    (me : Fin n) (campaign : Campaign n)
    (messages : List (Fin n × MtmGenVoteResponse n)) :
    TallyOk (ballots me campaign messages)
      (tallyResponses me campaign messages) := by
  induction messages using List.reverseRecOn with
  | nil => exact tallyOk_startTally me campaign
  | append_singleton prior message inductionHypothesis =>
      rw [ballots_append]
      unfold tallyResponses
      rw [List.foldl_append]
      exact inductionHypothesis.tallyResponse campaign.candidate.num message

/-- With one response for each voter, the ballots come from distinct nodes. -/
theorem ballots_nodup
    {me : Fin n} {campaign : Campaign n}
    {messages : List (Fin n × MtmGenVoteResponse n)}
    (distinct : (messages.map Prod.fst).Nodup)
    (foreign : ∀ message ∈ messages, message.1 ≠ me) :
    ((ballots me campaign messages).map Prod.fst).Nodup := by
  unfold ballots
  rw [List.map_cons, List.map_map, List.nodup_cons]
  constructor
  · intro member
    obtain ⟨message, filtered, isMe⟩ := List.mem_map.mp member
    exact foreign message (List.mem_of_mem_filter filtered) isMe
  · have sub : List.Sublist
        ((messages.filter fun message =>
          decide (Granted campaign.candidate.num message)).map
            (Prod.fst ∘ fun message => (message.1, message.2.lastOnlineIn)))
        (messages.map Prod.fst) :=
      List.filter_sublist.map Prod.fst
    exact distinct.sublist sub

/-- The voters of a won tour are a majority. -/
theorem isMajority_ballots
    {me : Fin n} {campaign : Campaign n}
    {messages : List (Fin n × MtmGenVoteResponse n)}
    (distinct : (messages.map Prod.fst).Nodup)
    (foreign : ∀ message ∈ messages, message.1 ≠ me)
    (victory : Victory (tallyResponses me campaign messages)) :
    IsMajority ((ballots me campaign messages).map Prod.fst).toFinset := by
  have counted := (tallyOk_tallyResponses me campaign messages).nvotes
  have quorum := victory.1
  unfold IsMajority
  rw [List.toFinset_card_of_nodup (ballots_nodup distinct foreign),
    List.length_map, ← counted, Fintype.card_fin]
  exact quorum

end Election
end Multimaster
