import Multimaster.Election.Tally
import Multimaster.Lib.Entries

/-!
# Invariants of the election protocol

Besides the invariant of every node, the histories are consistent: responses
answer requests, votes are unique for a voter and a number, and an elected
generation has a majority of votes, with the most advanced voters as donors.
-/

namespace Multimaster
namespace Election

open Generation

/-- A generation is won with these donors: a majority voted for it, and the
donors are voters with the greatest `last_online_in` reported. -/
def Won
    (votes : List (Vote n)) (gen : MtmGeneration n)
    (donors : NodeMask n) : Prop :=
  ∃ (top : ℕ) (voters : Finset (Fin n)),
    IsMajority voters ∧
    (∀ voter ∈ voters, ∃ vote ∈ votes,
      vote.voter = voter ∧ vote.gen = gen ∧ vote.lastOnlineIn ≤ top) ∧
    donors.Nonempty ∧
    (∀ donor ∈ donors, ∃ vote ∈ votes,
      vote.voter = donor ∧ vote.gen = gen ∧ vote.lastOnlineIn = top)

theorem Won.mono
    {votes moreVotes : List (Vote n)}
    {gen : MtmGeneration n} {donors : NodeMask n}
    (won : Won votes gen donors)
    (more : votes ⊆ moreVotes) :
    Won moreVotes gen donors := by
  obtain ⟨top, voters, majority, voted, nonempty, advanced⟩ := won
  refine ⟨top, voters, majority, ?_, nonempty, ?_⟩
  · intro voter member
    obtain ⟨vote, isVote, facts⟩ := voted voter member
    exact ⟨vote, more isVote, facts⟩
  · intro donor member
    obtain ⟨vote, isVote, facts⟩ := advanced donor member
    exact ⟨vote, more isVote, facts⟩

/-- What holds of a response ever sent. -/
structure ResponseOk (cluster : Cluster n) (response : Response n) : Prop where
  request : (response.proposer, response.request) ∈ cluster.requests
  genNum : response.body.genNum = response.request.num
  granted : response.body.voteOk = true →
    { voter := response.voter
      gen := response.request
      lastOnlineIn := response.body.lastOnlineIn } ∈ cluster.votes
  gossip : response.body.currGen.num ≠ 0 →
    (response.body.currGen, response.body.currGenDonors) ∈ cluster.announced

/-- What holds of a tour in progress. -/
structure TourOk
    (cluster : Cluster n) (me : Fin n) (tour : Tour n) : Prop where
  voted :
    { voter := me
      gen := tour.campaign.candidate
      lastOnlineIn := tour.campaign.myLastOnlineIn } ∈ cluster.votes
  member : me ∈ tour.campaign.candidate.members
  regular : ¬ IsRefereeGen tour.campaign.candidate.members
    tour.campaign.candidate.configured
  elsewhere : me ∉ tour.campaign.cohort
  gathered : ∀ message ∈ tour.messages, ∃ response ∈ cluster.responses,
    response.proposer = me ∧ response.voter = message.1 ∧
      response.body = message.2
  polled : ∀ message ∈ tour.messages, message.1 ∈ tour.campaign.cohort
  distinct : (tour.messages.map Prod.fst).Nodup

/-- The histories of the cluster are consistent. -/
structure HistoryOk (cluster : Cluster n) : Prop where
  voted : ∀ vote ∈ cluster.votes,
    vote.gen.configured = Finset.univ ∧ 1 < vote.gen.num
  unique : ∀ first ∈ cluster.votes, ∀ second ∈ cluster.votes,
    first.voter = second.voter → first.gen.num = second.gen.num →
    first.gen = second.gen
  requests : ∀ request ∈ cluster.requests, ∃ vote ∈ cluster.votes,
    vote.voter = request.1 ∧ vote.gen = request.2
  responses : ∀ response ∈ cluster.responses, ResponseOk cluster response
  tours : ∀ me tour, cluster.tour me = some tour → TourOk cluster me tour
  elected : ∀ pair ∈ cluster.elected,
    Electable pair.1 ∧ Won cluster.votes pair.1 pair.2
  announced : ∀ pair ∈ cluster.announced,
    pair ∈ cluster.elected ∨ pair = (initialGen n, Finset.univ)

/-- The invariant of the election protocol. -/
structure Invariant (cluster : Cluster n) : Prop where
  node : ∀ me, NodeOk cluster.votes cluster.announced me (cluster.node me)
    (cluster.online me)
  history : HistoryOk cluster

/-! ## Growth of the histories -/

/-- The second cluster has at least the histories of the first. -/
structure Extends (before after : Cluster n) : Prop where
  requests : before.requests ⊆ after.requests
  responses : before.responses ⊆ after.responses
  votes : before.votes ⊆ after.votes
  elected : before.elected ⊆ after.elected
  announced : before.announced ⊆ after.announced

theorem Extends.refl (cluster : Cluster n) : Extends cluster cluster :=
  ⟨fun _ => id, fun _ => id, fun _ => id, fun _ => id, fun _ => id⟩

theorem Extends.trans
    {first middle last : Cluster n}
    (left : Extends first middle) (right : Extends middle last) :
    Extends first last :=
  ⟨List.Subset.trans left.requests right.requests,
    List.Subset.trans left.responses right.responses,
    List.Subset.trans left.votes right.votes,
    List.Subset.trans left.elected right.elected,
    List.Subset.trans left.announced right.announced⟩

/-- Nodes and tours are not part of the histories. -/
theorem Extends.of_eq
    {before after : Cluster n}
    (requests : after.requests = before.requests)
    (responses : after.responses = before.responses)
    (votes : after.votes = before.votes)
    (elected : after.elected = before.elected)
    (announced : after.announced = before.announced) :
    Extends before after :=
  ⟨by rw [requests]; exact fun _ => id,
    by rw [responses]; exact fun _ => id,
    by rw [votes]; exact fun _ => id,
    by rw [elected]; exact fun _ => id,
    by rw [announced]; exact fun _ => id⟩

theorem ResponseOk.mono
    {before after : Cluster n} {response : Response n}
    (ok : ResponseOk before response)
    (extends_ : Extends before after) :
    ResponseOk after response where
  request := extends_.requests ok.request
  genNum := ok.genNum
  granted := fun isGranted => extends_.votes (ok.granted isGranted)
  gossip := fun reported => extends_.announced (ok.gossip reported)

theorem TourOk.mono
    {before after : Cluster n} {me : Fin n} {tour : Tour n}
    (ok : TourOk before me tour)
    (extends_ : Extends before after) :
    TourOk after me tour where
  voted := extends_.votes ok.voted
  member := ok.member
  regular := ok.regular
  elsewhere := ok.elsewhere
  gathered := by
    intro message member
    obtain ⟨response, sent, facts⟩ := ok.gathered message member
    exact ⟨response, extends_.responses sent, facts⟩
  polled := ok.polled
  distinct := ok.distinct

/-- Every action only adds to the histories. -/
theorem extends_effect (cluster : Cluster n) (action : Action n) :
    Extends cluster (effect cluster action) := by
  cases action with
  | campaign me env =>
      change Extends cluster (campaign me env cluster)
      unfold campaign
      dsimp only
      split
      · exact Extends.of_eq rfl rfl rfl rfl rfl
      · split
        · exact Extends.of_eq rfl rfl rfl rfl rfl
        · exact ⟨List.subset_cons_self _ _, fun _ => id,
            List.subset_cons_self _ _, fun _ => id, fun _ => id⟩
  | vote me env proposer request =>
      refine ⟨fun _ => id, List.subset_cons_self _ _, ?_, fun _ => id,
        fun _ => id⟩
      change cluster.votes ⊆ (vote me env proposer request cluster).votes
      unfold vote
      dsimp only
      split
      · exact List.subset_cons_self _ _
      · exact fun _ => id
  | gather me response =>
      change Extends cluster (gather me response cluster)
      unfold gather
      split <;> exact Extends.of_eq rfl rfl rfl rfl rfl
  | count me =>
      change Extends cluster (count me cluster)
      unfold count
      split
      · dsimp only
        split
        · refine ⟨fun _ => id, fun _ => id, fun _ => id,
            List.subset_cons_self _ _, ?_⟩
          dsimp only
          split
          · exact List.subset_cons_self _ _
          · exact fun _ => id
        · exact Extends.of_eq rfl rfl rfl rfl rfl
      · exact Extends.of_eq rfl rfl rfl rfl rfl
  | finishTour me =>
      change Extends cluster (finishTour me cluster)
      unfold finishTour
      split <;> exact Extends.of_eq rfl rfl rfl rfl rfl
  | learn me gen donors => exact Extends.of_eq rfl rfl rfl rfl rfl
  | parallelSafe me gen isRecovery => exact Extends.of_eq rfl rfl rfl rfl rfl
  | logParallelSafe me => exact Extends.of_eq rfl rfl rfl rfl rfl
  | crash me => exact Extends.of_eq rfl rfl rfl rfl rfl

/-! ## Steps that leave the histories alone -/

/-- Histories stay consistent when only nodes change and tours end. -/
theorem HistoryOk.keep
    {before after : Cluster n}
    (ok : HistoryOk before)
    (requests : after.requests = before.requests)
    (responses : after.responses = before.responses)
    (votes : after.votes = before.votes)
    (elected : after.elected = before.elected)
    (announced : after.announced = before.announced)
    (tours : ∀ me tour, after.tour me = some tour →
      before.tour me = some tour) :
    HistoryOk after := by
  have extends_ : Extends before after :=
    Extends.of_eq requests responses votes elected announced
  exact {
    voted := by rw [votes]; exact ok.voted
    unique := by rw [votes]; exact ok.unique
    requests := by rw [requests, votes]; exact ok.requests
    responses := by
      rw [responses]
      exact fun response sent => (ok.responses response sent).mono extends_
    tours := fun me tour isTour =>
      (ok.tours me tour (tours me tour isTour)).mono extends_
    elected := by rw [elected, votes]; exact ok.elected
    announced := by rw [announced, elected]; exact ok.announced }

namespace Invariant

variable {cluster : Cluster n}

/-- Assemble the invariant after a step of one node. -/
theorem ofStep
    {after : Cluster n}
    (invariant : Invariant cluster)
    (me : Fin n)
    (nodes : ∀ other, other ≠ me → after.node other = cluster.node other)
    (online : ∀ other, other ≠ me →
      after.online other = cluster.online other)
    (foreign : ∀ vote ∈ after.votes, vote.voter ≠ me →
      vote ∈ cluster.votes)
    (announces : cluster.announced ⊆ after.announced)
    (mine : NodeOk after.votes after.announced me (after.node me)
      (after.online me))
    (history : HistoryOk after) :
    Invariant after := by
  refine ⟨?_, history⟩
  intro other
  by_cases same : other = me
  · rw [same]
    exact mine
  · rw [nodes other same, online other same]
    apply (invariant.node other).mono ?_ announces
    intro vote member isOther
    apply foreign vote member
    rw [isOther]
    exact same

/-- A step that only replaces the state of a node and possibly ends its
tour. -/
theorem replaceNode
    (invariant : Invariant cluster)
    (me : Fin n) (state : MtmState n)
    (tours : Fin n → Option (Tour n))
    (ended : ∀ other tour, tours other = some tour →
      cluster.tour other = some tour)
    (mine : NodeOk cluster.votes cluster.announced me state
      (onlineAfter (cluster.node me) state (cluster.online me))) :
    Invariant { cluster.setNode me state with tour := tours } := by
  apply invariant.ofStep me
  · exact fun other different => setNode_node_ne cluster state different
  · exact fun other different => setNode_online_ne cluster state different
  · exact fun vote member _ => member
  · exact fun _ => id
  · simpa using mine
  · exact invariant.history.keep rfl rfl rfl rfl rfl ended

theorem setNode
    (invariant : Invariant cluster)
    (me : Fin n) (state : MtmState n)
    (mine : NodeOk cluster.votes cluster.announced me state
      (onlineAfter (cluster.node me) state (cluster.online me))) :
    Invariant (cluster.setNode me state) :=
  invariant.replaceNode me state cluster.tour (fun _ _ => id) mine

theorem announced_electable
    (invariant : Invariant cluster)
    {gen : MtmGeneration n} {donors : NodeMask n}
    (known : (gen, donors) ∈ cluster.announced)
    (notInitial : 1 < gen.num) :
    Electable gen ∧ Won cluster.votes gen donors := by
  rcases invariant.history.announced _ known with isElected | isInitial
  · exact invariant.history.elected _ isElected
  · rw [Prod.mk.injEq] at isInitial
    rw [isInitial.1] at notInitial
    exact absurd notInitial (lt_irrefl 1)

theorem announced_configured
    (invariant : Invariant cluster)
    {gen : MtmGeneration n} {donors : NodeMask n}
    (known : (gen, donors) ∈ cluster.announced) :
    gen.configured = Finset.univ := by
  rcases invariant.history.announced _ known with isElected | isInitial
  · exact (invariant.history.elected _ isElected).1.configured
  · rw [Prod.mk.injEq] at isInitial
    rw [isInitial.1]
    rfl

theorem learn
    (invariant : Invariant cluster)
    (me : Fin n) (gen : MtmGeneration n) (donors : NodeMask n)
    (known : (gen, donors) ∈ cluster.announced) :
    Invariant (effect cluster (.learn me gen donors)) := by
  refine invariant.setNode me _ ?_
  apply (invariant.node me).switch gen donors known
  intro newer
  have positive := (invariant.node me).positive
  exact (invariant.announced_electable known (by omega)).1

theorem parallelSafe
    (invariant : Invariant cluster)
    (me : Fin n) (gen : MtmGeneration n) (isRecovery : Bool) :
    Invariant (effect cluster (.parallelSafe me gen isRecovery)) := by
  refine invariant.setNode me _ ?_
  apply (invariant.node me).parallelSafe gen isRecovery
  exact invariant.announced_configured (invariant.node me).current

theorem logParallelSafe
    (invariant : Invariant cluster) (me : Fin n) :
    Invariant (effect cluster (.logParallelSafe me)) := by
  refine invariant.setNode me _ ?_
  exact (invariant.node me).keep rfl rfl rfl rfl

theorem crash
    (invariant : Invariant cluster) (me : Fin n) :
    Invariant (effect cluster (.crash me)) := by
  refine invariant.replaceNode me _ _ ?_ ?_
  · intro other tour isTour
    exact (update_none_cases isTour).2
  · exact (invariant.node me).keep rfl rfl rfl rfl

theorem finishTour
    (invariant : Invariant cluster) (me : Fin n) :
    Invariant (effect cluster (.finishTour me)) := by
  change Invariant (Election.finishTour me cluster)
  unfold Election.finishTour
  split
  · refine invariant.replaceNode me _ _ ?_ ?_
    · intro other tour isTour
      exact (update_none_cases isTour).2
    · exact (invariant.node me).bump _
  · exact invariant

/-! ## Steps that grant a vote -/

/-- A vote for the remembered generation agrees with all earlier votes of the
node. -/
theorem unique_grant
    {votes : List (Vote n)}
    {announced : List (MtmGeneration n × NodeMask n)}
    {me : Fin n} {state : MtmState n} {online : List ℕ}
    (ok : NodeOk votes announced me state online)
    (configured : state.lastVote.configured = Finset.univ)
    (unique : ∀ first ∈ votes, ∀ second ∈ votes,
      first.voter = second.voter → first.gen.num = second.gen.num →
      first.gen = second.gen) :
    let granted : List (Vote n) :=
      { voter := me
        gen := state.lastVote
        lastOnlineIn := state.lastOnlineIn } :: votes
    ∀ first ∈ granted, ∀ second ∈ granted,
      first.voter = second.voter → first.gen.num = second.gen.num →
      first.gen = second.gen := by
  have isNonempty : (Finset.univ : NodeMask n) ≠ ∅ :=
    Finset.nonempty_iff_ne_empty.mp ⟨me, Finset.mem_univ me⟩
  have agrees : ∀ vote ∈ votes, vote.voter = me →
      vote.gen.num = state.lastVote.num → state.lastVote = vote.gen := by
    intro vote member mine sameNum
    rcases (ok.granted vote member mine).2 sameNum with same | wiped
    · exact same
    · rw [configured] at wiped
      exact absurd wiped isNonempty
  intro granted first firstMember second secondMember sameVoter sameNum
  rcases List.mem_cons.mp firstMember with firstNew | firstOld
  · rcases List.mem_cons.mp secondMember with secondNew | secondOld
    · rw [firstNew, secondNew]
    · subst firstNew
      exact agrees second secondOld sameVoter.symm sameNum.symm
  · rcases List.mem_cons.mp secondMember with secondNew | secondOld
    · subst secondNew
      exact (agrees first firstOld sameVoter sameNum).symm
    · exact unique first firstOld second secondOld sameVoter sameNum

/-- A node starts a tour for the generation it remembers as its vote. -/
theorem startTour
    (invariant : Invariant cluster)
    (me : Fin n) (state : MtmState n) (cohort : NodeMask n)
    (ok : NodeOk cluster.votes cluster.announced me state
      (onlineAfter (cluster.node me) state (cluster.online me)))
    (configured : state.lastVote.configured = Finset.univ)
    (member : me ∈ state.lastVote.members)
    (regular : ¬ IsRefereeGen state.lastVote.members
      state.lastVote.configured)
    (elsewhere : me ∉ cohort) :
    Invariant
      { cluster.setNode me state with
        tour := Function.update cluster.tour me
          (some {
            campaign := {
              candidate := state.lastVote
              cohort := cohort
              myLastOnlineIn := state.lastOnlineIn }
            messages := []
            counted := false })
        requests := (me, state.lastVote) :: cluster.requests
        votes :=
          { voter := me
            gen := state.lastVote
            lastOnlineIn := state.lastOnlineIn } :: cluster.votes } := by
  have extends_ : Extends cluster
      { cluster.setNode me state with
        tour := Function.update cluster.tour me
          (some {
            campaign := {
              candidate := state.lastVote
              cohort := cohort
              myLastOnlineIn := state.lastOnlineIn }
            messages := []
            counted := false })
        requests := (me, state.lastVote) :: cluster.requests
        votes :=
          { voter := me
            gen := state.lastVote
            lastOnlineIn := state.lastOnlineIn } :: cluster.votes } :=
    ⟨List.subset_cons_self _ _, fun _ => id, List.subset_cons_self _ _,
      fun _ => id, fun _ => id⟩
  apply invariant.ofStep me
  · exact fun other different => setNode_node_ne cluster state different
  · exact fun other different => setNode_online_ne cluster state different
  · intro vote isVote notMe
    rcases List.mem_cons.mp isVote with isNew | isOld
    · rw [isNew] at notMe
      exact absurd rfl notMe
    · exact isOld
  · exact fun _ => id
  · have granted := ok.grant
    simpa using granted
  · exact {
      voted := by
        intro vote isVote
        rcases List.mem_cons.mp isVote with isNew | isOld
        · rw [isNew]
          exact ⟨configured, ok.voteNum configured⟩
        · exact invariant.history.voted vote isOld
      unique := unique_grant ok configured invariant.history.unique
      requests := by
        intro request sent
        rcases List.mem_cons.mp sent with isNew | isOld
        · rw [isNew]
          exact ⟨_, List.mem_cons_self, rfl, rfl⟩
        · obtain ⟨vote, isVote, facts⟩ :=
            invariant.history.requests request isOld
          exact ⟨vote, List.mem_cons_of_mem _ isVote, facts⟩
      responses := fun response sent =>
        (invariant.history.responses response sent).mono extends_
      tours := by
        apply forall_update_some
        · exact {
            voted := List.mem_cons_self
            member := member
            regular := regular
            elsewhere := elsewhere
            gathered := by intro message isMessage; cases isMessage
            polled := by intro message isMessage; cases isMessage
            distinct := List.nodup_nil }
        · intro other tour isOld
          exact (invariant.history.tours other tour isOld).mono extends_
      elected := by
        intro pair isElected
        obtain ⟨electable, won⟩ := invariant.history.elected pair isElected
        exact ⟨electable, won.mono (List.subset_cons_self _ _)⟩
      announced := invariant.history.announced }

theorem campaign
    (invariant : Invariant cluster)
    (me : Fin n) (env : CampaignEnv n) :
    Invariant (effect cluster (.campaign me env)) := by
  change Invariant (Election.campaign me env cluster)
  unfold Election.campaign
  have outcome := campaignMyself_outcome me env (cluster.node me)
  generalize campaignMyself me env (cluster.node me) = result
    at outcome ⊢
  have ok := invariant.node me
  cases outcome with
  | declined mode =>
      refine invariant.setNode me _ ?_
      exact ok.keep rfl rfl rfl rfl
  | reused mode cohort member configured elsewhere different =>
      have kept : NodeOk cluster.votes cluster.announced me
          { cluster.node me with receiveMode := mode }
          (onlineAfter (cluster.node me)
            { cluster.node me with receiveMode := mode }
            (cluster.online me)) :=
        ok.keep rfl rfl rfl rfl
      dsimp only
      split
      · exact invariant.setNode me _ kept
      · next regular =>
          exact invariant.startTour me _ cohort kept configured member
            regular elsewhere
  | voted mode cohort candidate fresh member configured elsewhere =>
      have revoted := ok.revote candidate mode (Or.inl (by omega))
      dsimp only
      split
      · exact invariant.setNode me _ revoted
      · next regular =>
          exact invariant.startTour me _ cohort revoted configured member
            regular elsewhere

/-- A response that grants nothing. -/
theorem refuse
    (invariant : Invariant cluster)
    (me : Fin n) (state : MtmState n) (response : Response n)
    (ok : NodeOk cluster.votes cluster.announced me state
      (onlineAfter (cluster.node me) state (cluster.online me)))
    (responseOk : ResponseOk cluster response) :
    Invariant
      { cluster.setNode me state with
        responses := response :: cluster.responses } := by
  have extends_ : Extends cluster
      { cluster.setNode me state with
        responses := response :: cluster.responses } :=
    ⟨fun _ => id, List.subset_cons_self _ _, fun _ => id, fun _ => id,
      fun _ => id⟩
  apply invariant.ofStep me
  · exact fun other different => setNode_node_ne cluster state different
  · exact fun other different => setNode_online_ne cluster state different
  · exact fun vote member _ => member
  · exact fun _ => id
  · simpa using ok
  · exact {
      voted := invariant.history.voted
      unique := invariant.history.unique
      requests := invariant.history.requests
      responses := by
        intro other sent
        rcases List.mem_cons.mp sent with isNew | isOld
        · rw [isNew]
          exact responseOk.mono extends_
        · exact (invariant.history.responses other isOld).mono extends_
      tours := fun other tour isTour =>
        (invariant.history.tours other tour isTour).mono extends_
      elected := invariant.history.elected
      announced := invariant.history.announced }

/-- A response that grants the remembered vote. -/
theorem answer
    (invariant : Invariant cluster)
    (me proposer : Fin n) (state : MtmState n)
    (sent : (proposer, state.lastVote) ∈ cluster.requests)
    (ok : NodeOk cluster.votes cluster.announced me state
      (onlineAfter (cluster.node me) state (cluster.online me))) :
    Invariant
      { cluster.setNode me state with
        responses :=
          { voter := me
            proposer := proposer
            request := state.lastVote
            body :=
              { genNum := state.lastVote.num
                voteOk := true
                lastOnlineIn := state.lastOnlineIn } } :: cluster.responses
        votes :=
          { voter := me
            gen := state.lastVote
            lastOnlineIn := state.lastOnlineIn } :: cluster.votes } := by
  obtain ⟨proposed, isProposed, _, proposedGen⟩ :=
    invariant.history.requests _ sent
  have configured : state.lastVote.configured = Finset.univ := by
    have facts := (invariant.history.voted proposed isProposed).1
    rw [proposedGen] at facts
    exact facts
  have extends_ : Extends cluster
      { cluster.setNode me state with
        responses :=
          { voter := me
            proposer := proposer
            request := state.lastVote
            body :=
              { genNum := state.lastVote.num
                voteOk := true
                lastOnlineIn := state.lastOnlineIn } } :: cluster.responses
        votes :=
          { voter := me
            gen := state.lastVote
            lastOnlineIn := state.lastOnlineIn } :: cluster.votes } :=
    ⟨fun _ => id, List.subset_cons_self _ _, List.subset_cons_self _ _,
      fun _ => id, fun _ => id⟩
  apply invariant.ofStep me
  · exact fun other different => setNode_node_ne cluster state different
  · exact fun other different => setNode_online_ne cluster state different
  · intro vote isVote notMe
    rcases List.mem_cons.mp isVote with isNew | isOld
    · rw [isNew] at notMe
      exact absurd rfl notMe
    · exact isOld
  · exact fun _ => id
  · simpa using ok.grant
  · exact {
      voted := by
        intro vote isVote
        rcases List.mem_cons.mp isVote with isNew | isOld
        · rw [isNew]
          exact ⟨configured, ok.voteNum configured⟩
        · exact invariant.history.voted vote isOld
      unique := unique_grant ok configured invariant.history.unique
      requests := by
        intro request isRequest
        obtain ⟨vote, isVote, facts⟩ :=
          invariant.history.requests request isRequest
        exact ⟨vote, List.mem_cons_of_mem _ isVote, facts⟩
      responses := by
        intro response isResponse
        rcases List.mem_cons.mp isResponse with isNew | isOld
        · rw [isNew]
          exact {
            request := sent
            genNum := rfl
            granted := fun _ => List.mem_cons_self
            gossip := fun reported => absurd rfl reported }
        · exact (invariant.history.responses response isOld).mono extends_
      tours := fun other tour isTour =>
        (invariant.history.tours other tour isTour).mono extends_
      elected := by
        intro pair isElected
        obtain ⟨electable, won⟩ := invariant.history.elected pair isElected
        exact ⟨electable, won.mono (List.subset_cons_self _ _)⟩
      announced := invariant.history.announced }

theorem vote
    (invariant : Invariant cluster)
    (me : Fin n) (env : VoteEnv n) (proposer : Fin n)
    (request : MtmGeneration n)
    (sent : (proposer, request) ∈ cluster.requests) :
    Invariant (effect cluster (.vote me env proposer request)) := by
  change Invariant (Election.vote me env proposer request cluster)
  unfold Election.vote
  have outcome :=
    handleGenVoteRequest_outcome me env proposer request (cluster.node me)
  generalize handleGenVoteRequest me env proposer request
    (cluster.node me) = result at outcome ⊢
  have ok := invariant.node me
  cases outcome with
  | refused response asked refusal reported gossip =>
      simp only [refusal, Bool.false_eq_true, if_false]
      apply invariant.refuse me
      · exact ok.keep rfl rfl rfl rfl
      · exact {
          request := sent
          genNum := asked
          granted := fun isGranted => by
            rw [refusal] at isGranted
            cases isGranted
          gossip := by
            intro reportedGen
            rcases gossip with absent | ⟨sameGen, sameDonors⟩
            · exact absurd absent reportedGen
            · rw [sameGen, sameDonors]
              exact ok.current }
  | confirmed newer already =>
      subst already
      exact invariant.answer me proposer _ sent (ok.keep rfl rfl rfl rfl)
  | voted mode newer fresh configured =>
      exact invariant.answer me proposer
        { cluster.node me with lastVote := request, receiveMode := mode }
        sent (ok.revote request mode (Or.inl fresh))

/-! ## Counting -/

theorem gather
    (invariant : Invariant cluster)
    (me : Fin n) (response : Response n)
    (enabled : Enabled cluster (.gather me response)) :
    Invariant (effect cluster (.gather me response)) := by
  change Invariant (Election.gather me response cluster)
  obtain ⟨sent, waiting⟩ := enabled
  unfold Election.gather
  split
  · next tour isTour =>
      rw [isTour] at waiting
      simp only [Option.any_some, Bool.and_eq_true, Bool.not_eq_true',
        decide_eq_true_eq] at waiting
      obtain ⟨_, addressed, sameNum, inCohort, firstTime⟩ := waiting
      have tourOk := invariant.history.tours me tour isTour
      refine ⟨invariant.node, ?_⟩
      exact {
        voted := invariant.history.voted
        unique := invariant.history.unique
        requests := invariant.history.requests
        responses := fun other isSent =>
          (invariant.history.responses other isSent).mono
            ⟨fun _ => id, fun _ => id, fun _ => id, fun _ => id, fun _ => id⟩
        tours := by
          apply forall_update_some
          · exact {
              voted := tourOk.voted
              member := tourOk.member
              regular := tourOk.regular
              elsewhere := tourOk.elsewhere
              gathered := by
                intro message isMessage
                rcases List.mem_append.mp isMessage with isOld | isNew
                · exact tourOk.gathered message isOld
                · rw [List.mem_singleton] at isNew
                  rw [isNew]
                  exact ⟨response, sent, addressed, rfl, rfl⟩
              polled := by
                intro message isMessage
                rcases List.mem_append.mp isMessage with isOld | isNew
                · exact tourOk.polled message isOld
                · rw [List.mem_singleton] at isNew
                  rw [isNew]
                  exact inCohort
              distinct := by
                simp only [List.map_append, List.map_cons, List.map_nil]
                rw [List.nodup_append]
                refine ⟨tourOk.distinct, List.nodup_singleton _, ?_⟩
                intro voter isVoter last isLast
                obtain ⟨message, isMessage, isSender⟩ :=
                  List.mem_map.mp isVoter
                rw [List.mem_singleton] at isLast
                rw [isLast, ← isSender]
                exact firstTime message isMessage }
          · intro other found isOld
            exact (invariant.history.tours other found isOld).mono
              ⟨fun _ => id, fun _ => id, fun _ => id, fun _ => id,
                fun _ => id⟩
        elected := invariant.history.elected
        announced := invariant.history.announced }
  · exact invariant

/-- Every ballot of a tour is a vote for its candidate. -/
theorem vote_of_ballot
    (invariant : Invariant cluster)
    {me : Fin n} {tour : Tour n}
    (isTour : cluster.tour me = some tour)
    {ballot : Fin n × ℕ}
    (isBallot : ballot ∈ ballots me tour.campaign tour.messages) :
    { voter := ballot.1
      gen := tour.campaign.candidate
      lastOnlineIn := ballot.2 } ∈ cluster.votes := by
  have tourOk := invariant.history.tours me tour isTour
  rcases mem_ballots.mp isBallot with own | ⟨message, member, granted, rfl⟩
  · rw [own]
    exact tourOk.voted
  · obtain ⟨response, sent, addressed, isVoter, isBody⟩ :=
      tourOk.gathered message member
    have responseOk := invariant.history.responses response sent
    have isVote := responseOk.granted (by rw [isBody]; exact granted.2)
    -- the proposer voted for both generations of this number
    obtain ⟨proposed, isProposed, byProposer, proposedGen⟩ :=
      invariant.history.requests _ responseOk.request
    have sameGen : response.request = tour.campaign.candidate := by
      change proposed.gen = response.request at proposedGen
      rw [← proposedGen]
      apply invariant.history.unique proposed isProposed _ tourOk.voted
      · rw [byProposer, addressed]
      · rw [proposedGen, ← responseOk.genNum, isBody]
        exact granted.1
    rw [sameGen, isVoter, isBody] at isVote
    exact isVote

/-- A tour that passes the victory test has won its candidate. -/
theorem won_of_victory
    (invariant : Invariant cluster)
    {me : Fin n} {tour : Tour n}
    (isTour : cluster.tour me = some tour)
    (victory : Victory (tour.tally me)) :
    Won cluster.votes tour.campaign.candidate (tour.tally me).donors := by
  have tourOk := invariant.history.tours me tour isTour
  have foreign : ∀ message ∈ tour.messages, message.1 ≠ me := by
    intro message member isMe
    apply tourOk.elsewhere
    rw [← isMe]
    exact tourOk.polled message member
  have counted := tallyOk_tallyResponses me tour.campaign tour.messages
  refine ⟨(tour.tally me).maxLastOnlineIn, _,
    isMajority_ballots tourOk.distinct foreign victory, ?_, ?_, ?_⟩
  · intro voter isVoter
    rw [List.mem_toFinset] at isVoter
    obtain ⟨ballot, isBallot, isSender⟩ := List.mem_map.mp isVoter
    exact ⟨_, invariant.vote_of_ballot isTour isBallot, isSender, rfl,
      counted.bound ballot isBallot⟩
  · obtain ⟨ballot, isBallot, top⟩ := counted.attained
    refine ⟨ballot.1, (counted.donors ballot.1).mpr ?_⟩
    rw [← top]
    exact isBallot
  · intro donor isDonor
    have isBallot := (counted.donors donor).mp isDonor
    exact ⟨_, invariant.vote_of_ballot isTour isBallot, rfl, rfl, rfl⟩

/-- A tour that was counted is still a tour. -/
theorem counted_tours
    (invariant : Invariant cluster)
    {me : Fin n} {tour : Tour n} (isTour : cluster.tour me = some tour)
    {after : Cluster n} (extends_ : Extends cluster after)
    (isAfter : after.tour =
      Function.update cluster.tour me (some { tour with counted := true })) :
    ∀ other found, after.tour other = some found → TourOk after other found := by
  rw [isAfter]
  have tourOk := (invariant.history.tours me tour isTour).mono extends_
  apply forall_update_some
  · exact ⟨tourOk.voted, tourOk.member, tourOk.regular, tourOk.elsewhere,
      tourOk.gathered, tourOk.polled, tourOk.distinct⟩
  · intro other found isFound
    exact (invariant.history.tours other found isFound).mono extends_

/-- A generation that was won is elected, and announced unless it is old. -/
theorem elect
    (invariant : Invariant cluster)
    {after : Cluster n} {pair : MtmGeneration n × NodeMask n}
    (electable : Electable pair.1) (won : Won cluster.votes pair.1 pair.2)
    (sameVotes : after.votes = cluster.votes)
    (sameRequests : after.requests = cluster.requests)
    (sameResponses : after.responses = cluster.responses)
    (isElected : after.elected = pair :: cluster.elected)
    (isAnnounced : after.announced = cluster.announced ∨
      after.announced = pair :: cluster.announced)
    (tours : Extends cluster after → ∀ other found,
      after.tour other = some found → TourOk after other found) :
    HistoryOk after := by
  have extends_ : Extends cluster after := by
    refine ⟨sameRequests ▸ fun _ => id, sameResponses ▸ fun _ => id,
      sameVotes ▸ fun _ => id, isElected ▸ List.subset_cons_self _ _, ?_⟩
    rcases isAnnounced with same | grown
    · exact same ▸ fun _ => id
    · exact grown ▸ List.subset_cons_self _ _
  constructor
  case voted =>
    rw [sameVotes]
    exact invariant.history.voted
  case unique =>
    rw [sameVotes]
    exact invariant.history.unique
  case requests =>
    rw [sameRequests, sameVotes]
    exact invariant.history.requests
  case responses =>
    rw [sameResponses]
    intro response sent
    exact (invariant.history.responses response sent).mono extends_
  case tours => exact tours extends_
  case elected =>
    rw [isElected, sameVotes]
    intro other member
    rcases List.mem_cons.mp member with rfl | isOld
    · exact ⟨electable, won⟩
    · exact invariant.history.elected other isOld
  case announced =>
    have older : ∀ other ∈ cluster.announced,
        other ∈ after.elected ∨ other = (initialGen n, Finset.univ) := by
      intro other member
      exact (invariant.history.announced other member).imp_left
        fun wasElected => extends_.elected wasElected
    rcases isAnnounced with same | grown
    · rw [same]
      exact older
    · rw [grown]
      intro other member
      rcases List.mem_cons.mp member with rfl | isOld
      · rw [isElected]
        exact Or.inl List.mem_cons_self
      · exact older other isOld

theorem count
    (invariant : Invariant cluster)
    (me : Fin n) :
    Invariant (effect cluster (.count me)) := by
  change Invariant (Election.count me cluster)
  unfold Election.count
  split
  · next tour isTour =>
      have tourOk := invariant.history.tours me tour isTour
      dsimp only
      split
      · next victory =>
          have won := invariant.won_of_victory isTour victory
          have electable : Electable tour.campaign.candidate :=
            ⟨(invariant.history.voted _ tourOk.voted).1, tourOk.regular⟩
          by_cases newer : (cluster.node me).currentGen.num <
              tour.campaign.candidate.num
          · rw [if_pos newer]
            apply invariant.ofStep me
            · exact fun other different =>
                setNode_node_ne _ _ different
            · exact fun other different =>
                setNode_online_ne _ _ different
            · exact fun vote member _ => member
            · exact List.subset_cons_self _ _
            · have announced : NodeOk cluster.votes
                  ((tour.campaign.candidate, (tour.tally me).donors) ::
                    cluster.announced)
                  me (cluster.node me) (cluster.online me) :=
                (invariant.node me).mono (fun vote member _ => member)
                  (List.subset_cons_self _ _)
              have switched := announced.switch tour.campaign.candidate
                (tour.tally me).donors List.mem_cons_self
                (fun _ => electable)
              simpa using switched
            · exact invariant.elect electable won rfl rfl rfl rfl (Or.inr rfl)
                fun extends_ => invariant.counted_tours isTour extends_ rfl
          · rw [if_neg newer]
            have skipped : considerGenSwitch me tour.campaign.candidate
                (tour.tally me).donors (cluster.node me) =
                  cluster.node me := by
              rw [considerGenSwitch, if_pos (not_lt.mp newer)]
            rw [skipped]
            apply invariant.ofStep me
            · exact fun other different =>
                setNode_node_ne _ _ different
            · exact fun other different =>
                setNode_online_ne _ _ different
            · exact fun vote member _ => member
            · exact fun _ => id
            · have kept : NodeOk cluster.votes cluster.announced me
                  (cluster.node me)
                  (onlineAfter (cluster.node me) (cluster.node me)
                    (cluster.online me)) :=
                (invariant.node me).keep rfl rfl rfl rfl
              simpa using kept
            · exact invariant.elect electable won rfl rfl rfl rfl (Or.inl rfl)
                fun extends_ => invariant.counted_tours isTour extends_ rfl
      · refine ⟨invariant.node, ?_⟩
        exact {
          voted := invariant.history.voted
          unique := invariant.history.unique
          requests := invariant.history.requests
          responses := fun response sent =>
            (invariant.history.responses response sent).mono
              ⟨fun _ => id, fun _ => id, fun _ => id, fun _ => id,
                fun _ => id⟩
          tours := invariant.counted_tours isTour
            ⟨fun _ => id, fun _ => id, fun _ => id, fun _ => id,
              fun _ => id⟩ rfl
          elected := invariant.history.elected
          announced := invariant.history.announced }
  · exact invariant

/-- Every action keeps the invariant. -/
theorem step
    (invariant : Invariant cluster)
    (action : Action n)
    (enabled : Enabled cluster action) :
    Invariant (effect cluster action) := by
  cases action with
  | campaign me env => exact invariant.campaign me env
  | vote me env proposer request =>
      exact invariant.vote me env proposer request enabled.2
  | gather me response => exact invariant.gather me response enabled
  | count me => exact invariant.count me
  | finishTour me => exact invariant.finishTour me
  | learn me gen donors => exact invariant.learn me gen donors enabled
  | parallelSafe me gen isRecovery =>
      exact invariant.parallelSafe me gen isRecovery
  | logParallelSafe me => exact invariant.logParallelSafe me
  | crash me => exact invariant.crash me

end Invariant

theorem invariant_initialCluster (n : ℕ) : Invariant (initialCluster n) where
  node := by
    intro me
    have isNonempty : (Finset.univ : NodeMask n) ≠ ∅ :=
      Finset.nonempty_iff_ne_empty.mp ⟨me, Finset.mem_univ me⟩
    exact {
      ordered := ordered_mtmStateCreate n
      positive := Nat.one_pos
      voteNum := fun isConfigured => absurd isConfigured.symm isNonempty
      granted := by intro vote member; cases member
      promise := by intro vote member; cases member
      reported := by intro vote member; cases member
      onlineBelow := by
        intro num member
        exact le_of_eq (List.mem_singleton.mp member)
      onlineLast := List.mem_singleton_self _
      onlineIn := by
        intro num member
        refine ⟨initialGen n, Finset.univ, List.mem_singleton_self _,
          (List.mem_singleton.mp member).symm, Finset.mem_univ me, ?_⟩
        have positive : 0 < n := me.pos
        unfold IsMajority initialGen
        rw [Finset.card_univ, Fintype.card_fin]
        omega
      current := List.mem_singleton_self _ }
  history := {
    voted := by intro vote member; cases member
    unique := by intro vote member; cases member
    requests := by intro request member; cases member
    responses := by intro response member; cases member
    tours := by intro me tour isTour; cases isTour
    elected := by intro pair member; cases member
    announced := fun pair member => Or.inr (List.mem_singleton.mp member) }

/-- The invariant holds in every reachable state of the election protocol. -/
theorem invariant_of_reachable
    {allowed : Cluster n → Action n → Prop} {cluster : Cluster n}
    (reachable : (machine n).Reachable allowed cluster) :
    Invariant cluster := by
  refine Machine.Reachable.invariant (invariant_initialCluster n) ?_
    reachable
  intro current action invariant enabled _
  exact invariant.step action enabled

/-- Histories grow along runs. -/
theorem extends_of_run
    {allowed : Cluster n → Action n → Prop} {first last : Cluster n}
    (run : (machine n).Run allowed first last) :
    Extends first last := by
  induction run with
  | refl => exact Extends.refl _
  | step prior enabled permitted inductionHypothesis =>
      exact inductionHypothesis.trans (extends_effect _ _)

end Election
end Multimaster
