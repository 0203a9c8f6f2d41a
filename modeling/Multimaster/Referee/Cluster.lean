import Multimaster.Referee.Defs
import Multimaster.Election.Progress
import Mathlib.Data.Fintype.Powerset
import Mathlib.Tactic.FinCases

/-!
# Generations of two nodes

Every generation of a cluster of two nodes is of both nodes or of a single one.
The second kind is announced only after its node has switched to it, so the
node gets online in it by its own grant and in no other way.
-/

namespace Multimaster
namespace Referee

open Generation

/-! ## What a step does to a node -/

/-- The changes of the generation state of a node, given the generations it may
switch to. -/
inductive NodeStep
    (me : Fin 2) (Source : MtmGeneration 2 → Prop)
    (before after : MtmState 2) : Prop
  | kept
      (currentGen : after.currentGen = before.currentGen)
      (lastOnlineIn : after.lastOnlineIn = before.lastOnlineIn)
  | switched
      (known : Source after.currentGen)
      (newer : before.currentGen.num < after.currentGen.num)
      (lastOnlineIn : after.lastOnlineIn = before.lastOnlineIn ∨
        (after.lastOnlineIn = after.currentGen.num ∧
          me ∈ after.currentGen.members))
  | recovered
      (currentGen : after.currentGen = before.currentGen)
      (lastOnlineIn : after.lastOnlineIn = before.currentGen.num)
      (quorum : Quorum before.currentGen.configured.card
        before.currentGen.members.card)

variable {me : Fin 2} {Source : MtmGeneration 2 → Prop}
variable {before after : MtmState 2}

theorem NodeStep.currentGen_le
    (step : NodeStep me Source before after) :
    before.currentGen.num ≤ after.currentGen.num := by
  cases step with
  | kept currentGen _ => rw [currentGen]
  | switched _ newer _ => exact newer.le
  | recovered currentGen _ _ => rw [currentGen]

/-- A generation changes only together with its number. -/
theorem NodeStep.currentGen_eq_or_lt
    (step : NodeStep me Source before after) :
    after.currentGen = before.currentGen ∨
      before.currentGen.num < after.currentGen.num := by
  cases step with
  | kept currentGen _ => exact Or.inl currentGen
  | switched _ newer _ => exact Or.inr newer
  | recovered currentGen _ _ => exact Or.inl currentGen

/-- A node that gets online does so in its generation. -/
theorem NodeStep.lastOnlineIn
    (step : NodeStep me Source before after) :
    after.lastOnlineIn = before.lastOnlineIn ∨
      after.lastOnlineIn = after.currentGen.num := by
  cases step with
  | kept _ lastOnlineIn => exact Or.inl lastOnlineIn
  | switched _ _ lastOnlineIn => exact lastOnlineIn.imp_right And.left
  | recovered currentGen lastOnlineIn _ =>
      exact Or.inr (by rw [lastOnlineIn, currentGen])

theorem NodeStep.lastOnlineIn_le
    (step : NodeStep me Source before after)
    (bounded : before.lastOnlineIn ≤ before.currentGen.num) :
    after.lastOnlineIn ≤ after.currentGen.num := by
  cases step.lastOnlineIn with
  | inl same =>
      rw [same]
      exact bounded.trans step.currentGen_le
  | inr isCurrent => exact isCurrent.le

/-- A node that is online and did not just get online was online before. -/
theorem NodeStep.currentGen_of_online
    (step : NodeStep me Source before after)
    (bounded : before.lastOnlineIn ≤ before.currentGen.num)
    (same : after.lastOnlineIn = before.lastOnlineIn)
    (isOnline : after.lastOnlineIn = after.currentGen.num) :
    after.currentGen = before.currentGen := by
  apply step.currentGen_eq_or_lt.resolve_right
  intro newer
  omega

theorem considerGenSwitch_reaches
    (gen : MtmGeneration 2) (donors : NodeMask 2) :
    gen.num ≤ (considerGenSwitch me gen donors before).currentGen.num := by
  have outcome := considerGenSwitch_outcome me gen donors before
  generalize considerGenSwitch me gen donors before = after at outcome ⊢
  cases outcome with
  | skipped stale => exact stale
  | idle mode newer => exact le_rfl
  | online newer member quorum unpromised donor => exact le_rfl

theorem considerGenSwitch_currentGen
    (gen : MtmGeneration 2) (donors : NodeMask 2) :
    (considerGenSwitch me gen donors before).currentGen = before.currentGen ∨
      (considerGenSwitch me gen donors before).currentGen = gen := by
  have outcome := considerGenSwitch_outcome me gen donors before
  generalize considerGenSwitch me gen donors before = after at outcome ⊢
  cases outcome with
  | skipped stale => exact Or.inl rfl
  | idle mode newer => exact Or.inr rfl
  | online newer member quorum unpromised donor => exact Or.inr rfl

/-- A switch in which the node gets online. -/
theorem considerGenSwitch_online
    {gen : MtmGeneration 2} {donors : NodeMask 2}
    (changed : (considerGenSwitch me gen donors before).lastOnlineIn ≠
      before.lastOnlineIn) :
    (considerGenSwitch me gen donors before).currentGen = gen ∧
      before.currentGen.num < gen.num := by
  have outcome := considerGenSwitch_outcome me gen donors before
  generalize considerGenSwitch me gen donors before = after
    at outcome changed ⊢
  cases outcome with
  | skipped stale => exact absurd rfl changed
  | idle mode newer => exact absurd rfl changed
  | online newer member quorum unpromised donor => exact ⟨rfl, newer⟩

theorem nodeStep_considerGenSwitch
    (gen : MtmGeneration 2) (donors : NodeMask 2)
    (known : Source gen) :
    NodeStep me Source before (considerGenSwitch me gen donors before) := by
  have outcome := considerGenSwitch_outcome me gen donors before
  generalize considerGenSwitch me gen donors before = after at outcome ⊢
  cases outcome with
  | skipped stale => exact .kept rfl rfl
  | idle mode newer => exact .switched known newer (Or.inl rfl)
  | online newer member quorum unpromised donor =>
      exact .switched known newer (Or.inr ⟨rfl, member⟩)

/-- The generations a node may switch to in a step of the election protocol:
those it learns of and the candidate of its own tour. -/
def Learnable
    (cluster : Election.Cluster 2) (me : Fin 2) (gen : MtmGeneration 2) :
    Prop :=
  (∃ donors, (gen, donors) ∈ cluster.announced) ∨
    ∃ tour, cluster.tour me = some tour ∧ tour.campaign.candidate = gen

/-- The actor of a step of the election protocol. -/
theorem nodeStep_nodeAfter
    (cluster : Election.Cluster 2) (action : Election.Action 2)
    (enabled : Election.Enabled cluster action) :
    NodeStep action.actor (Learnable cluster action.actor)
      (cluster.node action.actor) (Election.nodeAfter cluster action) := by
  cases action with
  | campaign me env =>
      have outcome := campaignMyself_outcome me env (cluster.node me)
      dsimp only [Election.Action.actor, Election.nodeAfter]
      generalize campaignMyself me env (cluster.node me) = result
        at outcome ⊢
      cases outcome <;> exact .kept rfl rfl
  | vote me env proposer request =>
      have outcome := handleGenVoteRequest_outcome me env proposer request
        (cluster.node me)
      dsimp only [Election.Action.actor, Election.nodeAfter]
      generalize handleGenVoteRequest me env proposer request
        (cluster.node me) = answer at outcome ⊢
      cases outcome <;> exact .kept rfl rfl
  | gather me response => exact .kept rfl rfl
  | count me =>
      dsimp only [Election.Action.actor, Election.nodeAfter]
      split
      · next tour isTour =>
          split
          · exact nodeStep_considerGenSwitch _ _ (Or.inr ⟨tour, isTour, rfl⟩)
          · exact .kept rfl rfl
      · exact .kept rfl rfl
  | finishTour me =>
      dsimp only [Election.Action.actor, Election.nodeAfter]
      split
      · unfold bumpLastVote
        split <;> exact .kept rfl rfl
      · exact .kept rfl rfl
  | learn me gen donors =>
      exact nodeStep_considerGenSwitch gen donors (Or.inl ⟨donors, enabled⟩)
  | parallelSafe me gen isRecovery =>
      dsimp only [Election.Action.actor, Election.nodeAfter]
      rcases parallelSafe_outcome me gen isRecovery (cluster.node me) with
        unchanged | ⟨_, _, _, _, quorum, _, changed⟩
      · rw [unchanged]
        exact .kept rfl rfl
      · rw [changed]
        exact .recovered rfl rfl quorum
  | logParallelSafe me => exact .kept rfl rfl
  | crash me => exact .kept rfl rfl

/-- Any node in a step of the election protocol. -/
theorem nodeStep_effect
    (cluster : Election.Cluster 2) (action : Election.Action 2)
    (enabled : Election.Enabled cluster action) (me : Fin 2) :
    NodeStep me (Learnable cluster me) (cluster.node me)
      ((Election.effect cluster action).node me) := by
  by_cases isActor : me = action.actor
  · subst isActor
    rw [(Election.effect_node_online cluster action).1,
      Election.setNode_node_self]
    exact nodeStep_nodeAfter cluster action enabled
  · rw [Election.effect_node_ne cluster action isActor]
    exact .kept rfl rfl

/-- The generations announced by a step of the election protocol. -/
theorem mem_effect_announced
    {cluster : Election.Cluster 2} {action : Election.Action 2}
    {pair : MtmGeneration 2 × NodeMask 2}
    (isPair : pair ∈ (Election.effect cluster action).announced) :
    pair ∈ cluster.announced ∨
      ∃ me tour, cluster.tour me = some tour ∧
        tour.campaign.candidate = pair.1 := by
  cases action with
  | count me =>
      simp only [Election.effect] at isPair
      cases isTour : cluster.tour me with
      | none => exact Or.inl (by simpa [Election.count, isTour] using isPair)
      | some tour =>
          by_cases victory : Victory (tour.tally me)
          · simp only [Election.count, isTour, if_pos victory] at isPair
            split at isPair
            · rcases List.mem_cons.mp isPair with rfl | known
              · exact Or.inr ⟨me, tour, isTour, rfl⟩
              · exact Or.inl known
            · exact Or.inl isPair
          · simp only [Election.count, isTour, if_neg victory] at isPair
            exact Or.inl isPair
  | campaign me env =>
      left
      simp only [Election.effect, Election.campaign] at isPair
      split at isPair
      · exact isPair
      · split at isPair <;> exact isPair
  | gather me response =>
      left
      simp only [Election.effect, Election.gather] at isPair
      split at isPair <;> exact isPair
  | finishTour me =>
      left
      simp only [Election.effect, Election.finishTour] at isPair
      split at isPair <;> exact isPair
  | vote me env proposer request => exact Or.inl isPair
  | learn me gen donors => exact Or.inl isPair
  | parallelSafe me gen isRecovery => exact Or.inl isPair
  | logParallelSafe me => exact Or.inl isPair
  | crash me => exact Or.inl isPair

/-- A set of nodes with a member is a single node or all of them. -/
theorem members_eq
    {members : NodeMask 2}
    (member : me ∈ members) :
    members = {me} ∨ members = Finset.univ := by
  have all : ∀ (node : Fin 2) (mask : NodeMask 2), node ∈ mask →
      mask = {node} ∨ mask = Finset.univ := by
    decide
  exact all me members member

theorem isRefereeGen_singleton (me : Fin 2) :
    IsRefereeGen {me} (Finset.univ : NodeMask 2) := by
  revert me
  decide

theorem univ_ne_singleton (me : Fin 2) :
    (Finset.univ : NodeMask 2) ≠ {me} := by
  revert me
  decide

theorem not_quorum_singleton (me : Fin 2) :
    ¬ Quorum (Finset.univ : NodeMask 2).card ({me} : NodeMask 2).card := by
  decide +revert

/-- A generation of both nodes. -/
structure Full (gen : MtmGeneration 2) : Prop where
  configured : gen.configured = Finset.univ
  members : gen.members = Finset.univ

/-- What a node that is a member of a candidate generation campaigns for. -/
theorem full_of_not_isRefereeGen
    {gen : MtmGeneration 2}
    (member : me ∈ gen.members)
    (configured : gen.configured = Finset.univ)
    (regular : ¬ IsRefereeGen gen.members gen.configured) :
    Full gen := by
  refine ⟨configured, ?_⟩
  rcases members_eq member with single | both
  · rw [single, configured] at regular
    exact absurd (isRefereeGen_singleton me) regular
  · exact both

/-- The candidate of `CampaignMyself`. -/
theorem campaignMyself_candidate
    {env : CampaignEnv 2} {state : MtmState 2} {campaign : Campaign 2}
    (isCampaign : (campaignMyself me env state).2 = some campaign) :
    me ∈ campaign.candidate.members ∧
      campaign.candidate.configured = Finset.univ := by
  have outcome := campaignMyself_outcome me env state
  generalize campaignMyself me env state = result at outcome isCampaign
  cases outcome with
  | declined mode => cases isCampaign
  | reused mode cohort member configured elsewhere different =>
      cases isCampaign
      exact ⟨member, configured⟩
  | voted mode cohort candidate fresh member configured elsewhere =>
      cases isCampaign
      exact ⟨member, configured⟩

/-- Tours are for generations of both nodes. -/
theorem full_of_effect_tour
    {cluster : Election.Cluster 2} {action : Election.Action 2}
    (tours : ∀ me tour, cluster.tour me = some tour →
      Full tour.campaign.candidate)
    (me : Fin 2) (tour : Election.Tour 2)
    (isTour : (Election.effect cluster action).tour me = some tour) :
    Full tour.campaign.candidate := by
  -- The steps that replace the tour of one node.
  have replaced : ∀ (actor : Fin 2) (replacement : Option (Election.Tour 2)),
      (∀ tour, replacement = some tour → Full tour.campaign.candidate) →
      Function.update cluster.tour actor replacement me = some tour →
      Full tour.campaign.candidate := by
    intro actor replacement ok isTour
    by_cases same : me = actor
    · subst same
      rw [Function.update_self] at isTour
      exact ok tour isTour
    · rw [Function.update_of_ne same] at isTour
      exact tours me tour isTour
  cases action with
  | campaign actor env =>
      simp only [Election.effect, Election.campaign] at isTour
      split at isTour
      · exact tours me tour isTour
      · next campaign isCampaign =>
          obtain ⟨member, configured⟩ := campaignMyself_candidate isCampaign
          split at isTour
          · exact tours me tour isTour
          · next regular =>
              refine replaced actor _ ?_ isTour
              rintro started ⟨rfl⟩
              exact full_of_not_isRefereeGen member configured regular
  | gather actor response =>
      simp only [Election.effect, Election.gather] at isTour
      split at isTour
      · next gathering isGathering =>
          refine replaced actor _ ?_ isTour
          rintro gathered ⟨rfl⟩
          exact tours actor gathering isGathering
      · exact tours me tour isTour
  | count actor =>
      simp only [Election.effect, Election.count] at isTour
      split at isTour
      · next counting isCounting =>
          have counted : Function.update cluster.tour actor
              (some { counting with counted := true }) me = some tour := by
            split at isTour <;> exact isTour
          refine replaced actor _ ?_ counted
          rintro finished ⟨rfl⟩
          exact tours actor counting isCounting
      · exact tours me tour isTour
  | finishTour actor =>
      simp only [Election.effect, Election.finishTour] at isTour
      split at isTour
      · refine replaced actor none ?_ isTour
        rintro finished ⟨⟩
      · exact tours me tour isTour
  | crash actor =>
      refine replaced actor none ?_ isTour
      rintro finished ⟨⟩
  | vote actor env proposer request => exact tours me tour isTour
  | learn actor gen donors => exact tours me tour isTour
  | parallelSafe actor gen isRecovery => exact tours me tour isTour
  | logParallelSafe actor => exact tours me tour isTour

theorem mem_newOnline
    {before after : Election.Cluster 2} {me : Fin 2}
    {gen : MtmGeneration 2} :
    (me, gen) ∈ newOnline before after ↔
      (after.node me).lastOnlineIn ≠ (before.node me).lastOnlineIn ∧
        (after.node me).currentGen = gen := by
  rw [newOnline, List.mem_filterMap]
  constructor
  · rintro ⟨node, _, isNew⟩
    split at isNew
    · cases isNew
    · next changed =>
        cases isNew
        exact ⟨changed, rfl⟩
  · rintro ⟨changed, rfl⟩
    exact ⟨me, List.mem_finRange me, if_neg changed⟩

/-! ## The invariant of the generations -/

/-- A generation of both nodes, or of one that has switched to it or beyond. -/
def Known (cluster : Election.Cluster 2) (gen : MtmGeneration 2) : Prop :=
  gen.configured = Finset.univ ∧
    (gen.members = Finset.univ ∨
      ∃ owner, gen.members = {owner} ∧
        gen.num ≤ (cluster.node owner).currentGen.num)

theorem Known.mono
    {before after : Election.Cluster 2} {gen : MtmGeneration 2}
    (known : Known before gen)
    (grows : ∀ me, (before.node me).currentGen.num ≤
      (after.node me).currentGen.num) :
    Known after gen := by
  refine ⟨known.1, known.2.imp_right ?_⟩
  rintro ⟨owner, single, reached⟩
  exact ⟨owner, single, reached.trans (grows owner)⟩

theorem Full.known
    {gen : MtmGeneration 2} (full : Full gen) (cluster : Election.Cluster 2) :
    Known cluster gen :=
  ⟨full.configured, Or.inl full.members⟩

/-- A node gets online in a generation of both nodes, or by a switch to one of
its own. -/
theorem NodeStep.online_cases
    {cluster : Election.Cluster 2}
    (step : NodeStep me Source before after)
    (known : Known cluster before.currentGen)
    (changed : after.lastOnlineIn ≠ before.lastOnlineIn) :
    after.currentGen.members = Finset.univ ∨
      (after.currentGen.members = {me} ∧ Source after.currentGen ∧
        before.currentGen.num < after.currentGen.num) := by
  cases step with
  | kept _ same => exact absurd same changed
  | switched isKnown newer online =>
      have member := (online.resolve_left changed).2
      rcases members_eq member with single | both
      · exact Or.inr ⟨single, isKnown, newer⟩
      · exact Or.inl both
  | recovered currentGen _ quorum =>
      -- A single node is no quorum of two.
      left
      rw [currentGen]
      obtain ⟨configured, both | ⟨owner, single, _⟩⟩ := known
      · exact both
      · rw [configured, single] at quorum
        exact absurd quorum (not_quorum_singleton owner)

/-- What holds of the generations of the two nodes. -/
structure ClusterOk
    (cluster : Election.Cluster 2) (won : List Grant)
    (online : List (Fin 2 × MtmGeneration 2)) : Prop where
  tours : ∀ me tour, cluster.tour me = some tour →
    Full tour.campaign.candidate
  announced : ∀ pair ∈ cluster.announced, Known cluster pair.1
  current : ∀ me, Known cluster (cluster.node me).currentGen
  bounded : ∀ me,
    (cluster.node me).lastOnlineIn ≤ (cluster.node me).currentGen.num
  /-- What was recorded is not ahead of the node. -/
  reached : ∀ me gen, (me, gen) ∈ online →
    gen.num ≤ (cluster.node me).currentGen.num
  /-- A node that is online is recorded. -/
  recorded : ∀ me,
    (cluster.node me).lastOnlineIn = (cluster.node me).currentGen.num →
      (me, (cluster.node me).currentGen) ∈ online
  numbers : ∀ me, ∀ num ∈ cluster.online me,
    ∃ gen, (me, gen) ∈ online ∧ gen.num = num
  /-- A node gets online in a generation of its own by a grant only. -/
  granted : ∀ me gen, (me, gen) ∈ online →
    gen.members = Finset.univ ∨
      (gen.members = {me} ∧
        ∃ grant ∈ won, grant.node = me ∧ grant.num = gen.num)
  /-- The generation of a grant is the current one or left behind. -/
  passed : ∀ grant ∈ won,
    grant.num < (cluster.node grant.node).currentGen.num ∨
      (grant.num = (cluster.node grant.node).currentGen.num ∧
        (cluster.node grant.node).currentGen.members = {grant.node})

/-- The rule for the invariant: all nodes make steps to generations that are
known afterwards, and a node that gets online in a generation of its own is
granted it. -/
theorem ClusterOk.next
    {cluster after : Election.Cluster 2} {won wonAfter : List Grant}
    {online : List (Fin 2 × MtmGeneration 2)}
    (ok : ClusterOk cluster won online)
    {Source : Fin 2 → MtmGeneration 2 → Prop}
    (steps : ∀ me, NodeStep me (Source me) (cluster.node me) (after.node me))
    (known : ∀ me gen, Source me gen → gen = (after.node me).currentGen →
      Known after gen)
    (tours : ∀ me tour, after.tour me = some tour →
      Full tour.campaign.candidate)
    (announced : ∀ pair ∈ after.announced, Known after pair.1)
    (numbers : ∀ me, ∀ num ∈ after.online me, num ∈ cluster.online me ∨
      (num = (after.node me).lastOnlineIn ∧
        (after.node me).lastOnlineIn ≠ (cluster.node me).lastOnlineIn))
    (keepsWon : won ⊆ wonAfter)
    (granted : ∀ me, Source me (after.node me).currentGen →
      (cluster.node me).currentGen.num < (after.node me).currentGen.num →
      (after.node me).lastOnlineIn ≠ (cluster.node me).lastOnlineIn →
      (after.node me).currentGen.members = {me} →
      ∃ grant ∈ wonAfter, grant.node = me ∧
        grant.num = (after.node me).currentGen.num)
    (passed : ∀ grant ∈ wonAfter, grant ∈ won ∨
      (grant.num = (after.node grant.node).currentGen.num ∧
        (after.node grant.node).currentGen.members = {grant.node})) :
    ClusterOk after wonAfter (newOnline cluster after ++ online) := by
  have grows : ∀ me, (cluster.node me).currentGen.num ≤
      (after.node me).currentGen.num := fun me => (steps me).currentGen_le
  have current : ∀ me, Known after (after.node me).currentGen := by
    intro me
    cases steps me with
    | kept currentGen _ =>
        rw [currentGen]
        exact (ok.current me).mono grows
    | switched isKnown _ _ => exact known me _ isKnown rfl
    | recovered currentGen _ _ =>
        rw [currentGen]
        exact (ok.current me).mono grows
  refine {
    tours := tours
    announced := announced
    current := current
    bounded := ?_
    reached := ?_
    recorded := ?_
    numbers := ?_
    granted := ?_
    passed := ?_ }
  · intro me
    exact (steps me).lastOnlineIn_le (ok.bounded me)
  · intro me gen isOnline
    rcases List.mem_append.mp isOnline with isNew | isOld
    · rw [(mem_newOnline.mp isNew).2]
    · exact (ok.reached me gen isOld).trans (grows me)
  · intro me isOnline
    by_cases same :
        (after.node me).lastOnlineIn = (cluster.node me).lastOnlineIn
    · have unchanged :=
        (steps me).currentGen_of_online (ok.bounded me) same isOnline
      rw [unchanged] at isOnline ⊢
      exact List.mem_append_right _ (ok.recorded me (same ▸ isOnline))
    · exact List.mem_append_left _ (mem_newOnline.mpr ⟨same, rfl⟩)
  · intro me num isNum
    rcases numbers me num isNum with isOld | ⟨rfl, changed⟩
    · obtain ⟨gen, isOnline, isNum⟩ := ok.numbers me num isOld
      exact ⟨gen, List.mem_append_right _ isOnline, isNum⟩
    · refine ⟨(after.node me).currentGen,
        List.mem_append_left _ (mem_newOnline.mpr ⟨changed, rfl⟩), ?_⟩
      exact ((steps me).lastOnlineIn.resolve_left changed).symm
  · intro me gen isOnline
    rcases List.mem_append.mp isOnline with isNew | isOld
    · obtain ⟨changed, rfl⟩ := mem_newOnline.mp isNew
      apply ((steps me).online_cases (ok.current me) changed).imp_right
      rintro ⟨single, isKnown, newer⟩
      exact ⟨single, granted me isKnown newer changed single⟩
    · refine (ok.granted me gen isOld).imp_right ?_
      rintro ⟨single, grant, isGrant, same⟩
      exact ⟨single, grant, keepsWon isGrant, same⟩
  · intro grant isGrant
    rcases passed grant isGrant with isOld | isCurrent
    · rcases (steps grant.node).currentGen_eq_or_lt with same | newer
      · rw [same]
        exact ok.passed grant isOld
      · left
        rcases ok.passed grant isOld with before | ⟨isCurrent, _⟩ <;> omega
    · exact Or.inr isCurrent

/-- A generation of the node itself is not news to it. -/
theorem ClusterOk.members_ne_singleton
    {cluster : Election.Cluster 2} {won : List Grant}
    {online : List (Fin 2 × MtmGeneration 2)}
    (ok : ClusterOk cluster won online)
    {gen : MtmGeneration 2}
    (learnable : Learnable cluster me gen)
    (newer : (cluster.node me).currentGen.num < gen.num) :
    gen.members ≠ {me} := by
  intro single
  cases learnable with
  | inl announced =>
      obtain ⟨donors, isPair⟩ := announced
      obtain ⟨_, both | ⟨owner, isOwner, reached⟩⟩ := ok.announced _ isPair
      · rw [both] at single
        exact absurd single (univ_ne_singleton me)
      · rw [isOwner, Finset.singleton_inj] at single
        subst single
        exact absurd reached (not_le.mpr newer)
  | inr toured =>
      obtain ⟨tour, isTour, same⟩ := toured
      have both := (ok.tours me tour isTour).members
      rw [same] at both
      rw [both] at single
      exact absurd single (univ_ne_singleton me)

/-- Steps of the election protocol keep the invariant. -/
theorem ClusterOk.election
    {cluster : Election.Cluster 2} {won : List Grant}
    {online : List (Fin 2 × MtmGeneration 2)}
    (ok : ClusterOk cluster won online)
    {action : Election.Action 2}
    (enabled : Election.Enabled cluster action) :
    ClusterOk (Election.effect cluster action) won
      (newOnline cluster (Election.effect cluster action) ++ online) := by
  have steps := nodeStep_effect cluster action enabled
  have grows : ∀ me, (cluster.node me).currentGen.num ≤
      ((Election.effect cluster action).node me).currentGen.num :=
    fun me => (steps me).currentGen_le
  refine ok.next steps ?_ (fun me tour => full_of_effect_tour ok.tours me tour)
    ?_ (fun me num => Election.mem_effect_online.mp) (List.Subset.refl won)
    ?_ (fun grant isGrant => Or.inl isGrant)
  · rintro me gen (⟨donors, isPair⟩ | ⟨tour, isTour, rfl⟩) _
    · exact (ok.announced _ isPair).mono grows
    · exact (ok.tours me tour isTour).known _
  · intro pair isPair
    rcases mem_effect_announced isPair with isOld | ⟨me, tour, isTour, same⟩
    · exact (ok.announced pair isOld).mono grows
    · rw [← same]
      exact (ok.tours me tour isTour).known _
  · intro me learnable newer _ single
    exact absurd single (ok.members_ne_singleton learnable newer)

/-- The switch to a granted generation keeps the invariant. -/
theorem ClusterOk.switch
    {cluster : Election.Cluster 2} {won : List Grant}
    {online : List (Fin 2 × MtmGeneration 2)}
    (ok : ClusterOk cluster won online)
    {candidate : MtmGeneration 2} (time : ℕ)
    (configured : candidate.configured = Finset.univ)
    (single : candidate.members = {me})
    {switched : MtmState 2}
    (isSwitched :
      switched = considerGenSwitch me candidate {me} (cluster.node me))
    {after : Election.Cluster 2}
    (isAfter : after = { cluster.setNode me switched with
      announced :=
        if (cluster.node me).currentGen.num < candidate.num then
          (candidate, {me}) :: cluster.announced
        else cluster.announced }) :
    ClusterOk after
      (if switched.lastOnlineIn = (cluster.node me).lastOnlineIn then won
      else ⟨me, candidate.num, time⟩ :: won)
      (newOnline cluster after ++ online) := by
  have atNode : after.node me = switched := by
    rw [isAfter]
    exact Election.setNode_node_self cluster me switched
  have elsewhere : ∀ other, other ≠ me →
      after.node other = cluster.node other := by
    intro other different
    rw [isAfter]
    exact Election.setNode_node_ne cluster switched different
  have steps : ∀ other, NodeStep other (fun gen => other = me ∧ gen = candidate)
      (cluster.node other) (after.node other) := by
    intro other
    by_cases same : other = me
    · subst same
      rw [atNode, isSwitched]
      exact nodeStep_considerGenSwitch candidate {other} ⟨rfl, rfl⟩
    · rw [elsewhere other same]
      exact .kept rfl rfl
  have grows : ∀ other, (cluster.node other).currentGen.num ≤
      (after.node other).currentGen.num :=
    fun other => (steps other).currentGen_le
  have reaches : candidate.num ≤ (after.node me).currentGen.num := by
    rw [atNode, isSwitched]
    exact considerGenSwitch_reaches candidate {me}
  have known : Known after candidate :=
    ⟨configured, Or.inr ⟨me, single, reaches⟩⟩
  refine ok.next steps ?_ ?_ ?_ ?_ ?_ ?_ ?_
  · rintro other gen ⟨_, rfl⟩ _
    exact known
  · intro other tour isTour
    rw [isAfter] at isTour
    exact ok.tours other tour isTour
  · intro pair isPair
    rw [isAfter] at isPair
    dsimp only at isPair
    split at isPair
    · rcases List.mem_cons.mp isPair with rfl | isOld
      · exact known
      · exact (ok.announced pair isOld).mono grows
    · exact (ok.announced pair isPair).mono grows
  · intro other num isNum
    have isNum : num ∈ (cluster.setNode me switched).online other := by
      rw [isAfter] at isNum
      exact isNum
    rcases Election.mem_setNode_online.mp isNum with isOld | ⟨rfl, rfl, changed⟩
    · exact Or.inl isOld
    · rw [atNode]
      exact Or.inr ⟨rfl, changed⟩
  · split
    · exact List.Subset.refl won
    · exact List.subset_cons_self _ won
  · rintro other ⟨rfl, same⟩ _ changed _
    rw [atNode] at changed same ⊢
    rw [if_neg changed]
    exact ⟨_, List.mem_cons_self, rfl, by rw [same]⟩
  · intro grant isGrant
    split at isGrant
    · exact Or.inl isGrant
    · next changed =>
        rcases List.mem_cons.mp isGrant with rfl | isOld
        · right
          rw [isSwitched] at changed
          dsimp only
          rw [atNode, isSwitched, (considerGenSwitch_online changed).1]
          exact ⟨rfl, single⟩
        · exact Or.inl isOld

theorem clusterOk_initialWorld :
    ClusterOk initialWorld.cluster initialWorld.won initialWorld.online where
  tours := fun _ _ isTour => by cases isTour
  announced := fun pair isPair => by
    rw [List.mem_singleton.mp isPair]
    exact ⟨rfl, Or.inl rfl⟩
  current := fun _ => ⟨rfl, Or.inl rfl⟩
  bounded := fun _ => le_rfl
  reached := fun me gen isOnline => by
    simp only [initialWorld, List.mem_cons, Prod.mk.injEq, List.not_mem_nil,
      or_false] at isOnline
    rcases isOnline with ⟨rfl, rfl⟩ | ⟨rfl, rfl⟩ <;> exact le_rfl
  recorded := fun me _ => by
    fin_cases me
    · exact List.mem_cons_self
    · exact List.mem_cons_of_mem _ List.mem_cons_self
  numbers := fun me num isNum => by
    rw [List.mem_singleton.mp isNum]
    fin_cases me
    · exact ⟨initialGen 2, List.mem_cons_self, rfl⟩
    · exact ⟨initialGen 2, List.mem_cons_of_mem _ List.mem_cons_self, rfl⟩
  granted := fun me gen isOnline => by
    simp only [initialWorld, List.mem_cons, Prod.mk.injEq, List.not_mem_nil,
      or_false] at isOnline
    rcases isOnline with ⟨rfl, rfl⟩ | ⟨rfl, rfl⟩ <;> exact Or.inl rfl
  passed := fun _ isGrant => by cases isGrant

end Referee
end Multimaster
