import Multimaster.Referee.SplitBrain

/-!
# Numbers of referee grants

The requests of a node are for growing numbers, and it gets into no generation
of its own up to a number it has named in a `delete`, provided that
`CampaignMyself` does not reuse a vote after the referee was told of its number.
-/

namespace Multimaster
namespace Referee

open Generation

/-- What a node has to do with generations of its own. -/
inductive Event
  /-- It sends a statement to the referee. -/
  | sent (sql : Sql)
  /-- It gets into the generation of the number. -/
  | entered (genNum : ℕ)
  deriving DecidableEq

/-- The order of two events of a node: it never repeats a request with the same
number, and a `delete` is for numbers that it is done with. -/
def Event.Precedes : Event → Event → Prop
  | .sent (.requestGrant _ genNum), .sent (.requestGrant _ later) =>
      genNum < later
  | .sent (.clearGrant _ _ myLastVoteNum), .entered genNum =>
      myLastVoteNum < genNum
  | _, _ => True

/-- No number of a grant is used twice. -/
def UsedOnce (events : List Event) : Prop :=
  events.Pairwise Event.Precedes

/-- The number of the node itself that a statement names. -/
def Sql.num : Sql → ℕ
  | .requestGrant _ genNum => genNum
  | .clearGrant _ _ myLastVoteNum => myLastVoteNum

/-- The referee was told of the number. -/
def Event.Names (num : ℕ) : Event → Prop
  | .sent sql => sql.num = num
  | .entered _ => False

instance (num : ℕ) (event : Event) : Decidable (event.Names num) :=
  match event with
  | .sent _ => inferInstanceAs (Decidable (_ = _))
  | .entered _ => inferInstanceAs (Decidable False)

/-- The statement a node sends in a step. -/
def sent (world : World) (action : Action) (me : Fin 2) : Option Sql :=
  match action with
  | .request node | .clear node =>
      if node = me then ((step world action).campaigner me).statement me
      else none
  | _ => none

/-- The number of the generation of its own that a node gets into. -/
def entered (before after : Election.Cluster 2) (me : Fin 2) : Option ℕ :=
  let gen := (after.node me).currentGen
  if gen ≠ (before.node me).currentGen ∧ me ∈ gen.members ∧
      IsRefereeGen gen.members gen.configured then some gen.num
  else none

/-- The events of a node in a step. -/
def emitted (world : World) (action : Action) (me : Fin 2) : List Event :=
  (sent world action me).toList.map .sent ++
    (entered world.cluster (effect world action).cluster me).toList.map
      .entered

/-- The nodes and the referee with the events of both nodes. -/
abbrev History := Machine.Recorded World (Fin 2) Event

/-- The machine of two nodes and a referee that records their events. -/
def historyMachine : Machine History Action :=
  machine.recording emitted

instance (history : History) (action : Action) :
    Decidable (historyMachine.Enabled history action) :=
  inferInstanceAs (Decidable (Enabled history.state action))

/-- `CampaignMyself` reuses `last_vote`. -/
def ReusesVote
    (me : Fin 2) (env : CampaignEnv 2) (state : MtmState 2) : Prop :=
  (campaignMyself me env state).2.map Campaign.candidate = some state.lastVote

/-- A vote for a generation of one node is not reused once the referee was told
of its number, be it in a request or in a `delete`. -/
def UnnamedReuse (history : History) : Action → Prop
  | .election (.campaign me env) =>
      let state := history.state.cluster.node me
      ReusesVote me env state →
        IsRefereeGen state.lastVote.members state.lastVote.configured →
          ∀ event ∈ history.events me, ¬ event.Names state.lastVote.num
  | _ => True

instance (history : History) (action : Action) :
    Decidable (UnnamedReuse history action) :=
  match action with
  | .election (.campaign _ _) =>
      inferInstanceAs (Decidable (_ = _ → _ → ∀ _ ∈ _, ¬ _))
  | .election (.vote _ _ _ _) => inferInstanceAs (Decidable True)
  | .election (.gather _ _) => inferInstanceAs (Decidable True)
  | .election (.count _) => inferInstanceAs (Decidable True)
  | .election (.finishTour _) => inferInstanceAs (Decidable True)
  | .election (.learn _ _ _) => inferInstanceAs (Decidable True)
  | .election (.parallelSafe _ _ _) => inferInstanceAs (Decidable True)
  | .election (.logParallelSafe _) => inferInstanceAs (Decidable True)
  | .election (.crash _) => inferInstanceAs (Decidable True)
  | .heartbeat _ _ _ => inferInstanceAs (Decidable True)
  | .request _ => inferInstanceAs (Decidable True)
  | .clear _ => inferInstanceAs (Decidable True)
  | .execute _ => inferInstanceAs (Decidable True)
  | .executeLate _ => inferInstanceAs (Decidable True)
  | .lose _ => inferInstanceAs (Decidable True)
  | .switch _ => inferInstanceAs (Decidable True)
  | .finishClear _ => inferInstanceAs (Decidable True)
  | .fail _ => inferInstanceAs (Decidable True)

/-! ## The numbers of one node -/

/-- What a step does to the campaigner of a node, with its events. -/
inductive Move
    (me : Fin 2) (state : MtmState 2) (action : Action)
    (before after : Campaigner) : List Event → Prop
  | kept (same : after = before) : Move me state action before after []
  | left (nothing : after.candidate = none) :
      Move me state action before after []
  | campaigned (env : CampaignEnv 2) (campaign : Campaign 2)
      (isAction : action = .election (.campaign me env))
      (isCampaign : (campaignMyself me env state).2 = some campaign)
      (isReferee : IsRefereeGen campaign.candidate.members
        campaign.candidate.configured)
      (connects : after = .connecting campaign.candidate) :
      Move me state action before after []
  | requested (candidate : MtmGeneration 2)
      (connected : before = .connecting candidate)
      (requests : after = .requesting candidate) :
      Move me state action before after
        [.sent (.requestGrant me candidate.num)]
  | granted (candidate : MtmGeneration 2) (time : ℕ)
      (requested : before = .requesting candidate)
      (isGranted : after = .granted candidate time) :
      Move me state action before after []
  | switched (candidate : MtmGeneration 2) (time : ℕ)
      (isGranted : before = .granted candidate time)
      (nothing : after.candidate = none) :
      Move me state action before after [.entered candidate.num]
  | cleared (fullOnlineGenNum : ℕ)
      (nothing : after.candidate = none) :
      Move me state action before after
        [.sent (.clearGrant fullOnlineGenNum me state.lastVote.num)]

/-- What is known about the numbers of a node. -/
structure Numbers
    (events : List Event) (lastVoteNum : ℕ) (campaigner : Campaigner) :
    Prop where
  once : UsedOnce events
  voted : ∀ sql, .sent sql ∈ events → sql.num ≤ lastVoteNum
  candidate : ∀ candidate, campaigner.candidate = some candidate →
    candidate.num ≤ lastVoteNum
  /-- The generation it asks for is beyond what it has turned in. -/
  cleared : ∀ candidate, campaigner.candidate = some candidate →
    ∀ fullOnlineGenNum node myLastVoteNum,
      .sent (.clearGrant fullOnlineGenNum node myLastVoteNum) ∈ events →
        myLastVoteNum < candidate.num
  /-- It is beyond all numbers until the request is sent. -/
  proposed : ∀ candidate, campaigner = .connecting candidate →
    ∀ sql, .sent sql ∈ events → sql.num < candidate.num

theorem usedOnce_append {events : List Event} {event : Event} :
    UsedOnce (events ++ [event]) ↔
      UsedOnce events ∧ ∀ earlier ∈ events, earlier.Precedes event := by
  simp [UsedOnce, List.pairwise_append]

theorem precedes_requestGrant
    {event : Event} {me : Fin 2} {genNum : ℕ}
    (greater : ∀ sql, event = .sent sql → sql.num < genNum) :
    event.Precedes (.sent (.requestGrant me genNum)) := by
  cases event with
  | sent sql =>
      cases sql with
      | requestGrant applicantId earlier => exact greater _ rfl
      | clearGrant fullOnlineGenNum node myLastVoteNum => trivial
  | entered earlier => trivial

theorem precedes_clearGrant
    {event : Event} {fullOnlineGenNum myLastVoteNum : ℕ} {me : Fin 2} :
    event.Precedes (.sent (.clearGrant fullOnlineGenNum me myLastVoteNum)) := by
  cases event with
  | sent sql => cases sql <;> trivial
  | entered earlier => trivial

theorem precedes_entered
    {event : Event} {genNum : ℕ}
    (greater : ∀ fullOnlineGenNum node myLastVoteNum,
      event = .sent (.clearGrant fullOnlineGenNum node myLastVoteNum) →
        myLastVoteNum < genNum) :
    event.Precedes (.entered genNum) := by
  cases event with
  | sent sql =>
      cases sql with
      | requestGrant applicantId earlier => trivial
      | clearGrant fullOnlineGenNum node myLastVoteNum =>
          exact greater _ _ _ rfl
  | entered earlier => trivial

/-- The candidate of a campaign is the vote afterwards; it is the vote before
or beyond it. -/
theorem campaignMyself_num
    {me : Fin 2} {env : CampaignEnv 2} {state : MtmState 2}
    {campaign : Campaign 2}
    (isCampaign : (campaignMyself me env state).2 = some campaign) :
    campaign.candidate = (campaignMyself me env state).1.lastVote ∧
      (campaign.candidate = state.lastVote ∨
        state.lastVote.num < campaign.candidate.num) := by
  have outcome := campaignMyself_outcome me env state
  generalize campaignMyself me env state = result at outcome isCampaign ⊢
  cases outcome with
  | declined mode => cases isCampaign
  | reused mode cohort member configured elsewhere different =>
      cases isCampaign
      exact ⟨rfl, Or.inl rfl⟩
  | voted mode cohort candidate fresh member configured elsewhere =>
      cases isCampaign
      exact ⟨rfl, Or.inr (by rw [fresh]; exact Nat.lt_succ_self _)⟩

namespace Numbers

variable {events : List Event} {lastVoteNum : ℕ} {campaigner : Campaigner}

/-- A statement is sent, or a generation entered. -/
theorem append
    (numbers : Numbers events lastVoteNum campaigner)
    {event : Event} {after : Campaigner}
    (precedes : ∀ earlier ∈ events, earlier.Precedes event)
    (voted : ∀ sql, event = .sent sql → sql.num ≤ lastVoteNum)
    (candidate : ∀ candidate, after.candidate = some candidate →
      campaigner.candidate = some candidate)
    (unturned : ∀ candidate, after.candidate = some candidate →
      ∀ fullOnlineGenNum node myLastVoteNum,
        event ≠ .sent (.clearGrant fullOnlineGenNum node myLastVoteNum))
    (unproposed : ∀ candidate, after ≠ .connecting candidate) :
    Numbers (events ++ [event]) lastVoteNum after where
  once := usedOnce_append.mpr ⟨numbers.once, precedes⟩
  voted := by
    intro sql isSent
    rcases List.mem_append.mp isSent with isOld | isNew
    · exact numbers.voted sql isOld
    · exact voted sql (List.mem_singleton.mp isNew).symm
  candidate := fun gen isCandidate =>
    numbers.candidate gen (candidate gen isCandidate)
  cleared := by
    intro gen isCandidate fullOnlineGenNum node myLastVoteNum isSent
    rcases List.mem_append.mp isSent with isOld | isNew
    · exact numbers.cleared gen (candidate gen isCandidate) _ _ _ isOld
    · exact absurd (List.mem_singleton.mp isNew).symm
        (unturned gen isCandidate _ _ _)
  proposed := fun gen isProposed => absurd isProposed (unproposed gen)

/-- The vote has moved on. -/
theorem later
    (numbers : Numbers events lastVoteNum campaigner)
    {laterVoteNum : ℕ} (grows : lastVoteNum ≤ laterVoteNum) :
    Numbers events laterVoteNum campaigner :=
  { numbers with
    voted := fun sql isSent => (numbers.voted sql isSent).trans grows
    candidate := fun candidate isCandidate =>
      (numbers.candidate candidate isCandidate).trans grows }

/-- The campaigner asks for nothing any more. -/
theorem rest
    (numbers : Numbers events lastVoteNum campaigner)
    {after : Campaigner} (nothing : after.candidate = none) :
    Numbers events lastVoteNum after where
  once := numbers.once
  voted := numbers.voted
  candidate := by
    intro candidate isCandidate
    rw [nothing] at isCandidate
    cases isCandidate
  cleared := by
    intro candidate isCandidate
    rw [nothing] at isCandidate
    cases isCandidate
  proposed := by
    rintro candidate rfl
    cases nothing

variable {me : Fin 2} {env : CampaignEnv 2} {state : MtmState 2}

/-- `CampaignMyself` takes a number that is not used yet. -/
theorem campaign
    (numbers : Numbers events state.lastVote.num campaigner)
    {campaign : Campaign 2}
    (isCampaign : (campaignMyself me env state).2 = some campaign)
    (unnamed : campaign.candidate = state.lastVote →
      ∀ event ∈ events, ¬ event.Names state.lastVote.num) :
    Numbers events (campaignMyself me env state).1.lastVote.num
      (.connecting campaign.candidate) := by
  obtain ⟨isVote, either⟩ := campaignMyself_num isCampaign
  have unused : ∀ sql, .sent sql ∈ events →
      sql.num < campaign.candidate.num := by
    intro sql isSent
    cases either with
    | inl reused =>
        rw [reused]
        exact lt_of_le_of_ne (numbers.voted sql isSent)
          (unnamed reused (.sent sql) isSent)
    | inr newer => exact lt_of_le_of_lt (numbers.voted sql isSent) newer
  rw [← isVote]
  refine ⟨numbers.once, ?_, ?_, ?_, ?_⟩
  · intro sql isSent
    exact (unused sql isSent).le
  · rintro candidate ⟨rfl⟩
    exact le_rfl
  · rintro candidate ⟨rfl⟩ fullOnlineGenNum node myLastVoteNum isSent
    exact unused _ isSent
  · rintro candidate ⟨rfl⟩
    exact unused

theorem request
    {candidate : MtmGeneration 2}
    (numbers : Numbers events lastVoteNum (.connecting candidate)) :
    Numbers (events ++ [.sent (.requestGrant me candidate.num)]) lastVoteNum
      (.requesting candidate) := by
  apply numbers.append
  · intro earlier isEarlier
    apply precedes_requestGrant
    rintro sql rfl
    exact numbers.proposed candidate rfl sql isEarlier
  · rintro sql ⟨rfl⟩
    exact numbers.candidate candidate rfl
  · exact fun _ isCandidate => isCandidate
  · rintro _ _ _ _ _ ⟨⟩
  · rintro _ ⟨⟩

theorem grant
    {candidate : MtmGeneration 2} {time : ℕ}
    (numbers : Numbers events lastVoteNum (.requesting candidate)) :
    Numbers events lastVoteNum (.granted candidate time) :=
  ⟨numbers.once, numbers.voted, numbers.candidate, numbers.cleared,
    fun _ isProposed => Campaigner.noConfusion isProposed⟩

theorem switch
    {candidate : MtmGeneration 2} {time : ℕ} {after : Campaigner}
    (numbers : Numbers events lastVoteNum (.granted candidate time))
    (nothing : after.candidate = none) :
    Numbers (events ++ [.entered candidate.num]) lastVoteNum after := by
  apply (numbers.rest nothing).append
  · intro earlier isEarlier
    apply precedes_entered
    rintro fullOnlineGenNum node myLastVoteNum rfl
    exact numbers.cleared candidate rfl _ _ _ isEarlier
  · rintro sql ⟨⟩
  · exact fun _ isCandidate => isCandidate
  · rintro _ _ _ _ _ ⟨⟩
  · rintro _ rfl
    cases nothing

theorem clear
    {fullOnlineGenNum : ℕ} {after : Campaigner}
    (numbers : Numbers events lastVoteNum campaigner)
    (nothing : after.candidate = none) :
    Numbers (events ++ [.sent (.clearGrant fullOnlineGenNum me lastVoteNum)])
      lastVoteNum after := by
  apply (numbers.rest nothing).append
  · exact fun _ _ => precedes_clearGrant
  · rintro sql ⟨rfl⟩
    exact le_rfl
  · exact fun _ isCandidate => isCandidate
  · intro candidate isCandidate
    rw [nothing] at isCandidate
    cases isCandidate
  · rintro _ rfl
    cases nothing

/-- Every move of the campaigner keeps the numbers in order, given that a reused
vote is not named yet. -/
theorem move
    {action : Action} {before after : Campaigner} {added : List Event}
    (numbers : Numbers events state.lastVote.num before)
    (move : Move me state action before after added)
    (grows : state.lastVote.num ≤ lastVoteNum)
    (votes : ∀ env, action = .election (.campaign me env) →
      lastVoteNum = (campaignMyself me env state).1.lastVote.num)
    (unnamed : ∀ env, action = .election (.campaign me env) →
      ReusesVote me env state →
        IsRefereeGen state.lastVote.members state.lastVote.configured →
          ∀ event ∈ events, ¬ event.Names state.lastVote.num) :
    Numbers (events ++ added) lastVoteNum after := by
  cases move with
  | kept same =>
      rw [List.append_nil, same]
      exact numbers.later grows
  | left nothing =>
      rw [List.append_nil]
      exact (numbers.rest nothing).later grows
  | campaigned env campaign isAction isCampaign isReferee connects =>
      rw [List.append_nil, votes env isAction, connects]
      apply numbers.campaign isCampaign
      intro reused
      have reuses : ReusesVote me env state := by
        rw [ReusesVote, isCampaign, ← reused]
        rfl
      exact unnamed env isAction reuses (reused ▸ isReferee)
  | requested candidate connected requests =>
      rw [connected] at numbers
      rw [requests]
      exact numbers.request.later grows
  | granted candidate time requested isGranted =>
      rw [requested] at numbers
      rw [List.append_nil, isGranted]
      exact numbers.grant.later grows
  | switched candidate time isGranted nothing =>
      rw [isGranted] at numbers
      exact (numbers.switch nothing).later grows
  | cleared fullOnlineGenNum nothing =>
      exact (numbers.clear nothing).later grows

end Numbers

/-! ## The moves of the campaigners -/

theorem electionEffect_eq
    (world : World) (action : Election.Action 2) :
    (electionEffect world action).cluster =
        Election.effect world.cluster action ∧
      (electionEffect world action).won = world.won ∧
      (electionEffect world action).online = world.online := by
  cases action with
  | campaign me env =>
      simp only [electionEffect]
      split
      · split <;> exact ⟨rfl, rfl, rfl⟩
      · exact ⟨rfl, rfl, rfl⟩
  | parallelSafe me gen isRecovery =>
      simp only [electionEffect]
      split <;> exact ⟨rfl, rfl, rfl⟩
  | _ => exact ⟨rfl, rfl, rfl⟩

theorem cluster_election
    (world : World) (action : Election.Action 2) :
    (effect world (.election action)).cluster =
      Election.effect world.cluster action :=
  (electionEffect_eq world action).1

theorem cluster_of_isQuiet
    (world : World) {action : Action} (quiet : action.IsQuiet) :
    (effect world action).cluster = world.cluster :=
  (step_of_isQuiet world quiet).1

section Moves

variable {world : World} {me : Fin 2}

/-- A node gets into a generation of its own in no step of the election
protocol. -/
theorem entered_election
    (ok : ClusterOk world.cluster world.won world.online)
    {action : Election.Action 2}
    (enabled : Election.Enabled world.cluster action) :
    entered world.cluster (Election.effect world.cluster action) me = none := by
  rw [entered, if_neg]
  rintro ⟨changed, member, isReferee⟩
  cases nodeStep_effect world.cluster action enabled me with
  | kept currentGen _ => exact changed currentGen
  | switched known newer _ =>
      rcases members_eq member with single | both
      · exact ok.members_ne_singleton known newer single
      · rw [both] at isReferee
        exact absurd isReferee.1 (by decide)
  | recovered currentGen _ _ => exact changed currentGen

theorem emitted_election
    (ok : ClusterOk world.cluster world.won world.online)
    {action : Election.Action 2}
    (enabled : Election.Enabled world.cluster action) :
    emitted world (.election action) me = [] := by
  rw [emitted, cluster_election, entered_election ok enabled]
  rfl

theorem emitted_of_isQuiet
    {action : Action} (quiet : action.IsQuiet) :
    emitted world action me = (sent world action me).toList.map .sent := by
  have nothing : entered world.cluster world.cluster me = none :=
    if_neg fun changes => changes.1 rfl
  rw [emitted, cluster_of_isQuiet world quiet, nothing]
  exact List.append_nil _

/-- One of the campaigners comes to rest. -/
theorem move_update
    {state : MtmState 2} {action : Action} {node : Fin 2}
    {resting : Campaigner} (nothing : resting.candidate = none) :
    Move me state action (world.campaigner me)
      (Function.update world.campaigner node resting me) [] := by
  by_cases isMe : me = node
  · subst isMe
    rw [Function.update_self]
    exact .left nothing
  · rw [Function.update_of_ne isMe]
    exact .kept rfl

theorem move_election
    {state : MtmState 2} {action : Election.Action 2}
    (isState : state = world.cluster.node me) :
    Move me state (.election action) (world.campaigner me)
      ((effect world (.election action)).campaigner me) [] := by
  cases action with
  | campaign node env =>
      simp only [effect, step, electionEffect]
      split
      · next campaign isCampaign =>
          split
          · next isReferee =>
              by_cases isMe : me = node
              · subst isMe
                rw [← isState] at isCampaign
                exact .campaigned env campaign rfl isCampaign isReferee
                  (Function.update_self _ _ _)
              · exact .kept (Function.update_of_ne isMe _ _)
          · exact .kept rfl
      · exact .kept rfl
  | parallelSafe node gen isRecovery =>
      simp only [effect, step, electionEffect]
      split <;> exact .kept rfl
  | crash node => exact move_update rfl
  | _ => exact .kept rfl

theorem move_request
    {state : MtmState 2} {node : Fin 2}
    (enabled : Enabled world (.request node)) :
    Move me state (.request node) (world.campaigner me)
      ((effect world (.request node)).campaigner me)
      (emitted world (.request node) me) := by
  rw [emitted_of_isQuiet (by trivial)]
  cases isStage : world.campaigner node with
  | connecting candidate =>
      by_cases isMe : node = me
      · subst isMe
        have isAfter : (effect world (.request node)).campaigner node =
            .requesting candidate := by
          simp [effect, step, isStage]
        have isSent : sent world (.request node) node =
            some (.requestGrant node candidate.num) := by
          simp [sent, step, isStage, Campaigner.statement]
        rw [isSent]
        exact .requested candidate isStage isAfter
      · have isAfter : (effect world (.request node)).campaigner me =
            world.campaigner me := by
          simp [effect, step, isStage, Ne.symm isMe]
        rw [sent, if_neg isMe]
        exact .kept isAfter
  | _ =>
      rw [Enabled, isStage] at enabled
      cases enabled

theorem move_clear
    {node : Fin 2} (isIdle : world.campaigner node = .idle) :
    Move me (world.cluster.node me) (.clear node) (world.campaigner me)
      ((effect world (.clear node)).campaigner me)
      (emitted world (.clear node) me) := by
  rw [emitted_of_isQuiet (by trivial)]
  by_cases isMe : node = me
  · subst isMe
    rw [sent, if_pos rfl]
    simp only [effect, step, Referee.clear]
    cases isDecision : refereeClearGrant node
        (world.cluster.node node).toMtmStateOnDisk
        (world.othersLastOnlineIn node) with
    | clear fullOnlineGenNum myLastVoteNum =>
        obtain ⟨_, _, _, _, isVote⟩ := refereeClearGrant_eq_clear isDecision
        simp only [Function.update_self, Campaigner.statement, ← isVote]
        exact .cleared fullOnlineGenNum rfl
    | forget =>
        simp only [isIdle]
        exact .kept rfl
    | wait =>
        simp only [isIdle]
        exact .kept rfl
  · have isAfter : (effect world (.clear node)).campaigner me =
        world.campaigner me := by
      simp only [effect, step, Referee.clear]
      split
      · rfl
      · rfl
      · exact Function.update_of_ne (Ne.symm isMe) _ _
    rw [sent, if_neg isMe]
    exact .kept isAfter

/-- The steps in which no node sends or enters anything. -/
theorem emitted_eq_nil
    {action : Action} (quiet : action.IsQuiet)
    (nothing : sent world action me = none) :
    emitted world action me = [] := by
  rw [emitted_of_isQuiet quiet, nothing]
  rfl

theorem move_execute
    {state : MtmState 2} {node : Fin 2} :
    Move me state (.execute node) (world.campaigner me)
      ((effect world (.execute node)).campaigner me)
      (emitted world (.execute node) me) := by
  rw [emitted_eq_nil (by trivial) rfl]
  cases isStage : world.campaigner node with
  | requesting candidate =>
      simp only [effect, step, isStage, Campaigner.statement,
        Campaigner.answered]
      split
      · by_cases isMe : me = node
        · subst isMe
          exact .granted candidate world.issued isStage
            (Function.update_self _ _ _)
        · exact .kept (Function.update_of_ne isMe _ _)
      · exact move_update rfl
  | clearing fullOnlineGenNum myLastVoteNum =>
      simp only [effect, step, isStage, Campaigner.statement,
        Campaigner.answered]
      exact move_update rfl
  | _ =>
      simp only [effect, step, isStage, Campaigner.statement]
      exact .kept rfl

theorem cluster_switch_node
    {node : Fin 2} {candidate : MtmGeneration 2} {time : ℕ}
    (isStage : world.campaigner node = .granted candidate time) :
    (effect world (.switch node)).cluster.node =
      Function.update world.cluster.node node
        (considerGenSwitch node candidate {node} (world.cluster.node node)) := by
  simp only [effect, step, Referee.switch, isStage]
  rfl

/-- The switch at the end of `CampaignReferee` is to the granted generation. -/
theorem entered_switch
    {node : Fin 2} {candidate : MtmGeneration 2} {time : ℕ}
    (isStage : world.campaigner node = .granted candidate time) {num : ℕ}
    (enters : entered world.cluster (effect world (.switch node)).cluster me =
      some num) :
    me = node ∧ num = candidate.num := by
  rw [entered, cluster_switch_node isStage] at enters
  by_cases isMe : me = node
  · subst isMe
    refine ⟨rfl, ?_⟩
    rw [Function.update_self] at enters
    have either := @considerGenSwitch_currentGen me (world.cluster.node me)
      candidate {me}
    split at enters
    · next changes =>
        rw [← Option.some.inj enters, either.resolve_left changes.1]
    · cases enters
  · rw [Function.update_of_ne isMe, if_neg fun changes => changes.1 rfl]
      at enters
    cases enters

theorem move_switch
    {state : MtmState 2} {node : Fin 2}
    (enabled : Enabled world (.switch node)) :
    Move me state (.switch node) (world.campaigner me)
      ((effect world (.switch node)).campaigner me)
      (emitted world (.switch node) me) := by
  cases isStage : world.campaigner node with
  | granted candidate time =>
      have isAfter : (effect world (.switch node)).campaigner =
          Function.update world.campaigner node .idle := by
        simp only [effect, step, Referee.switch, isStage]
      rw [emitted, isAfter]
      cases enters : entered world.cluster
          (effect world (.switch node)).cluster me with
      | none => exact move_update rfl
      | some num =>
          obtain ⟨rfl, rfl⟩ := entered_switch isStage enters
          rw [Function.update_self]
          exact .switched candidate time isStage rfl
  | _ =>
      rw [Enabled, isStage] at enabled
      cases enabled

theorem move_finishClear
    {state : MtmState 2} {node : Fin 2} :
    Move me state (.finishClear node) (world.campaigner me)
      ((effect world (.finishClear node)).campaigner me)
      (emitted world (.finishClear node) me) := by
  rw [emitted_eq_nil (by trivial) rfl]
  simp only [effect, step, Referee.finishClear]
  split
  · exact move_update rfl
  · exact .kept rfl

theorem move_fail
    {state : MtmState 2} {node : Fin 2} :
    Move me state (.fail node) (world.campaigner me)
      ((effect world (.fail node)).campaigner me)
      (emitted world (.fail node) me) := by
  rw [emitted_eq_nil (by trivial) rfl]
  simp only [effect, step, Referee.fail]
  split <;> exact move_update rfl

/-- What a step does to the campaigner of a node. -/
theorem move_effect
    (ok : ClusterOk world.cluster world.won world.online)
    {action : Action} (enabled : Enabled world action) :
    Move me (world.cluster.node me) action (world.campaigner me)
      ((effect world action).campaigner me) (emitted world action me) := by
  cases action with
  | election action =>
      rw [emitted_election ok enabled.1]
      exact move_election rfl
  | heartbeat node other lastOnlineIn =>
      rw [emitted_eq_nil (by trivial) rfl]
      exact .kept rfl
  | request node => exact move_request enabled
  | clear node => exact move_clear enabled.1
  | execute node => exact move_execute
  | executeLate sql =>
      rw [emitted_eq_nil (by trivial) rfl]
      exact .kept rfl
  | lose sql =>
      rw [emitted_eq_nil (by trivial) rfl]
      exact .kept rfl
  | switch node => exact move_switch enabled
  | finishClear node => exact move_finishClear
  | fail node => exact move_fail

end Moves

/-! ## Every run -/

/-- The generations of the nodes are known, and campaigners ask for generations
of their node alone. -/
structure GenerationsOk (world : World) : Prop where
  cluster : ClusterOk world.cluster world.won world.online
  campaigners : ∀ me, CampaignerOk [] me (world.campaigner me)

theorem CampaignerOk.move
    {me : Fin 2} {state : MtmState 2} {action : Action}
    {before after : Campaigner} {added : List Event}
    (ok : CampaignerOk [] me before)
    (move : Move me state action before after added) :
    CampaignerOk [] me after := by
  cases move with
  | kept same =>
      rw [same]
      exact ok
  | left nothing => exact campaignerOk_of_candidate_eq_none nothing
  | campaigned env campaign isAction isCampaign isReferee connects =>
      rw [connects]
      exact Invariant.campaignerOk_connecting isCampaign isReferee
  | requested candidate connected requests =>
      rw [connected] at ok
      rw [requests]
      exact ⟨ok.candidate, fun _ _ _ isSql => absurd isSql List.not_mem_nil⟩
  | granted candidate time requested isGranted =>
      rw [requested] at ok
      rw [isGranted]
      exact ⟨ok.candidate, fun _ _ _ isSql => absurd isSql List.not_mem_nil⟩
  | switched candidate time isGranted nothing =>
      exact campaignerOk_of_candidate_eq_none nothing
  | cleared fullOnlineGenNum nothing =>
      exact campaignerOk_of_candidate_eq_none nothing

namespace GenerationsOk

variable {world : World}

theorem quiet
    (ok : GenerationsOk world)
    {action : Action} (quiet : action.IsQuiet) :
    ClusterOk (effect world action).cluster (effect world action).won
      (effect world action).online := by
  obtain ⟨sameCluster, sameWon, sameOnline⟩ := step_of_isQuiet world quiet
  rw [effect_of_isQuiet world quiet, sameCluster, sameWon, sameOnline]
  exact ok.cluster

theorem election
    (ok : GenerationsOk world)
    {action : Election.Action 2}
    (enabled : Election.Enabled world.cluster action) :
    ClusterOk (effect world (.election action)).cluster
      (effect world (.election action)).won
      (effect world (.election action)).online := by
  obtain ⟨isCluster, sameWon, sameOnline⟩ := electionEffect_eq world action
  simp only [effect, step]
  rw [isCluster, sameWon]
  exact ok.cluster.election enabled

theorem switch
    (ok : GenerationsOk world)
    {me : Fin 2} (enabled : Enabled world (.switch me)) :
    ClusterOk (effect world (.switch me)).cluster
      (effect world (.switch me)).won (effect world (.switch me)).online := by
  cases isStage : world.campaigner me with
  | granted candidate time =>
      obtain ⟨configured, single⟩ := (ok.campaigners me).candidate
        candidate (by rw [isStage]; rfl)
      simp only [effect, step, Referee.switch, isStage]
      exact ok.cluster.switch time configured single rfl rfl
  | _ =>
      rw [Enabled, isStage] at enabled
      cases enabled

theorem effect
    (ok : GenerationsOk world)
    {action : Action} (enabled : Enabled world action) :
    GenerationsOk (Referee.effect world action) where
  campaigners := fun me =>
    (ok.campaigners me).move (move_effect ok.cluster enabled)
  cluster := by
    cases action with
    | election action => exact ok.election enabled.1
    | switch me => exact ok.switch enabled
    | _ => exact ok.quiet (by trivial)

end GenerationsOk

theorem generationsOk_initialWorld : GenerationsOk initialWorld where
  cluster := clusterOk_initialWorld
  campaigners := fun _ => campaignerOk_of_candidate_eq_none rfl

/-- Votes are not taken back. -/
theorem lastVote_le_effect
    {world : World} {action : Action} (enabled : Enabled world action)
    (me : Fin 2) :
    (world.cluster.node me).lastVote.num ≤
      ((effect world action).cluster.node me).lastVote.num := by
  cases action with
  | election action =>
      rw [cluster_election]
      exact (Election.advance_effect world.cluster action enabled.1
        me).lastVote_le
  | switch node =>
      cases isStage : world.campaigner node with
      | granted candidate time =>
          rw [cluster_switch_node isStage]
          by_cases isMe : me = node
          · subst isMe
            rw [Function.update_self]
            have advance : Election.Advance [(candidate, {me})] me
                (.learn me candidate {me}) (world.cluster.node me) _ :=
              Election.advance_considerGenSwitch candidate {me}
                fun _ => List.mem_singleton_self _
            exact advance.lastVote_le
          · rw [Function.update_of_ne isMe]
      | _ =>
          rw [Enabled, isStage] at enabled
          cases enabled
  | _ => rw [cluster_of_isQuiet world (by trivial)]

/-- The numbers of a node are in order. -/
def NumbersOk (world : World) (me : Fin 2) (events : List Event) : Prop :=
  Numbers events (world.cluster.node me).lastVote.num (world.campaigner me)

/-- Every step keeps them in order. -/
theorem numbersOk_effect
    {history : History} {action : Action} {me : Fin 2}
    (generations : GenerationsOk history.state)
    (enabled : Enabled history.state action)
    (unnamed : UnnamedReuse history action)
    (numbers : NumbersOk history.state me (history.events me)) :
    NumbersOk (effect history.state action) me
      (history.events me ++ emitted history.state action me) := by
  apply Numbers.move numbers (move_effect generations.cluster enabled)
    (lastVote_le_effect enabled me)
  · rintro env rfl
    rw [cluster_election, (Election.effect_node_online _ _).1]
    exact congrArg (fun state : MtmState 2 => state.lastVote.num)
      (Election.setNode_node_self history.state.cluster me _)
  · rintro env rfl
    exact unnamed

theorem numbersOk_initialWorld (me : Fin 2) :
    NumbersOk initialWorld me [] := by
  refine ⟨List.Pairwise.nil, ?_, ?_, ?_, ?_⟩
  · intro sql isSent
    cases isSent
  · rintro candidate ⟨⟩
  · rintro candidate ⟨⟩
  · rintro candidate ⟨⟩

/-- Grant numbers are used once in every run in which no vote is reused after
the referee was told of its number. -/
theorem grant_numbers_used_once
    {history : History}
    (reachable : historyMachine.Reachable UnnamedReuse history)
    (me : Fin 2) :
    UsedOnce (history.events me) := by
  have holds : GenerationsOk history.state ∧
      ∀ me, NumbersOk history.state me (history.events me) :=
    Machine.recording_invariant generationsOk_initialWorld
      numbersOk_initialWorld (fun _ _ ok enabled => ok.effect enabled)
      (fun _ _ _ generations enabled unnamed numbers =>
        numbersOk_effect generations enabled unnamed numbers) reachable
  exact (holds.2 me).once

/-- Node 0 does not get through to the referee at first and reuses its vote. -/
def reconnect : List Action :=
  [.election (.campaign 0 (cutOff 0)), .fail 0] ++ turnIn

theorem reconnect_completes :
    (historyMachine.execute UnnamedReuse historyMachine.init
      reconnect).isSome = true := by
  decide +kernel

theorem grant_numbers_used_once_reconnect :
    let history := (historyMachine.execute UnnamedReuse historyMachine.init
      reconnect).get reconnect_completes
    history.events 0 = [.sent (.requestGrant 0 2), .entered 2] ∧
      history.events 1 = [.sent (.clearGrant 3 1 3),
        .sent (.requestGrant 1 4), .entered 4] ∧
      ∀ me, UsedOnce (history.events me) :=
  ⟨by decide +kernel, by decide +kernel,
    grant_numbers_used_once
      (Machine.reachable_of_execute reconnect reconnect_completes)⟩

/-- Node 0 gives up on its request and turns in the grant it may have got.  Then
it campaigns again. -/
def repeatedRequest : List Action :=
  [.election (.campaign 0 (cutOff 0)), .request 0, .fail 0,
    .heartbeat 0 1 1, .clear 0, .execute 0, .finishClear 0,
    .election (.campaign 0 (cutOff 0)), .request 0, .execute 0, .switch 0]

theorem repeatedRequest_completes :
    (historyMachine.execute Machine.Always historyMachine.init
      repeatedRequest).isSome = true := by
  decide +kernel

/-- The request is repeated with the same number, and the node gets into the
generation of the number it has turned in. -/
theorem grant_number_used_twice :
    let history := (historyMachine.execute Machine.Always historyMachine.init
      repeatedRequest).get repeatedRequest_completes
    historyMachine.Reachable Machine.Always history ∧
      history.events 0 = [.sent (.requestGrant 0 2),
        .sent (.clearGrant 1 0 2), .sent (.requestGrant 0 2), .entered 2] ∧
      ¬ UsedOnce (history.events 0) := by
  intro history
  have events : history.events 0 = [.sent (.requestGrant 0 2),
      .sent (.clearGrant 1 0 2), .sent (.requestGrant 0 2), .entered 2] := by
    decide +kernel
  refine ⟨Machine.reachable_of_execute repeatedRequest
    repeatedRequest_completes, events, ?_⟩
  rw [events]
  intro once
  have grows : Event.Precedes (.sent (.requestGrant 0 2))
      (.sent (.requestGrant 0 2)) :=
    List.rel_of_pairwise_cons once
      (List.mem_cons_of_mem _ List.mem_cons_self)
  exact lt_irrefl 2 grows

end Referee
end Multimaster
