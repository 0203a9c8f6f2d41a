import Multimaster.Election.Defs

/-!
# Votes and promises of a single node

`NodeOk` relates the state of a node to the votes it ever granted and to the
generations it ever was online in.  Its rules say what each kind of change of
the node state does to it; the cluster invariants use nothing else about the
node operations.
-/

namespace Multimaster
namespace Election

open Generation

/-- What holds of one node, given all votes and all announced generations. -/
structure NodeOk
    (votes : List (Vote n))
    (announced : List (MtmGeneration n × NodeMask n))
    (me : Fin n) (state : MtmState n) (online : List ℕ) : Prop where
  ordered : Ordered state.toMtmStateOnDisk
  positive : 0 < state.currentGen.num
  /-- A vote for a generation of the whole configuration is not the initial
  one. -/
  voteNum : state.lastVote.configured = Finset.univ →
    1 < state.lastVote.num
  /-- Votes granted are not above the remembered one, and agree with it
  unless it was wiped. -/
  granted : ∀ vote ∈ votes, vote.voter = me →
    vote.gen.num ≤ state.lastVote.num ∧
      (vote.gen.num = state.lastVote.num →
        state.lastVote = vote.gen ∨ state.lastVote.configured = ∅)
  /-- The promise given with a vote. -/
  promise : ∀ vote ∈ votes, vote.voter = me → ∀ num ∈ online,
    num < vote.gen.num → num ≤ vote.lastOnlineIn
  reported : ∀ vote ∈ votes, vote.voter = me →
    vote.lastOnlineIn ∈ online
  onlineBelow : ∀ num ∈ online, num ≤ state.lastOnlineIn
  onlineLast : state.lastOnlineIn ∈ online
  /-- The node is a member of every majority generation it was online in. -/
  onlineIn : ∀ num ∈ online, ∃ gen donors,
    (gen, donors) ∈ announced ∧ gen.num = num ∧ me ∈ gen.members ∧
      IsMajority gen.members
  current : (state.currentGen, state.donors) ∈ announced

/-- The values of `last_online_in` after a change of the node state, as
recorded by `setNode`. -/
def onlineAfter
    (before after : MtmState n) (online : List ℕ) : List ℕ :=
  if after.lastOnlineIn = before.lastOnlineIn then online
  else after.lastOnlineIn :: online

theorem mem_onlineAfter
    {before after : MtmState n} {online : List ℕ} {num : ℕ} :
    num ∈ onlineAfter before after online ↔
      num ∈ online ∨ (num = after.lastOnlineIn ∧
        after.lastOnlineIn ≠ before.lastOnlineIn) := by
  unfold onlineAfter
  split
  · next same => simp [same]
  · next different => simp [different, or_comm]

@[simp] theorem setNode_online_self
    (cluster : Cluster n) (me : Fin n) (state : MtmState n) :
    (cluster.setNode me state).online me =
      onlineAfter (cluster.node me) state (cluster.online me) := by
  simp [Cluster.setNode, onlineAfter]

theorem setNode_online_ne
    (cluster : Cluster n) (state : MtmState n)
    {me other : Fin n} (different : other ≠ me) :
    (cluster.setNode me state).online other = cluster.online other := by
  simp [Cluster.setNode, different]

/-- A generation nodes may switch to: proposed with the whole configuration
mask, not by the referee, and after the initial one. -/
structure Electable (gen : MtmGeneration n) : Prop where
  configured : gen.configured = Finset.univ
  regular : ¬ IsRefereeGen gen.members gen.configured

theorem Electable.isMajority
    {gen : MtmGeneration n}
    (electable : Electable gen)
    (quorum : Quorum gen.configured.card gen.members.card ∨
      IsRefereeGen gen.members gen.configured) :
    IsMajority gen.members := by
  rcases quorum with quorum | referee
  · rw [electable.configured, Finset.card_univ] at quorum
    exact quorum
  · exact absurd referee electable.regular

namespace NodeOk

variable {votes : List (Vote n)}
variable {announced : List (MtmGeneration n × NodeMask n)}
variable {me : Fin n} {state : MtmState n} {online : List ℕ}

/-- Votes of other nodes and further announcements do not matter. -/
theorem mono
    (ok : NodeOk votes announced me state online)
    {moreVotes : List (Vote n)}
    {moreAnnounced : List (MtmGeneration n × NodeMask n)}
    (foreign : ∀ vote ∈ moreVotes, vote.voter = me → vote ∈ votes)
    (announces : announced ⊆ moreAnnounced) :
    NodeOk moreVotes moreAnnounced me state online where
  ordered := ok.ordered
  positive := ok.positive
  voteNum := ok.voteNum
  granted := fun vote member mine =>
    ok.granted vote (foreign vote member mine) mine
  promise := fun vote member mine =>
    ok.promise vote (foreign vote member mine) mine
  reported := fun vote member mine =>
    ok.reported vote (foreign vote member mine) mine
  onlineBelow := ok.onlineBelow
  onlineLast := ok.onlineLast
  onlineIn := by
    intro num member
    obtain ⟨gen, donors, known, facts⟩ := ok.onlineIn num member
    exact ⟨gen, donors, announces known, facts⟩
  current := announces ok.current

/-- The receive mode and `ps_logged` do not matter. -/
theorem keep
    (ok : NodeOk votes announced me state online)
    {after : MtmState n}
    (currentGen : after.currentGen = state.currentGen)
    (donors : after.donors = state.donors)
    (lastOnlineIn : after.lastOnlineIn = state.lastOnlineIn)
    (lastVote : after.lastVote = state.lastVote) :
    NodeOk votes announced me after (onlineAfter state after online) := by
  have sameOnline : onlineAfter state after online = online := by
    rw [onlineAfter, if_pos lastOnlineIn]
  rw [sameOnline]
  exact {
    ordered := ⟨by rw [lastOnlineIn, currentGen]; exact ok.ordered.online,
      by rw [currentGen, lastVote]; exact ok.ordered.voted⟩
    positive := by rw [currentGen]; exact ok.positive
    voteNum := by rw [lastVote]; exact ok.voteNum
    granted := by rw [lastVote]; exact ok.granted
    promise := ok.promise
    reported := ok.reported
    onlineBelow := by rw [lastOnlineIn]; exact ok.onlineBelow
    onlineLast := by rw [lastOnlineIn]; exact ok.onlineLast
    onlineIn := ok.onlineIn
    current := by rw [currentGen, donors]; exact ok.current }

/-- Granting the remembered vote, reporting `last_online_in`. -/
theorem grant
    (ok : NodeOk votes announced me state online) :
    NodeOk
      ({ voter := me
         gen := state.lastVote
         lastOnlineIn := state.lastOnlineIn } :: votes)
      announced me state online where
  ordered := ok.ordered
  positive := ok.positive
  voteNum := ok.voteNum
  granted := by
    intro vote member mine
    rcases List.mem_cons.mp member with isNew | isOld
    · subst isNew
      exact ⟨le_refl _, fun _ => Or.inl rfl⟩
    · exact ok.granted vote isOld mine
  promise := by
    intro vote member mine num wasOnline below
    rcases List.mem_cons.mp member with isNew | isOld
    · subst isNew
      exact ok.onlineBelow num wasOnline
    · exact ok.promise vote isOld mine num wasOnline below
  reported := by
    intro vote member mine
    rcases List.mem_cons.mp member with isNew | isOld
    · subst isNew
      exact ok.onlineLast
    · exact ok.reported vote isOld mine
  onlineBelow := ok.onlineBelow
  onlineLast := ok.onlineLast
  onlineIn := ok.onlineIn
  current := ok.current

/-- Remembering a higher vote, or wiping the masks of the present one. -/
theorem revote
    (ok : NodeOk votes announced me state online)
    (vote : MtmGeneration n) (mode : ReceiveMode n)
    (higher : state.lastVote.num < vote.num ∨
      (state.lastVote.num = vote.num ∧ vote.configured = ∅)) :
    NodeOk votes announced me
      { state with lastVote := vote, receiveMode := mode }
      (onlineAfter state
        { state with lastVote := vote, receiveMode := mode } online) := by
  have notLower : state.lastVote.num ≤ vote.num := by
    rcases higher with higher | ⟨same, _⟩ <;> omega
  have sameOnline : onlineAfter state
      { state with lastVote := vote, receiveMode := mode } online =
      online := if_pos rfl
  have isNonempty : (Finset.univ : NodeMask n) ≠ ∅ :=
    Finset.nonempty_iff_ne_empty.mp ⟨me, Finset.mem_univ me⟩
  rw [sameOnline]
  exact {
    ordered := ⟨ok.ordered.online, le_trans ok.ordered.voted notLower⟩
    positive := ok.positive
    voteNum := by
      intro isConfigured
      change vote.configured = Finset.univ at isConfigured
      change 1 < vote.num
      rcases higher with higher | ⟨_, wiped⟩
      · have := ok.ordered.voted
        have := ok.positive
        omega
      · rw [wiped] at isConfigured
        exact absurd isConfigured.symm isNonempty
    granted := by
      intro granted member mine
      obtain ⟨bounded, _⟩ := ok.granted granted member mine
      refine ⟨le_trans bounded notLower, ?_⟩
      intro same
      change granted.gen.num = vote.num at same
      rcases higher with higher | ⟨_, wiped⟩
      · omega
      · exact Or.inr wiped
    promise := ok.promise
    reported := ok.reported
    onlineBelow := ok.onlineBelow
    onlineLast := ok.onlineLast
    onlineIn := ok.onlineIn
    current := ok.current }

/-- The wiping of a vote at the end of a tour. -/
theorem bump
    (ok : NodeOk votes announced me state online)
    (maxLastVoteNum : ℕ) :
    NodeOk votes announced me (bumpLastVote maxLastVoteNum state)
      (onlineAfter state (bumpLastVote maxLastVoteNum state) online) := by
  unfold bumpLastVote
  split
  · next complained =>
      apply ok.revote _ state.receiveMode
      rcases Nat.lt_or_eq_of_le complained.2 with lower | same
      · exact Or.inl lower
      · exact Or.inr ⟨same, rfl⟩
  · exact ok.keep rfl rfl rfl rfl

/-- What remains true of the votes when the node gets online: a number no vote
forbids keeps all promises. -/
theorem promise_online
    (ok : NodeOk votes announced me state online)
    {num : ℕ}
    (unpromised : state.lastVote.num ≤ num) :
    ∀ vote ∈ votes, vote.voter = me → num < vote.gen.num →
      num ≤ vote.lastOnlineIn := by
  intro vote member mine below
  obtain ⟨bounded, _⟩ := ok.granted vote member mine
  omega

/-- A switch to an announced generation. -/
theorem switch
    (ok : NodeOk votes announced me state online)
    (gen : MtmGeneration n) (donors : NodeMask n)
    (known : (gen, donors) ∈ announced)
    (electable : state.currentGen.num < gen.num → Electable gen) :
    NodeOk votes announced me (considerGenSwitch me gen donors state)
      (onlineAfter state (considerGenSwitch me gen donors state)
        online) := by
  have outcome := considerGenSwitch_outcome me gen donors state
  have ordered := ok.ordered.considerGenSwitch me gen donors
  generalize considerGenSwitch me gen donors state = after
    at outcome ordered ⊢
  have voteNum : state.currentGen.num < gen.num →
      (voteAfterSwitch state.lastVote gen).configured = Finset.univ →
      1 < (voteAfterSwitch state.lastVote gen).num := by
    intro newer isConfigured
    have := ok.positive
    rw [voteAfterSwitch_num]
    omega
  have granted : ∀ vote ∈ votes, vote.voter = me →
      vote.gen.num ≤ (voteAfterSwitch state.lastVote gen).num ∧
        (vote.gen.num = (voteAfterSwitch state.lastVote gen).num →
          voteAfterSwitch state.lastVote gen = vote.gen ∨
          (voteAfterSwitch state.lastVote gen).configured = ∅) := by
    intro vote member mine
    obtain ⟨bounded, agrees⟩ := ok.granted vote member mine
    unfold voteAfterSwitch
    split
    · exact ⟨by omega, fun same => absurd same (by omega)⟩
    · exact ⟨bounded, agrees⟩
  cases outcome with
  | skipped stale => exact ok.keep rfl rfl rfl rfl
  | idle mode newer =>
      rw [onlineAfter, if_pos rfl]
      exact {
        ordered := ordered
        positive := lt_trans ok.positive newer
        voteNum := voteNum newer
        granted := granted
        promise := ok.promise
        reported := ok.reported
        onlineBelow := ok.onlineBelow
        onlineLast := ok.onlineLast
        onlineIn := ok.onlineIn
        current := known }
  | online newer member quorum unpromised donor =>
      have offline : gen.num ≠ state.lastOnlineIn := by
        have := ok.ordered.online
        omega
      rw [onlineAfter, if_neg offline]
      exact {
        ordered := ordered
        positive := lt_trans ok.positive newer
        voteNum := voteNum newer
        granted := granted
        promise := by
          intro vote isVote mine num wasOnline below
          rcases List.mem_cons.mp wasOnline with isNew | isOld
          · subst isNew
            exact ok.promise_online unpromised vote isVote mine below
          · exact ok.promise vote isVote mine num isOld below
        reported := fun vote isVote mine =>
          List.mem_cons_of_mem _ (ok.reported vote isVote mine)
        onlineBelow := by
          intro num wasOnline
          rcases List.mem_cons.mp wasOnline with isNew | isOld
          · exact le_of_eq isNew
          · have := ok.onlineBelow num isOld
            have := ok.ordered.online
            dsimp only
            omega
        onlineLast := List.mem_cons_self
        onlineIn := by
          intro num wasOnline
          rcases List.mem_cons.mp wasOnline with isNew | isOld
          · exact ⟨gen, donors, known, isNew.symm, member,
              (electable newer).isMajority quorum⟩
          · exact ok.onlineIn num isOld
        current := known }

/-- Getting online by `ParallelSafe`. -/
theorem parallelSafe
    (ok : NodeOk votes announced me state online)
    (gen : MtmGeneration n) (isRecovery : Bool)
    (configured : state.currentGen.configured = Finset.univ) :
    NodeOk votes announced me
      (Generation.parallelSafe me gen isRecovery state)
      (onlineAfter state
        (Generation.parallelSafe me gen isRecovery state) online) := by
  have ordered := ok.ordered.parallelSafe me gen isRecovery
  rcases parallelSafe_outcome me gen isRecovery state with
    unchanged | ⟨_, _, offline, member, quorum, votedHere, changed⟩
  · rw [unchanged]
    exact ok.keep rfl rfl rfl rfl
  · rw [changed] at ordered ⊢
    rw [onlineAfter, if_neg (Ne.symm offline)]
    exact {
      ordered := ordered
      positive := ok.positive
      voteNum := ok.voteNum
      granted := ok.granted
      promise := by
        intro vote isVote mine num wasOnline below
        rcases List.mem_cons.mp wasOnline with isNew | isOld
        · subst isNew
          exact ok.promise_online (le_of_eq votedHere.symm) vote isVote
            mine below
        · exact ok.promise vote isVote mine num isOld below
      reported := fun vote isVote mine =>
        List.mem_cons_of_mem _ (ok.reported vote isVote mine)
      onlineBelow := by
        intro num wasOnline
        rcases List.mem_cons.mp wasOnline with isNew | isOld
        · exact le_of_eq isNew
        · exact le_trans (ok.onlineBelow num isOld) ok.ordered.online
      onlineLast := List.mem_cons_self
      onlineIn := by
        intro num wasOnline
        rcases List.mem_cons.mp wasOnline with isNew | isOld
        · refine ⟨_, _, ok.current, isNew.symm, member, ?_⟩
          rw [configured, Finset.card_univ] at quorum
          exact quorum
        · exact ok.onlineIn num isOld
      current := ok.current }

end NodeOk

end Election
end Multimaster
