import Multimaster.Referee.Cluster

/-!
# The referee excludes split brain

A grant that a node can still act upon is backed: the row of the referee is its
own, or the other node has been online in a later generation of both nodes.  A
`delete` takes the backing away only where both nodes were online in such a
generation, provided that it is not for a number its sender asks for again.
-/

namespace Multimaster
namespace Referee

open Generation

/-- A grant on which a node got online, or on which it is going to switch to a
newer generation. -/
def Active (world : World) (grant : Grant) : Prop :=
  grant ∈ world.won ∨
    ∃ candidate,
      world.campaigner grant.node = .granted candidate grant.time ∧
        candidate.num = grant.num ∧
        (world.cluster.node grant.node).currentGen.num < candidate.num

/-- A statement that is sent and not executed. -/
def Pending (world : World) (sql : Sql) : Prop :=
  sql ∈ world.abandoned ∨
    ∃ me, (world.campaigner me).statement me = some sql

/-- The node was online in a generation of both nodes after the number. -/
def OnlineAbove (world : World) (node : Fin 2) (num : ℕ) : Prop :=
  ∃ gen, (node, gen) ∈ world.online ∧ gen.members = Finset.univ ∧
    num < gen.num

/-- The referee keeps the other node off, or need not do so any more. -/
def Backed (world : World) (grant : Grant) : Prop :=
  (∃ num, grant.num ≤ num ∧ world.decision = some ⟨grant.node, num⟩) ∨
    ∀ other, other ≠ grant.node → OnlineAbove world other grant.num

/-- The node of the second grant was online in a generation of both nodes
between the two. -/
def Separated (world : World) (first second : Grant) : Prop :=
  ∃ gen, (second.node, gen) ∈ world.online ∧ gen.members = Finset.univ ∧
    first.num < gen.num ∧ gen.num < second.num

/-- What is known about a `delete` from the moment it is sent. -/
structure ClearOk
    (world : World) (fullOnlineGenNum : ℕ) (node : Fin 2)
    (lastVoteNum : ℕ) : Prop where
  mine : ∃ gen, (node, gen) ∈ world.online ∧ gen.members = Finset.univ ∧
    gen.num = fullOnlineGenNum
  others : ∀ other, other ≠ node →
    ∃ gen, (other, gen) ∈ world.online ∧ fullOnlineGenNum ≤ gen.num
  /-- It covers no grant of the node that is in use. -/
  unused : ∀ grant, Active world grant → grant.node = node →
    lastVoteNum < grant.num ∨ grant.num < fullOnlineGenNum

/-- The generation the campaigner wants a grant for, or has it for. -/
def Campaigner.candidate : Campaigner → Option (MtmGeneration 2)
  | .connecting candidate => some candidate
  | .requesting candidate => some candidate
  | .granted candidate _ => some candidate
  | _ => none

/-- What holds of the campaigner of a node: it asks for generations of the node
alone, and no abandoned `delete` is for the number it waits for. -/
structure CampaignerOk
    (abandoned : List Sql) (me : Fin 2) (campaigner : Campaigner) : Prop where
  candidate : ∀ candidate, campaigner.candidate = some candidate →
    candidate.configured = Finset.univ ∧ candidate.members = {me}
  request : ∀ candidate, campaigner = .requesting candidate →
    ∀ sql ∈ abandoned, ¬ sql.Covers me candidate.num

/-- The invariant. -/
structure Invariant (world : World) : Prop where
  cluster : ClusterOk world.cluster world.won world.online
  /-- What a node knows about the other was true once. -/
  reports : ∀ me other, ∃ gen, (other, gen) ∈ world.online ∧
    world.othersLastOnlineIn me other ≤ gen.num
  campaigners : ∀ me,
    CampaignerOk world.abandoned me (world.campaigner me)
  clears : ∀ fullOnlineGenNum node lastVoteNum,
    Pending world (.clearGrant fullOnlineGenNum node lastVoteNum) →
      ClearOk world fullOnlineGenNum node lastVoteNum
  times : ∀ grant, Active world grant → grant.time < world.issued
  distinct : ∀ first second, Active world first → Active world second →
    first.node ≠ second.node → first.time ≠ second.time
  backed : ∀ grant, Active world grant → Backed world grant
  separated : ∀ first second, Active world first → Active world second →
    first.node ≠ second.node → first.time < second.time →
      Separated world first second

/-! ## Rules -/

section Rules

variable {world next : World}

theorem OnlineAbove.mono
    {node : Fin 2} {num : ℕ}
    (above : OnlineAbove world node num)
    (records : world.online ⊆ next.online) :
    OnlineAbove next node num := by
  obtain ⟨gen, isOnline, both, newer⟩ := above
  exact ⟨gen, records isOnline, both, newer⟩

theorem Backed.mono
    {grant : Grant}
    (backed : Backed world grant)
    (sameRow : next.decision = world.decision)
    (records : world.online ⊆ next.online) :
    Backed next grant := by
  rcases backed with ⟨num, atLeast, isRow⟩ | above
  · exact Or.inl ⟨num, atLeast, sameRow.trans isRow⟩
  · exact Or.inr fun other different => (above other different).mono records

theorem Separated.mono
    {first second : Grant}
    (separated : Separated world first second)
    (records : world.online ⊆ next.online) :
    Separated next first second := by
  obtain ⟨gen, isOnline, both, after, before⟩ := separated
  exact ⟨gen, records isOnline, both, after, before⟩

theorem ClearOk.mono
    {fullOnlineGenNum lastVoteNum : ℕ} {node : Fin 2}
    (ok : ClearOk world fullOnlineGenNum node lastVoteNum)
    (records : world.online ⊆ next.online)
    (active : ∀ grant, Active next grant → Active world grant) :
    ClearOk next fullOnlineGenNum node lastVoteNum where
  mine := by
    obtain ⟨gen, isOnline, both, same⟩ := ok.mine
    exact ⟨gen, records isOnline, both, same⟩
  others := fun other different => by
    obtain ⟨gen, isOnline, atLeast⟩ := ok.others other different
    exact ⟨gen, records isOnline, atLeast⟩
  unused := fun grant isActive => ok.unused grant (active grant isActive)

/-- The steps that issue no grant.  They may take grants out of use, forget
about statements and change the row as long as every grant stays backed. -/
theorem Invariant.without_grant
    (invariant : Invariant world)
    (cluster : ClusterOk next.cluster next.won next.online)
    (records : world.online ⊆ next.online)
    (reports : ∀ me other, ∃ gen, (other, gen) ∈ next.online ∧
      next.othersLastOnlineIn me other ≤ gen.num)
    (campaigners : ∀ me, CampaignerOk next.abandoned me (next.campaigner me))
    (clears : ∀ fullOnlineGenNum node lastVoteNum,
      Pending next (.clearGrant fullOnlineGenNum node lastVoteNum) →
        ClearOk world fullOnlineGenNum node lastVoteNum)
    (issued : world.issued ≤ next.issued)
    (active : ∀ grant, Active next grant → Active world grant)
    (backed : ∀ grant, Active world grant → Backed next grant) :
    Invariant next where
  cluster := cluster
  reports := reports
  campaigners := campaigners
  clears := fun fullOnlineGenNum node lastVoteNum pending =>
    (clears fullOnlineGenNum node lastVoteNum pending).mono records active
  times := fun grant isActive =>
    lt_of_lt_of_le (invariant.times grant (active grant isActive)) issued
  distinct := fun first second firstActive secondActive =>
    invariant.distinct first second (active first firstActive)
      (active second secondActive)
  backed := fun grant isActive => backed grant (active grant isActive)
  separated := fun first second firstActive secondActive different earlier =>
    (invariant.separated first second (active first firstActive)
      (active second secondActive) different earlier).mono records

/-- Grants in use stay the same or fall out of use when the generations grow
and no campaigner gets a grant. -/
theorem active_of_active
    (won : ∀ grant ∈ next.won, Active world grant)
    (grows : ∀ me, (world.cluster.node me).currentGen.num ≤
      (next.cluster.node me).currentGen.num)
    (campaigners : ∀ me candidate time,
      next.campaigner me = .granted candidate time →
        world.campaigner me = .granted candidate time)
    (grant : Grant) (isActive : Active next grant) :
    Active world grant := by
  rcases isActive with isWon | ⟨candidate, isGranted, same, newer⟩
  · exact won grant isWon
  · exact Or.inr ⟨candidate, campaigners _ _ _ isGranted, same,
      lt_of_le_of_lt (grows _) newer⟩

theorem table_requestGrant_of_isSome
    {applicantId : Fin 2} {genNum : ℕ} {decision : Option Decision}
    (grants : (requestGrant applicantId genNum decision).isSome = true) :
    (Sql.requestGrant applicantId genNum).table decision =
      some ⟨applicantId, genNum⟩ := by
  unfold requestGrant at grants
  cases decision with
  | none => rfl
  | some row =>
      by_cases reissued : row.nodeId = applicantId ∧ row.genNum < genNum
      · simp [Sql.table, requestGrant, reissued]
      · simp [reissued] at grants

/-- A request takes no row away from another node and lowers no number. -/
theorem Backed.requestGrant
    {grant : Grant}
    (backed : Backed world grant)
    {applicantId : Fin 2} {genNum : ℕ}
    (isRow : next.decision =
      (Sql.requestGrant applicantId genNum).table world.decision)
    (records : world.online ⊆ next.online) :
    Backed next grant := by
  rcases backed with ⟨num, atLeast, held⟩ | above
  · left
    rw [held] at isRow
    by_cases reissued : grant.node = applicantId ∧ num < genNum
    · refine ⟨genNum, atLeast.trans reissued.2.le, ?_⟩
      simp [isRow, Sql.table, Referee.requestGrant, reissued]
    · refine ⟨num, atLeast, ?_⟩
      simp [isRow, Sql.table, Referee.requestGrant, reissued]
  · exact Or.inr fun other different => (above other different).mono records

/-- After both nodes were online in a generation above a grant, the other node
was online in one of both nodes above it. -/
theorem Invariant.onlineAbove
    (invariant : Invariant world)
    {fullOnlineGenNum lastVoteNum : ℕ} {node : Fin 2}
    (ok : ClearOk world fullOnlineGenNum node lastVoteNum)
    {grant : Grant}
    (isActive : Active world grant)
    (below : grant.num < fullOnlineGenNum)
    {other : Fin 2}
    (different : other ≠ grant.node) :
    OnlineAbove world other grant.num := by
  by_cases isSender : other = node
  · obtain ⟨gen, isOnline, both, same⟩ := ok.mine
    rw [isSender]
    exact ⟨gen, isOnline, both, same ▸ below⟩
  · obtain ⟨gen, isOnline, atLeast⟩ := ok.others other isSender
    rcases invariant.cluster.granted other gen isOnline with
      both | ⟨_, later, isWon, isOther, isNum⟩
    · exact ⟨gen, isOnline, both, lt_of_lt_of_le below atLeast⟩
    · -- The other node got there by a grant of its own.
      subst isOther
      have laterActive : Active world later := Or.inl isWon
      rcases lt_or_gt_of_ne (invariant.distinct grant later isActive
        laterActive different.symm) with earlier | afterwards
      · obtain ⟨between, isBetween, both, above, _⟩ :=
          invariant.separated grant later isActive laterActive
            different.symm earlier
        exact ⟨between, isBetween, both, above⟩
      · obtain ⟨between, _, _, above, under⟩ :=
          invariant.separated later grant laterActive isActive
            different afterwards
        omega

/-- A `delete` leaves every grant backed. -/
theorem Invariant.backed_clearGrant
    (invariant : Invariant world)
    {fullOnlineGenNum lastVoteNum : ℕ} {node : Fin 2}
    (ok : ClearOk world fullOnlineGenNum node lastVoteNum)
    (isRow : next.decision =
      (Sql.clearGrant fullOnlineGenNum node lastVoteNum).table world.decision)
    (records : world.online ⊆ next.online)
    {grant : Grant}
    (isActive : Active world grant) :
    Backed next grant := by
  rcases invariant.backed grant isActive with ⟨num, atLeast, held⟩ | above
  · rw [held] at isRow
    by_cases deleted :
        Clears fullOnlineGenNum node lastVoteNum ⟨grant.node, num⟩
    · right
      have below : grant.num < fullOnlineGenNum := by
        rcases deleted with older | ⟨isNode, covered⟩
        · exact lt_of_le_of_lt atLeast older
        · rcases ok.unused grant isActive isNode with fresh | older
          · exact absurd (lt_of_lt_of_le fresh atLeast) (not_lt.mpr covered)
          · exact older
      intro other different
      exact (invariant.onlineAbove ok isActive below different).mono records
    · exact Or.inl ⟨num, atLeast, by simp [isRow, Sql.table, deleted]⟩
  · exact Or.inr fun other different => (above other different).mono records

/-- The grants after one was issued. -/
theorem active_of_grant
    {me : Fin 2} {candidate : MtmGeneration 2} {grant : Grant}
    (sameCluster : next.cluster = world.cluster)
    (sameWon : next.won = world.won)
    (isCampaigner : next.campaigner = Function.update world.campaigner me
      (.granted candidate world.issued))
    (isActive : Active next grant) :
    Active world grant ∨
      (grant = ⟨me, candidate.num, world.issued⟩ ∧
        (world.cluster.node me).currentGen.num < candidate.num) := by
  obtain ⟨node, num, time⟩ := grant
  rcases isActive with isWon | ⟨other, isGranted, same, newer⟩
  · rw [sameWon] at isWon
    exact Or.inl (Or.inl isWon)
  · dsimp only at isGranted same newer
    rw [sameCluster] at newer
    rw [isCampaigner] at isGranted
    by_cases isMe : node = me
    · subst isMe
      rw [Function.update_self] at isGranted
      cases isGranted
      cases same
      exact Or.inr ⟨rfl, newer⟩
    · rw [Function.update_of_ne isMe] at isGranted
      exact Or.inl (Or.inr ⟨other, isGranted, same, newer⟩)

/-- The statements on their way do not clear the grant that is issued. -/
theorem Invariant.pending_of_grant
    (invariant : Invariant world)
    {me node : Fin 2} {candidate : MtmGeneration 2}
    {fullOnlineGenNum lastVoteNum : ℕ}
    (isRequesting : world.campaigner me = .requesting candidate)
    (sameAbandoned : next.abandoned = world.abandoned)
    (isCampaigner : next.campaigner = Function.update world.campaigner me
      (.granted candidate world.issued))
    (pending : Pending next (.clearGrant fullOnlineGenNum node lastVoteNum)) :
    Pending world (.clearGrant fullOnlineGenNum node lastVoteNum) ∧
      (node = me → lastVoteNum < candidate.num) := by
  rcases pending with abandoned | ⟨other, isStatement⟩
  · rw [sameAbandoned] at abandoned
    refine ⟨Or.inl abandoned, fun isMe => ?_⟩
    have uncovered := (invariant.campaigners me).request candidate
      isRequesting _ abandoned
    simpa [Sql.Covers, isMe] using uncovered
  · rw [isCampaigner] at isStatement
    by_cases isMe : other = me
    · subst isMe
      rw [Function.update_self] at isStatement
      cases isStatement
    · rw [Function.update_of_ne isMe] at isStatement
      refine ⟨Or.inr ⟨other, isStatement⟩, ?_⟩
      cases hOther : world.campaigner other with
      | clearing fullNum voteNum =>
          rw [hOther] at isStatement
          cases isStatement
          exact fun same => absurd same isMe
      | _ =>
          rw [hOther] at isStatement
          cases isStatement

/-- The row was not that of the other node, so its grant is backed by a
generation of both nodes. -/
theorem Invariant.separated_of_grant
    (invariant : Invariant world)
    {me : Fin 2} {candidate : MtmGeneration 2} {first : Grant}
    (grants : (requestGrant me candidate.num world.decision).isSome = true)
    (records : world.online ⊆ next.online)
    (isActive : Active world first) (different : first.node ≠ me)
    (newer : (world.cluster.node me).currentGen.num < candidate.num) :
    Separated next first ⟨me, candidate.num, world.issued⟩ := by
  rcases invariant.backed first isActive with ⟨num, _, held⟩ | above
  · rw [held] at grants
    simp only [requestGrant, Option.isSome_ite] at grants
    exact absurd grants.1 different
  · obtain ⟨gen, isOnline, both, after⟩ := above me different.symm
    refine ⟨gen, records isOnline, both, after, ?_⟩
    exact lt_of_le_of_lt (invariant.cluster.reached me gen isOnline) newer

/-- The step that issues a grant to a node that waits for it. -/
theorem Invariant.with_grant
    (invariant : Invariant world)
    {me : Fin 2} {candidate : MtmGeneration 2}
    (isRequesting : world.campaigner me = .requesting candidate)
    (grants : (requestGrant me candidate.num world.decision).isSome = true)
    (sameCluster : next.cluster = world.cluster)
    (sameReports : next.othersLastOnlineIn = world.othersLastOnlineIn)
    (sameAbandoned : next.abandoned = world.abandoned)
    (sameWon : next.won = world.won)
    (sameOnline : next.online = world.online)
    (isRow : next.decision =
      (Sql.requestGrant me candidate.num).table world.decision)
    (isIssued : next.issued = world.issued + 1)
    (isCampaigner : next.campaigner = Function.update world.campaigner me
      (.granted candidate world.issued)) :
    Invariant next := by
  have records : world.online ⊆ next.online := by
    rw [sameOnline]
    exact List.Subset.refl _
  have active : ∀ grant, Active next grant → Active world grant ∨
      (grant = ⟨me, candidate.num, world.issued⟩ ∧
        (world.cluster.node me).currentGen.num < candidate.num) :=
    fun _ => active_of_grant sameCluster sameWon isCampaigner
  refine {
    cluster := ?_
    reports := ?_
    campaigners := ?_
    clears := ?_
    times := ?_
    distinct := ?_
    backed := ?_
    separated := ?_ }
  · rw [sameCluster, sameWon, sameOnline]
    exact invariant.cluster
  · rw [sameReports, sameOnline]
    exact invariant.reports
  · rw [isCampaigner, sameAbandoned]
    refine Function.forall_update_iff _ (CampaignerOk world.abandoned) |>.mpr
      ⟨⟨?_, ?_⟩, fun other _ => invariant.campaigners other⟩
    · rintro other ⟨rfl⟩
      exact (invariant.campaigners me).candidate candidate
        (by rw [isRequesting]; rfl)
    · rintro other ⟨⟩
  · intro fullOnlineGenNum node lastVoteNum pending
    obtain ⟨before, older⟩ :=
      invariant.pending_of_grant isRequesting sameAbandoned isCampaigner pending
    have ok := invariant.clears _ _ _ before
    refine ⟨?_, ?_, ?_⟩
    · rw [sameOnline]
      exact ok.mine
    · rw [sameOnline]
      exact ok.others
    · intro grant isActive isNode
      rcases active grant isActive with isOld | ⟨rfl, _⟩
      · exact ok.unused grant isOld isNode
      · exact Or.inl (older isNode.symm)
  · intro grant isActive
    rw [isIssued]
    rcases active grant isActive with isOld | ⟨rfl, _⟩
    · exact Nat.lt_succ_of_lt (invariant.times grant isOld)
    · exact Nat.lt_succ_self _
  · intro first second firstActive secondActive different
    rcases active first firstActive with firstOld | ⟨rfl, _⟩
    · rcases active second secondActive with secondOld | ⟨rfl, _⟩
      · exact invariant.distinct first second firstOld secondOld different
      · exact ne_of_lt (invariant.times first firstOld)
    · rcases active second secondActive with secondOld | ⟨rfl, _⟩
      · exact ne_of_gt (invariant.times second secondOld)
      · exact absurd rfl different
  · intro grant isActive
    rcases active grant isActive with isOld | ⟨rfl, _⟩
    · exact (invariant.backed grant isOld).requestGrant isRow records
    · refine Or.inl ⟨candidate.num, le_rfl, ?_⟩
      rw [isRow]
      exact table_requestGrant_of_isSome grants
  · intro first second firstActive secondActive different earlier
    rcases active first firstActive with firstOld | ⟨rfl, _⟩
    · rcases active second secondActive with secondOld | ⟨rfl, newer⟩
      · exact (invariant.separated first second firstOld secondOld different
          earlier).mono records
      · exact invariant.separated_of_grant grants records firstOld different newer
    · exfalso
      rcases active second secondActive with secondOld | ⟨rfl, _⟩
      · exact absurd earlier (not_lt.mpr (invariant.times second secondOld).le)
      · exact different rfl

/-- The steps that issue no grant and leave the generations alone. -/
theorem Invariant.quiet
    (invariant : Invariant world)
    (sameCluster : next.cluster = world.cluster)
    (sameWon : next.won = world.won)
    (sameOnline : next.online = world.online)
    (reports : ∀ me other, ∃ gen, (other, gen) ∈ world.online ∧
      next.othersLastOnlineIn me other ≤ gen.num)
    (campaigners : ∀ me, CampaignerOk next.abandoned me (next.campaigner me))
    (clears : ∀ fullOnlineGenNum node lastVoteNum,
      Pending next (.clearGrant fullOnlineGenNum node lastVoteNum) →
        ClearOk world fullOnlineGenNum node lastVoteNum)
    (issued : world.issued ≤ next.issued)
    (granted : ∀ me candidate time,
      next.campaigner me = .granted candidate time →
        world.campaigner me = .granted candidate time)
    (backed : ∀ grant, Active world grant → Backed next grant) :
    Invariant next := by
  refine invariant.without_grant ?_ ?_ ?_ campaigners clears issued ?_ backed
  · rw [sameCluster, sameWon, sameOnline]
    exact invariant.cluster
  · rw [sameOnline]
    exact List.Subset.refl _
  · rw [sameOnline]
    exact reports
  · refine active_of_active ?_ ?_ granted
    · intro grant isWon
      rw [sameWon] at isWon
      exact Or.inl isWon
    · intro me
      rw [sameCluster]

/-- The campaigners after one of them has moved on. -/
theorem Invariant.campaigners_update
    (invariant : Invariant world)
    {abandoned : List Sql}
    (fewer : abandoned ⊆ world.abandoned)
    {me : Fin 2} {campaigner : Campaigner}
    (ok : CampaignerOk abandoned me campaigner)
    (other : Fin 2) :
    CampaignerOk abandoned other
      (Function.update world.campaigner me campaigner other) := by
  by_cases isMe : other = me
  · subst isMe
    rw [Function.update_self]
    exact ok
  · rw [Function.update_of_ne isMe]
    have before := invariant.campaigners other
    exact ⟨before.candidate, fun candidate isRequesting sql isSql =>
      before.request candidate isRequesting sql (fewer isSql)⟩

/-- A campaigner that asks for nothing. -/
theorem campaignerOk_of_candidate_eq_none
    {abandoned : List Sql} {me : Fin 2} {campaigner : Campaigner}
    (nothing : campaigner.candidate = none) :
    CampaignerOk abandoned me campaigner := by
  constructor
  · intro candidate isCandidate
    rw [nothing] at isCandidate
    cases isCandidate
  · rintro candidate rfl
    cases nothing

theorem granted_update
    {campaigners : Fin 2 → Campaigner} {me : Fin 2} {campaigner : Campaigner}
    (ungranted : ∀ candidate time, campaigner ≠ .granted candidate time)
    (other : Fin 2) (candidate : MtmGeneration 2) (time : ℕ)
    (isGranted : Function.update campaigners me campaigner other =
      .granted candidate time) :
    campaigners other = .granted candidate time := by
  by_cases isMe : other = me
  · subst isMe
    rw [Function.update_self] at isGranted
    exact absurd isGranted (ungranted candidate time)
  · rwa [Function.update_of_ne isMe] at isGranted

/-- Statements that are pending after a campaigner has moved on. -/
theorem pending_of_update
    {sql : Sql}
    (pending : Pending next sql)
    {me : Fin 2} {campaigner : Campaigner}
    (isCampaigner :
      next.campaigner = Function.update world.campaigner me campaigner)
    (fewer : ∀ sql ∈ next.abandoned, Pending world sql) :
    Pending world sql ∨ campaigner.statement me = some sql := by
  rcases pending with abandoned | ⟨other, isStatement⟩
  · exact Or.inl (fewer sql abandoned)
  · rw [isCampaigner] at isStatement
    by_cases isMe : other = me
    · subst isMe
      rw [Function.update_self] at isStatement
      exact Or.inr isStatement
    · rw [Function.update_of_ne isMe] at isStatement
      exact Or.inl (Or.inr ⟨other, isStatement⟩)

/-- A campaigner moves on without a grant and without sending a `delete`. -/
theorem Invariant.move
    (invariant : Invariant world)
    {me : Fin 2} {campaigner : Campaigner}
    (isCampaigner :
      next.campaigner = Function.update world.campaigner me campaigner)
    (ok : CampaignerOk next.abandoned me campaigner)
    (ungranted : ∀ candidate time, campaigner ≠ .granted candidate time)
    (noDelete : ∀ fullOnlineGenNum lastVoteNum,
      campaigner ≠ .clearing fullOnlineGenNum lastVoteNum)
    (sameCluster : next.cluster = world.cluster)
    (sameWon : next.won = world.won)
    (sameOnline : next.online = world.online)
    (sameReports : next.othersLastOnlineIn = world.othersLastOnlineIn)
    (fewer : next.abandoned ⊆ world.abandoned)
    (issued : world.issued ≤ next.issued)
    (backed : ∀ grant, Active world grant → Backed next grant) :
    Invariant next := by
  refine invariant.quiet sameCluster sameWon sameOnline ?_ ?_ ?_ issued ?_
    backed
  · rw [sameReports]
    exact invariant.reports
  · rw [isCampaigner]
    exact invariant.campaigners_update fewer ok
  · intro fullOnlineGenNum node lastVoteNum pending
    rcases pending_of_update pending isCampaigner
      (fun sql isSql => Or.inl (fewer isSql)) with before | isStatement
    · exact invariant.clears _ _ _ before
    · cases campaigner with
      | clearing fullNum voteNum => exact absurd rfl (noDelete fullNum voteNum)
      | _ => cases isStatement
  · rw [isCampaigner]
    exact granted_update ungranted

end Rules

/-! ## The steps -/

theorem newOnline_self (cluster : Election.Cluster 2) :
    newOnline cluster cluster = [] := by
  simp [newOnline]

theorem refereeClearGrant_eq_clear
    {me : Fin 2} {state : MtmStateOnDisk 2} {othersLastOnlineIn : Fin 2 → ℕ}
    {fullOnlineGenNum lastVoteNum : ℕ}
    (isDecision : refereeClearGrant me state othersLastOnlineIn =
      .clear fullOnlineGenNum lastVoteNum) :
    state.currentGen.members = Finset.univ ∧
      state.lastOnlineIn = state.currentGen.num ∧
      (∀ other, other ≠ me →
        state.lastOnlineIn ≤ othersLastOnlineIn other) ∧
      state.currentGen.num = fullOnlineGenNum ∧
      state.lastVote.num = lastVoteNum := by
  unfold refereeClearGrant at isDecision
  split at isDecision
  · cases isDecision
  · next full =>
      rw [not_or, not_not, not_not, mtmGetCurrentStatusInGen_eq_online] at full
      have both : state.currentGen.members = Finset.univ :=
        Finset.eq_univ_of_card _ (by rw [full.1]; rfl)
      split at isDecision
      · cases isDecision
      · next caughtUp =>
          cases isDecision
          refine ⟨both, full.2, ?_, rfl, rfl⟩
          intro other different
          by_contra behind
          exact caughtUp ⟨other, by rw [both]; exact Finset.mem_univ other,
            different, not_le.mp behind⟩

/-- The steps that leave the generations alone. -/
def Action.IsQuiet : Action → Prop
  | .election _ => False
  | .switch _ => False
  | _ => True

theorem step_of_isQuiet
    (world : World) {action : Action} (quiet : action.IsQuiet) :
    (step world action).cluster = world.cluster ∧
      (step world action).won = world.won ∧
      (step world action).online = world.online := by
  cases action with
  | election action => exact quiet.elim
  | switch me => exact quiet.elim
  | heartbeat me other lastOnlineIn => exact ⟨rfl, rfl, rfl⟩
  | request me =>
      simp only [step]
      split <;> exact ⟨rfl, rfl, rfl⟩
  | clear me =>
      simp only [step, Referee.clear]
      split <;> exact ⟨rfl, rfl, rfl⟩
  | execute me =>
      simp only [step]
      split <;> exact ⟨rfl, rfl, rfl⟩
  | executeLate sql => exact ⟨rfl, rfl, rfl⟩
  | lose sql => exact ⟨rfl, rfl, rfl⟩
  | finishClear me =>
      simp only [step, Referee.finishClear]
      split <;> exact ⟨rfl, rfl, rfl⟩
  | fail me =>
      simp only [step, Referee.fail]
      split <;> exact ⟨rfl, rfl, rfl⟩

/-- These steps record nothing. -/
theorem effect_of_isQuiet
    (world : World) {action : Action} (quiet : action.IsQuiet) :
    effect world action = step world action := by
  obtain ⟨sameCluster, _, sameOnline⟩ := step_of_isQuiet world quiet
  have nothing : newOnline world.cluster (step world action).cluster ++
      world.online = (step world action).online := by
    rw [sameCluster, newOnline_self, List.nil_append, sameOnline]
  simp only [effect, nothing]

namespace Invariant

variable {world : World}

theorem heartbeat
    (invariant : Invariant world)
    {me other : Fin 2} {lastOnlineIn : ℕ}
    (sent : lastOnlineIn ∈ world.cluster.online other) :
    Invariant (effect world (.heartbeat me other lastOnlineIn)) := by
  rw [effect_of_isQuiet world (by trivial)]
  refine invariant.quiet rfl rfl rfl ?_ invariant.campaigners
    invariant.clears le_rfl (fun _ _ _ => id) invariant.backed
  intro node peer
  simp only [step]
  by_cases isMe : node = me
  · subst isMe
    rw [Function.update_self]
    by_cases isOther : peer = other
    · subst isOther
      rw [Function.update_self]
      obtain ⟨gen, isOnline, same⟩ :=
        invariant.cluster.numbers peer lastOnlineIn sent
      exact ⟨gen, isOnline, same.ge⟩
    · rw [Function.update_of_ne isOther]
      exact invariant.reports node peer
  · rw [Function.update_of_ne isMe]
    exact invariant.reports node peer

theorem request
    (invariant : Invariant world)
    {me : Fin 2}
    (permitted : UnclearedRequest world (.request me)) :
    Invariant (effect world (.request me)) := by
  cases isStage : world.campaigner me with
  | connecting candidate =>
      have isStep : step world (.request me) =
          { world with
            campaigner := Function.update world.campaigner me
              (.requesting candidate) } := by
        simp only [step, isStage]
      rw [effect_of_isQuiet world (by trivial), isStep]
      refine invariant.move rfl ⟨?_, ?_⟩ ?_ ?_ rfl rfl rfl rfl
        (List.Subset.refl _) le_rfl invariant.backed
      · rintro other ⟨rfl⟩
        exact (invariant.campaigners me).candidate candidate
          (by rw [isStage]; rfl)
      · rintro other ⟨rfl⟩ sql isSql
        exact permitted sql isSql candidate (by rw [isStage]; rfl)
      · rintro _ _ ⟨⟩
      · rintro _ _ ⟨⟩
  | _ =>
      have isStep : step world (.request me) = world := by
        simp only [step, isStage]
      rw [effect_of_isQuiet world (by trivial), isStep]
      exact invariant

/-- What `RefereeClearGrant` has checked when it sends its `delete`. -/
theorem clearOk
    (invariant : Invariant world)
    {me : Fin 2}
    (isIdle : world.campaigner me = .idle)
    {fullOnlineGenNum lastVoteNum : ℕ}
    (isDecision : refereeClearGrant me
      (world.cluster.node me).toMtmStateOnDisk
      (world.othersLastOnlineIn me) = .clear fullOnlineGenNum lastVoteNum) :
    ClearOk world fullOnlineGenNum me lastVoteNum := by
  obtain ⟨both, isOnline, caughtUp, rfl, _⟩ :=
    refereeClearGrant_eq_clear isDecision
  refine ⟨?_, ?_, ?_⟩
  · exact ⟨_, invariant.cluster.recorded me isOnline, both, rfl⟩
  · intro other different
    obtain ⟨gen, recorded, atLeast⟩ := invariant.reports me other
    refine ⟨gen, recorded, ?_⟩
    calc
      (world.cluster.node me).currentGen.num
          = (world.cluster.node me).lastOnlineIn := isOnline.symm
      _ ≤ world.othersLastOnlineIn me other := caughtUp other different
      _ ≤ gen.num := atLeast
  · rintro grant (isWon | ⟨candidate, isGranted, _, _⟩) rfl
    · rcases invariant.cluster.passed grant isWon with before | ⟨_, single⟩
      · exact Or.inr before
      · rw [both] at single
        exact absurd single (univ_ne_singleton _)
    · rw [isIdle] at isGranted
      cases isGranted

theorem clear
    (invariant : Invariant world)
    {me : Fin 2}
    (isIdle : world.campaigner me = .idle) :
    Invariant (effect world (.clear me)) := by
  cases isDecision : refereeClearGrant me
      (world.cluster.node me).toMtmStateOnDisk
      (world.othersLastOnlineIn me) with
  | forget =>
      have isStep : step world (.clear me) =
          { world with
            turnInPending :=
              Function.update world.turnInPending me mtmInvalidGenNum } := by
        simp only [step, Referee.clear, isDecision]
      rw [effect_of_isQuiet world (by trivial), isStep]
      exact invariant.quiet rfl rfl rfl invariant.reports
        invariant.campaigners invariant.clears le_rfl (fun _ _ _ => id)
        invariant.backed
  | wait =>
      have isStep : step world (.clear me) = world := by
        simp only [step, Referee.clear, isDecision]
      rw [effect_of_isQuiet world (by trivial), isStep]
      exact invariant
  | clear fullOnlineGenNum lastVoteNum =>
      have isStep : step world (.clear me) =
          { world with
            campaigner := Function.update world.campaigner me
              (.clearing fullOnlineGenNum lastVoteNum) } := by
        simp only [step, Referee.clear, isDecision]
      rw [effect_of_isQuiet world (by trivial), isStep]
      refine invariant.quiet rfl rfl rfl invariant.reports
        (invariant.campaigners_update (List.Subset.refl _)
          (campaignerOk_of_candidate_eq_none rfl)) ?_ le_rfl
        (granted_update (by rintro _ _ ⟨⟩)) invariant.backed
      intro fullNum node voteNum pending
      have either : Pending world _ ∨ _ :=
        pending_of_update pending rfl fun sql isSql => Or.inl isSql
      rcases either with before | isStatement
      · exact invariant.clears _ _ _ before
      · cases isStatement
        exact invariant.clearOk isIdle isDecision

theorem execute
    (invariant : Invariant world)
    {me : Fin 2}
    (waits : ((world.campaigner me).statement me).isSome = true) :
    Invariant (effect world (.execute me)) := by
  cases isStage : world.campaigner me with
  | requesting candidate =>
      have isStep : step world (.execute me) =
          { world.execute (.requestGrant me candidate.num) with
            campaigner := Function.update world.campaigner me
              ((Campaigner.requesting candidate).answered me world) } := by
        simp only [step, isStage, Campaigner.statement]
      rw [effect_of_isQuiet world (by trivial), isStep]
      by_cases grants :
          (requestGrant me candidate.num world.decision).isSome = true
      · refine invariant.with_grant isStage grants rfl rfl rfl rfl rfl rfl
          ?_ ?_
        · simp only [World.execute, grants, if_true]
        · simp only [Campaigner.answered, grants, if_true]
      · have refused : (Campaigner.requesting candidate).answered me world =
            .refused := by
          simp only [Campaigner.answered, grants]
          rfl
        rw [refused]
        refine invariant.move rfl (campaignerOk_of_candidate_eq_none rfl)
          (by rintro _ _ ⟨⟩) (by rintro _ _ ⟨⟩) rfl rfl rfl rfl
          (List.Subset.refl _) ?_ ?_
        · simp only [World.execute]
          split <;> omega
        · intro grant isActive
          exact (invariant.backed grant isActive).requestGrant rfl
            (List.Subset.refl _)
  | clearing fullOnlineGenNum lastVoteNum =>
      have isStep : step world (.execute me) =
          { world.execute (.clearGrant fullOnlineGenNum me lastVoteNum) with
            campaigner := Function.update world.campaigner me
              (.cleared fullOnlineGenNum) } := by
        simp only [step, isStage, Campaigner.statement, Campaigner.answered]
      rw [effect_of_isQuiet world (by trivial), isStep]
      have pending :
          Pending world (.clearGrant fullOnlineGenNum me lastVoteNum) :=
        Or.inr ⟨me, by rw [isStage]; rfl⟩
      refine invariant.move rfl (campaignerOk_of_candidate_eq_none rfl)
        (by rintro _ _ ⟨⟩) (by rintro _ _ ⟨⟩) rfl rfl rfl rfl
        (List.Subset.refl _) le_rfl ?_
      intro grant isActive
      refine invariant.backed_clearGrant (invariant.clears _ _ _ pending) ?_
        ?_ isActive
      · rfl
      · exact List.Subset.refl _
  | _ =>
      rw [isStage] at waits
      cases waits

/-- Forgetting about statements that nobody waits for. -/
theorem fewer_abandoned
    (invariant : Invariant world)
    (sql : Sql) (me : Fin 2) :
    CampaignerOk (world.abandoned.erase sql) me (world.campaigner me) := by
  have before := invariant.campaigners me
  exact ⟨before.candidate, fun candidate isRequesting other isOther =>
    before.request candidate isRequesting other (List.mem_of_mem_erase isOther)⟩

theorem pending_of_erase
    {next : World} {sql other : Sql}
    (pending : Pending next sql)
    (sameCampaigner : next.campaigner = world.campaigner)
    (fewer : next.abandoned = world.abandoned.erase other) :
    Pending world sql := by
  rw [Pending, sameCampaigner, fewer] at pending
  exact pending.imp_left List.mem_of_mem_erase

theorem executeLate
    (invariant : Invariant world)
    {sql : Sql}
    (isSql : sql ∈ world.abandoned) :
    Invariant (effect world (.executeLate sql)) := by
  rw [effect_of_isQuiet world (by trivial)]
  refine invariant.quiet rfl rfl rfl invariant.reports
    (invariant.fewer_abandoned sql) ?_ ?_ (fun _ _ _ => id) ?_
  · intro fullOnlineGenNum node lastVoteNum pending
    exact invariant.clears _ _ _ (pending_of_erase pending rfl rfl)
  · simp only [step, World.execute]
    split
    · split <;> omega
    · exact le_rfl
  · intro grant isActive
    cases sql with
    | requestGrant applicantId genNum =>
        exact (invariant.backed grant isActive).requestGrant rfl
          (List.Subset.refl _)
    | clearGrant fullOnlineGenNum node lastVoteNum =>
        refine invariant.backed_clearGrant
          (invariant.clears _ _ _ (Or.inl isSql)) ?_ ?_ isActive
        · rfl
        · exact List.Subset.refl _

theorem lose
    (invariant : Invariant world) (sql : Sql) :
    Invariant (effect world (.lose sql)) := by
  rw [effect_of_isQuiet world (by trivial)]
  refine invariant.quiet rfl rfl rfl invariant.reports
    (invariant.fewer_abandoned sql) ?_ le_rfl (fun _ _ _ => id)
    invariant.backed
  intro fullOnlineGenNum node lastVoteNum pending
  exact invariant.clears _ _ _ (pending_of_erase pending rfl rfl)

theorem finishClear
    (invariant : Invariant world) (me : Fin 2) :
    Invariant (effect world (.finishClear me)) := by
  cases isStage : world.campaigner me with
  | cleared fullOnlineGenNum =>
      have isStep : step world (.finishClear me) =
          { world with
            campaigner := Function.update world.campaigner me .idle
            turnInPending :=
              if world.turnInPending me ≤ fullOnlineGenNum then
                Function.update world.turnInPending me mtmInvalidGenNum
              else world.turnInPending } := by
        simp only [step, Referee.finishClear, isStage]
      rw [effect_of_isQuiet world (by trivial), isStep]
      exact invariant.move rfl (campaignerOk_of_candidate_eq_none rfl)
        (by rintro _ _ ⟨⟩) (by rintro _ _ ⟨⟩) rfl rfl rfl rfl
        (List.Subset.refl _) le_rfl invariant.backed
  | _ =>
      have isStep : step world (.finishClear me) = world := by
        simp only [step, Referee.finishClear, isStage]
      rw [effect_of_isQuiet world (by trivial), isStep]
      exact invariant

/-- The campaigners after one of them has stopped waiting: its own statement
covers no request of the other. -/
theorem campaigners_abandon
    (invariant : Invariant world) (me other : Fin 2) :
    CampaignerOk (world.abandon me).abandoned other
      ((world.abandon me).campaigner other) := by
  by_cases isMe : other = me
  · subst isMe
    simp only [World.abandon, Function.update_self]
    exact campaignerOk_of_candidate_eq_none rfl
  · simp only [World.abandon]
    rw [Function.update_of_ne isMe]
    have before := invariant.campaigners other
    refine ⟨before.candidate, ?_⟩
    intro candidate isRequesting sql isSql
    rcases List.mem_append.mp isSql with isOwn | isOld
    · cases isStage : world.campaigner me with
      | clearing fullOnlineGenNum lastVoteNum =>
          simp only [isStage, Campaigner.statement, Option.toList_some,
            List.mem_singleton] at isOwn
          rw [isOwn]
          exact fun covers => isMe covers.1.symm
      | requesting own =>
          simp only [isStage, Campaigner.statement, Option.toList_some,
            List.mem_singleton] at isOwn
          rw [isOwn]
          exact id
      | _ =>
          rw [isStage] at isOwn
          cases isOwn
    · exact before.request candidate isRequesting sql isOld

theorem pending_of_abandon
    {me : Fin 2} {sql : Sql}
    (pending : Pending (world.abandon me) sql) :
    Pending world sql := by
  have either : Pending world sql ∨ Campaigner.idle.statement me = some sql := by
    refine pending_of_update pending rfl ?_
    intro other isOther
    rcases List.mem_append.mp isOther with isOwn | isOld
    · exact Or.inr ⟨me, Option.mem_toList.mp isOwn⟩
    · exact Or.inl isOld
  rcases either with before | isStatement
  · exact before
  · cases isStatement

theorem fail
    (invariant : Invariant world) (me : Fin 2) :
    Invariant (effect world (.fail me)) := by
  have abandons : ∃ turnInPending,
      step world (.fail me) =
        { world.abandon me with turnInPending := turnInPending } := by
    simp only [step, Referee.fail]
    split <;> exact ⟨_, rfl⟩
  obtain ⟨turnInPending, isStep⟩ := abandons
  rw [effect_of_isQuiet world (by trivial), isStep]
  refine invariant.quiet rfl rfl rfl invariant.reports
    (invariant.campaigners_abandon me) ?_ le_rfl
    (granted_update (by rintro _ _ ⟨⟩)) ?_
  · intro fullOnlineGenNum node lastVoteNum pending
    exact invariant.clears _ _ _ (pending_of_abandon pending)
  · intro grant isActive
    exact (invariant.backed grant isActive).mono rfl (List.Subset.refl _)

/-- A step of the election protocol, whatever it does to the campaigners. -/
theorem elects
    (invariant : Invariant world)
    {action : Election.Action 2}
    (enabled : Election.Enabled world.cluster action)
    {next : World}
    (isCluster : next.cluster = Election.effect world.cluster action)
    (isOnline : next.online =
      newOnline world.cluster next.cluster ++ world.online)
    (sameWon : next.won = world.won)
    (sameRow : next.decision = world.decision)
    (sameIssued : next.issued = world.issued)
    (reports : ∀ me other,
      next.othersLastOnlineIn me other ≤ world.othersLastOnlineIn me other)
    (campaigners : ∀ me, CampaignerOk next.abandoned me (next.campaigner me))
    (pending : ∀ sql, Pending next sql → Pending world sql)
    (granted : ∀ me candidate time,
      next.campaigner me = .granted candidate time →
        world.campaigner me = .granted candidate time) :
    Invariant next := by
  have records : world.online ⊆ next.online := by
    rw [isOnline]
    exact List.subset_append_right _ _
  refine invariant.without_grant ?_ records ?_ campaigners ?_ sameIssued.ge
    ?_ ?_
  · rw [isOnline, isCluster, sameWon]
    exact invariant.cluster.election enabled
  · intro me other
    obtain ⟨gen, recorded, atLeast⟩ := invariant.reports me other
    exact ⟨gen, records recorded, (reports me other).trans atLeast⟩
  · intro fullOnlineGenNum node lastVoteNum isPending
    exact invariant.clears _ _ _ (pending _ isPending)
  · refine active_of_active ?_ ?_ granted
    · intro grant isWon
      rw [sameWon] at isWon
      exact Or.inl isWon
    · intro me
      rw [isCluster]
      exact (nodeStep_effect world.cluster action enabled me).currentGen_le
  · intro grant isActive
    exact (invariant.backed grant isActive).mono sameRow records

/-- The candidate of a campaign for a referee generation is the node alone. -/
theorem campaignerOk_connecting
    {abandoned : List Sql} {me : Fin 2} {env : CampaignEnv 2}
    {state : MtmState 2} {campaign : Campaign 2}
    (isCampaign : (campaignMyself me env state).2 = some campaign)
    (isReferee : IsRefereeGen campaign.candidate.members
      campaign.candidate.configured) :
    CampaignerOk abandoned me (.connecting campaign.candidate) := by
  obtain ⟨member, configured⟩ := campaignMyself_candidate isCampaign
  constructor
  · rintro candidate ⟨rfl⟩
    refine ⟨configured, ?_⟩
    rcases members_eq member with single | both
    · exact single
    · rw [both] at isReferee
      exact absurd isReferee.1 (by decide)
  · rintro candidate ⟨⟩

theorem election
    (invariant : Invariant world)
    {action : Election.Action 2}
    (enabled : Election.Enabled world.cluster action) :
    Invariant (effect world (.election action)) := by
  cases action with
  | campaign me env =>
      simp only [effect, step, electionEffect]
      split
      · next campaign isCampaign =>
          split
          · next isReferee =>
              refine invariant.elects enabled rfl rfl rfl rfl rfl
                (fun _ _ => le_rfl) ?_ ?_ (granted_update (by rintro _ _ ⟨⟩))
              · exact invariant.campaigners_update (List.Subset.refl _)
                  (campaignerOk_connecting isCampaign isReferee)
              · intro sql isPending
                have either : Pending world sql ∨ _ :=
                  pending_of_update isPending rfl fun _ isSql => Or.inl isSql
                rcases either with before | isStatement
                · exact before
                · cases isStatement
          · exact invariant.elects enabled rfl rfl rfl rfl rfl
              (fun _ _ => le_rfl) invariant.campaigners (fun _ => id)
              (fun _ _ _ => id)
      · exact invariant.elects enabled rfl rfl rfl rfl rfl
          (fun _ _ => le_rfl) invariant.campaigners (fun _ => id)
          (fun _ _ _ => id)
  | parallelSafe me gen isRecovery =>
      simp only [effect, step, electionEffect]
      split <;>
        exact invariant.elects enabled rfl rfl rfl rfl rfl
          (fun _ _ => le_rfl) invariant.campaigners (fun _ => id)
          (fun _ _ _ => id)
  | crash me =>
      simp only [effect, step, electionEffect]
      refine invariant.elects enabled rfl rfl rfl rfl rfl ?_
        (invariant.campaigners_abandon me) (fun _ => pending_of_abandon)
        (granted_update (by rintro _ _ ⟨⟩))
      intro node other
      dsimp only
      by_cases isMe : node = me
      · subst isMe
        rw [Function.update_self]
        exact Nat.zero_le _
      · rw [Function.update_of_ne isMe]
  | _ =>
      exact invariant.elects enabled rfl rfl rfl rfl rfl
        (fun _ _ => le_rfl) invariant.campaigners (fun _ => id)
        (fun _ _ _ => id)

theorem switch
    (invariant : Invariant world)
    {me : Fin 2}
    (hasGrant : (world.campaigner me).isGranted = true) :
    Invariant (effect world (.switch me)) := by
  cases isStage : world.campaigner me with
  | granted candidate time =>
      obtain ⟨configured, single⟩ := (invariant.campaigners me).candidate
        candidate (by rw [isStage]; rfl)
      simp only [effect, step, Referee.switch, isStage]
      obtain ⟨switched, isSwitched⟩ : ∃ switched, switched =
          considerGenSwitch me candidate {me} (world.cluster.node me) :=
        ⟨_, rfl⟩
      rw [← isSwitched]
      refine invariant.without_grant
        (invariant.cluster.switch time configured single isSwitched rfl)
        (List.subset_append_right _ _) ?_ ?_ ?_ le_rfl ?_ ?_
      · intro node other
        obtain ⟨gen, recorded, atLeast⟩ := invariant.reports node other
        exact ⟨gen, List.mem_append_right _ recorded, atLeast⟩
      · exact invariant.campaigners_update (List.Subset.refl _)
          (campaignerOk_of_candidate_eq_none rfl)
      · intro fullOnlineGenNum node lastVoteNum isPending
        have either : Pending world _ ∨ _ :=
          pending_of_update isPending rfl fun _ isSql => Or.inl isSql
        rcases either with before | isStatement
        · exact invariant.clears _ _ _ before
        · cases isStatement
      · refine active_of_active ?_ ?_ (granted_update (by rintro _ _ ⟨⟩))
        · intro grant isWon
          dsimp only at isWon
          split at isWon
          · exact Or.inl isWon
          · next changed =>
              rcases List.mem_cons.mp isWon with rfl | isOld
              · rw [isSwitched] at changed
                exact Or.inr ⟨candidate, isStage, rfl,
                  (considerGenSwitch_online changed).2⟩
              · exact Or.inl isOld
        · intro node
          by_cases isMe : node = me
          · subst isMe
            rw [Election.setNode_node_self, isSwitched]
            exact (@nodeStep_considerGenSwitch node (fun _ => True) _ candidate
              {node} trivial).currentGen_le
          · rw [Election.setNode_node_ne _ _ isMe]
      · intro grant isActive
        exact (invariant.backed grant isActive).mono rfl
          (List.subset_append_right _ _)
  | _ =>
      rw [isStage] at hasGrant
      cases hasGrant

end Invariant

theorem invariant_initialWorld : Invariant initialWorld where
  cluster := clusterOk_initialWorld
  reports := fun me other => by
    fin_cases other
    · exact ⟨initialGen 2, List.mem_cons_self, Nat.zero_le _⟩
    · exact ⟨initialGen 2, List.mem_cons_of_mem _ List.mem_cons_self,
        Nat.zero_le _⟩
  campaigners := fun _ => campaignerOk_of_candidate_eq_none rfl
  clears := by
    rintro _ _ _ (abandoned | ⟨_, isStatement⟩)
    · cases abandoned
    · cases isStatement
  times := by
    rintro _ (isWon | ⟨_, isGranted, _⟩)
    · cases isWon
    · cases isGranted
  distinct := by
    rintro _ _ (isWon | ⟨_, isGranted, _⟩)
    · cases isWon
    · cases isGranted
  backed := by
    rintro _ (isWon | ⟨_, isGranted, _⟩)
    · cases isWon
    · cases isGranted
  separated := by
    rintro _ _ (isWon | ⟨_, isGranted, _⟩)
    · cases isWon
    · cases isGranted

/-- The invariant holds along every run in which no node asks for a number that
a pending `delete` of its own covers. -/
theorem invariant_of_reachable
    {world : World}
    (reachable : machine.Reachable UnclearedRequest world) :
    Invariant world := by
  refine reachable.invariant invariant_initialWorld ?_
  intro world action invariant enabled permitted
  cases action with
  | election action => exact invariant.election enabled.1
  | heartbeat me other lastOnlineIn => exact invariant.heartbeat enabled.2
  | request me => exact invariant.request permitted
  | clear me => exact invariant.clear enabled.1
  | execute me => exact invariant.execute enabled
  | executeLate sql => exact invariant.executeLate enabled
  | lose sql => exact invariant.lose sql
  | switch me => exact invariant.switch enabled
  | finishClear me => exact invariant.finishClear me
  | fail me => exact invariant.fail me

/-- Nodes get online in referee-granted generations by grants, and between two
of these by grants to different nodes the later one was online in a generation
of both. -/
structure SplitBrainExcluded (world : World) : Prop where
  granted : ∀ me gen, (me, gen) ∈ world.online →
    IsRefereeGen gen.members gen.configured →
      gen.members = {me} ∧
        ∃ grant ∈ world.won, grant.node = me ∧ grant.num = gen.num
  ordered : ∀ first ∈ world.won, ∀ second ∈ world.won,
    first.node ≠ second.node → first.time ≠ second.time
  separated : ∀ earlier ∈ world.won, ∀ later ∈ world.won,
    earlier.node ≠ later.node → earlier.time < later.time →
      ∃ gen, (later.node, gen) ∈ world.online ∧
        gen.members = Finset.univ ∧
        earlier.num < gen.num ∧ gen.num < later.num

/-- As long as no node asks for a grant of a number that a pending `delete` of
its own covers, the referee excludes split brain. -/
theorem splitBrain_excluded
    {world : World}
    (reachable : machine.Reachable UnclearedRequest world) :
    SplitBrainExcluded world := by
  have invariant := invariant_of_reachable reachable
  refine ⟨?_, ?_, ?_⟩
  · intro me gen isOnline isReferee
    rcases invariant.cluster.granted me gen isOnline with both | granted
    · rw [both] at isReferee
      exact absurd isReferee.1 (by decide)
    · exact granted
  · intro first firstWon second secondWon different
    exact invariant.distinct first second (Or.inl firstWon) (Or.inl secondWon)
      different
  · intro earlier earlierWon later laterWon different before
    exact invariant.separated earlier later (Or.inl earlierWon)
      (Or.inl laterWon) different before

/-- What the campaigner of a node sees while the other node is away. -/
def cutOff (me : Fin 2) : CampaignEnv 2 where
  backupNode := none
  connectedMaskWithMe := {me}
  clique := {me}
  replierLoaded := true
  refereeEnabled := true
  othersLastOnlineIn := fun _ => mtmInvalidGenNum
  catchupNode := none
  catchupFresh := false

/-- What it sees while both are connected. -/
def connected : CampaignEnv 2 where
  backupNode := none
  connectedMaskWithMe := Finset.univ
  clique := Finset.univ
  replierLoaded := true
  refereeEnabled := true
  othersLastOnlineIn := fun _ => 2
  catchupNode := some 0
  catchupFresh := true

/-- The generation of one node. -/
def aloneGen (me : Fin 2) (num : ℕ) : MtmGeneration 2 :=
  ⟨num, {me}, Finset.univ⟩

/-- The generation of both nodes. -/
def fullGen (num : ℕ) : MtmGeneration 2 :=
  ⟨num, {1, 0}, Finset.univ⟩

/-- Node 0 gets a grant and node 1 joins it again; both get online in
generation 3 and node 0 turns the grant in.  Then node 1 gets one. -/
def turnIn : List Action :=
  [.election (.campaign 0 (cutOff 0)), .request 0, .execute 0, .switch 0,
    .election (.learn 1 (aloneGen 0 2) {0}),
    .election (.campaign 1 connected),
    .election (.vote 0 ⟨Finset.univ, true⟩ 1 (fullGen 3)),
    .election (.gather 1 ⟨0, 1, fullGen 3, ⟨3, true, 2, 0, ⟨0, ∅, ∅⟩, ∅⟩⟩),
    .election (.count 1), .election (.finishTour 1),
    .election (.learn 0 (fullGen 3) {0}),
    .election (.parallelSafe 1 (fullGen 3) true),
    .heartbeat 1 0 3, .clear 1, .execute 1, .finishClear 1,
    .election (.campaign 1 (cutOff 1)), .request 1, .execute 1, .switch 1]

theorem turnIn_completes :
    (machine.execute UnclearedRequest machine.init turnIn).isSome = true := by
  decide +kernel

theorem splitBrain_excluded_turnIn :
    SplitBrainExcluded
      ((machine.execute UnclearedRequest machine.init turnIn).get
        turnIn_completes) :=
  splitBrain_excluded (Machine.reachable_of_execute turnIn turnIn_completes)

/-- Node 0 gives up on a request and on the `delete` that is to turn it in,
asks for the same number again and gets online.  The `delete` is executed after
that, and node 1 gets its grant. -/
def lateDelete : List Action :=
  [.election (.campaign 0 (cutOff 0)), .request 0, .fail 0,
    .heartbeat 0 1 1, .clear 0, .fail 0,
    .election (.campaign 0 (cutOff 0)), .request 0, .execute 0, .switch 0,
    .executeLate (.clearGrant 1 0 2),
    .election (.campaign 1 (cutOff 1)), .request 1, .execute 1, .switch 1]

theorem lateDelete_completes :
    (machine.execute Machine.Always machine.init
      lateDelete).isSome = true := by
  decide +kernel

/-- Both nodes are online in generations of their own and neither has left the
first generation of both before. -/
theorem lateDelete_splits_brain :
    let world := (machine.execute Machine.Always machine.init lateDelete).get
      lateDelete_completes
    machine.Reachable Machine.Always world ∧
      (0, aloneGen 0 2) ∈ world.online ∧ (1, aloneGen 1 2) ∈ world.online ∧
      ¬ SplitBrainExcluded world := by
  intro world
  refine ⟨Machine.reachable_of_execute lateDelete lateDelete_completes,
    by decide +kernel, by decide +kernel, ?_⟩
  intro excluded
  obtain ⟨gen, _, _, above, below⟩ := excluded.separated ⟨0, 2, 0⟩
    (by decide +kernel) ⟨1, 2, 1⟩ (by decide +kernel) (by decide) (by decide)
  exact absurd (above.trans below) (lt_irrefl _)

end Referee
end Multimaster
